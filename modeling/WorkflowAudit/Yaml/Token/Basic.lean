import WorkflowAudit.Yaml.Fault

/-! # Tokens of a document text

The pieces between which the structure of a document is decided.  Block structure has tokens of its
own, which stand for a change of indentation and not for characters.
-/

namespace WorkflowAudit.Yaml

/-- A line that tells how to read the document after it. -/
inductive Directive where
  | version (version : Version)
  | tag (handle shorthand : List Char)
  | unknown

/-- A token. -/
inductive Token where
  | streamStart
  | streamEnd
  | directive (content : Directive)
  | documentStart
  | documentEnd
  | blockSequenceStart
  | blockMappingStart
  | blockEnd
  | flowSequenceStart
  | flowSequenceEnd
  | flowMappingStart
  | flowMappingEnd
  | blockEntry
  | flowEntry
  | key
  | value
  | alias (name : List Char)
  | anchor (name : List Char)
  | tag (handle : Option (List Char)) (suffix : List Char)
  /-- A scalar; a plain one stands without quotes or indicators. -/
  | scalar (text : List Char) (plain : Bool)
  | comment

/-- A token and the line it belongs to: for a comment the line it starts on, for all others the line
they end on. -/
structure Lexeme where
  token : Token
  line : Nat

end WorkflowAudit.Yaml
