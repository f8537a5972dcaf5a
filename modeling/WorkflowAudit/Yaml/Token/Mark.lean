import WorkflowAudit.Json.Reader
import WorkflowAudit.Text.Digit
import WorkflowAudit.Text.Utf8
import WorkflowAudit.Yaml.Cursor
import WorkflowAudit.Yaml.Token.Basic
import WorkflowAudit.Yaml.Token.Block

/-! # Anchors, tags and directives

The marks that say something about a node or a document: names of anchors and aliases, tags with
their handles, and the lines that declare a version or a tag handle.
-/

namespace WorkflowAudit.Yaml

/-- Whether a character may stand in the name of an anchor. -/
def isAnchorChar (c : Char) : Bool :=
  let n := c.toNat
  !([',', '[', ']', '{', '}'].contains c) &&
    ((0x21 ≤ n && n ≤ 0x7E) || (0xA0 ≤ n && n ≤ 0xD7FF) ||
      (0xE000 ≤ n && n ≤ 0xFFFD && c ≠ byteOrderMark) || 0x10000 ≤ n)

/-- Reads the name of an anchor or an alias; the cursor stands on the indicator. -/
def readAnchorName (cursor : Cursor) : Except Fault (List Char × Cursor) :=
  let (name, behind) := cursor.step.takeWhile isAnchorChar
  let c := behind.peek
  if name.isEmpty then throw .lexical
  else if isBreakOrSpace c ||
      ['\t', '?', ':', ',', '[', ']', '{', '}', '%', '@', Char.ofNat 0x60].contains c then
    pure (name, behind)
  else throw .lexical

/-- Whether a character may stand in a word of a mark. -/
def isWordChar (c : Char) : Bool :=
  c.isAlphanum || c = '-' || c = '_'

/-- Whether a character may stand in a tag; the version decides about the number sign. -/
def isTagChar (version : Version) (c : Char) : Bool :=
  c.isAlphanum || "-;/?:@&=+$,_.!~*'()[]%".toList.contains c || (version.isNew && c = '#')

/-- Reads the bytes of percent escapes. -/
def readPercentBytes : (fuel : Nat) → Cursor → Except Fault (List UInt8 × Cursor)
  | 0, cursor => pure ([], cursor)
  | fuel + 1, cursor =>
    if cursor.peek = '%' then do
      match Json.hexValue? (cursor.peek 1), Json.hexValue? (cursor.peek 2) with
      | some a, some b =>
        let (more, behind) ← readPercentBytes fuel (cursor.advance 3)
        return (UInt8.ofNat (16 * a + b) :: more, behind)
      | _, _ => throw .lexical
    else pure ([], cursor)

/-- Reads the characters of a tag, with percent escapes decoded. -/
def readTagChars (version : Version) : (fuel : Nat) → Cursor → Except Fault (List Char × Cursor)
  | 0, cursor => pure ([], cursor)
  | fuel + 1, cursor => do
    if cursor.peek = '%' then
      let (bytes, behind) ← readPercentBytes (cursor.rest.length + 1) cursor
      match Text.decodeUtf8? bytes with
      | none => throw .lexical
      | some chars =>
        let (more, behind) ← readTagChars version fuel behind
        return (chars ++ more, behind)
    else if isTagChar version cursor.peek then
      let (more, behind) ← readTagChars version fuel cursor.step
      return (cursor.peek :: more, behind)
    else return ([], cursor)

/-- Reads the part of a tag behind its handle, which must not be empty. -/
def readTagSuffix (version : Version) (cursor : Cursor) : Except Fault (List Char × Cursor) := do
  if isTagChar version cursor.peek then readTagChars version (cursor.rest.length + 1) cursor
  else throw .lexical

/-- Reads a tag handle: an exclamation mark, or a word between two of them. -/
def readHandle (cursor : Cursor) : Except Fault (List Char × Cursor) :=
  if cursor.peek ≠ '!' then throw .lexical
  else if cursor.peek 1 = ' ' then pure (['!'], cursor.step)
  else
    let (word, behind) := cursor.step.takeWhile isWordChar
    if behind.peek = '!' then pure ('!' :: word ++ ['!'], behind.step) else throw .lexical

/-- Reads a tag; the cursor stands on the exclamation mark. -/
def readTag (version : Version) (cursor : Cursor) : Except Fault (Token × Cursor) := do
  let next := cursor.peek 1
  let (tag, behind) ←
    if next = '<' then do
      let (suffix, behind) ← readTagSuffix version (cursor.advance 2)
      if behind.peek = '>' then pure (Token.tag none suffix, behind.step) else throw .lexical
    else if isLineEndOrSpace next then
      pure (Token.tag none ['!'], cursor.step)
    else do
      let word := cursor.step.rest.takeWhile fun c => !isBreakOrSpace c
      let (handle, behind) ←
        if word.contains '!' then readHandle cursor else pure (['!'], cursor.step)
      let (suffix, behind) ← readTagSuffix version behind
      pure (Token.tag (some handle) suffix, behind)
  if isBreakOrSpace behind.peek then return (tag, behind) else throw .lexical

/-- Reads a number of a version. -/
def readVersionNumber (cursor : Cursor) : Except Fault (Nat × Cursor) :=
  let (digits, behind) := cursor.takeWhile Text.isAsciiDigit
  if digits.isEmpty then throw .lexical else pure (Text.digitsValue digits, behind)

/-- Reads the value of a version directive. -/
def readVersion (cursor : Cursor) : Except Fault (Version × Cursor) := do
  let (major, behind) ← readVersionNumber cursor.skipSpaces
  if behind.peek ≠ '.' then throw .lexical
  let (minor, behind) ← readVersionNumber behind.step
  if isBreakOrSpace behind.peek then return (⟨major, minor⟩, behind) else throw .lexical

/-- Reads the value of a tag directive. -/
def readTagDirective (version : Version) (cursor : Cursor) : Except Fault (Directive × Cursor) := do
  let (handle, behind) ← readHandle cursor.skipSpaces
  if behind.peek ≠ ' ' then throw .lexical
  let (shorthand, behind) ← readTagSuffix version behind.skipSpaces
  if isBreakOrSpace behind.peek then return (.tag handle shorthand, behind) else throw .lexical

/-- Reads a directive with the rest of its line; the cursor stands on the percent sign. -/
def readDirective (version : Version) (cursor : Cursor) : Except Fault (Directive × Cursor) := do
  let (name, behind) := cursor.step.takeWhile fun c => isWordChar c || c = ':' || c = '.'
  if name.isEmpty || !isBreakOrSpace behind.peek then throw .lexical
  let (directive, behind) ←
    if name = "YAML".toList then do
      let (found, behind) ← readVersion behind
      pure (Directive.version found, behind)
    else if name = "TAG".toList then readTagDirective version behind
    else pure (Directive.unknown, behind.skipWhile fun c => !isLineEnd c)
  return (directive, ← skipIgnoredLine behind)

end WorkflowAudit.Yaml
