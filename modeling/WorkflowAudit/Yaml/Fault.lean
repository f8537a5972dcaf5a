import WorkflowAudit.Failure

/-! # Faults of a document text

Three things can be wrong with a document text: its characters form no tokens, it refers to
something it does not contain, or it is well formed up to there and fails for a cause that has to be
reported.  A document that is only badly lexed or badly referenced counts as no document at all, so
these two are kept apart from the reported failures.
-/

namespace WorkflowAudit.Yaml

/-- Why a document text could not be read. -/
inductive Fault where
  /-- The characters form no tokens. -/
  | lexical
  /-- An alias without an anchor, or a second document. -/
  | reference
  | failure (cause : Failure)

/-- The version of the language that a document asks for. -/
structure Version where
  major : Nat
  minor : Nat
deriving BEq, DecidableEq

namespace Version

/-- The version of a document that asks for none. -/
def current : Version := ⟨1, 2⟩

/-- The version in which words such as `yes` are truth values. -/
def old : Version := ⟨1, 1⟩

/-- Whether a version is later than the old one. -/
def isNew (v : Version) : Bool :=
  v.major > 1 || (v.major == 1 && v.minor > 1)

end Version

end WorkflowAudit.Yaml
