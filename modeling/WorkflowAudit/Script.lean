import WorkflowAudit.Text.Blank
import WorkflowAudit.Value.Access

/-! # Scripts of steps

A line of a script is flagged when it puts something of the triggering event into the command line:
an expression that opens with `${{`, white space if any, and `github.`.  A flagged line is
conditional when the workflow, the job or the step has a condition.
-/

namespace WorkflowAudit.Script

/-- What opens an expression. -/
def expressionStart : List Char := ['$', '\x7b', '\x7b']

/-- What refers to the triggering event. -/
def eventStart : List Char := "github.".toList

/-- Whether a text starts with an expression that refers to the triggering event. -/
def startsExposure (text : List Char) : Bool :=
  match Text.after? expressionStart text with
  | none => false
  | some rest => Text.startsWith eventStart (rest.dropWhile Text.isBlank)

/-- Whether a line exposes something of the triggering event. -/
def isExposed : List Char → Bool
  | [] => false
  | c :: rest => startsExposure (c :: rest) || isExposed rest

/-- A flagged line of a script. -/
structure FlaggedLine where
  /-- The number of the line, from zero. -/
  position : Nat
  line : List Char
  conditional : Bool

/-- A flagged line as a value. -/
def FlaggedLine.toValue (f : FlaggedLine) : Value :=
  .record [("position", .int f.position), ("line", .ofChars f.line),
    ("conditional", .bool f.conditional)]

/-- The flagged lines among `lines`, the first of which has number `position`. -/
def flaggedAmong (conditional : Bool) : (position : Nat) → List (List Char) → List FlaggedLine
  | _, [] => []
  | position, line :: rest =>
    if isExposed line then
      ⟨position, line, conditional⟩ :: flaggedAmong conditional (position + 1) rest
    else flaggedAmong conditional (position + 1) rest

/-- The flagged lines of a script. -/
def flaggedIn (conditional : Bool) (script : List Char) : List FlaggedLine :=
  flaggedAmong conditional 0 (Text.pieces '\n' script)

/-- The flagged lines of the script of a step, under the conditions of its workflow and its job.  An
empty script has none, whatever it is. -/
def flagged (step workflowCondition jobCondition : Value) : Except Failure (List FlaggedLine) := do
  let script ← step.itemNamed "run"
  if script.isTruthy then
    let text ← script.splitChars
    let condition ← step.field "if"
    let conditional :=
      condition.isTruthy || workflowCondition.isTruthy || jobCondition.isTruthy
    return flaggedIn conditional text
  else return []

/-- What refers to a secret. -/
def secretStart : List Char := "secrets.".toList

/-- Whether the first line of a text refers to a secret. -/
def mentionsSecret (text : List Char) : Bool :=
  Text.occursIn secretStart (text.takeWhile (· ≠ '\n'))

end WorkflowAudit.Script
