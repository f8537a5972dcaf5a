import WorkflowAudit.Code.Literal
import WorkflowAudit.Code.Tree
import WorkflowAudit.Text.Compatibility

/-! # Reading tokens

The grammar reads tokens from the front.  A rule that does not fit retreats, and another one may be
tried from where it started.  What a text is refused for depends on the farthest token that was
looked at, so that is remembered through retreats.
-/

namespace WorkflowAudit.Code

/-- Why reading stops. -/
inductive Stop where
  /-- A rule does not fit. -/
  | retreat
  /-- The text is refused, whatever other rules say. -/
  | refused (problem : CodeProblem)
  /-- A block is missing where one must come. -/
  | missingBlock

/-- Where reading has got to. -/
structure Reader where
  rest : List Token
  position : Nat := 0
  /-- The farthest token that was looked at. -/
  farthest : Nat := 0
  /-- Whether a line was seen that would be the head of a `match` statement if it ended with a
  colon. -/
  hasBareMatch : Bool := false

/-- A rule of the grammar. -/
abbrev Rule := ExceptT Stop (StateM Reader)

namespace Rule

/-- The rule does not fit. -/
def retreat {α : Type} : Rule α :=
  throw .retreat

/-- The text is refused. -/
def refuse {α : Type} : Rule α :=
  throw (.refused .invalid)

/-- Looks at the next token. -/
def token : Rule Token := do
  let reader ← get
  set { reader with farthest := max reader.farthest reader.position }
  match reader.rest with
  | [] => retreat
  | next :: _ =>
    match next.kind with
    | .broken fault => throw (.refused fault.problem)
    | _ => return next

/-- Looks at the next token for what it is. -/
def peek : Rule TokenKind := do
  return (← token).kind

/-- Passes over the next token. -/
def advance : Rule Unit :=
  modify fun reader => { reader with rest := reader.rest.drop 1, position := reader.position + 1 }

/-- Tries a rule; when it does not fit, nothing is read. -/
def attempt {α : Type} (rule : Rule α) : Rule (Option α) := fun reader =>
  match rule reader with
  | (.ok found, after) => (.ok (some found), after)
  | (.error .retreat, after) =>
    (.ok none, { reader with farthest := after.farthest, hasBareMatch := after.hasBareMatch })
  | (.error stop, after) => (.error stop, after)

/-- Whether a rule fits here; nothing is read. -/
def fits {α : Type} (rule : Rule α) : Rule Bool := fun reader =>
  match rule reader with
  | (.ok _, after) => (.ok true, { reader with farthest := after.farthest })
  | (.error .retreat, after) => (.ok false, { reader with farthest := after.farthest })
  | (.error stop, after) => (.error stop, after)

/-- Whether a symbol comes next. -/
def nextIs (text : String) : Rule Bool := do
  match ← peek with
  | .symbol s => return s == text
  | _ => return false

/-- Whether one of some symbols comes next. -/
def nextIsOneOf (texts : List String) : Rule Bool := do
  match ← peek with
  | .symbol s => return texts.contains s
  | _ => return false

/-- Whether a word comes next. -/
def nextWordIs (text : String) : Rule Bool := do
  match ← peek with
  | .word s => return s == text
  | _ => return false

/-- Passes over a symbol, if it comes next. -/
def accept (text : String) : Rule Bool := do
  if ← nextIs text then
    advance
    return true
  else return false

/-- Passes over a word, if it comes next. -/
def acceptWord (text : String) : Rule Bool := do
  if ← nextWordIs text then
    advance
    return true
  else return false

/-- Passes over a symbol that must come next. -/
def expect (text : String) : Rule Unit := do
  if ← accept text then pure () else retreat

/-- Passes over a word that must come next. -/
def expectWord (text : String) : Rule Unit := do
  if ← acceptWord text then pure () else retreat

/-- Passes over the end of a line, if it comes next. -/
def acceptNewline : Rule Bool := do
  match ← peek with
  | .newline =>
    advance
    return true
  | _ => return false

/-- Passes over the end of a line, which must come next. -/
def expectNewline : Rule Unit := do
  if ← acceptNewline then pure () else retreat

/-- The words that cannot be names. -/
def keywords : List String :=
  ["False", "None", "True", "and", "as", "assert", "async", "await", "break", "class", "continue",
   "def", "del", "elif", "else", "except", "finally", "for", "from", "global", "if", "import", "in",
   "is", "lambda", "nonlocal", "not", "or", "pass", "raise", "return", "try", "while", "with",
   "yield"]

/-- The common form of a name. -/
def commonName (text : String) : String :=
  String.ofList (Text.commonForm text.toList)

/-- Passes over a name, if one comes next. -/
def acceptName : Rule (Option (String × Nat)) := do
  let next ← token
  match next.kind with
  | .word s =>
    if keywords.contains s then return none
    else
      advance
      return some (commonName s, next.line)
  | _ => return none

/-- Passes over a name, which must come next. -/
def name : Rule (String × Nat) := do
  match ← acceptName with
  | some found => return found
  | none => retreat

/-- How many tokens are left, which bounds every repetition that reads some. -/
def tokensLeft : Rule Nat := do
  return (← get).rest.length

/-- Reads as often as a rule fits. -/
def repeated {α : Type} (rule : Rule α) : (fuel : Nat) → Rule (List α)
  | 0 => return []
  | fuel + 1 => do
    match ← attempt rule with
    | none => return []
    | some found => return found :: (← repeated rule fuel)

/-- Reads as often as a rule fits. -/
def many {α : Type} (rule : Rule α) : Rule (List α) := do
  repeated rule (← tokensLeft)

/-- What a rule reads, and after it as often as a comma and it follow; a comma may end the row.  The
result says whether there was a comma. -/
def commaRow {α : Type} (rule : Rule α) : Rule (List α × Bool) := do
  let first ← rule
  let more ← many do
    expect ","
    rule
  let trailing ← accept ","
  return (first :: more, trailing || !more.isEmpty)

/-- What a rule reads, and after it as often as a comma and it follow. -/
def commaSeparated {α : Type} (rule : Rule α) : Rule (List α) := do
  let first ← rule
  let more ← many do
    expect ","
    rule
  return first :: more

end Rule

end WorkflowAudit.Code
