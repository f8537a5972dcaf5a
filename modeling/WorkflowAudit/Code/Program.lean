import WorkflowAudit.Code.Statement

/-! # Programs

The tree of a program text, or the problem that keeps it from being a program.  A text that no rule
fits is refused for its indentation when the farthest token that was looked at is one of
indentation, or when a block is missing; a text with characters that make no token is refused for
those rather than for a missing block.
-/

namespace WorkflowAudit.Code

/-- The rule for a whole program.  Nesting is bounded by the length of the text. -/
def program (depth : Nat) : Rule Node := do
  let expressions := Expression.ruleAt depth
  let patterns := CasePattern.ruleAt expressions depth
  let rule := Statement.ruleAt expressions patterns depth
  let statements ← Statement.untilFinish rule ((← Rule.tokensLeft) + 1)
  return .other "Module" statements

/-- Whether a token marks a change of indentation. -/
def Token.isIndentation (token : Token) : Bool :=
  match token.kind with
  | .indent | .dedent => true
  | _ => false

/-- Whether a token stands for characters that make none. -/
def Token.isUnreadable (token : Token) : Bool :=
  match token.kind with
  | .broken .characters => true
  | _ => false

/-- The problem of a text at which reading stopped. -/
def problemOf (tokens : List Token) (reader : Reader) : Stop → CodeProblem
  | .refused problem => problem
  | .retreat =>
    let farthest := tokens[reader.farthest]?
    if !reader.hasBareMatch && (farthest.map Token.isIndentation).getD false then .badIndentation
    else .invalid
  | .missingBlock =>
    if reader.hasBareMatch || tokens.any Token.isUnreadable then .invalid else .badIndentation

/-- The tree of a program text. -/
def parse (text : List Char) : Except CodeProblem Node :=
  if text.contains (Char.ofNat 0) then throw .invalid
  else
    let tokens := Token.ofText 1 text
    match (program (2 * text.length + 16)).run { rest := tokens } with
    | (.ok tree, _) => pure tree
    | (.error stop, reader) => throw (problemOf tokens reader stop)

/-- The tree of what should be a program text. -/
def parseValue : Value → Except Failure Node
  | .text s => (parse s.toList).mapError Failure.code
  | _ => throw .notCode

end WorkflowAudit.Code
