import WorkflowAudit.Code.CasePattern

/-! # Statements

The grammar of statements.  A block is a line of simple statements, or an indented row of
statements; the rules for statements that hold blocks are given the rule for the statements in them.
-/

namespace WorkflowAudit.Code.Statement

open Rule

variable (again : Rule (List Node)) (expressions : Again) (patterns : Rule Node)

/-! ## Simple statements -/

/-- The signs of assignments that combine. -/
def combiningSigns : List String :=
  ["+=", "-=", "*=", "@=", "/=", "%=", "&=", "|=", "^=", "<<=", ">>=", "**=", "//="]

/-- What is assigned: a row of expressions, or one with a `yield`. -/
def assigned : Rule Node := do
  if ← nextWordIs "yield" then Expression.yielded expressions else Expression.row expressions

/-- The targets and the value behind the first sign of an assignment. -/
def assignmentBehind : (fuel : Nat) → (targets : List Node) → Rule Node
  | 0, _ => retreat
  | fuel + 1, targets => do
    if ← nextWordIs "yield" then
      let value ← Expression.yielded expressions
      if ← nextIs "=" then retreat
      return .other "Assign" (targets ++ [value])
    else
      let found ← Expression.row expressions
      if ← nextIs "=" then
        if !found.isTarget then retreat
        advance
        assignmentBehind fuel (targets ++ [found])
      else return .other "Assign" (targets ++ [found])

/-- An annotated assignment behind its target. -/
def annotationBehind (target : Node) : Rule Node := do
  let type ← expressions .whole
  let value ← if ← accept "=" then do pure (some (← assigned expressions)) else pure none
  return .other "AnnAssign" (target :: type :: value.toList)

/-- An assignment, or expressions that stand alone. -/
def assignment : Rule Node := do
  let first ← Expression.row expressions
  if ← nextIs ":" then
    if !first.isPlace then retreat
    advance
    annotationBehind expressions first
  else if ← nextIs "=" then
    if !first.isTarget then retreat
    advance
    assignmentBehind expressions ((← tokensLeft) + 1) [first]
  else if ← nextIsOneOf combiningSigns then
    if !first.isPlace then retreat
    advance
    return .other "AugAssign" [first, ← assigned expressions]
  else return .other "Expr" [first]

/-- A name with points in it. -/
def dottedName : Rule String := do
  let (first, _) ← name
  let more ← many do
    expect "."
    return (← name).1
  return ".".intercalate (first :: more)

/-- Passes over another name for what is imported, if one is given. -/
def otherName : Rule Unit := do
  if ← acceptWord "as" then
    let _ ← name

/-- An import of modules. -/
def importModules : Rule Node := do
  expectWord "import"
  let names ← commaSeparated do
    let found ← dottedName
    otherName
    return found
  return .mk (.importNames names) []

/-- A name that is imported from a module. -/
def importedName : Rule String := do
  let (found, _) ← name
  otherName
  return found

/-- The names that are imported from a module. -/
def importedNames : Rule (List String) := do
  if ← accept "*" then return ["*"]
  else if ← accept "(" then
    let (names, _) ← commaRow importedName
    expect ")"
    return names
  else
    let names ← commaSeparated importedName
    if ← nextIs "," then retreat
    return names

/-- An import from a module. -/
def importFromModule : Rule Node := do
  expectWord "from"
  let points ← many do
    if ← nextIsOneOf [".", "..."] then advance else retreat
  let module ←
    if points.isEmpty then do pure (some (← dottedName))
    else if ← nextWordIs "import" then pure none
    else do pure (some (← dottedName))
  expectWord "import"
  return .mk (.importFrom module (← importedNames)) []

/-- A deletion. -/
def deletion : Rule Node := do
  expectWord "del"
  let (found, _) ← commaRow (expressions .primary)
  let atEnd ←
    match ← peek with
    | .newline | .symbol ";" => pure true
    | _ => pure false
  if atEnd && Node.areDeletable found then return .other "Delete" found else retreat

/-- A simple statement that starts with a word of its own. -/
def fromKeyword (word : String) : Rule Node := do
  match word with
  | "pass" =>
    advance
    return .other "Pass" []
  | "break" =>
    advance
    return .other "Break" []
  | "continue" =>
    advance
    return .other "Continue" []
  | "return" =>
    advance
    return .other "Return" (← attempt (Expression.row expressions)).toList
  | "raise" =>
    advance
    match ← attempt (expressions .whole) with
    | none => return .other "Raise" []
    | some found =>
      let cause ← if ← acceptWord "from" then do pure [← expressions .whole] else pure []
      return .other "Raise" (found :: cause)
  | "global" =>
    advance
    let _ ← commaSeparated name
    return .other "Global" []
  | "nonlocal" =>
    advance
    let _ ← commaSeparated name
    return .other "Nonlocal" []
  | "del" => deletion expressions
  | "assert" =>
    advance
    let test ← expressions .whole
    let message ← if ← accept "," then do pure [← expressions .whole] else pure []
    return .other "Assert" (test :: message)
  | "import" => importModules
  | "from" => importFromModule
  | "yield" => return .other "Expr" [← Expression.yielded expressions]
  | _ => assignment expressions

/-- A simple statement. -/
def simple : Rule Node := do
  match ← peek with
  | .word s => fromKeyword expressions s
  | _ => assignment expressions

/-- The simple statements of a line. -/
def simpleLine : Rule (List Node) := do
  let first ← simple expressions
  let more ← many do
    expect ";"
    simple expressions
  let _ ← accept ";"
  expectNewline
  return first :: more

/-! ## Blocks -/

/-- Statements up to the end of their indentation. -/
def untilDedent : (fuel : Nat) → Rule (List Node)
  | 0 => retreat
  | fuel + 1 => do
    let found ← again
    match ← peek with
    | .dedent =>
      advance
      return found
    | _ => return found ++ (← untilDedent fuel)

/-- Passes over the start of an indentation, which must come next. -/
def expectIndent : Rule Unit := do
  match ← peek with
  | .indent => advance
  | _ => throw .missingBlock

/-- A block. -/
def block : Rule (List Node) := do
  if ← acceptNewline then
    expectIndent
    untilDedent again ((← tokensLeft) + 1)
  else simpleLine expressions

/-- A colon and a block. -/
def colonBlock : Rule (List Node) := do
  expect ":"
  block again expressions

/-! ## Statements with blocks -/

/-- The block behind `else`, if there is one. -/
def otherwise : Rule (List Node) := do
  if ← acceptWord "else" then colonBlock again expressions else return []

/-- A conditional statement, behind its first word. -/
def conditional : (fuel : Nat) → Rule Node
  | 0 => retreat
  | fuel + 1 => do
    let test ← Expression.named expressions
    let body ← colonBlock again expressions
    let rest ←
      if ← acceptWord "elif" then do pure [← conditional fuel] else otherwise again expressions
    return .mk .condition (test :: body ++ rest)

/-- A loop with a condition, behind its first word. -/
def whileLoop : Rule Node := do
  let test ← Expression.named expressions
  let body ← colonBlock again expressions
  return .other "While" (test :: body ++ (← otherwise again expressions))

/-- A loop over items, behind its first word. -/
def forLoop (label : String) : Rule Node := do
  let target ← Expression.targets expressions
  expectWord "in"
  let source ← Expression.row expressions
  let body ← colonBlock again expressions
  return .other label (target :: source :: body ++ (← otherwise again expressions))

/-- A context that a block is run in. -/
def context : Rule Node := do
  let found ← expressions .whole
  if ← acceptWord "as" then
    let target ← Expression.target expressions
    if ← nextIsOneOf [",", ")", ":"] then return .other "withitem" [found, target] else retreat
  else return .other "withitem" [found]

/-- The contexts of a block and the colon behind them; parentheses around all of them count for
nothing. -/
def contexts : Rule (List Node) := do
  let grouped ← attempt do
    expect "("
    let (found, _) ← commaRow (context expressions)
    expect ")"
    expect ":"
    return found
  match grouped with
  | some found => return found
  | none =>
    let found ← commaSeparated (context expressions)
    expect ":"
    return found

/-- A block with contexts, behind its first word. -/
def withBlock (label : String) : Rule Node := do
  let found ← contexts expressions
  return .other label (found ++ (← block again expressions))

/-- What a handler handles, perhaps with a name for it. -/
def handled : Rule Node := do
  let found ← expressions .whole
  otherName
  return found

/-- A handler, for groups or not. -/
def handler (isGroup : Bool) : Rule Node := do
  expectWord "except"
  if isGroup then expect "*"
  let kind ←
    if ← nextIs ":" then
      if isGroup then retreat else pure []
    else do pure [← handled expressions]
  return .other "ExceptHandler" (kind ++ (← colonBlock again expressions))

/-- The handlers behind the first one. -/
def handlers (isGroup : Bool) : (fuel : Nat) → Rule (List Node)
  | 0 => return []
  | fuel + 1 => do
    if ← nextWordIs "except" then
      let found ← handler again expressions isGroup
      return found :: (← handlers isGroup fuel)
    else return []

/-- A block with handlers, behind its first word.  A block without any is refused, whatever follows
it. -/
def guardedBlock : Rule Node := do
  let body ← colonBlock again expressions
  if ← acceptWord "finally" then return .other "Try" (body ++ (← colonBlock again expressions))
  else if !(← nextWordIs "except") then refuse
  else
    let isGroup ← fits do
      expectWord "except"
      expect "*"
    let first ← handler again expressions isGroup
    let others ← handlers again expressions isGroup (← tokensLeft)
    let rest ← otherwise again expressions
    let final ← if ← acceptWord "finally" then colonBlock again expressions else pure []
    return .other (if isGroup then "TryStar" else "Try") (body ++ first :: others ++ rest ++ final)

/-- A function, behind its first word. -/
def function (kind : String → NodeKind) (decorators : List Node) : Rule Node := do
  let (id, _) ← name
  expect "("
  let parameters ← Expression.parameters expressions true ")"
  expect ")"
  let result ← if ← accept "->" then do pure [← expressions .whole] else pure []
  let body ← colonBlock again expressions
  return .mk (kind id) (parameters :: body ++ decorators ++ result)

/-- A class, behind its first word. -/
def classDefinition (decorators : List Node) : Rule Node := do
  let _ ← name
  let bases ← if ← accept "(" then Expression.classArguments expressions else pure {}
  let body ← colonBlock again expressions
  return .other "ClassDef" (bases.positional ++ bases.keywords ++ body ++ decorators)

/-- What `async` starts: a function, a loop or a block with contexts. -/
def asynchronous (decorators : List Node) : Rule Node := do
  expectWord "async"
  if ← acceptWord "def" then
    function again expressions (fun _ => .other "AsyncFunctionDef") decorators
  else if !decorators.isEmpty then retreat
  else if ← acceptWord "for" then forLoop again expressions "AsyncFor"
  else if ← acceptWord "with" then withBlock again expressions "AsyncWith"
  else retreat

/-- Decorators and what they decorate. -/
def decorated : Rule Node := do
  let decorators ← many do
    expect "@"
    let found ← Expression.named expressions
    expectNewline
    return found
  if decorators.isEmpty then retreat
  else if ← acceptWord "def" then function again expressions NodeKind.function decorators
  else if ← acceptWord "class" then classDefinition again expressions decorators
  else asynchronous again expressions decorators

/-! ## Choices among cases -/

/-- What is looked at: one expression, or a row that has a comma. -/
def subject : Rule Node := do
  match ← commaRow (Expression.starredNamed expressions) with
  | ([single], false) => if single.isStarred then retreat else return single
  | (items, _) => return .mk .tuple items

/-- The head of a choice, behind its first word.  A line that only lacks the colon is remembered. -/
def choiceHead : Rule Node := do
  let found ← subject expressions
  match ← peek with
  | .newline =>
    modify fun reader => { reader with hasBareMatch := true }
    retreat
  | _ =>
    expect ":"
    expectNewline
    return found

/-- A case of a choice. -/
def case : Rule Node := do
  expectWord "case"
  let pattern ← CasePattern.whole patterns
  let guard ← if ← acceptWord "if" then do pure [← Expression.named expressions] else pure []
  return .other "match_case" (pattern :: guard ++ (← colonBlock again expressions))

/-- The cases of a choice up to the end of their indentation. -/
def cases : (fuel : Nat) → Rule (List Node)
  | 0 => retreat
  | fuel + 1 => do
    let found ← case again expressions patterns
    match ← peek with
    | .dedent =>
      advance
      return [found]
    | _ => return found :: (← cases fuel)

/-- A choice among cases.  The word that starts it can be a name as well, so only the head
decides. -/
def choice : Rule (Option Node) := do
  let head ← attempt do
    expectWord "match"
    choiceHead expressions
  match head with
  | none => return none
  | some found =>
    expectIndent
    let found := found :: (← cases again expressions patterns ((← tokensLeft) + 1))
    return some (.other "Match" found)

/-! ## All statements -/

/-- A statement, or the simple statements of a line. -/
def statement : Rule (List Node) := do
  match ← peek with
  | .symbol "@" => return [← decorated again expressions]
  | .word "if" =>
    advance
    return [← conditional again expressions ((← tokensLeft) + 1)]
  | .word "while" =>
    advance
    return [← whileLoop again expressions]
  | .word "for" =>
    advance
    return [← forLoop again expressions "For"]
  | .word "with" =>
    advance
    return [← withBlock again expressions "With"]
  | .word "try" =>
    advance
    return [← guardedBlock again expressions]
  | .word "def" =>
    advance
    return [← function again expressions NodeKind.function []]
  | .word "class" =>
    advance
    return [← classDefinition again expressions []]
  | .word "async" => return [← asynchronous again expressions []]
  | .word "match" =>
    match ← choice again expressions patterns with
    | some found => return [found]
    | none => simpleLine expressions
  | _ => simpleLine expressions

/-- The rule for statements down to a depth of nesting. -/
def ruleAt (expressions : Again) (patterns : Rule Node) : (depth : Nat) → Rule (List Node)
  | 0 => retreat
  | depth + 1 => statement (ruleAt expressions patterns depth) expressions patterns

/-- The statements up to the end of the text. -/
def untilFinish (rule : Rule (List Node)) : (fuel : Nat) → Rule (List Node)
  | 0 => retreat
  | fuel + 1 => do
    match ← peek with
    | .finish => return []
    | _ =>
      let found ← rule
      return found ++ (← untilFinish rule fuel)

end WorkflowAudit.Code.Statement
