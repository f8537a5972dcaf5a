import WorkflowAudit.Code.Expression

/-! # Patterns of cases

The grammar of the patterns that the cases of a `match` statement give.
-/

namespace WorkflowAudit.Code.CasePattern

open Rule

variable (again : Rule Node) (expressions : Again)

/-- A name that a pattern gives to what it matches; the name that stands for anything is none. -/
def capture : Rule Unit := do
  let (id, _) ← name
  if id == "_" then retreat
  if ← nextIsOneOf [".", "(", "="] then retreat

/-- A number; the result says whether it is imaginary. -/
def number : Rule Bool := do
  match ← peek with
  | .number isImaginary isTooLong =>
    advance
    if isTooLong then refuse else return isImaginary
  | _ => retreat

/-- A number with a sign, or a sum of a real and an imaginary one; a sum of others is refused. -/
def signedNumber : Rule Node := do
  let negative ← accept "-"
  let isImaginary ← number
  let constant := Node.other "Constant" []
  let value := if negative then Node.other "UnaryOp" [constant] else constant
  if ← nextIsOneOf ["+", "-"] then
    if isImaginary then refuse
    advance
    if ← number then return .other "BinOp" [value, .other "Constant" []] else refuse
  else return value

/-- A constant that a pattern compares with. -/
def constant : Rule Node := do
  match ← peek with
  | .number _ _ | .symbol "-" => signedNumber
  | .literal _ => Expression.literals expressions
  | .word s =>
    if s == "None" || s == "True" || s == "False" then
      advance
      return .other "Constant" []
    else retreat
  | _ => retreat

/-- The attributes behind a name. -/
def attributes : (fuel : Nat) → Node → Rule Node
  | 0, found => return found
  | fuel + 1, found => do
    if ← accept "." then
      let _ ← name
      attributes fuel (.mk .attributeOf [found])
    else return found

/-- A name, perhaps with attributes. -/
def dottedName : Rule Node := do
  let (id, line) ← name
  attributes (← tokensLeft) (.mk (.name id line) [])

/-- A pattern, or a name behind a star for the rest of a row. -/
def starred : Rule Node := do
  if ← accept "*" then
    if ← acceptWord "_" then pure () else capture
    return .mk .starred []
  else again

/-- The patterns of a row up to a closing symbol, which is passed over. -/
def rowUpTo (closer : String) : Rule (List Node × Bool) := do
  if ← accept closer then return ([], false)
  else
    let found ← commaRow (starred again)
    expect closer
    return found

/-- An entry of a mapping pattern. -/
def mappingEntry : Rule (Node × Node) := do
  let key ←
    match ← attempt (constant expressions) with
    | some found => pure found
    | none =>
      let found ← dottedName
      match found with
      | .mk .attributeOf _ => pure found
      | _ => retreat
  expect ":"
  return (key, ← again)

/-- A pattern for mappings. -/
def mapping : Rule Node := do
  expect "\x7b"
  let entries ← attempt (commaSeparated (mappingEntry again expressions))
  let entries := entries.getD []
  let hasComma ← if entries.isEmpty then pure true else accept ","
  if hasComma then
    if ← accept "**" then
      capture
      let _ ← accept ","
  expect "\x7d"
  return .other "MatchMapping" (entries.map (·.1) ++ entries.map (·.2))

/-- The name of a keyword pattern, if one comes next. -/
def keywordName : Rule (Option String) :=
  attempt do
    let (id, _) ← name
    expect "="
    return id

/-- The patterns of a class up to the closing parenthesis: those by position and then those by
keyword. -/
def classPatterns : (fuel : Nat) → (positional keyword : List Node) → Rule (List Node)
  | 0, _, _ => retreat
  | fuel + 1, positional, keyword => do
    if ← accept ")" then return positional ++ keyword
    else
      let (positional, keyword) ←
        match ← keywordName with
        | some _ => do pure (positional, keyword ++ [← again])
        | none => do
          let found ← again
          if keyword.isEmpty then pure (positional ++ [found], keyword) else retreat
      if ← accept "," then classPatterns fuel positional keyword
      else
        expect ")"
        return positional ++ keyword

/-- A pattern that starts with a name: anything, a name for it, a value, or a class. -/
def fromName : Rule Node := do
  if ← acceptWord "_" then return .other "MatchAs" []
  let found ← dottedName
  if ← accept "(" then
    return .other "MatchClass" (found :: (← classPatterns again ((← tokensLeft) + 1) [] []))
  else if ← nextIsOneOf [".", "="] then retreat
  else
    match found with
    | .mk .attributeOf _ => return .other "MatchValue" [found]
    | _ => return .other "MatchAs" []

/-- A pattern between parentheses: a group, or a row. -/
def parenthesized : Rule Node := do
  expect "("
  match ← rowUpTo again ")" with
  | ([single], false) => if single.isStarred then retreat else return single
  | (patterns, _) => return .other "MatchSequence" patterns

/-- A pattern without alternatives. -/
def closed : Rule Node := do
  match ← peek with
  | .symbol "(" => parenthesized again
  | .symbol "[" =>
    advance
    return .other "MatchSequence" (← rowUpTo again "]").1
  | .symbol "\x7b" => mapping again expressions
  | .word s =>
    if keywords.contains s then return .other "MatchSingleton" [← constant expressions]
    else fromName again
  | _ => return .other "MatchValue" [← constant expressions]

/-- The alternatives behind the first one. -/
def alternatives : (fuel : Nat) → Rule (List Node)
  | 0 => return []
  | fuel + 1 => do
    if ← accept "|" then
      let found ← closed again expressions
      return found :: (← alternatives fuel)
    else return []

/-- A pattern, perhaps with a name for what it matches. -/
def pattern : Rule Node := do
  let first ← closed again expressions
  let found ←
    match ← alternatives again expressions (← tokensLeft) with
    | [] => pure first
    | others => pure (.other "MatchOr" (first :: others))
  if ← acceptWord "as" then
    capture
    return .other "MatchAs" [found]
  else return found

/-- The rule for patterns down to a depth of nesting. -/
def ruleAt (expressions : Again) : (depth : Nat) → Rule Node
  | 0 => retreat
  | depth + 1 => pattern (ruleAt expressions depth) expressions

/-- The pattern of a case: one pattern, or a row without parentheses. -/
def whole : Rule Node := do
  match ← commaRow (starred again) with
  | ([single], false) => if single.isStarred then retreat else return single
  | (patterns, _) => return .other "MatchSequence" patterns

end WorkflowAudit.Code.CasePattern
