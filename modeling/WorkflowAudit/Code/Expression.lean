import WorkflowAudit.Code.Reading

/-! # Expressions

The grammar of expressions.  Each rule is given the rules that contain it again (`Again`), so the
rules themselves do not call each other in a circle; the circle is closed at the end, with a bound
on its depth.
-/

namespace WorkflowAudit.Code

/-- The kinds of expression that others contain. -/
inductive ExpressionLevel where
  | whole
  /-- An expression without a conditional or a function at its top. -/
  | disjunction
  | inversion
  /-- An expression without comparisons at its top. -/
  | operation
  | factor
  /-- An expression without operators at its top. -/
  | primary

/-- The rules for the expressions that a rule contains. -/
abbrev Again := ExpressionLevel → Rule Node

namespace Expression

open Rule

variable (again : Again)

/-! ## Rows of expressions -/

/-- Whether a name for the value of an expression comes next. -/
def nextIsNaming : Rule Bool :=
  fits do
    let _ ← name
    expect ":="

/-- An expression with a name for its value, or a plain one. -/
def named : Rule Node := do
  let assignment ← attempt do
    let (id, line) ← name
    expect ":="
    return (id, line)
  match assignment with
  | some (id, line) => return .other "NamedExpr" [.mk (.name id line) [], ← again .whole]
  | none =>
    let found ← again .whole
    if ← nextIs ":=" then retreat else return found

/-- An operation behind a star. -/
def starredOperation : Rule Node := do
  expect "*"
  return .mk .starred [← again .operation]

/-- An expression behind a star. -/
def starredWhole : Rule Node := do
  expect "*"
  return .mk .starred [← again .whole]

/-- An expression, or an operation behind a star. -/
def starred : Rule Node := do
  if ← nextIs "*" then starredOperation again else again .whole

/-- An expression that may name its value, or an operation behind a star. -/
def starredNamed : Rule Node := do
  if ← nextIs "*" then starredOperation again else named again

/-- A row of expressions, which is a tuple when there is a comma. -/
def row : Rule Node := do
  match ← commaRow (starred again) with
  | ([single], false) => return single
  | (items, _) => return .mk .tuple items

/-- An expression with a `yield`. -/
def yielded : Rule Node := do
  expectWord "yield"
  if ← acceptWord "from" then return .other "YieldFrom" [← again .whole]
  else return .other "Yield" (← attempt (row again)).toList

/-! ## Targets -/

/-- A target, perhaps behind a star. -/
def target : Rule Node := do
  let found ← if ← accept "*" then do pure (Node.mk .starred [← again .primary]) else again .primary
  if found.isTarget then return found else retreat

/-- A row of targets, which is a tuple when there is a comma. -/
def targets : Rule Node := do
  match ← commaRow (target again) with
  | ([single], false) => return single
  | (items, _) => return .mk .tuple items

/-! ## Comprehensions -/

/-- Whether a comprehension goes on here. -/
def nextIsFor : Rule Bool := do
  if ← nextWordIs "for" then return true
  else if ← nextWordIs "async" then
    fits do
      expectWord "async"
      expectWord "for"
  else return false

/-- One part of a comprehension. -/
def comprehension : Rule Node := do
  let _ ← acceptWord "async"
  expectWord "for"
  let found ← targets again
  expectWord "in"
  let source ← again .disjunction
  let conditions ← many do
    expectWord "if"
    again .disjunction
  return .other "comprehension" (found :: source :: conditions)

/-- The parts of a comprehension. -/
def comprehensions : Rule (List Node) := do
  let first ← comprehension again
  return first :: (← many (comprehension again))

/-! ## Parameters -/

/-- The parameters of a function. -/
structure Parameters where
  positional : List Node := []
  rowParameter : Option Node := none
  keywordOnly : List Node := []
  keywordDefaults : List Node := []
  mappingParameter : Option Node := none
  defaults : List Node := []
  hasSlash : Bool := false
  hasStar : Bool := false
  /-- Whether a star without a name needs a parameter behind it. -/
  needsKeyword : Bool := false

/-- Parameters as a node. -/
def Parameters.toNode (p : Parameters) : Node :=
  .other "arguments"
    (p.positional ++ p.rowParameter.toList ++ p.keywordOnly ++ p.keywordDefaults ++
      p.mappingParameter.toList ++ p.defaults)

/-- A parameter, with an annotation where annotations are allowed. -/
def parameter (annotated : Bool) (typeRule : Rule Node) : Rule Node := do
  let _ ← name
  if annotated then
    if ← accept ":" then return .other "arg" [← typeRule]
  return .other "arg" []

/-- Refuses anything but a comma or the closing symbol; passes over the comma. -/
def endParameter (closer : String) : Rule Unit := do
  if ← accept "," then pure ()
  else if ← nextIs closer then pure ()
  else retreat

/-- The parameters behind those read so far, up to the closing symbol. -/
def parametersBehind (annotated : Bool) (closer : String) :
    (fuel : Nat) → Parameters → Rule Parameters
  | 0, _ => retreat
  | fuel + 1, soFar => do
    if ← nextIs closer then
      if soFar.needsKeyword then retreat else return soFar
    else if ← accept "**" then
      if soFar.needsKeyword then retreat
      let found ← parameter annotated (again .whole)
      endParameter closer
      if ← nextIs closer then return { soFar with mappingParameter := some found } else retreat
    else if ← accept "*" then
      if soFar.hasStar then retreat
      if ← accept "," then
        parametersBehind annotated closer fuel { soFar with hasStar := true, needsKeyword := true }
      else
        let found ← parameter annotated (starred again)
        endParameter closer
        parametersBehind annotated closer fuel
          { soFar with hasStar := true, rowParameter := some found }
    else if ← accept "/" then
      if soFar.hasSlash || soFar.hasStar || soFar.positional.isEmpty then retreat
      endParameter closer
      parametersBehind annotated closer fuel { soFar with hasSlash := true }
    else
      let found ← parameter annotated (again .whole)
      let given ← if ← accept "=" then do pure (some (← again .whole)) else pure none
      endParameter closer
      if soFar.hasStar then
        parametersBehind annotated closer fuel { soFar with
          keywordOnly := soFar.keywordOnly ++ [found]
          keywordDefaults := soFar.keywordDefaults ++ given.toList
          needsKeyword := false }
      else if given.isNone && !soFar.defaults.isEmpty then retreat
      else
        parametersBehind annotated closer fuel { soFar with
          positional := soFar.positional ++ [found]
          defaults := soFar.defaults ++ given.toList }

/-- The parameters up to the closing symbol. -/
def parameters (annotated : Bool) (closer : String) : Rule Node := do
  return (← parametersBehind again annotated closer ((← tokensLeft) + 1) {}).toNode

/-- A function without a name. -/
def lambda : Rule Node := do
  expectWord "lambda"
  let found ← parameters again false ":"
  expect ":"
  return .other "Lambda" [found, ← again .whole]

/-! ## Calls and items -/

/-- The arguments of a call. -/
structure Arguments where
  positional : List Node := []
  keywords : List Node := []
  /-- Whether a keyword was given, behind which only keywords and rows may come. -/
  hasKeyword : Bool := false
  /-- Whether a mapping was given, behind which only keywords and mappings may come. -/
  hasMapping : Bool := false

/-- The name of a keyword argument, if one comes next. -/
def keywordName : Rule (Option String) :=
  attempt do
    let (id, _) ← name
    expect "="
    return id

/-- One argument behind those read so far. -/
def argument (soFar : Arguments) : Rule Arguments := do
  if ← accept "**" then
    let value ← again .whole
    return { soFar with
      keywords := soFar.keywords ++ [.other "keyword" [value]]
      hasKeyword := true
      hasMapping := true }
  else if ← nextIs "*" then
    if soFar.hasMapping then retreat
    return { soFar with positional := soFar.positional ++ [← starredWhole again] }
  else
    match ← keywordName with
    | some _ =>
      let value ← again .whole
      return { soFar with
        keywords := soFar.keywords ++ [.other "keyword" [value]]
        hasKeyword := true }
    | none =>
      let value ← named again
      if soFar.hasKeyword then retreat
      if ← nextIs "=" then retreat
      return { soFar with positional := soFar.positional ++ [value] }

/-- The arguments behind those read so far, up to the closing parenthesis. -/
def argumentsBehind : (fuel : Nat) → Arguments → Rule Arguments
  | 0, _ => retreat
  | fuel + 1, soFar => do
    if ← nextIs ")" then return soFar
    else
      let found ← argument again soFar
      if ← accept "," then argumentsBehind fuel found
      else if ← nextIs ")" then return found
      else retreat

/-- The arguments of a class and the closing parenthesis: those of a call, without a bare
comprehension. -/
def classArguments : Rule Arguments := do
  let found ← argumentsBehind again ((← tokensLeft) + 1) {}
  expect ")"
  return found

/-- The arguments of a call and the closing parenthesis.  A single argument may be a comprehension
without parentheses of its own. -/
def arguments : Rule Arguments := do
  if ← accept ")" then return {}
  else
    let first ← argument again {}
    match first.positional with
    | [item] =>
      if !item.isStarred && (← nextIsFor) then
        let parts ← comprehensions again
        expect ")"
        return { positional := [.other "GeneratorExp" (item :: parts)] }
      else others first
    | _ => others first
where
  /-- The arguments behind the first one. -/
  others (first : Arguments) : Rule Arguments := do
    let found ←
      if ← accept "," then do argumentsBehind again ((← tokensLeft) + 1) first else pure first
    expect ")"
    return found

/-- A slice behind its lower bound, if it has one. -/
def sliceBehind (lower : Option Node) : Rule Node := do
  expect ":"
  let upper ← if ← nextIsOneOf [":", "]", ","] then pure none else do pure (some (← again .whole))
  let step ←
    if ← accept ":" then
      if ← nextIsOneOf ["]", ","] then pure none else do pure (some (← again .whole))
    else pure none
  return .other "Slice" (lower.toList ++ upper.toList ++ step.toList)

/-- An index, or a slice.  An index may name its value without parentheses; a bound may not. -/
def slice : Rule Node := do
  if ← nextIs ":" then sliceBehind again none
  else if ← nextIsNaming then named again
  else
    let first ← named again
    if ← nextIs ":" then sliceBehind again (some first) else return first

/-- What stands between the brackets of an item. -/
def slices : Rule Node := do
  let one : Rule Node := do
    if ← nextIs "*" then starredWhole again else slice again
  match ← commaRow one with
  | ([single], false) => return if single.isStarred then .mk .tuple [single] else single
  | (items, _) => return .mk .tuple items

/-! ## Atoms -/

/-- What stands between parentheses: a tuple, a comprehension, or one expression. -/
def parenthesized : Rule Node := do
  expect "("
  if ← accept ")" then return .mk .tuple []
  else if ← nextWordIs "yield" then
    let found ← yielded again
    expect ")"
    return found
  else
    let first ← starredNamed again
    if ← accept "," then
      let more ← attempt (commaRow (starredNamed again))
      expect ")"
      return .mk .tuple (first :: (more.map (·.1)).getD [])
    else if first.isStarred then retreat
    else if ← nextIsFor then
      let parts ← comprehensions again
      expect ")"
      return .other "GeneratorExp" (first :: parts)
    else
      expect ")"
      return first

/-- What stands between brackets: a list or a comprehension. -/
def bracketed : Rule Node := do
  expect "["
  if ← accept "]" then return .mk .list []
  else
    let first ← starredNamed again
    if !first.isStarred && (← nextIsFor) then
      let parts ← comprehensions again
      expect "]"
      return .other "ListComp" (first :: parts)
    else
      let more ←
        if ← accept "," then attempt (commaRow (starredNamed again)) else pure none
      expect "]"
      return .mk .list (first :: (more.map (·.1)).getD [])

/-- An entry of a mapping: a key, unless a whole mapping is put in, and a value. -/
def entry : Rule (Option Node × Node) := do
  if ← accept "**" then return (none, ← again .operation)
  else
    let key ← again .whole
    expect ":"
    return (some key, ← again .whole)

/-- A mapping with some entries. -/
def mapping (entries : List (Option Node × Node)) : Node :=
  .other "Dict" (entries.filterMap (·.1) ++ entries.map (·.2))

/-- A mapping behind its first entry. -/
def mappingBehind (first : Option Node × Node) : Rule Node := do
  let more ← if ← accept "," then attempt (commaRow (entry again)) else pure none
  expect "\x7d"
  return mapping (first :: (more.map (·.1)).getD [])

/-- What stands between braces: a mapping, a set or a comprehension. -/
def braced : Rule Node := do
  expect "\x7b"
  if ← accept "\x7d" then return mapping []
  else if ← nextIs "**" then
    let first ← entry again
    mappingBehind again first
  else
    let isNaming ← nextIsNaming
    let first ← starredNamed again
    -- a key that names its value stands in parentheses
    if ← nextIs ":" then
      if first.isStarred || isNaming then retreat
      advance
      let value ← again .whole
      if ← nextIsFor then
        let parts ← comprehensions again
        expect "\x7d"
        return .other "DictComp" (first :: value :: parts)
      else mappingBehind again (some first, value)
    else if !first.isStarred && (← nextIsFor) then
      let parts ← comprehensions again
      expect "\x7d"
      return .other "SetComp" (first :: parts)
    else
      let more ← if ← accept "," then attempt (commaRow (starredNamed again)) else pure none
      expect "\x7d"
      return .other "Set" (first :: (more.map (·.1)).getD [])

/-- The expression of a field of a formatted literal, read as a text of its own between
parentheses. -/
def fieldExpression (text : List Char) (line : Nat) : Rule Node :=
  match (row again).run { rest := Token.ofText line ('(' :: text ++ [')']) } with
  | (.ok found, _) => return found
  | (.error _, _) => refuse

mutual

/-- A field of a formatted literal that starts in a given line. -/
def field (line : Nat) : Field → Rule Node
  | .mk text offset hasFormat inner => do
    let value ← fieldExpression again text (line + offset)
    let parts ← fields line inner
    return .other "FormattedValue" (value :: (if hasFormat then [.other "JoinedStr" parts] else []))

/-- The fields of a formatted literal that starts in a given line. -/
def fields (line : Nat) : List Field → Rule (List Node)
  | [] => return []
  | first :: rest => do
    let found ← field line first
    return found :: (← fields line rest)

end

/-- The fields of a literal, if it is formatted; a literal that is not well formed is refused. -/
def literalParts (literal : Literal) (line : Nat) : Rule (List Node) :=
  if literal.isFormatted then
    match literal.fields? with
    | some found => fields again line found
    | none => refuse
  else if literal.isWellFormed then return []
  else refuse

/-- A string literal, if one comes next. -/
def acceptLiteral : Rule (Option (Literal × Nat)) := do
  let next ← token
  match next.kind with
  | .literal content =>
    advance
    return some (content, next.line)
  | _ => return none

/-- The string literals that follow each other here. -/
def literalRow : (fuel : Nat) → Rule (List (Literal × Nat))
  | 0 => return []
  | fuel + 1 => do
    match ← acceptLiteral with
    | none => return []
    | some found => return found :: (← literalRow fuel)

/-- The constant, or the formatted text, that string literals in a row make; literals of bytes and
of text do not mix. -/
def literals : Rule Node := do
  match ← literalRow (← tokensLeft) with
  | [] => retreat
  | (first, line) :: rest =>
    let all := (first, line) :: rest
    let parts ← all.mapM fun (literal, line) => literalParts again literal line
    if rest.any fun (literal, _) => literal.isBytes != first.isBytes then refuse
    else if all.any fun (literal, _) => literal.isFormatted then
      return .other "JoinedStr" parts.flatten
    else return .other "Constant" []

/-- An expression that is not made of others by operators. -/
def atom : Rule Node := do
  let next ← token
  match next.kind with
  | .word s =>
    if s == "None" || s == "True" || s == "False" then
      advance
      return .other "Constant" []
    else
      let (id, line) ← name
      return .mk (.name id line) []
  | .number _ isTooLong =>
    advance
    if isTooLong then refuse else return .other "Constant" []
  | .literal _ => literals again
  | .symbol "(" => parenthesized again
  | .symbol "[" => bracketed again
  | .symbol "\x7b" => braced again
  | .symbol "..." =>
    advance
    return .other "Constant" []
  | _ => retreat

/-- What follows an expression: attributes, calls and items. -/
def trailers : (fuel : Nat) → Node → Rule Node
  | 0, found => return found
  | fuel + 1, found => do
    if ← accept "." then
      let _ ← name
      trailers fuel (.mk .attributeOf [found])
    else if ← accept "(" then
      let given ← arguments again
      trailers fuel (.mk .call (found :: given.positional ++ given.keywords))
    else if ← accept "[" then
      let index ← slices again
      expect "]"
      trailers fuel (.mk .subscript [found, index])
    else return found

/-- An atom with what follows it. -/
def primary : Rule Node := do
  let found ← atom again
  trailers again (← tokensLeft) found

/-! ## Operators -/

/-- A primary expression, perhaps awaited, perhaps raised to a power. -/
def power : Rule Node := do
  let base ←
    if ← acceptWord "await" then do pure (Node.other "Await" [← primary again]) else primary again
  if ← accept "**" then return .other "BinOp" [base, ← again .factor] else return base

/-- A power with signs before it. -/
def factor : Rule Node := do
  if ← nextIsOneOf ["+", "-", "~"] then
    advance
    return .other "UnaryOp" [← again .factor]
  else power again

/-- The operators between operands, the loosest first. -/
def operators : List (List String) :=
  [["|"], ["^"], ["&"], ["<<", ">>"], ["+", "-"], ["*", "/", "//", "%", "@"]]

/-- Operands with operators between them, taken together from the left. -/
def leftToRight (symbols : List String) (operand : Rule Node) : (fuel : Nat) → Node → Rule Node
  | 0, left => return left
  | fuel + 1, left => do
    if ← nextIsOneOf symbols then
      advance
      let right ← operand
      leftToRight symbols operand fuel (.other "BinOp" [left, right])
    else return left

/-- Operations with the operators given, the loosest first. -/
def operationWith : List (List String) → Rule Node
  | [] => factor again
  | symbols :: tighter => do
    let left ← operationWith tighter
    leftToRight symbols (operationWith tighter) (← tokensLeft) left

/-- An operation. -/
def operation : Rule Node :=
  operationWith again operators

/-- A sign of comparison, if one comes next. -/
def acceptComparison : Rule Bool := do
  if ← nextIsOneOf ["==", "!=", "<", "<=", ">", ">="] then
    advance
    return true
  else if ← acceptWord "in" then return true
  else if ← acceptWord "is" then
    let _ ← acceptWord "not"
    return true
  else
    let negated ← attempt do
      expectWord "not"
      expectWord "in"
    return negated.isSome

/-- The operands behind the first one of a comparison. -/
def compared : (fuel : Nat) → Rule (List Node)
  | 0 => return []
  | fuel + 1 => do
    if ← acceptComparison then
      let operand ← operation again
      return operand :: (← compared fuel)
    else return []

/-- A comparison. -/
def comparison : Rule Node := do
  let left ← operation again
  match ← compared again (← tokensLeft) with
  | [] => return left
  | others => return .other "Compare" (left :: others)

/-- A comparison, perhaps negated. -/
def inversion : Rule Node := do
  if ← acceptWord "not" then return .other "UnaryOp" [← again .inversion] else comparison again

/-- Operands with a word between them. -/
def joinedBy (word : String) (operand : Rule Node) : Rule Node := do
  let first ← operand
  match ← wordOperands (← tokensLeft) with
  | [] => return first
  | others => return .other "BoolOp" (first :: others)
where
  /-- The operands behind the first one. -/
  wordOperands : (fuel : Nat) → Rule (List Node)
    | 0 => return []
    | fuel + 1 => do
      if ← acceptWord word then
        let found ← operand
        return found :: (← wordOperands fuel)
      else return []

/-- An expression without a conditional or a function at its top. -/
def disjunction : Rule Node :=
  joinedBy "or" (joinedBy "and" (inversion again))

/-- A whole expression. -/
def whole : Rule Node := do
  if ← nextWordIs "lambda" then lambda again
  else
    let found ← disjunction again
    if ← acceptWord "if" then
      let test ← disjunction again
      expectWord "else"
      return .other "IfExp" [test, found, ← again .whole]
    else return found

/-- The rule for an expression of a level, down to a depth of nesting. -/
def ruleAt : (depth : Nat) → Again
  | 0, _ => retreat
  | depth + 1, level =>
    match level with
    | .whole => whole (ruleAt depth)
    | .disjunction => disjunction (ruleAt depth)
    | .inversion => inversion (ruleAt depth)
    | .operation => operation (ruleAt depth)
    | .factor => factor (ruleAt depth)
    | .primary => primary (ruleAt depth)

end Expression

end WorkflowAudit.Code
