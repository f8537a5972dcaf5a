import WorkflowAudit.Code.Token
import WorkflowAudit.Text.CharacterName

/-! # String literals

What must hold of the content of a string literal: its escapes are complete, a bytes literal is
ASCII, and in a formatted literal the braces are balanced.  The fields of a formatted literal hold
expressions (`Field`), which are program text of their own.
-/

namespace WorkflowAudit.Code

/-- A field of a formatted literal. -/
inductive Field where
  /-- The text of the expression, how many lines into the literal it starts, whether a format
  follows it, and the fields of the format. -/
  | mk (expression : List Char) (line : Nat) (hasFormat : Bool) (inner : List Field)

namespace Literal

/-! ## Escapes -/

/-- The number that hexadecimal digits spell. -/
def hexNumber (digits : List Char) : Nat :=
  digits.foldl (fun n c => 16 * n + (Json.hexValue? c).getD 0) 0

/-- Whether exactly `count` hexadecimal digits at the front of a text spell a character. -/
def hasHexDigits (count : Nat) (text : List Char) : Bool :=
  let digits := (text.take count).takeWhile fun c => (Json.hexValue? c).isSome
  digits.length == count && hexNumber digits < 0x110000

/-- Whether a text starts with the name of a character between braces. -/
def hasName : List Char → Bool
  | '{' :: rest => rest.contains '}' && Text.isCharacterName (rest.takeWhile (· ≠ '}'))
  | _ => false

/-- Whether every escape of a text is complete. -/
def escapesComplete (isBytes : Bool) : List Char → Bool
  | [] => true
  | '\\' :: c :: rest =>
    let complete :=
      if c = 'x' then hasHexDigits 2 rest
      else if isBytes then true
      else if c = 'u' then hasHexDigits 4 rest
      else if c = 'U' then hasHexDigits 8 rest
      else if c = 'N' then hasName rest
      else true
    complete && escapesComplete isBytes rest
  | _ :: rest => escapesComplete isBytes rest

/-! ## The text between fields -/

/-- What comes next in the text between fields. -/
inductive TextStep where
  /-- Characters of the text. -/
  | pass (characters rest : List Char)
  /-- Characters that end with a brace that was doubled. -/
  | doubled (characters rest : List Char)
  /-- Characters before a brace that counts. -/
  | stop (characters rest : List Char)
  /-- A closing brace without an opening one. -/
  | unopened

/-- A brace in the text between fields; in a format it cannot be doubled. -/
def braceStep (isFormat : Bool) (before : List Char) (brace : Char) (rest : List Char) : TextStep :=
  if isFormat then .stop before (brace :: rest)
  else if rest.head? = some brace then .doubled (before ++ [brace]) (rest.drop 1)
  else if brace = '}' then .unopened
  else .stop before (brace :: rest)

/-- The next step in the text between fields.  The braces of a named character do not count. -/
def textStep (isRaw isFormat : Bool) (c : Char) (rest : List Char) : TextStep :=
  if c = '{' || c = '}' then braceStep isFormat [] c rest
  else if c = '\\' && !isRaw then
    match rest with
    | [] => .pass ['\\'] []
    | 'N' :: '{' :: named =>
      let name := named.takeWhile (· ≠ '}')
      .pass (['\\', 'N', '{'] ++ named.take (name.length + 1)) (named.drop (name.length + 1))
    | d :: behind =>
      if d = '{' || d = '}' then braceStep isFormat ['\\'] d behind else .pass ['\\', d] behind
  else .pass [c] rest

/-- The text up to the next brace that counts: the characters passed over, whether the last of them
is a brace that was doubled, and the rest. -/
def passText (isRaw isFormat : Bool) :
    (fuel : Nat) → List Char → Option (List Char × Bool × List Char)
  | _, [] => some ([], false, [])
  | 0, text => some ([], false, text)
  | fuel + 1, c :: rest =>
    match textStep isRaw isFormat c rest with
    | .pass characters rest =>
      (passText isRaw isFormat fuel rest).map fun (more, doubled, behind) =>
        (characters ++ more, doubled, behind)
    | .doubled characters rest => some (characters, true, rest)
    | .stop characters rest => some (characters, false, rest)
    | .unopened => none

/-! ## Expressions in fields -/

/-- The quote of a string inside an expression, and whether it is tripled. -/
structure OpenQuote where
  quote : Char
  isTripled : Bool

/-- The text of an expression and the rest from the character that ends it: a conversion, a format,
an equals sign or the closing brace outside of all brackets and quotes.  A backslash or a comment is
refused. -/
def passExpression : (fuel : Nat) → (inside : Option OpenQuote) → (brackets : List Char) →
    List Char → Option (List Char × List Char)
  | 0, _, _, _ => none
  | fuel + 1, inside, brackets, text =>
    match text with
    | [] => if inside.isNone && brackets.isEmpty then some ([], []) else none
    | c :: rest =>
      if c = '\\' then none
      else
        match inside with
        | some ⟨quote, isTripled⟩ =>
          if c = quote && isTripled && Text.startsWith [quote, quote] rest then
            take [c, c, c] (passExpression fuel none brackets (rest.drop 2))
          else if c = quote && !isTripled then take [c] (passExpression fuel none brackets rest)
          else take [c] (passExpression fuel inside brackets rest)
        | none =>
          if c = '\'' || c = '"' then
            if Text.startsWith [c, c] rest then
              take [c, c, c] (passExpression fuel (some ⟨c, true⟩) brackets (rest.drop 2))
            else take [c] (passExpression fuel (some ⟨c, false⟩) brackets rest)
          else if c = '#' then none
          else if brackets.isEmpty && ['!', ':', '}', '=', '>', '<'].contains c then
            if rest.head? = some '=' && ['!', '=', '>', '<'].contains c then
              take [c, '='] (passExpression fuel none brackets (rest.drop 1))
            else if c = '>' || c = '<' then take [c] (passExpression fuel none brackets rest)
            else some ([], c :: rest)
          else
            match Token.brackets? c brackets with
            | none => none
            | some brackets => take [c] (passExpression fuel none brackets rest)
where
  /-- Puts characters before the text of an expression. -/
  take (characters : List Char) (found : Option (List Char × List Char)) :
      Option (List Char × List Char) :=
    found.map fun (text, rest) => (characters ++ text, rest)

/-- Whether a character is white space in an expression. -/
def isExpressionSpace (c : Char) : Bool :=
  c = ' ' || c = '\t' || c = '\n' || c = '\x0c'

/-- Passes over the equals sign behind an expression, if there is one. -/
def passEquals : List Char → List Char
  | '=' :: rest => rest.dropWhile fun c => c = ' ' || ('\t' ≤ c && c ≤ '\r')
  | rest => rest

/-- Passes over a conversion, if there is one. -/
def passConversion? : List Char → Option (List Char)
  | '!' :: c :: rest => if c = 's' || c = 'r' || c = 'a' then some rest else none
  | ['!'] => none
  | rest => some rest

/-! ## Fields -/

/-- How deep fields may be nested. -/
def fieldLimit : Nat := 2

/-- The fields of a text and the rest from the brace that ends it.  `lines` is the number of line
ends of the whole literal, and `level` counts the formats around. -/
def fieldsOf (isRaw : Bool) (lines : Nat) :
    (fuel level : Nat) → List Char → Option (List Field × List Char)
  | 0, _, _ => none
  | fuel + 1, level, text => do
    let (passed, doubled, rest) ← passText isRaw (level ≠ 0) (text.length + 1) text
    if !isRaw && !escapesComplete false passed then none
    else if doubled then fieldsOf isRaw lines fuel level rest
    else
      match rest with
      | '{' :: body =>
        if level ≥ fieldLimit then none
        else
          let (expression, behind) ← passExpression (body.length + 1) none [] body
          if expression.all isExpressionSpace then none
          else
            let behind ← passConversion? (passEquals behind)
            let (hasFormat, inner, behind) ←
              match behind with
              | ':' :: format => do
                let (inner, behind) ← fieldsOf isRaw lines fuel (level + 1) format
                some (true, inner, behind)
              | behind => some (false, [], behind)
            match behind with
            | '}' :: behind =>
              let (fields, final) ← fieldsOf isRaw lines fuel level behind
              some (Field.mk expression (lines - rest.count '\n') hasFormat inner :: fields, final)
            | _ => none
      | rest => some ([], rest)

/-- The fields of a formatted literal; `none` when it is not well formed. -/
def fields? (literal : Literal) : Option (List Field) :=
  match fieldsOf literal.isRaw (literal.content.count '\n') (2 * literal.content.length + 4) 0
      literal.content with
  | some (fields, []) => some fields
  | _ => none

/-- Whether the content of a literal that is not formatted is well formed. -/
def isWellFormed (literal : Literal) : Bool :=
  (!literal.isBytes || literal.content.all fun c => c.toNat < 128) &&
    (literal.isRaw || escapesComplete literal.isBytes literal.content)

end Literal

end WorkflowAudit.Code
