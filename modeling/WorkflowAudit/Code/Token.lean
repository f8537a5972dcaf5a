import WorkflowAudit.Failure
import WorkflowAudit.Json.Reader
import WorkflowAudit.Text.Identifier
import WorkflowAudit.Text.Lines

/-! # Tokens of Python code

A program text is cut into words, numbers, string literals and symbols, with marks for the ends of
lines and for the places where the indentation grows or shrinks.  Inside brackets the ends of lines
do not count.  Where the text cannot be cut any further the tokens end with one that says what is
wrong.
-/

namespace WorkflowAudit.Code

/-- What is wrong with a text that cannot be cut into tokens. -/
inductive LexicalFault where
  /-- Characters that make no token. -/
  | characters
  /-- The text or a line ends where it must go on. -/
  | ending
  | indentation
  | tabs
deriving BEq, DecidableEq

/-- The problem that a fault amounts to. -/
def LexicalFault.problem : LexicalFault → CodeProblem
  | characters => .invalid
  | ending => .invalid
  | indentation => .badIndentation
  | tabs => .mixedTabs

/-- A string literal without its quotes. -/
structure Literal where
  isBytes : Bool
  isRaw : Bool
  isFormatted : Bool
  content : List Char

/-- What a token is. -/
inductive TokenKind where
  | word (text : String)
  /-- A number: whether it is imaginary, and whether it has more digits than are read. -/
  | number (isImaginary isTooLong : Bool)
  | literal (content : Literal)
  | symbol (text : String)
  | newline
  | indent
  | dedent
  | finish
  | broken (fault : LexicalFault)

/-- A token and the line it starts in. -/
structure Token where
  kind : TokenKind
  line : Nat

namespace Token

/-! ## Words -/

/-- Whether a character may start a word; characters outside ASCII are looked at when the word is
complete. -/
def mayStartWord (c : Char) : Bool :=
  c.isAlpha || c = '_' || c.toNat ≥ 128

/-- Whether a character may continue a word. -/
def mayContinueWord (c : Char) : Bool :=
  mayStartWord c || c.isDigit

/-! ## Numbers -/

/-- The words that may follow a number without a space. -/
def wordsBehindNumbers : List (List Char) :=
  ["and", "else", "for", "if", "in", "is", "or", "not"].map String.toList

/-- The rest behind a number, when a number may end before it. -/
def endNumber? (rest : List Char) : Option (List Char) :=
  match rest with
  | [] => some []
  | c :: _ =>
    if mayContinueWord c && !wordsBehindNumbers.any (Text.startsWith · rest) then none
    else some rest

/-- Passes over digits of a base, which single underscores may separate; `needed` says that a digit
must come next. -/
def digitsFrom? (isDigitOfBase : Char → Bool) : (needed : Bool) → List Char → Option (List Char)
  | needed, [] => if needed then none else some []
  | needed, c :: rest =>
    if isDigitOfBase c then digitsFrom? isDigitOfBase false rest
    else if needed then none
    else if c = '_' then digitsFrom? isDigitOfBase true rest
    else some (c :: rest)

/-- Passes over digits of a base, of which there must be one. -/
def digits? (isDigitOfBase : Char → Bool) (text : List Char) : Option (List Char) :=
  digitsFrom? isDigitOfBase true text

/-- Digits of another base than ten, which an underscore may precede. -/
def basedNumber? (isDigitOfBase : Char → Bool) (rest : List Char) : Option (List Char) := do
  let behind ←
    match rest with
    | '_' :: rest => digits? isDigitOfBase rest
    | rest => digits? isDigitOfBase rest
  match behind with
  | c :: _ => if c.isDigit then none else endNumber? behind
  | [] => some []

/-- The end of a number behind its digits: an exponent, and the mark of an imaginary number.  The
result says whether the number is imaginary. -/
def tail? (rest : List Char) : Option (List Char × Bool) := do
  let behind ← exponent? rest
  match behind with
  | 'j' :: behind | 'J' :: behind => return (← endNumber? behind, true)
  | behind => return (← endNumber? behind, false)
where
  /-- Passes over an exponent, if there is one. -/
  exponent? (rest : List Char) : Option (List Char) :=
    match rest with
    | [] => some []
    | c :: behind =>
      if c = 'e' || c = 'E' then
        match behind with
        | '+' :: digits | '-' :: digits => digits? Char.isDigit digits
        | d :: _ => if d.isDigit then digits? Char.isDigit behind else some rest
        | [] => some rest
      else some rest

/-- The fraction of a number behind its point, and what follows. -/
def fraction? (rest : List Char) : Option (List Char × Bool) :=
  match rest with
  | c :: _ => if c.isDigit then (digits? Char.isDigit rest).bind tail? else tail? rest
  | [] => tail? rest

/-- A number at the front of a text that starts with a digit, or with a point and a digit. -/
def number? (text : List Char) : Option (TokenKind × List Char) := do
  match text with
  | '0' :: 'x' :: rest | '0' :: 'X' :: rest =>
    based (← basedNumber? (fun c => (Json.hexValue? c).isSome) rest)
  | '0' :: 'o' :: rest | '0' :: 'O' :: rest =>
    based (← basedNumber? (fun c => '0' ≤ c && c ≤ '7') rest)
  | '0' :: 'b' :: rest | '0' :: 'B' :: rest =>
    based (← basedNumber? (fun c => c = '0' || c = '1') rest)
  | '.' :: rest =>
    let (behind, isImaginary) ← fraction? rest
    return (.number isImaginary false, behind)
  | text =>
    let behind ← digits? Char.isDigit text
    let digits := (text.take (text.length - behind.length)).filter Char.isDigit
    let leadingZero := digits.head? == some '0' && digits.any (· ≠ '0')
    match behind with
    | '.' :: rest =>
      let (behind, isImaginary) ← fraction? rest
      return (.number isImaginary false, behind)
    | behind =>
      let (final, isImaginary) ← tail? behind
      let isInteger := final.length == behind.length
      if leadingZero && isInteger then none
      else
        let isTooLong := isInteger && digits.length > Text.digitLimit && digits.head? != some '0'
        return (.number isImaginary isTooLong, final)
where
  /-- A number of another base. -/
  based (rest : List Char) : Option (TokenKind × List Char) :=
    some (.number false false, rest)

/-! ## String literals -/

/-- The letters before the quote of a string literal, and the text from the quote on. -/
def literalOpening? : List Char → Option (List Char × List Char)
  | [] => none
  | c :: rest =>
    if isQuote c then some ([], c :: rest)
    else
      match rest with
      | [] => none
      | d :: behind =>
        if isQuote d then
          if ['b', 'u', 'r', 'f'].contains c.toLower then some ([c.toLower], rest) else none
        else
          match behind with
          | [] => none
          | e :: _ =>
            let letters := [c.toLower, d.toLower]
            if isQuote e && [['b', 'r'], ['r', 'b'], ['f', 'r'], ['r', 'f']].contains letters then
              some (letters, behind)
            else none
where
  /-- Whether a character is a quote. -/
  isQuote (c : Char) : Bool := c = '\'' || c = '"'

/-- The content of a literal up to a single quote, and the rest behind it. -/
def shortContent? (quote : Char) : List Char → Option (List Char × List Char)
  | [] => none
  | '\n' :: _ => none
  | '\\' :: c :: rest =>
    (shortContent? quote rest).map fun (content, behind) => ('\\' :: c :: content, behind)
  | c :: rest =>
    if c = quote then some ([], rest)
    else (shortContent? quote rest).map fun (content, behind) => (c :: content, behind)

/-- The content of a literal up to three quotes, and the rest behind them. -/
def longContent? (quote : Char) : List Char → Option (List Char × List Char)
  | [] => none
  | '\\' :: c :: rest =>
    (longContent? quote rest).map fun (content, behind) => ('\\' :: c :: content, behind)
  | c :: rest =>
    if c = quote && Text.startsWith [quote, quote] rest then some ([], rest.drop 2)
    else (longContent? quote rest).map fun (content, behind) => (c :: content, behind)

/-- The string literal that starts at a quote, and the rest behind it. -/
def literal? (letters : List Char) (text : List Char) : Option (Literal × List Char) :=
  match text with
  | [] => none
  | quote :: rest =>
    let found :=
      if Text.startsWith [quote, quote] rest then longContent? quote (rest.drop 2)
      else shortContent? quote rest
    found.map fun (content, behind) =>
      ({ isBytes := letters.contains 'b'
         isRaw := letters.contains 'r'
         isFormatted := letters.contains 'f'
         content := content }, behind)

/-! ## Symbols -/

/-- The symbols of several characters, the longer ones first. -/
def longSymbols : List String :=
  ["**=", "...", "//=", "<<=", ">>=",
   "!=", "%=", "&=", "**", "*=", "+=", "-=", "->", "//", "/=", ":=", "<<", "<=", "<>", "==", ">=",
   ">>", "@=", "^=", "|="]

/-- The symbol at the front of a text, and the rest. -/
def symbolAt (c : Char) (rest : List Char) : String × List Char :=
  match longSymbols.findSome? fun s =>
      (Text.after? s.toList (c :: rest)).map fun behind => (s, behind) with
  | some found => found
  | none => (String.ofList [c], rest)

/-- The bracket that closes another. -/
def closing? : Char → Option Char
  | '(' => some ')'
  | '[' => some ']'
  | '{' => some '}'
  | _ => none

/-- How deep brackets may be nested. -/
def bracketLimit : Nat := 200

/-- The open brackets after a symbol, as the brackets that must close them; `none` when it closes
none of them. -/
def brackets? (c : Char) (brackets : List Char) : Option (List Char) :=
  match closing? c with
  | some closer => if brackets.length ≥ bracketLimit then none else some (closer :: brackets)
  | none =>
    if c = ')' || c = ']' || c = '}' then
      match brackets with
      | [] => none
      | closer :: outer => if c = closer then some outer else none
    else some brackets

/-! ## Indentation -/

/-- The indentation of a line, counted with tabs that go to the next multiple of eight and with tabs
that count as one. -/
structure Indentation where
  column : Nat
  narrowColumn : Nat

/-- How many levels of indentation there may be. -/
def indentationLimit : Nat := 100

/-- What the indentation of a line does to the levels that are open, the innermost first: the marks
it gives and the levels after it. -/
def indentationMarks (found : Indentation) (levels : List Indentation) :
    Except LexicalFault (List TokenKind × List Indentation) :=
  match levels with
  | [] => pure ([], [found])
  | level :: _ =>
    if found.column = level.column then
      if found.narrowColumn = level.narrowColumn then pure ([], levels) else throw .tabs
    else if level.column < found.column then
      if levels.length ≥ indentationLimit then throw .indentation
      else if found.narrowColumn ≤ level.narrowColumn then throw .tabs
      else pure ([.indent], found :: levels)
    else
      let remaining := levels.dropWhile fun level => found.column < level.column
      match remaining with
      | [] => throw .indentation
      | level :: _ =>
        if found.column ≠ level.column then throw .indentation
        else if found.narrowColumn ≠ level.narrowColumn then throw .tabs
        else pure (List.replicate (levels.length - remaining.length) .dedent, remaining)

/-- Measures the indentation at the front of a line.  A backslash at the end of a line joins the
next line to it, and the first one fixes the indentation. -/
def indentationOf : (fuel : Nat) → (column narrowColumn line : Nat) → (fixed : Nat) → List Char →
    Except LexicalFault (Indentation × Nat × List Char)
  | 0, column, narrowColumn, line, _, text => pure (⟨column, narrowColumn⟩, line, text)
  | fuel + 1, column, narrowColumn, line, fixed, text =>
    match text with
    | ' ' :: rest => indentationOf fuel (column + 1) (narrowColumn + 1) line fixed rest
    | '\t' :: rest => indentationOf fuel ((column / 8 + 1) * 8) (narrowColumn + 1) line fixed rest
    | '\x0c' :: rest => indentationOf fuel 0 0 line fixed rest
    | '\\' :: '\n' :: rest =>
      if rest.isEmpty then throw .ending
      else
        indentationOf fuel column narrowColumn (line + 1) (if fixed = 0 then column else fixed) rest
    | '\\' :: _ => throw .ending
    | text => pure (if fixed = 0 then ⟨column, narrowColumn⟩ else ⟨fixed, fixed⟩, line, text)

/-! ## Cutting -/

/-- Where cutting has got to. -/
structure Position where
  rest : List Char
  line : Nat
  /-- Whether a line starts here. -/
  atLineStart : Bool := true
  /-- Whether the line holds nothing but a comment. -/
  isBlankLine : Bool := false
  levels : List Indentation := [⟨0, 0⟩]
  /-- The brackets that must close those that are open, the innermost first. -/
  brackets : List Char := []

/-- Whether a character separates tokens. -/
def isSeparator (c : Char) : Bool :=
  c = ' ' || c = '\t' || c = '\x0c'

/-- One step of cutting: the tokens it gives and where to go on, if anywhere. -/
def step (p : Position) : List Token × Option Position :=
  if p.atLineStart then startLine
  else
    let text := p.rest.dropWhile isSeparator
    match text with
    | [] => if p.brackets.isEmpty then (token .finish, none) else (token (.broken .ending), none)
    | '#' :: comment => ([], some { p with rest := comment.dropWhile (· ≠ '\n') })
    | '\n' :: rest =>
      let next := { p with rest := rest, line := p.line + 1, atLineStart := true }
      if p.isBlankLine || !p.brackets.isEmpty then ([], some next) else (token .newline, some next)
    | '\\' :: '\n' :: rest =>
      if rest.isEmpty then (token (.broken .ending), none)
      else ([], some { p with rest := rest, line := p.line + 1 })
    | '\\' :: _ => (token (.broken .ending), none)
    | c :: rest => significant c rest
where
  /-- A token of the line reached. -/
  token (kind : TokenKind) : List Token := [⟨kind, p.line⟩]
  /-- A token and the rest behind it. -/
  one (kind : TokenKind) (rest : List Char) : List Token × Option Position :=
    (token kind, some { p with rest := rest })
  /-- The end of cutting at characters that make no token. -/
  bad : List Token × Option Position := (token (.broken .characters), none)
  /-- Looks at the indentation of a line; that of a line with nothing but a comment does not
  count. -/
  startLine : List Token × Option Position :=
    match indentationOf (p.rest.length + 1) 0 0 p.line 0 p.rest with
    | .error fault => (token (.broken fault), none)
    | .ok (found, line, rest) =>
      let next := { p with rest := rest, line := line, atLineStart := false, isBlankLine := false }
      if rest.head? = some '#' || rest.head? = some '\n' then
        ([], some { next with isBlankLine := true })
      else if !p.brackets.isEmpty then ([], some next)
      else
        match indentationMarks found p.levels with
        | .error fault => ([⟨.broken fault, line⟩], none)
        | .ok (marks, levels) =>
          (marks.map fun kind => ⟨kind, line⟩, some { next with levels := levels })
  /-- A word, a number, a literal or a symbol. -/
  significant (c : Char) (rest : List Char) : List Token × Option Position :=
    match literalOpening? (c :: rest) with
    | some (letters, text) =>
      match literal? letters text with
      | some (literal, behind) =>
        (token (.literal literal),
          some { p with rest := behind, line := p.line + literal.content.count '\n' })
      | none => bad
    | none =>
      if mayStartWord c then
        let word := (c :: rest).takeWhile mayContinueWord
        if Text.isIdentifier word then
          one (.word (String.ofList word)) (rest.drop (word.length - 1))
        else bad
      else if c.isDigit || (c = '.' && (rest.head?.map Char.isDigit).getD false) then
        match number? (c :: rest) with
        | some (kind, behind) => one kind behind
        | none => bad
      else
        let (symbol, behind) := symbolAt c rest
        if symbol.length > 1 then one (.symbol symbol) behind
        else
          match brackets? c p.brackets with
          | none => bad
          | some brackets =>
            if c.toNat < 0x20 || c.toNat = 0x7F then bad
            else (token (.symbol symbol), some { p with rest := rest, brackets := brackets })

/-- Cuts a text into tokens, in at most `fuel` steps. -/
def cut : (fuel : Nat) → Position → List Token
  | 0, p => [⟨.finish, p.line⟩]
  | fuel + 1, p =>
    match step p with
    | (tokens, some next) => tokens ++ cut fuel next
    | (tokens, none) => tokens

/-- A program text with its line endings unified and with a newline at its end. -/
def prepared (text : List Char) : List Char :=
  let text := Text.unifyLineEndings text
  if text.getLast? = some '\n' then text else text ++ ['\n']

/-- The tokens of a program text whose first line has a given number.  Every step but that at the
start of a line uses up a character. -/
def ofText (firstLine : Nat) (text : List Char) : List Token :=
  let text := prepared text
  cut (2 * text.length + 4) { rest := text, line := firstLine }

end Token

end WorkflowAudit.Code
