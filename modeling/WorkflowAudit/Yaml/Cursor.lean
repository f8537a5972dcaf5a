import WorkflowAudit.Yaml.Fault

/-! # A position in a document text

A cursor is what is left of a text together with the place reached: the number of characters passed,
the line and the column.  Looking past the end of the text yields the null character, which no
document text contains.
-/

namespace WorkflowAudit.Yaml

/-- What is left of a text, and where. -/
structure Cursor where
  rest : List Char
  index : Nat := 0
  line : Nat := 0
  column : Nat := 0

/-- The character that stands for the end of the text. -/
def endMark : Char := Char.ofNat 0

/-- The byte order mark, which takes up no column. -/
def byteOrderMark : Char := Char.ofNat 0xFEFF

/-- The next-line character. -/
def nextLine : Char := Char.ofNat 0x85

/-- Whether a character ends a line of running text: a line break or the end. -/
def isLineEnd (c : Char) : Bool :=
  c = '\n' || c = '\r' || c = nextLine || c = endMark

/-- Whether a character ends a line or is a space or a tab. -/
def isLineEndOrSpace (c : Char) : Bool :=
  isLineEnd c || c = ' ' || c = '\t'

/-- Whether a character is a line break, the line and paragraph separators included. -/
def isBreak (c : Char) : Bool :=
  c = '\n' || c = '\r' || c = nextLine || c = Char.ofNat 0x2028 || c = Char.ofNat 0x2029

/-- Whether a character is a line break, a space or the end. -/
def isBreakOrSpace (c : Char) : Bool :=
  isBreak c || c = ' ' || c = endMark

namespace Cursor

/-- The character `k` places ahead. -/
def peek (cursor : Cursor) (k : Nat := 0) : Char :=
  cursor.rest.getD k endMark

/-- Passes over one character.  A newline ends a line, and so does a carriage return that no newline
follows. -/
def step (cursor : Cursor) : Cursor :=
  match cursor.rest with
  | [] => cursor
  | c :: rest =>
    let next := rest.headD endMark
    if c = '\n' || (c = '\r' && next ≠ '\n') then
      ⟨rest, cursor.index + 1, cursor.line + 1, 0⟩
    else
      let column := if c = byteOrderMark then cursor.column else cursor.column + 1
      ⟨rest, cursor.index + 1, cursor.line, column⟩

/-- Passes over `count` characters. -/
def advance (cursor : Cursor) : (count : Nat) → Cursor
  | 0 => cursor
  | count + 1 => cursor.step.advance count

/-- The characters ahead that satisfy a test, and the cursor behind them. -/
def takeWhile (cursor : Cursor) (test : Char → Bool) : List Char × Cursor :=
  let taken := cursor.rest.takeWhile test
  (taken, cursor.advance taken.length)

/-- The cursor behind the characters that satisfy a test. -/
def skipWhile (cursor : Cursor) (test : Char → Bool) : Cursor :=
  (cursor.takeWhile test).2

/-- Passes over spaces. -/
def skipSpaces (cursor : Cursor) : Cursor :=
  cursor.skipWhile (· = ' ')

/-- Takes a line break, if one is ahead.  All breaks count as a newline except the line and
paragraph separators, which stand for themselves. -/
def lineBreak (cursor : Cursor) : List Char × Cursor :=
  let c := cursor.peek
  if c = '\r' && cursor.peek 1 = '\n' then (['\n'], cursor.advance 2)
  else if c = '\n' || c = '\r' || c = nextLine then (['\n'], cursor.step)
  else if isBreak c then ([c], cursor.step)
  else ([], cursor)

/-- Whether the cursor stands before three characters that separate documents, wherever in the
line. -/
def atSeparator (cursor : Cursor) : Bool :=
  let three := cursor.rest.take 3
  (three == ['-', '-', '-'] || three == ['.', '.', '.']) && isLineEndOrSpace (cursor.peek 3)

/-- Whether three given characters stand at the beginning of a line as a document indicator. -/
def atIndicator (cursor : Cursor) (c : Char) : Bool :=
  cursor.column == 0 && cursor.rest.take 3 == [c, c, c] && isLineEndOrSpace (cursor.peek 3)

end Cursor

end WorkflowAudit.Yaml
