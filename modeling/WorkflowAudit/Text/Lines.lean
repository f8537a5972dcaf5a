import WorkflowAudit.Text.Search

/-! # Lines

A text file is read with every line ending turned into a newline: a carriage return, alone or
followed by a newline, ends a line just as a newline does.  No other character ends a line.
-/

namespace WorkflowAudit.Text

/-- Turns each carriage return, with the newline behind it if there is one, into a newline. -/
def unifyLineEndings : List Char → List Char
  | [] => []
  | '\r' :: '\n' :: text => '\n' :: unifyLineEndings text
  | '\r' :: text => '\n' :: unifyLineEndings text
  | c :: text => c :: unifyLineEndings text

/-- The lines of a text, each with the newline that ends it; a last line without a newline counts
when it is not empty. -/
def linesKeepingEnds : List Char → List (List Char)
  | [] => []
  | c :: text =>
    if c = '\n' then
      [c] :: linesKeepingEnds text
    else
      match linesKeepingEnds text with
      | [] => [[c]]
      | line :: rest => (c :: line) :: rest

/-- Line and column, both counted from one, of a position in a text. -/
def lineAndColumn (text : List Char) (position : Nat) : Nat × Nat :=
  let before := text.take position
  let column := (before.reverse.takeWhile (· ≠ '\n')).length + 1
  (before.count '\n' + 1, column)

end WorkflowAudit.Text
