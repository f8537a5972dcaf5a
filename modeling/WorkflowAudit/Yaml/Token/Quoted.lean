import WorkflowAudit.Json.Reader
import WorkflowAudit.Yaml.Cursor

/-! # Quoted scalars

A scalar between single quotes, in which a quote is written twice, or between double quotes, in
which a backslash starts an escape.  A line break inside folds to a space, or to the breaks that
follow it; the white space around it is dropped.
-/

namespace WorkflowAudit.Yaml

/-- The two ways of quoting. -/
inductive QuoteStyle where
  | single
  | double
deriving BEq, DecidableEq

namespace QuoteStyle

/-- The quote itself. -/
def mark : QuoteStyle → Char
  | .single => '\''
  | .double => '"'

end QuoteStyle

/-- The character of an escape letter. -/
def escapedChar? (c : Char) : Option Char :=
  match c with
  | '0' => some (Char.ofNat 0)
  | 'a' => some (Char.ofNat 7)
  | 'b' => some (Char.ofNat 8)
  | 't' | '\t' => some '\t'
  | 'n' => some '\n'
  | 'v' => some (Char.ofNat 11)
  | 'f' => some (Char.ofNat 12)
  | 'r' => some '\r'
  | 'e' => some (Char.ofNat 27)
  | ' ' => some ' '
  | '"' => some '"'
  | '/' => some '/'
  | '\\' => some '\\'
  | 'N' => some nextLine
  | '_' => some (Char.ofNat 0xA0)
  | 'L' => some (Char.ofNat 0x2028)
  | 'P' => some (Char.ofNat 0x2029)
  | _ => none

/-- The number of hexadecimal digits behind an escape letter. -/
def escapeWidth? : Char → Option Nat
  | 'x' => some 2
  | 'u' => some 4
  | 'U' => some 8
  | _ => none

/-- The character with a given code; a code that is too large is a failure of its own.  Half a pair
of surrogates is no character, and U+FFFD stands in for it. -/
def codeChar (code : Nat) : Except Fault Char :=
  if code < 0x110000 then
    pure (if 0xD800 ≤ code ∧ code < 0xE000 then Char.ofNat 0xFFFD else Char.ofNat code)
  else if code < 0x80000000 then throw (.failure .badCodePoint)
  else throw (.failure .overflow)

/-- Reads the hexadecimal code of an escape. -/
def readCode (cursor : Cursor) (width : Nat) : Except Fault (Char × Cursor) := do
  let digits := cursor.rest.take width
  if digits.length < width then throw .lexical
  else
    match digits.mapM Json.hexValue? with
    | none => throw .lexical
    | some values =>
      let c ← codeChar (values.foldl (fun n d => 16 * n + d) 0)
      return (c, cursor.advance width)

/-- The line breaks ahead, with the white space around them dropped; a document separator is
refused. -/
def quotedBreaks : (fuel : Nat) → Cursor → Except Fault (List Char × Cursor)
  | 0, cursor => pure ([], cursor)
  | fuel + 1, cursor =>
    if cursor.atSeparator then throw .lexical
    else
      let cursor := cursor.skipWhile fun c => c = ' ' || c = '\t'
      if isBreak cursor.peek then do
        let (taken, behind) := cursor.lineBreak
        let (more, behind) ← quotedBreaks fuel behind
        return (taken ++ more, behind)
      else pure ([], cursor)

/-- White space inside quotes: kept within a line, folded where it holds a line break. -/
def quotedSpaces (cursor : Cursor) : Except Fault (List Char × Cursor) := do
  let (spaces, behind) := cursor.takeWhile fun c => c = ' ' || c = '\t'
  let c := behind.peek
  if c = endMark then throw .lexical
  else if isBreak c then
    let (taken, behind) := behind.lineBreak
    let (breaks, behind) ← quotedBreaks (behind.rest.length + 1) behind
    let first := if taken ≠ ['\n'] then taken else if breaks.isEmpty then [' '] else []
    return (first ++ breaks, behind)
  else return (spaces, behind)

/-- Whether a character may be taken over as it is inside quotes. -/
def isQuotedPlain (c : Char) : Bool :=
  !(c = ' ' || c = '\t' || c = '\'' || c = '"' || c = '\\' || c = endMark || isBreak c)

/-- The characters inside quotes up to white space or the closing quote. -/
def quotedWord (style : QuoteStyle) : (fuel : Nat) → Cursor → Except Fault (List Char × Cursor)
  | 0, cursor => pure ([], cursor)
  | fuel + 1, cursor => do
    let (run, cursor) := cursor.takeWhile isQuotedPlain
    let c := cursor.peek
    if style == .single && c = '\'' && cursor.peek 1 = '\'' then
      let (more, behind) ← quotedWord style fuel (cursor.advance 2)
      return (run ++ '\'' :: more, behind)
    else if (style == .double && c = '\'') || (style == .single && (c = '"' || c = '\\')) then
      let (more, behind) ← quotedWord style fuel cursor.step
      return (run ++ c :: more, behind)
    else if style == .double && c = '\\' then
      let escape := cursor.step
      let letter := escape.peek
      match escapedChar? letter, escapeWidth? letter with
      | some found, _ =>
        let (more, behind) ← quotedWord style fuel escape.step
        return (run ++ found :: more, behind)
      | none, some width =>
        let (found, behind) ← readCode escape.step width
        let (more, behind) ← quotedWord style fuel behind
        return (run ++ found :: more, behind)
      | none, none =>
        if isBreak letter then
          let (_, behind) := escape.lineBreak
          let (breaks, behind) ← quotedBreaks (behind.rest.length + 1) behind
          let (more, behind) ← quotedWord style fuel behind
          return (run ++ breaks ++ more, behind)
        else throw .lexical
    else return (run, cursor)

/-- The rest of a quoted scalar, up to and with its closing quote. -/
def quotedRest (style : QuoteStyle) : (fuel : Nat) → Cursor → Except Fault (List Char × Cursor)
  | 0, _ => throw .lexical
  | fuel + 1, cursor => do
    if cursor.peek = style.mark then return ([], cursor.step)
    else
      let (spaces, behind) ← quotedSpaces cursor
      let (word, behind) ← quotedWord style (behind.rest.length + 1) behind
      let (more, behind) ← quotedRest style fuel behind
      return (spaces ++ word ++ more, behind)

/-- Reads a quoted scalar; the cursor stands on the opening quote. -/
def readQuoted (style : QuoteStyle) (cursor : Cursor) : Except Fault (List Char × Cursor) := do
  let inside := cursor.step
  let (word, behind) ← quotedWord style (inside.rest.length + 1) inside
  let (more, behind) ← quotedRest style (behind.rest.length + 1) behind
  return (word ++ more, behind)

end WorkflowAudit.Yaml
