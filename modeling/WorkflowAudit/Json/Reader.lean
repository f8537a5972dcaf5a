import WorkflowAudit.Decimal.Reading
import WorkflowAudit.Failure
import WorkflowAudit.Text.Lines

/-! # Reading JSON

A JSON text is read into a value.  Objects become mappings in which a repeated name keeps its first
place and its last value; numbers with a fraction or an exponent become doubles and all others
integers; the words `NaN`, `Infinity` and `-Infinity` are accepted.  A text that is not JSON is
refused with the problem and its place, and an integer with too many digits with their number.

A text is a row of Unicode scalar values.  Half a pair of surrogates, which an escape can spell, is
none of them; U+FFFD stands in for it.
-/

namespace WorkflowAudit.Json

/-- What is left of a text, and the position it starts at. -/
structure Cursor where
  position : Nat
  rest : List Char

/-- Why a text is refused. -/
inductive Refusal where
  /-- The text is not JSON, for a problem at a position. -/
  | malformed (problem : JsonProblem) (position : Nat)
  /-- An integer has too many digits. -/
  | longNumeral (digits : Nat)

namespace Cursor

/-- Whether a character may stand between the parts of a JSON text. -/
def isSpace (c : Char) : Bool :=
  c = ' ' || c = '\t' || c = '\n' || c = '\r'

/-- Passes over `count` characters. -/
def advance (cursor : Cursor) (count : Nat) : Cursor :=
  ⟨cursor.position + count, cursor.rest.drop count⟩

/-- Passes over white space. -/
def skipSpace (cursor : Cursor) : Cursor :=
  cursor.advance (cursor.rest.takeWhile isSpace).length

/-- Passes over a word, when it comes next. -/
def word? (cursor : Cursor) (word : String) : Option Cursor :=
  (Text.after? word.toList cursor.rest).map fun rest => ⟨cursor.position + word.length, rest⟩

end Cursor

/-- The value of a hexadecimal digit. -/
def hexValue? (c : Char) : Option Nat :=
  if '0' ≤ c ∧ c ≤ '9' then some (c.toNat - 48)
  else if 'a' ≤ c ∧ c ≤ 'f' then some (c.toNat - 87)
  else if 'A' ≤ c ∧ c ≤ 'F' then some (c.toNat - 55)
  else none

/-- The number that four hexadecimal digits at the front of a text spell. -/
def fourHex? : List Char → Option Nat
  | a :: b :: c :: d :: _ => do
    let a ← hexValue? a
    let b ← hexValue? b
    let c ← hexValue? c
    let d ← hexValue? d
    return ((a * 16 + b) * 16 + c) * 16 + d
  | _ => none

/-- The character of an escape letter. -/
def escaped? : Char → Option Char
  | '"' => some '"'
  | '\\' => some '\\'
  | '/' => some '/'
  | 'b' => some '\x08'
  | 'f' => some '\x0c'
  | 'n' => some '\n'
  | 'r' => some '\r'
  | 't' => some '\t'
  | _ => none

/-- Whether a number is the first half of a pair of surrogates. -/
def isHighSurrogate (n : Nat) : Bool :=
  0xD800 ≤ n && n < 0xDC00

/-- Whether a number is the second half of a pair of surrogates. -/
def isLowSurrogate (n : Nat) : Bool :=
  0xDC00 ≤ n && n < 0xE000

/-- Reads a code escape behind its letter; the cursor stands on the first digit.  The text must go
on behind the four digits.  A pair of surrogates is one character. -/
def readCodeEscape (cursor : Cursor) : Except Refusal (Char × Cursor) :=
  let refusal : Refusal := .malformed .badCodeEscape (cursor.position - 1)
  if cursor.rest.length ≤ 4 then throw refusal
  else
    match fourHex? cursor.rest with
    | none => throw refusal
    | some high =>
      let behind := cursor.advance 4
      match behind.rest with
      | '\\' :: 'u' :: digits =>
        if isHighSurrogate high && digits.length > 4 then
          match fourHex? digits with
          | none => throw (.malformed .badCodeEscape (behind.position + 1))
          | some low =>
            if isLowSurrogate low then
              let code := 0x10000 + (high - 0xD800) * 0x400 + (low - 0xDC00)
              pure (Char.ofNat code, behind.advance 6)
            else
              pure (Char.ofNat 0xFFFD, behind)
        else
          pure (charOf high, behind)
      | _ => pure (charOf high, behind)
where
  /-- The character of a code; half a pair of surrogates has none of its own. -/
  charOf (code : Nat) : Char :=
    if isHighSurrogate code || isLowSurrogate code then Char.ofNat 0xFFFD else Char.ofNat code

/-- Reads the characters of a text up to its closing quote; `start` is the position of the opening
one. -/
def readText (start : Nat) : (fuel : Nat) → Cursor → Except Refusal (List Char × Cursor)
  | 0, _ => throw (.malformed .unterminatedText start)
  | fuel + 1, cursor =>
    match cursor.rest with
    | [] => throw (.malformed .unterminatedText start)
    | '"' :: rest => pure ([], ⟨cursor.position + 1, rest⟩)
    | '\\' :: rest =>
      match rest with
      | [] => throw (.malformed .unterminatedText start)
      | 'u' :: digits => do
        let (c, behind) ← readCodeEscape ⟨cursor.position + 2, digits⟩
        let (text, behind) ← readText start fuel behind
        return (c :: text, behind)
      | letter :: rest =>
        match escaped? letter with
        | none => throw (.malformed .badEscape cursor.position)
        | some c => do
          let (text, behind) ← readText start fuel ⟨cursor.position + 2, rest⟩
          return (c :: text, behind)
    | c :: rest =>
      if c.toNat < 0x20 then throw (.malformed .controlCharacter cursor.position)
      else do
        let (text, behind) ← readText start fuel ⟨cursor.position + 1, rest⟩
        return (c :: text, behind)

/-- Splits a fraction off a text: a point and at least one digit. -/
def takeFraction (text : List Char) : List Char × List Char :=
  match text with
  | '.' :: rest =>
    let digits := rest.takeWhile Text.isAsciiDigit
    if digits.isEmpty then ([], text) else (digits, rest.drop digits.length)
  | _ => ([], text)

/-- Splits an exponent off a text: its letter, a sign if any and at least one digit. -/
def takeExponent (text : List Char) : Option Int × List Char :=
  match text with
  | letter :: rest =>
    if letter = 'e' ∨ letter = 'E' then
      let (negative, unsigned) := Decimal.takeSign rest
      let digits := unsigned.takeWhile Text.isAsciiDigit
      if digits.isEmpty then (none, text)
      else
        let n : Int := Text.digitsValue digits
        (some (if negative then -n else n), unsigned.drop digits.length)
    else (none, text)
  | [] => (none, text)

/-- Reads a number. -/
def readNumber (cursor : Cursor) : Except Refusal (Value × Cursor) :=
  let (negative, unsigned) :=
    match cursor.rest with
    | '-' :: rest => (true, rest)
    | rest => (false, rest)
  let whole :=
    match unsigned with
    | '0' :: _ => ['0']
    | _ => unsigned.takeWhile Text.isAsciiDigit
  if whole.isEmpty then throw (.malformed .expectedValue cursor.position)
  else
    let behindWhole := unsigned.drop whole.length
    let (fraction, behindFraction) := takeFraction behindWhole
    let (exponent, rest) := takeExponent behindFraction
    let behind : Cursor := ⟨cursor.position + (cursor.rest.length - rest.length), rest⟩
    if fraction.isEmpty && exponent.isNone then
      if whole.length > Text.digitLimit then throw (.longNumeral whole.length)
      else
        let n : Int := Text.digitsValue whole
        pure (.int (if negative then -n else n), behind)
    else
      let mantissa := Text.digitsValue (whole ++ fraction)
      let scale : Int := exponent.getD 0 - fraction.length
      pure (.float (Decimal.ofDecimal negative mantissa scale), behind)

/-- Reads a word that stands for a value. -/
def readWord? (cursor : Cursor) : Option (Value × Cursor) :=
  let words : List (String × Value) :=
    [("null", .null), ("true", .bool true), ("false", .bool false), ("NaN", .float (0 / 0)),
     ("Infinity", .float (1 / 0)), ("-Infinity", .float (-1 / 0))]
  words.findSome? fun (word, value) => (cursor.word? word).map fun behind => (value, behind)

mutual

/-- Reads a value. -/
def readValue : (fuel : Nat) → Cursor → Except Refusal (Value × Cursor)
  | 0, cursor => throw (.malformed .expectedValue cursor.position)
  | fuel + 1, cursor =>
    match cursor.rest with
    | '"' :: rest => do
      let (text, behind) ← readText cursor.position (rest.length + 1) ⟨cursor.position + 1, rest⟩
      return (.ofChars text, behind)
    | '{' :: rest => do
      let inside := (Cursor.mk (cursor.position + 1) rest).skipSpace
      match inside.rest with
      | '}' :: rest => return (.map .plain [], ⟨inside.position + 1, rest⟩)
      | _ => do
        let (entries, behind) ← readMembers fuel inside []
        return (.map .plain entries, behind)
    | '[' :: rest => do
      let inside := (Cursor.mk (cursor.position + 1) rest).skipSpace
      match inside.rest with
      | ']' :: rest => return (.list .plain [], ⟨inside.position + 1, rest⟩)
      | _ => do
        let (items, behind) ← readItems fuel inside
        return (.list .plain items, behind)
    | _ =>
      match readWord? cursor with
      | some found => pure found
      | none => readNumber cursor

/-- Reads the items of an array up to its closing bracket. -/
def readItems : (fuel : Nat) → Cursor → Except Refusal (List Value × Cursor)
  | 0, cursor => throw (.malformed .expectedValue cursor.position)
  | fuel + 1, cursor => do
    let (item, behind) ← readValue fuel cursor
    let behind := behind.skipSpace
    match behind.rest with
    | ']' :: rest => return ([item], ⟨behind.position + 1, rest⟩)
    | ',' :: rest => do
      let (items, behind) ← readItems fuel (Cursor.mk (behind.position + 1) rest).skipSpace
      return (item :: items, behind)
    | _ => throw (.malformed .expectedComma behind.position)

/-- Reads the members of an object up to its closing brace, adding them to `entries`. -/
def readMembers : (fuel : Nat) → Cursor → Entries → Except Refusal (Entries × Cursor)
  | 0, cursor, _ => throw (.malformed .expectedValue cursor.position)
  | fuel + 1, cursor, entries =>
    match cursor.rest with
    | '"' :: rest => do
      let (name, behind) ← readText cursor.position (rest.length + 1) ⟨cursor.position + 1, rest⟩
      let behind := behind.skipSpace
      match behind.rest with
      | ':' :: rest => do
        let (value, behind) ← readValue fuel (Cursor.mk (behind.position + 1) rest).skipSpace
        let behind := behind.skipSpace
        let entries := Entries.insert (.ofChars name) value entries
        match behind.rest with
        | '}' :: rest => return (entries, ⟨behind.position + 1, rest⟩)
        | ',' :: rest => readMembers fuel (Cursor.mk (behind.position + 1) rest).skipSpace entries
        | _ => throw (.malformed .expectedComma behind.position)
      | _ => throw (.malformed .expectedColon behind.position)
    | _ => throw (.malformed .expectedName cursor.position)

end

/-- The failure of a refusal in a text. -/
def Refusal.failure (text : List Char) : Refusal → Failure
  | .malformed problem position =>
    let (line, column) := Text.lineAndColumn text position
    .json problem line column position
  | .longNumeral digits => .longNumeral digits

/-- Reads a whole text: one value with white space around it. -/
def readWhole (text : List Char) : Except Refusal Value :=
  if text.head? = some (Char.ofNat 0xFEFF) then throw (.malformed .byteOrderMark 0)
  else do
    let (value, behind) ← readValue (2 * text.length + 2) (Cursor.mk 0 text).skipSpace
    let behind := behind.skipSpace
    if behind.rest.isEmpty then return value else throw (.malformed .extraData behind.position)

/-- The value of a JSON text. -/
def read (text : List Char) : Except Failure Value :=
  (readWhole text).mapError (Refusal.failure text)

end WorkflowAudit.Json
