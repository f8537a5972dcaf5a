import WorkflowAudit.Text.Printable

/-! # Quoted text

Text shown inside a larger text is put between quotes.  The single quote is preferred; a text that
holds single quotes and no double quote is put between double quotes.  Inside, the quote in use and
the backslash are escaped, and so is every character that is not printable.
-/

namespace WorkflowAudit.Text

/-- The lower-case hexadecimal digits of a number, at least `width` of them. -/
def hexDigits (width n : Nat) : List Char :=
  let digits := Nat.toDigits 16 n
  List.replicate (width - digits.length) '0' ++ digits

/-- The quote that a text is put between. -/
def quoteFor (text : List Char) : Char :=
  if text.contains '\'' && !text.contains '"' then '"' else '\''

/-- The escape of a character by its code point, as short as its size allows. -/
def codeEscape (c : Char) : List Char :=
  if c.toNat < 0x100 then '\\' :: 'x' :: hexDigits 2 c.toNat
  else if c.toNat < 0x10000 then '\\' :: 'u' :: hexDigits 4 c.toNat
  else '\\' :: 'U' :: hexDigits 8 c.toNat

/-- A character as it appears between `quote`s. -/
def quotedChar (quote c : Char) : List Char :=
  if c = quote ∨ c = '\\' then ['\\', c]
  else if c = '\n' then ['\\', 'n']
  else if c = '\r' then ['\\', 'r']
  else if c = '\t' then ['\\', 't']
  else if isPrintable c then [c]
  else codeEscape c

/-- A text between quotes. -/
def quoted (text : List Char) : List Char :=
  let quote := quoteFor text
  quote :: text.flatMap (quotedChar quote) ++ [quote]

/-- A byte as it appears between `quote`s; only ASCII characters are shown as themselves. -/
def quotedByte (quote : Char) (byte : UInt8) : List Char :=
  if byte < 128 then
    quotedChar quote (Char.ofNat byte.toNat)
  else
    '\\' :: 'x' :: hexDigits 2 byte.toNat

/-- A sequence of bytes between quotes, with a `b` in front. -/
def quotedBytes (bytes : List UInt8) : List Char :=
  let quote := quoteFor (bytes.map fun byte => Char.ofNat byte.toNat)
  'b' :: quote :: bytes.flatMap (quotedByte quote) ++ [quote]

end WorkflowAudit.Text
