import WorkflowAudit.Decimal.Shortest
import WorkflowAudit.Failure
import WorkflowAudit.Text.Quoted

/-! # Writing JSON

A value is written as JSON on one line: a comma and a space between items, a colon and a space
behind names, entries in their order, and every character outside ASCII as an escape of its UTF-16
code units. Keys that are not texts are written as the text of the scalar they are.  The first part
of a value, in this order, that JSON has no form for or that is too long an integer is what writing
fails with.
-/

namespace WorkflowAudit.Json

/-- The escape of a UTF-16 code unit. -/
def unitEscape (unit : Nat) : List Char :=
  '\\' :: 'u' :: Text.hexDigits 4 unit

/-- A character between the quotes of a JSON text. -/
def writtenChar (c : Char) : List Char :=
  if c = '"' then ['\\', '"']
  else if c = '\\' then ['\\', '\\']
  else if c = '\n' then ['\\', 'n']
  else if c = '\r' then ['\\', 'r']
  else if c = '\t' then ['\\', 't']
  else if c = '\x0c' then ['\\', 'f']
  else if c = '\x08' then ['\\', 'b']
  else if 0x20 ≤ c.toNat ∧ c.toNat < 0x7F then [c]
  else if c.toNat < 0x10000 then unitEscape c.toNat
  else
    let n := c.toNat - 0x10000
    unitEscape (0xD800 + n / 0x400) ++ unitEscape (0xDC00 + n % 0x400)

/-- A JSON text. -/
def writtenText (text : List Char) : List Char :=
  '"' :: text.flatMap writtenChar ++ ['"']

/-- A double; the three that are no numbers have names. -/
def writtenFloat (x : Float) : List Char :=
  match Decimal.Binary.ofFloat x with
  | .notANumber => "NaN".toList
  | .infinite negative => if negative then "-Infinity".toList else "Infinity".toList
  | .finite _ _ _ => Decimal.floatText x

/-- The text of an integer, unless it is too long. -/
def writtenInteger (n : Int) : Except Failure (List Char) :=
  if Text.isLong n then throw .longInteger else pure (Text.integerText n)

/-- The name of the kind of a value, without the name of what the kind is a part of. -/
def kindName : Value → String
  | .date _ => "date"
  | .moment m => if m.zoned then "TimeStamp" else "datetime"
  | v => v.typeName

/-- The text that a key is written as, which only a scalar has. -/
def writeKey : Value → Except Failure (List Char)
  | .text s => pure s.toList
  | .null => pure "null".toList
  | .bool b => pure (if b then "true".toList else "false".toList)
  | .int n => writtenInteger n
  | .float x => pure (writtenFloat x)
  | v => throw (.notAMemberName v.typeName)

mutual

/-- The JSON text of a value. -/
def write : Value → Except Failure (List Char)
  | .null => pure "null".toList
  | .bool b => pure (if b then "true".toList else "false".toList)
  | .int n => writtenInteger n
  | .float x => pure (writtenFloat x)
  | .text s => pure (writtenText s.toList)
  | .list _ items => do
    let items ← writeItems items
    return '[' :: Value.commaSeparated items ++ [']']
  | .map .fixed entries => throw (.notSerializable (kindName (.map .fixed entries)))
  | .map _ entries => do
    let members ← writeMembers entries
    return '{' :: Value.commaSeparated members ++ ['}']
  | v => throw (.notSerializable (kindName v))

/-- The JSON texts of items. -/
def writeItems : List Value → Except Failure (List (List Char))
  | [] => pure []
  | v :: rest => do
    let v ← write v
    let rest ← writeItems rest
    return v :: rest

/-- The JSON texts of members. -/
def writeMembers : Entries → Except Failure (List (List Char))
  | [] => pure []
  | (k, v) :: rest => do
    let k ← writeKey k
    let v ← write v
    let rest ← writeMembers rest
    return (writtenText k ++ ':' :: ' ' :: v) :: rest

end

end WorkflowAudit.Json
