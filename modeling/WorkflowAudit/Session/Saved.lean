import WorkflowAudit.Text.Utf8
import WorkflowAudit.Value.Access

/-! # Saved values

A value is saved as a whole in a file of bytes, which are instructions for a machine with a stack.
The instructions push scalars and empty lists and mappings, put what stands above a mark into the
list or mapping below it, and remember what stands on top so that it can be pushed again.

Read are the instructions that null, truth values, numbers, texts, and lists and mappings of data
are saved with.  A list or mapping that is pushed again would be shared, and such bytes are refused,
like any others.
-/

namespace WorkflowAudit.Saved

/-- An instruction. -/
inductive Instruction where
  | push (v : Value)
  | mark
  | remember
  /-- Pushes what was remembered under a number. -/
  | pushAgain (number : Nat)
  /-- Puts the value on top into the list below it. -/
  | append
  /-- Puts the values above the mark into the list below it. -/
  | appendAll
  /-- Puts the value on top, under the key below it, into the mapping below that. -/
  | enter
  /-- Puts the keys and values above the mark into the mapping below it. -/
  | enterAll
  | skip
  | stop

/-! ## Reading instructions -/

/-- The first `count` bytes and the others. -/
def operand? (count : Nat) (bytes : List UInt8) : Option (List UInt8 × List UInt8) :=
  if bytes.length < count then none else some (bytes.take count, bytes.drop count)

/-- The number that bytes spell, the least significant first. -/
def natural (bytes : List UInt8) : Nat :=
  bytes.foldr (fun byte n => byte.toNat + 256 * n) 0

/-- The integer that bytes spell, the least significant first, in two's complement. -/
def integer (bytes : List UInt8) : Int :=
  let size := Nat.pow 256 bytes.length
  if 2 * natural bytes < size then natural bytes else natural bytes - size

/-- As many bytes as a number of `width` bytes in front of them says. -/
def counted? (width : Nat) (bytes : List UInt8) : Option (List UInt8 × List UInt8) := do
  let (count, rest) ← operand? width bytes
  operand? (natural count) rest

/-- An instruction with an operand. -/
def withOperand {α : Type} (operand : Option (α × List UInt8))
    (instruction : α → Option Instruction) : Option (Instruction × List UInt8) := do
  let (given, rest) ← operand
  return (← instruction given, rest)

/-- The instruction that pushes a text. -/
def pushText (encoded : List UInt8) : Option Instruction :=
  (Text.decodeUtf8? encoded).map fun text => .push (.ofChars text)

/-- The instruction that pushes a double, whose most significant byte comes first. -/
def pushFloat (bytes : List UInt8) : Option Instruction :=
  some (.push (.float (Float.ofBits (UInt64.ofNat (natural bytes.reverse)))))

/-- The instruction at the front of some bytes. -/
def instruction? : List UInt8 → Option (Instruction × List UInt8)
  | [] => none
  | code :: rest =>
    match code.toNat with
    | 0x80 => withOperand (operand? 1 rest) fun _ => some .skip
    | 0x95 => withOperand (operand? 8 rest) fun _ => some .skip
    | 0x4E => some (.push .null, rest)
    | 0x88 => some (.push (.bool true), rest)
    | 0x89 => some (.push (.bool false), rest)
    | 0x4B => withOperand (operand? 1 rest) fun bytes => some (.push (.int (natural bytes)))
    | 0x4D => withOperand (operand? 2 rest) fun bytes => some (.push (.int (natural bytes)))
    | 0x4A => withOperand (operand? 4 rest) fun bytes => some (.push (.int (integer bytes)))
    | 0x8A => withOperand (counted? 1 rest) fun bytes => some (.push (.int (integer bytes)))
    | 0x8B => withOperand (counted? 4 rest) fun bytes => some (.push (.int (integer bytes)))
    | 0x47 => withOperand (operand? 8 rest) pushFloat
    | 0x8C => withOperand (counted? 1 rest) pushText
    | 0x58 => withOperand (counted? 4 rest) pushText
    | 0x5D => some (.push (.list .plain []), rest)
    | 0x7D => some (.push (.map .plain []), rest)
    | 0x28 => some (.mark, rest)
    | 0x94 => some (.remember, rest)
    | 0x68 => withOperand (operand? 1 rest) fun bytes => some (.pushAgain (natural bytes))
    | 0x6A => withOperand (operand? 4 rest) fun bytes => some (.pushAgain (natural bytes))
    | 0x61 => some (.append, rest)
    | 0x65 => some (.appendAll, rest)
    | 0x73 => some (.enter, rest)
    | 0x75 => some (.enterAll, rest)
    | 0x2E => some (.stop, rest)
    | _ => none

/-! ## The machine -/

/-- What stands on the stack: a value, or a mark. -/
abbrev Slot := Option Value

/-- The state of the machine. -/
structure Machine where
  /-- The stack, from the top down. -/
  stack : List Slot := []
  /-- What was remembered, from the first on. -/
  remembered : List Value := []

/-- Whether a value can be changed after it was pushed. -/
def isContainer : Value → Bool
  | .list _ _ | .map _ _ => true
  | _ => false

/-- The values above the uppermost mark, from the bottom up, and what stands below it. -/
def aboveMark? : List Slot → Option (List Value × List Slot)
  | [] => none
  | none :: below => some ([], below)
  | some v :: below => (aboveMark? below).map fun (values, below) => (values ++ [v], below)

/-- The entries after keys and values, in turn, were put in. -/
def enterPairs? (entries : Entries) : List Value → Option Entries
  | [] => some entries
  | [_] => none
  | key :: v :: rest =>
    if key.unhashablePart?.isSome then none else enterPairs? (Entries.insert key v entries) rest

/-- The stack after values were put into the list or mapping on top. -/
def fill? (isList : Bool) (values : List Value) : List Slot → Option (List Slot)
  | some (.list .plain items) :: below =>
    if isList then some (some (.list .plain (items ++ values)) :: below) else none
  | some (.map .plain entries) :: below =>
    if isList then none
    else (enterPairs? entries values).map fun entries => some (.map .plain entries) :: below
  | _ => none

/-- The machine after an instruction. -/
def Machine.step? (machine : Machine) : Instruction → Option Machine
  | .push v => some { machine with stack := some v :: machine.stack }
  | .mark => some { machine with stack := none :: machine.stack }
  | .remember =>
    match machine.stack with
    | some v :: _ => some { machine with remembered := machine.remembered ++ [v] }
    | _ => none
  | .pushAgain number => do
    let v ← machine.remembered[number]?
    if isContainer v then none else some { machine with stack := some v :: machine.stack }
  | .append =>
    match machine.stack with
    | some v :: below => (fill? true [v] below).map ({ machine with stack := · })
    | _ => none
  | .appendAll => do
    let (values, below) ← aboveMark? machine.stack
    (fill? true values below).map ({ machine with stack := · })
  | .enter =>
    match machine.stack with
    | some v :: some key :: below => (fill? false [key, v] below).map ({ machine with stack := · })
    | _ => none
  | .enterAll => do
    let (values, below) ← aboveMark? machine.stack
    (fill? false values below).map ({ machine with stack := · })
  | .skip | .stop => some machine

/-- The value that the instructions from some bytes on leave on top of the stack. -/
def Machine.run? : (fuel : Nat) → Machine → List UInt8 → Option Value
  | 0, _, _ => none
  | fuel + 1, machine, bytes => do
    match ← instruction? bytes with
    | (.stop, _) => machine.stack.head?.join
    | (instruction, rest) => run? fuel (← machine.step? instruction) rest

/-- The value that is saved in some bytes.  Each instruction takes up a byte at least. -/
def read? (bytes : List UInt8) : Option Value :=
  Machine.run? bytes.length {} bytes

end WorkflowAudit.Saved
