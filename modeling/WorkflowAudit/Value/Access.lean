import WorkflowAudit.Failure

/-! # Using values

What an analysis asks of a value whose kind it does not know: its text, a field, an item, its items
one by one.  Each question but the first fails, for a value of the wrong kind, with the cause that
names the kind.
-/

namespace WorkflowAudit.Value

/-- The form of a value inside another one, when it can be turned into text. -/
def represented (v : Value) : Except Failure (List Char) :=
  if v.isShowable then pure v.written else throw .longInteger

/-- The form of a value that stands on its own, when it can be turned into text. -/
def shown (v : Value) : Except Failure (List Char) :=
  if v.isShowable then pure v.displayed else throw .longInteger

/-- The position in a sequence of length `length` that an index means; negative indices count from
the end. -/
def position? (length : Nat) (index : Int) : Option Nat :=
  let k := if index < 0 then index + length else index
  if 0 ≤ k ∧ k < length then some k.toNat else none

/-- The kind of the first part of a value that cannot serve as a key. -/
def unhashablePart? : Value → Option String
  | .list .fixed items => firstUnhashable items
  | .map .fixed entries => firstUnhashableEntry entries
  | .list .plain _ => some "list"
  | .list .document _ => some "CommentedSeq"
  | .map .plain _ => some "dict"
  | .map .document _ => some "CommentedMap"
  | .map .ordered _ => some "CommentedOrderedMap"
  | .set _ => some "CommentedSet"
  | _ => none
where
  firstUnhashable : List Value → Option String
    | [] => none
    | v :: rest => v.unhashablePart?.or (firstUnhashable rest)
  firstUnhashableEntry : Entries → Option String
    | [] => none
    | (k, v) :: rest => (k.unhashablePart?.or v.unhashablePart?).or (firstUnhashableEntry rest)

/-- Refuses a value that cannot serve as a key. -/
def checkKey (v : Value) : Except Failure Unit :=
  match v.unhashablePart? with
  | some owner => throw (.unhashable owner)
  | none => pure ()

/-- The entries of a value that offers what `name` asks for, which only mappings do. -/
def entriesFor (name : String) : Value → Except Failure Entries
  | .map _ entries => pure entries
  | v => throw (.noAttribute v.typeName name)

/-- The field `name`, when the value has one; only mappings have fields. -/
def field? (v : Value) (name : String) : Except Failure (Option Value) := do
  return Entries.field? name (← v.entriesFor "get")

/-- The field `name`, or null when the mapping lacks it. -/
def field (v : Value) (name : String) : Except Failure Value := do
  return ((← v.field? name).getD .null)

/-- The item of a value under an index: the value under a key of a mapping, the item of a list or
the character of a text at a position. -/
def item (v index : Value) : Except Failure Value :=
  match v with
  | .map _ entries => do
    index.checkKey
    match Entries.lookup? index entries with
    | some found => return found
    | none => throw (.noKey index)
  | .list kind items =>
    match index with
    | .int n => itemAt kind items n
    | .bool b => itemAt kind items (if b then 1 else 0)
    | index => throw (.badListIndex index.typeName)
  | .text s =>
    match index with
    | .int n => charAt s n
    | .bool b => charAt s (if b then 1 else 0)
    | index => throw (.badTextIndex index.typeName)
  | v => throw (.notSubscriptable v.typeName)
where
  itemAt (kind : ListKind) (items : List Value) (n : Int) : Except Failure Value :=
    match (position? items.length n).bind fun k => items[k]? with
    | some found => pure found
    | none => throw (.outOfRange (if kind == .fixed then "tuple" else "list"))
  charAt (s : String) (n : Int) : Except Failure Value :=
    match (position? s.length n).bind fun k => s.toList[k]? with
    | some c => pure (.ofChars [c])
    | none => throw (.outOfRange "string")

/-- The item under a text. -/
def itemNamed (v : Value) (name : String) : Except Failure Value :=
  v.item (.text name)

/-- The items of a value one by one: the keys of a mapping, the items of a list, the characters of a
text. -/
def items? : Value → Option (List Value)
  | .map _ entries => some (Entries.keys entries)
  | .list _ items => some items
  | .text s => some (s.toList.map fun c => .ofChars [c])
  | .set members => some members
  | .bytes bs => some (bs.map fun b => .int b.toNat)
  | _ => none

/-- The items of a value that is to be gone through. -/
def items (v : Value) : Except Failure (List Value) :=
  match v.items? with
  | some items => pure items
  | none => throw (.notIterable v.typeName)

/-- The items of a value, each with what it leads to as an index.  A key of a mapping leads to what
stands beside it. -/
def indexed (v : Value) : Except Failure (List (Value × Except Failure Value)) :=
  match v with
  | .map _ entries => pure (entries.map fun entry => (entry.1, pure entry.2))
  | v => do return (← v.items).map fun index => (index, v.item index)

/-- The two items of a value that is to be a pair. -/
def pair (v : Value) : Except Failure (Value × Value) :=
  match v.items? with
  | some [a, b] => pure (a, b)
  | some [] => throw (.tooFewToUnpack 2 0)
  | some [_] => throw (.tooFewToUnpack 2 1)
  | some _ => throw (.tooManyToUnpack 2)
  | none => throw (.notUnpackable v.typeName)

/-- The characters of a value that is to be cut into pieces: a text, or the text under an unknown
tag. -/
def splitChars : Value → Except Failure (List Char)
  | .text s | .tagged _ s => pure s.toList
  | v => throw (.noAttribute v.typeName "split")

/-- The characters of a value that is to be encoded, which only a text without a tag can be. -/
def encodedChars : Value → Except Failure (List Char)
  | .text s => pure s.toList
  | v => throw (.notEncodable v.typeName)

/-- The texts of a value joined together: a text is the join of its characters. -/
def joined (v : Value) : Except Failure (List Char) :=
  match v.items? with
  | none => throw .joinOfOther
  | some items => joinFrom 0 items
where
  joinFrom (position : Nat) : List Value → Except Failure (List Char)
    | [] => pure []
    | .text s :: rest => do return s.toList ++ (← joinFrom (position + 1) rest)
    | v :: _ => throw (.joinItem position v.typeName)

end WorkflowAudit.Value
