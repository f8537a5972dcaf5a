import WorkflowAudit.Calendar
import WorkflowAudit.Decimal.Binary

/-! # Values

Workflow documents, service answers, stored documents and reports are all values: scalars, lists,
mappings and sets. A mapping is a list of entries in the order in which its keys were first put in.

Two values are equal when they mean the same (`Value.equal`): numbers and truth values are compared
as numbers, so that `1`, `1.0` and `true` are one key, mappings and sets are compared without regard
to order.
-/

namespace WorkflowAudit

/-- How a list came about: as data, as a list of a loaded document, or as a list that serves as a
key. -/
inductive ListKind where
  | plain
  | document
  | fixed
deriving BEq, DecidableEq

/-- How a mapping came about: as data, as a mapping or an ordered mapping of a loaded document, or
as a mapping that serves as a key. -/
inductive MapKind where
  | plain
  | document
  | ordered
  | fixed
deriving BEq, DecidableEq

/-- A dynamic value. -/
inductive Value where
  | null
  | bool (b : Bool)
  | int (n : Int)
  | float (x : Float)
  | text (s : String)
  | bytes (bs : List UInt8)
  | date (d : Date)
  | moment (m : Moment)
  | list (kind : ListKind) (items : List Value)
  | map (kind : MapKind) (entries : List (Value × Value))
  | set (members : List Value)
  /-- A scalar of a loaded document under a tag that means nothing here. -/
  | tagged (tag content : String)

instance : Inhabited Value := ⟨.null⟩

/-- The entries of a mapping, in order of insertion. -/
abbrev Entries := List (Value × Value)

namespace Value

/-- A number that truth values, integers and doubles share. -/
inductive Number where
  | int (n : Int)
  | float (x : Float)

/-- The number a value counts as in comparisons. -/
def number? : Value → Option Number
  | .bool b => some (.int (if b then 1 else 0))
  | .int n => some (.int n)
  | .float x => some (.float x)
  | _ => none

/-- Whether two numbers are equal as numbers; what is not a number equals itself only. -/
def Number.equal : Number → Number → Bool
  | .int n, .int m => n == m
  | .int n, .float x => (Decimal.Binary.ofFloat x).isInt n
  | .float x, .int n => (Decimal.Binary.ofFloat x).isInt n
  | .float x, .float y => (Decimal.Binary.ofFloat x).equal (Decimal.Binary.ofFloat y)

/-- Equality of two values that are neither lists, mappings nor sets. -/
def scalarEqual (v w : Value) : Bool :=
  match v, w with
  | .null, .null => true
  | .text s, .text t => s == t
  | .bytes s, .bytes t => s == t
  | .date d, .date e => d == e
  | .moment m, .moment n => { m with zoned := false } == { n with zoned := false }
  | .tagged tag content, .tagged tag' content' => tag == tag' && content == content'
  | v, w =>
    match v.number?, w.number? with
    | some n, some m => n.equal m
    | _, _ => false

mutual

/-- Whether two values mean the same.  A list that serves as a key differs from any other list. -/
def equal : Value → Value → Bool
  | .list kind items, w =>
    match w with
    | .list kind' items' => (kind == .fixed) == (kind' == .fixed) && equalItems items items'
    | _ => false
  | .map _ entries, w =>
    match w with
    | .map _ entries' => entries.length == entries'.length && entriesWithin entries entries'
    | _ => false
  | .set members, w =>
    match w with
    | .set members' => members.length == members'.length && membersWithin members members'
    | _ => false
  | v, w => scalarEqual v w
termination_by structural v => v

/-- Whether two lists have equal items in the same order. -/
def equalItems : List Value → List Value → Bool
  | [], [] => true
  | v :: vs, w :: ws => equal v w && equalItems vs ws
  | _, _ => false
termination_by structural vs => vs

/-- Whether every entry has an equal one among `others`. -/
def entriesWithin : Entries → Entries → Bool
  | [], _ => true
  | (k, v) :: rest, others =>
    (others.any fun (k', v') => equal k k' && equal v v') && entriesWithin rest others
termination_by structural entries => entries

/-- Whether every member has an equal one among `others`. -/
def membersWithin : List Value → List Value → Bool
  | [], _ => true
  | v :: rest, others => others.any (equal v) && membersWithin rest others
termination_by structural members => members

end

/-- Whether a value counts as true in a condition: zero, the empty text, list, mapping and set, and
null do not. -/
def isTruthy : Value → Bool
  | .null => false
  | .bool b => b
  | .int n => n != 0
  | .float x => !(Decimal.Binary.ofFloat x).isZero
  | .text s => !s.isEmpty
  | .bytes bs => !bs.isEmpty
  | .list _ items => !items.isEmpty
  | .map _ entries => !entries.isEmpty
  | .set members => !members.isEmpty
  | .date _ | .moment _ | .tagged _ _ => true

/-- Whether a value is null. -/
def isNull : Value → Bool
  | .null => true
  | _ => false

/-- Whether a value is a scalar under a tag that means nothing here. -/
def isTagged : Value → Bool
  | .tagged _ _ => true
  | _ => false

/-- A text value from its characters. -/
def ofChars (text : List Char) : Value :=
  .text (String.ofList text)

/-- A list of data. -/
def plainList (items : List Value) : Value :=
  .list .plain items

/-- A mapping of data whose keys are texts. -/
def record (fields : List (String × Value)) : Value :=
  .map .plain (fields.map fun (name, value) => (.text name, value))

end Value

namespace Entries

variable {α : Type}

/-- What stands under a key. -/
def lookup? (key : Value) : List (Value × α) → Option α
  | [] => none
  | (k, v) :: rest => if k.equal key then some v else lookup? key rest

/-- Puts something under a key: what stood under a present key is replaced and the key keeps its
place, a new key goes to the end. -/
def insert (key : Value) (value : α) : List (Value × α) → List (Value × α)
  | [] => [(key, value)]
  | (k, v) :: rest => if k.equal key then (k, value) :: rest else (k, v) :: insert key value rest

/-- The keys in order. -/
def keys (entries : List (Value × α)) : List Value :=
  entries.map (·.1)

/-- The value under a text. -/
def field? (name : String) (entries : Entries) : Option Value :=
  lookup? (.text name) entries

end Entries

end WorkflowAudit
