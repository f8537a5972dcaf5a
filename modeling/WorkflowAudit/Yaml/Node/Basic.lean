import WorkflowAudit.Yaml.Schema

/-! # Nodes of a document

The structure of a document: scalars, sequences and mappings, each with a tag.  A node with an
anchor has a number, and an alias refers to it by that number.
-/

namespace WorkflowAudit.Yaml

/-- A node. -/
inductive Node where
  | scalar (anchor : Option Nat) (tag : Tag) (text : List Char)
  | sequence (anchor : Option Nat) (tag : Tag) (items : List Node)
  | mapping (anchor : Option Nat) (tag : Tag) (entries : List (Node × Node))
  | alias (target : Nat)

instance : Inhabited Node := ⟨.alias 0⟩

namespace Node

/-- The number of a node's anchor. -/
def anchor? : Node → Option Nat
  | .scalar anchor _ _ | .sequence anchor _ _ | .mapping anchor _ _ => anchor
  | .alias _ => none

mutual

/-- The number of nodes in a node. -/
def size : Node → Nat
  | .sequence _ _ items => sizeOfItems items + 1
  | .mapping _ _ entries => sizeOfEntries entries + 1
  | _ => 1

/-- The number of nodes in items. -/
def sizeOfItems : List Node → Nat
  | [] => 0
  | node :: rest => size node + sizeOfItems rest

/-- The number of nodes in entries. -/
def sizeOfEntries : List (Node × Node) → Nat
  | [] => 0
  | (key, value) :: rest => size key + size value + sizeOfEntries rest

end

mutual

/-- The nodes with an anchor in a node, by number. -/
def anchored : Node → List (Nat × Node)
  | .scalar anchor tag text => (anchor.map fun n => (n, Node.scalar anchor tag text)).toList
  | .sequence anchor tag items =>
    (anchor.map fun n => (n, Node.sequence anchor tag items)).toList ++ anchoredInItems items
  | .mapping anchor tag entries =>
    (anchor.map fun n => (n, Node.mapping anchor tag entries)).toList ++ anchoredInEntries entries
  | .alias _ => []

/-- The nodes with an anchor in items. -/
def anchoredInItems : List Node → List (Nat × Node)
  | [] => []
  | node :: rest => anchored node ++ anchoredInItems rest

/-- The nodes with an anchor in entries. -/
def anchoredInEntries : List (Node × Node) → List (Nat × Node)
  | [] => []
  | (key, value) :: rest => anchored key ++ anchored value ++ anchoredInEntries rest

end

end Node

end WorkflowAudit.Yaml
