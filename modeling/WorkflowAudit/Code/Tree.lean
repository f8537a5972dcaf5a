/-! # Trees of Python code

The tree of a program: each node has a kind and its parts in the order in which the language lists
them.  Only the kinds that the scan or the grammar tells apart are kinds of their own; operators and
contexts, which have no parts and which nothing asks for, are left out.

A tree is gone through level by level (`Node.breadthFirst`).
-/

namespace WorkflowAudit.Code

/-- The kind of a node. -/
inductive NodeKind where
  /-- A name, with the line it stands in. -/
  | name (id : String) (line : Nat)
  /-- An attribute of its first part. -/
  | attributeOf
  | subscript
  | tuple
  | list
  | starred
  /-- A call of its first part. -/
  | call
  /-- A conditional statement, whose first part is the condition. -/
  | condition
  | function (name : String)
  | importNames (names : List String)
  /-- An import of names from a module; a relative import may name none. -/
  | importFrom (module : Option String) (names : List String)
  | other (label : String)

/-- The name that the language gives a kind. -/
def NodeKind.label : NodeKind → String
  | name _ _ => "Name"
  | attributeOf => "Attribute"
  | subscript => "Subscript"
  | tuple => "Tuple"
  | list => "List"
  | starred => "Starred"
  | call => "Call"
  | condition => "If"
  | function _ => "FunctionDef"
  | importNames _ => "Import"
  | importFrom _ _ => "ImportFrom"
  | other label => label

/-- A node with its parts. -/
inductive Node where
  | mk (kind : NodeKind) (parts : List Node)

namespace Node

/-- The kind of a node. -/
def kind : Node → NodeKind
  | .mk kind _ => kind

/-- The parts of a node. -/
def parts : Node → List Node
  | .mk _ parts => parts

/-- A node of a kind that nothing asks for. -/
def other (label : String) (parts : List Node) : Node :=
  .mk (.other label) parts

mutual

/-- How many levels a tree has. -/
def depth : Node → Nat
  | .mk _ parts => depthOfAll parts + 1

/-- How many levels the deepest of some trees has. -/
def depthOfAll : List Node → Nat
  | [] => 0
  | node :: rest => max (depth node) (depthOfAll rest)

end

/-- The nodes of some trees, level by level, down to a given depth. -/
def levels : (depth : Nat) → List Node → List Node
  | 0, _ => []
  | depth + 1, nodes => nodes ++ levels depth (nodes.flatMap parts)

/-- The nodes of a tree, level by level. -/
def breadthFirst (node : Node) : List Node :=
  levels node.depth [node]

mutual

/-- Whether a node can be assigned to: a name, an attribute, an item, or a row of such.  In a row,
and alone, a star may stand before one. -/
def isTarget : Node → Bool
  | .mk (.name _ _) _ | .mk .attributeOf _ | .mk .subscript _ => true
  | .mk .tuple parts | .mk .list parts => areTargets parts
  | .mk .starred [part] => isTarget part && !isStarred part
  | _ => false

/-- Whether all of some nodes can be assigned to. -/
def areTargets : List Node → Bool
  | [] => true
  | node :: rest => isTarget node && areTargets rest

/-- Whether a node is a starred one. -/
def isStarred : Node → Bool
  | .mk .starred _ => true
  | _ => false

end

mutual

/-- Whether a node can be deleted: a name, an attribute, an item, or a row of such. -/
def isDeletable : Node → Bool
  | .mk (.name _ _) _ | .mk .attributeOf _ | .mk .subscript _ => true
  | .mk .tuple parts | .mk .list parts => areDeletable parts
  | _ => false

/-- Whether all of some nodes can be deleted. -/
def areDeletable : List Node → Bool
  | [] => true
  | node :: rest => isDeletable node && areDeletable rest

end

/-- Whether a node is a single place: a name, an attribute or an item. -/
def isPlace : Node → Bool
  | .mk (.name _ _) _ | .mk .attributeOf _ | .mk .subscript _ => true
  | _ => false

end Node

end WorkflowAudit.Code
