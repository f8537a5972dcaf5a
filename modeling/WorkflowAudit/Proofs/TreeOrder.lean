import WorkflowAudit.Code.Tree

/-! # The nodes of a tree in order

`Node.breadthFirst` lists the nodes of a tree level by level, as deep as the tree is.  Two things
are said about it here.  It is the order in which a queue is served that starts with the root and
takes up the parts of each node as the node is served (`served_iff`), which is the only such order.
And it leaves out nothing and adds nothing: a node is listed exactly when it is the root or lies in
one of the parts of the root (`mem_breadthFirst`).
-/
namespace WorkflowAudit.Code.Node

/-- A node lies in a tree: it is the root, or it lies in one of the parts of the root. -/
inductive Within (node : Node) : Node → Prop where
  | root : Within node node
  | part {tree part : Node} (hpart : part ∈ tree.parts) (h : Within node part) : Within node tree

/-- A queue is served in an order: the first node is taken from it, and the parts of that node go to
its end. -/
inductive Served : (queue order : List Node) → Prop where
  | nil : Served [] []
  | cons {node : Node} {rest order : List Node} (h : Served (rest ++ node.parts) order) :
    Served (node :: rest) (node :: order)

/-! ## Depths and levels -/

theorem depth_eq (node : Node) : node.depth = depthOfAll node.parts + 1 := by
  obtain ⟨kind, parts⟩ := node
  rfl

theorem depthOfAll_append (first second : List Node) :
    depthOfAll (first ++ second) = max (depthOfAll first) (depthOfAll second) := by
  induction first with
  | nil => simp [depthOfAll]
  | cons node rest ih => rw [List.cons_append, depthOfAll, depthOfAll, ih, Nat.max_assoc]

/-- One level down, the deepest tree has one level less. -/
theorem depthOfAll_flatMap_parts (nodes : List Node) :
    depthOfAll (nodes.flatMap parts) = depthOfAll nodes - 1 := by
  induction nodes with
  | nil => rfl
  | cons node rest ih =>
    rw [List.flatMap_cons, depthOfAll_append, ih, depthOfAll, depth_eq]
    omega

theorem depthOfAll_pos (node : Node) (rest : List Node) : 0 < depthOfAll (node :: rest) := by
  rw [depthOfAll, depth_eq]
  omega

/-- The nodes of some trees, level by level. -/
def inLevels (nodes : List Node) : List Node :=
  levels (depthOfAll nodes) nodes

theorem breadthFirst_eq (tree : Node) : tree.breadthFirst = inLevels [tree] := by
  show levels tree.depth [tree] = levels (max tree.depth 0) [tree]
  rw [Nat.max_zero]

/-- The first level comes first, and then the levels below it. -/
theorem inLevels_eq (nodes : List Node) :
    inLevels nodes = nodes ++ inLevels (nodes.flatMap parts) := by
  cases nodes with
  | nil => rfl
  | cons node rest =>
    have hpos := depthOfAll_pos node rest
    unfold inLevels
    rw [depthOfAll_flatMap_parts]
    obtain ⟨depth, hdepth⟩ := Nat.exists_eq_add_of_lt hpos
    rw [hdepth, Nat.zero_add, levels, Nat.add_sub_cancel]

/-! ## Levels and queues -/

/-- What stands first in a queue can be served, if its parts go to the end of the queue.  The parts
of `first` come behind `second` on either side; the rest is the same statement about `second` and
these parts, one level deeper. -/
theorem inLevels_append (first second : List Node) :
    inLevels (first ++ second) = first ++ inLevels (second ++ first.flatMap parts) := by
  induction hdepth : depthOfAll first + depthOfAll second using Nat.strongRecOn
    generalizing first second with
  | _ depth ih =>
    cases first with
    | nil => simp
    | cons node rest =>
      have hpos := depthOfAll_pos node rest
      have hparts := depthOfAll_flatMap_parts (node :: rest)
      have hnext := ih (depthOfAll second + depthOfAll ((node :: rest).flatMap parts)) (by omega)
        second ((node :: rest).flatMap parts) rfl
      rw [hnext, inLevels_eq, List.flatMap_append, List.append_assoc]

theorem inLevels_cons (node : Node) (rest : List Node) :
    inLevels (node :: rest) = node :: inLevels (rest ++ node.parts) := by
  have h := inLevels_append [node] rest
  rwa [List.flatMap_singleton] at h

theorem served_inLevels (queue : List Node) : Served queue (inLevels queue) := by
  -- each node that is served makes the list of those to come shorter
  induction hlength : (inLevels queue).length using Nat.strongRecOn generalizing queue with
  | _ length ih =>
    cases queue with
    | nil => exact .nil
    | cons node rest =>
      rw [inLevels_cons, List.length_cons] at hlength
      rw [inLevels_cons]
      exact .cons (ih _ (by omega) _ rfl)

theorem Served.unique {queue order order' : List Node} (h : Served queue order)
    (h' : Served queue order') : order = order' := by
  induction h generalizing order' with
  | nil =>
    cases h' with
    | nil => rfl
  | cons _ ih =>
    cases h' with
    | cons h' => rw [ih h']

/-- **Level by level is the order of a queue**, and there is no other. -/
theorem served_iff {tree : Node} {order : List Node} :
    Served [tree] order ↔ order = tree.breadthFirst := by
  have hserved : Served [tree] tree.breadthFirst := breadthFirst_eq tree ▸ served_inLevels [tree]
  constructor
  · intro h
    exact h.unique hserved
  · rintro rfl
    exact hserved

/-! ## What is listed -/

theorem Served.mem_iff {queue order : List Node} (h : Served queue order) {node : Node} :
    node ∈ order ↔ ∃ tree ∈ queue, Within node tree := by
  induction h with
  | nil => simp
  | cons _ ih =>
    rw [List.mem_cons, ih]
    constructor
    · rintro (rfl | ⟨tree, htree, hwithin⟩)
      · exact ⟨_, List.mem_cons_self, .root⟩
      · -- a tree of the longer queue was there before, or is a part of the node that was served
        rcases List.mem_append.mp htree with htree | htree
        · exact ⟨tree, List.mem_cons_of_mem _ htree, hwithin⟩
        · exact ⟨_, List.mem_cons_self, .part htree hwithin⟩
    · rintro ⟨tree, htree, hwithin⟩
      rcases List.mem_cons.mp htree with rfl | htree
      · cases hwithin with
        | root => exact .inl rfl
        | part hpart h => exact .inr ⟨_, List.mem_append_right _ hpart, h⟩
      · exact .inr ⟨tree, List.mem_append_left _ htree, hwithin⟩

/-- **All nodes of a tree are listed**, and no others. -/
theorem mem_breadthFirst {node tree : Node} : node ∈ tree.breadthFirst ↔ Within node tree := by
  rw [(served_iff.mpr rfl).mem_iff]
  simp

end WorkflowAudit.Code.Node
