import WorkflowAudit.Proofs.LexicalFaults
import WorkflowAudit.Yaml.Node.Reading

/-! # Faults of nodes

Reading nodes adds three faults to those of tokens (`IsStructural`).  Only one of them is a matter
of what the text refers to, and counts as no document: an alias without an anchor, or a second
document. Tokens in the wrong order are a failure, and so is a plain scalar in a document of a
version that does not say what plain scalars mean.

`StepRaises` is `Raises` for steps that carry a state.  The grammar is read by functions that call
each other with less and less fuel, and the lemmas about them call each other in the same way.
-/
namespace WorkflowAudit.Yaml

variable {ε α β : Type}

/-! ## Steps with a state -/

/-- Whatever fault a step ends in, from any state, has the property `P`. -/
def StepRaises {σ : Type} (P : ε → Prop) (step : StateT σ (Except ε) α) : Prop :=
  ∀ s, Raises P (step.run s)

namespace StepRaises

variable {σ : Type} {P : ε → Prop} {step : StateT σ (Except ε) α}

theorem pure (a : α) : StepRaises P (Pure.pure a : StateT σ (Except ε) α) :=
  fun _ => .pure _

theorem throw {fault : ε} (h : P fault) :
    StepRaises P (MonadExcept.throw fault : StateT σ (Except ε) α) := by
  intro s fault' h'
  cases h'
  exact h

theorem throw_bind {fault : ε} {next : α → StateT σ (Except ε) β} (h : P fault) :
    StepRaises P ((MonadExcept.throw fault : StateT σ (Except ε) α) >>= next) := by
  intro s fault' h'
  cases h'
  exact h

theorem lift {read : Except ε α} (h : Raises P read) :
    StepRaises P (liftM read : StateT σ (Except ε) α) :=
  fun _ => .bind h fun _ => .pure _

theorem get : StepRaises P (MonadState.get : StateT σ (Except ε) σ) :=
  fun _ => .pure _

theorem set (s : σ) : StepRaises P (MonadState.set s : StateT σ (Except ε) PUnit) :=
  fun _ => .pure _

theorem modify (f : σ → σ) : StepRaises P (modify f : StateT σ (Except ε) PUnit) :=
  fun _ => .pure _

theorem bind {next : α → StateT σ (Except ε) β} (h : StepRaises P step)
    (hnext : ∀ a, StepRaises P (next a)) : StepRaises P (step >>= next) :=
  fun s => .bind (h s) fun found => hnext found.1 found.2

theorem run' (h : StepRaises P step) (s : σ) : Raises P (step.run' s) :=
  .bind (h s) fun _ => .pure _

theorem ite {c : Prop} [Decidable c] {other : StateT σ (Except ε) α} (h : StepRaises P step)
    (h' : StepRaises P other) : StepRaises P (if c then step else other) := by
  split
  · exact h
  · exact h'

theorem mapM {visit : α → StateT σ (Except ε) β} (h : ∀ a, StepRaises P (visit a))
    (items : List α) :
    StepRaises P (items.mapM visit) := by
  induction items with
  | nil => exact .pure _
  | cons a rest ih =>
    rw [List.mapM_cons]
    exact .bind (h a) fun _ => .bind ih fun _ => .pure _

theorem forM {visit : α → StateT σ (Except ε) PUnit} (h : ∀ a, StepRaises P (visit a))
    (items : List α) : StepRaises P (items.forM visit) := by
  induction items with
  | nil => exact .pure _
  | cons a rest ih => exact .bind (h a) fun _ => ih

theorem foldlM {visit : β → α → StateT σ (Except ε) β} (h : ∀ b a, StepRaises P (visit b a))
    (items : List α) (b : β) :
    StepRaises P (items.foldlM visit b) := by
  induction items generalizing b with
  | nil => exact .pure _
  | cons a rest ih =>
    rw [List.foldlM_cons]
    exact .bind (h b a) fun _ => ih _

end StepRaises

/-! ## What reading nodes can end in -/

/-- The faults that reading nodes can end in. -/
inductive IsStructural : Fault → Prop where
  | tokens {fault : Fault} (h : IsLexical fault) : IsStructural fault
  /-- An alias has no anchor, or a second document follows. -/
  | reference : IsStructural .reference
  /-- The tokens are in an order that no document has. -/
  | grammar : IsStructural (.failure (.document .grammar))
  /-- A plain scalar stands in a document of a version that does not say what it means. -/
  | version (key : Value) : IsStructural (.failure (.noKey key))

theorem raises_resolve (version : Version) (text : List Char) :
    Raises IsStructural (Schema.resolve version text) := by
  unfold Schema.resolve
  exact .ite (.pure _) (.throw (.version _))

namespace ReadNode

/-! ## Directives and properties -/

theorem raises_peek : StepRaises IsStructural peek :=
  .bind .get fun _ => .bind (.lift ((Stream.raises_peek _).mono fun _ => .tokens)) fun _ =>
    .bind (.set _) fun _ => .pure _

theorem raises_next : StepRaises IsStructural next :=
  .bind .get fun _ => .bind (.lift ((Stream.raises_next _).mono fun _ => .tokens)) fun _ =>
    .bind (.set _) fun _ => .pure _

theorem raises_ungrammatical : StepRaises IsStructural (ungrammatical : ReadNode α) :=
  .throw .grammar

theorem raises_version : StepRaises IsStructural version :=
  .bind .get fun _ => .pure _

theorem raises_tagName (handle : Option (List Char)) (suffix : List Char) :
    StepRaises IsStructural (tagName handle suffix) := by
  unfold tagName
  split
  · exact .pure _
  · refine .bind .get fun reader => ?_
    split
    · exact raises_ungrammatical
    · exact .ite (.pure _) (.pure _)

theorem raises_properties : StepRaises IsStructural properties := by
  have hnamed :
      ∀ (handle : Option (List Char)) (suffix : List Char) (found : List Char → Properties),
      StepRaises IsStructural (tagName handle suffix >>= fun tag => Pure.pure (found tag)) :=
    fun handle suffix _ => .bind (raises_tagName handle suffix) fun _ => .pure _
  unfold properties
  refine .bind raises_peek fun token => ?_
  split
  · refine .bind raises_next fun token => ?_
    split
    · refine .bind raises_peek fun token => ?_
      split
      · refine .bind raises_next fun token => ?_
        split
        · exact hnamed _ _ _
        · exact .pure _
      · exact .pure _
    · exact .pure _
  · refine .bind raises_next fun token => ?_
    split
    · refine .bind raises_peek fun token => ?_
      split
      · refine .bind raises_next fun token => ?_
        split
        · exact hnamed _ _ _
        · exact .pure _
      · exact hnamed _ _ _
    · exact .pure _
  · exact .pure _

theorem raises_numberAnchor (p : Properties) : StepRaises IsStructural (numberAnchor p) := by
  unfold numberAnchor
  split
  · exact .pure _
  · exact .bind .get fun _ => .bind (.set _) fun _ => .pure _

theorem raises_scalarNode (p : Properties) (text : List Char) (plain : Bool) :
    StepRaises IsStructural (scalarNode p text plain) := by
  have hnode : ∀ tag, StepRaises IsStructural
      (numberAnchor p >>= fun anchor => Pure.pure (Node.scalar anchor tag text)) :=
    fun _ => .bind (raises_numberAnchor p) fun _ => .pure _
  unfold scalarNode
  refine .ite ?_ (.ite ?_ ?_)
  · exact .bind raises_version fun _ => .bind (.lift (raises_resolve _ _)) hnode
  · exact .bind (.pure _) hnode
  · exact .bind (.pure _) hnode

/-! ## Collections -/

theorem raises_emptyNode : StepRaises IsStructural emptyNode :=
  raises_scalarNode _ _ _

theorem raises_noContent (p : Properties) : StepRaises IsStructural (node.noContent p) := by
  unfold node.noContent
  exact .ite (raises_scalarNode _ _ _) raises_ungrammatical

/-- Where a node may be left out, the empty one stands for it. -/
theorem raises_orEmpty {empty : Token → Bool} {read : ReadNode Node} {rest : Node → ReadNode α}
    (h : StepRaises IsStructural read) (hrest : ∀ found, StepRaises IsStructural (rest found)) :
    StepRaises IsStructural
      (peek >>= fun token => if empty token then emptyNode >>= rest else read >>= rest) :=
  .bind raises_peek fun _ => .ite (.bind raises_emptyNode hrest) (.bind h hrest)

/-- A collection is read behind its anchor and the token that opens it. -/
theorem raises_collection (p : Properties) {read : ReadNode α} (make : Option Nat → α → Node)
    (h : StepRaises IsStructural read) :
    StepRaises IsStructural
      (numberAnchor p >>= fun anchor => next >>= fun _ => read >>= fun found =>
        pure (make anchor found)) :=
  .bind (raises_numberAnchor p) fun _ => .bind raises_next fun _ => .bind h fun _ => .pure _

-- by recursion on the fuel, as the functions are

mutual

theorem raises_node (fuel : Nat) (block flat : Bool) :
    StepRaises IsStructural (node fuel block flat) := by
  cases fuel with
  | zero => exact raises_ungrammatical
  | succ fuel =>
    unfold node
    refine .bind raises_peek fun token => ?_
    split
    · refine .bind raises_next fun token => ?_
      split
      · refine .bind .get fun reader => ?_
        split
        · exact .pure _
        · exact .throw .reference
      · exact raises_ungrammatical
    · refine .bind raises_properties fun p => .bind raises_peek fun token => ?_
      split
      · refine .ite ?_ (raises_noContent p)
        exact .bind (raises_numberAnchor p) fun _ => .bind (raises_flatItems fuel) fun _ => .pure _
      · refine .bind raises_next fun token => ?_
        split
        · exact raises_scalarNode _ _ _
        · exact raises_ungrammatical
      · exact raises_collection p _ (raises_flowItems fuel _)
      · exact raises_collection p _ (raises_flowMembers fuel _)
      · exact .ite (raises_collection p _ (raises_blockItems fuel)) (raises_noContent p)
      · exact .ite (raises_collection p _ (raises_blockMembers fuel)) (raises_noContent p)
      · exact raises_noContent p

theorem raises_blockItems (fuel : Nat) : StepRaises IsStructural (blockItems fuel) := by
  cases fuel with
  | zero => exact raises_ungrammatical
  | succ fuel =>
    unfold blockItems
    refine .bind raises_peek fun token => ?_
    split
    · exact .bind raises_next fun _ => raises_orEmpty (raises_node _ _ _) fun _ =>
        .bind (raises_blockItems fuel) fun _ => .pure _
    · exact .bind raises_next fun _ => .pure _
    · exact raises_ungrammatical

theorem raises_flatItems (fuel : Nat) : StepRaises IsStructural (flatItems fuel) := by
  cases fuel with
  | zero => exact raises_ungrammatical
  | succ fuel =>
    unfold flatItems
    refine .bind raises_peek fun token => ?_
    split
    · exact .bind raises_next fun _ => raises_orEmpty (raises_node _ _ _) fun _ =>
        .bind (raises_flatItems fuel) fun _ => .pure _
    · exact .pure _

theorem raises_blockMembers (fuel : Nat) : StepRaises IsStructural (blockMembers fuel) := by
  cases fuel with
  | zero => exact raises_ungrammatical
  | succ fuel =>
    unfold blockMembers
    refine .bind raises_peek fun token => ?_
    split
    · exact .bind raises_next fun _ => raises_orEmpty (raises_node _ _ _) fun _ =>
        .bind (raises_blockValue fuel) fun _ => .bind (raises_blockMembers fuel) fun _ => .pure _
    · refine .bind raises_version fun _ => .ite ?_ raises_ungrammatical
      exact .bind raises_emptyNode fun _ => .bind (raises_blockValue fuel) fun _ =>
        .bind (raises_blockMembers fuel) fun _ => .pure _
    · exact .bind raises_next fun _ => .pure _
    · exact raises_ungrammatical

theorem raises_blockValue (fuel : Nat) : StepRaises IsStructural (blockValue fuel) := by
  cases fuel with
  | zero => exact raises_ungrammatical
  | succ fuel =>
    unfold blockValue
    exact .bind raises_peek fun _ => .ite (.bind raises_next fun _ => .bind raises_peek fun _ =>
      .ite raises_emptyNode (raises_node _ _ _)) raises_emptyNode

theorem raises_flowItems (fuel : Nat) (first : Bool) :
    StepRaises IsStructural (flowItems fuel first) := by
  cases fuel with
  | zero => exact raises_ungrammatical
  | succ fuel =>
    unfold flowItems
    refine .bind raises_peek fun token => ?_
    split
    · exact .bind raises_next fun _ => .pure _
    · -- an item is read after its comma and before it is asked whether it is a member
      extract_lets withKey rest
      have hwithKey : ∀ key, StepRaises IsStructural (withKey key) := by
        intro key
        have hvalue : ∀ value, StepRaises IsStructural
            (flowItems fuel false >>= fun more =>
              Pure.pure (Node.mapping none .mapping [(key, value)] :: more)) :=
          fun _ => .bind (raises_flowItems fuel _) fun _ => .pure _
        exact .bind raises_peek fun _ => .ite (.bind raises_next fun _ =>
          raises_orEmpty (raises_node _ _ _) hvalue) (.bind raises_emptyNode hvalue)
      have hrest : ∀ u, StepRaises IsStructural (rest u) := by
        intro u
        refine .bind raises_peek fun token => ?_
        split
        · exact .bind raises_next fun _ => raises_orEmpty (raises_node _ _ _) hwithKey
        · exact .bind raises_next fun _ => .pure _
        · exact .bind (raises_node _ _ _) fun _ => .bind (raises_flowItems fuel _) fun _ => .pure _
      refine .ite ?_ (hrest ())
      split
      · exact .bind raises_next fun _ => hrest ()
      · exact .bind raises_ungrammatical hrest

theorem raises_flowMembers (fuel : Nat) (first : Bool) :
    StepRaises IsStructural (flowMembers fuel first) := by
  cases fuel with
  | zero => exact raises_ungrammatical
  | succ fuel =>
    have hmore : ∀ member : Node × Node, StepRaises IsStructural
        (flowMembers fuel false >>= fun more => Pure.pure (member :: more)) :=
      fun _ => .bind (raises_flowMembers fuel _) fun _ => .pure _
    unfold flowMembers
    refine .bind raises_peek fun token => ?_
    split
    · exact .bind raises_next fun _ => .pure _
    · extract_lets withKey rest
      have hwithKey : ∀ key, StepRaises IsStructural (withKey key) :=
        fun _ => .bind (raises_flowValue fuel) fun _ => hmore _
      have hrest : ∀ u, StepRaises IsStructural (rest u) := by
        intro u
        refine .bind raises_peek fun token => ?_
        split
        · exact .bind raises_next fun _ => raises_orEmpty (raises_node _ _ _) hwithKey
        · exact .bind raises_next fun _ => .pure _
        · refine .bind raises_version fun _ => .ite ?_ ?_
          · exact .bind raises_emptyNode fun _ => .bind (raises_flowValue fuel) fun _ => hmore _
          · exact .bind (raises_node _ _ _) fun _ => .bind raises_emptyNode fun _ => hmore _
        · exact .bind (raises_node _ _ _) fun _ => .bind raises_emptyNode fun _ => hmore _
      refine .ite ?_ (hrest ())
      split
      · exact .bind raises_next fun _ => hrest ()
      · exact .bind raises_ungrammatical hrest

theorem raises_flowValue (fuel : Nat) : StepRaises IsStructural (flowValue fuel) := by
  cases fuel with
  | zero => exact raises_ungrammatical
  | succ fuel =>
    unfold flowValue
    exact .bind raises_peek fun _ => .ite (.bind raises_next fun _ => .bind raises_peek fun _ =>
      .ite raises_emptyNode (raises_node _ _ _)) raises_emptyNode

end

/-! ## Documents -/

end ReadNode

end WorkflowAudit.Yaml
