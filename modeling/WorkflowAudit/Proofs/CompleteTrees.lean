import WorkflowAudit.Code.Expression
import WorkflowAudit.Proofs.TreeOrder

/-! # Complete trees

The kinds of nodes do not say how many parts a node has.  But some of them need a part: an attribute
is one of something, and a call calls something.  A tree is complete if all its nodes have what they
need (`Node.Complete`).  What a rule of the grammar reads is complete if what the rules that it is
made of read is, and this is carried through sequences, choices and repetitions once
(`Rule.Yields`).  From this the rules for expressions follow one by one
(`Expression.yields_ruleAt`).
-/
namespace WorkflowAudit.Code

/-! ## Trees -/

/-- What a kind of node needs: an attribute is one of something, a call has something that is
called, a conditional statement has a condition, and an import names something. -/
def NodeKind.Fits : NodeKind → List Node → Prop
  | .attributeOf, parts | .call, parts | .condition, parts => parts ≠ []
  | .importNames names, _ | .importFrom _ names, _ => names ≠ []
  | _, _ => True

namespace Node

/-- Every node of a tree has what its kind needs. -/
def Complete (tree : Node) : Prop :=
  ∀ node : Node, node.Within tree → node.kind.Fits node.parts

/-- Some trees are complete. -/
def AllComplete (nodes : List Node) : Prop :=
  ∀ node ∈ nodes, node.Complete

theorem Within.trans {node tree whole : Node} (h : node.Within tree) (h' : tree.Within whole) :
    node.Within whole := by
  induction h' with
  | root => exact h
  | part hpart _ ih => exact .part hpart ih

theorem Complete.of_within {node tree : Node} (h : tree.Complete) (hwithin : node.Within tree) :
    node.Complete :=
  fun found hfound => h found (hfound.trans hwithin)

theorem complete_mk {kind : NodeKind} {parts : List Node} (hkind : kind.Fits parts)
    (hparts : AllComplete parts) : (Node.mk kind parts).Complete := by
  intro node hwithin
  cases hwithin with
  | root => exact hkind
  | part hpart h => exact hparts _ hpart node h

theorem complete_other {label : String} {parts : List Node} (h : AllComplete parts) :
    (other label parts).Complete :=
  complete_mk trivial h

namespace AllComplete

variable {node : Node} {nodes more : List Node}

theorem nil : AllComplete [] := fun _ h => absurd h List.not_mem_nil

theorem cons (h : node.Complete) (hrest : AllComplete nodes) : AllComplete (node :: nodes) :=
  List.forall_mem_cons.mpr ⟨h, hrest⟩

theorem append (h : AllComplete nodes) (h' : AllComplete more) : AllComplete (nodes ++ more) :=
  List.forall_mem_append.mpr ⟨h, h'⟩

theorem single (h : node.Complete) : AllComplete [node] := cons h nil

theorem toList {found : Option Node} (h : ∀ node, found = some node → node.Complete) :
    AllComplete found.toList :=
  fun node hnode => h node (Option.mem_toList.mp hnode)

theorem flatten {rows : List (List Node)} (h : ∀ row ∈ rows, AllComplete row) :
    AllComplete rows.flatten := by
  intro node hnode
  obtain ⟨row, hrow, hmem⟩ := List.mem_flatten.mp hnode
  exact h row hrow node hmem

end AllComplete

end Node

/-! ## What a rule yields -/

open Node

/-- Whatever a rule reads has the property `P`. -/
def Rule.Yields {α : Type} (P : α → Prop) (rule : Rule α) : Prop :=
  ∀ reader found after, rule reader = (.ok found, after) → P found

namespace Rule.Yields

variable {α β : Type} {P : α → Prop} {Q : β → Prop} {rule : Rule α}

theorem pure {a : α} (h : P a) : Yields P (Pure.pure a : Rule α) := by
  intro reader found after hfound
  cases hfound
  exact h

theorem throw (stop : Stop) : Yields P (MonadExcept.throw stop : Rule α) := by
  intro reader found after hfound
  cases hfound

theorem retreat : Yields P (Rule.retreat : Rule α) := throw .retreat

theorem refuse : Yields P (Rule.refuse : Rule α) := throw (.refused .invalid)

theorem bind {next : α → Rule β} (h : Yields P rule) (hnext : ∀ a, P a → Yields Q (next a)) :
    Yields Q (rule >>= next) := by
  intro reader found after hfound
  change (rule reader >>= fun p => ExceptT.bindCont next p.1 p.2) = _ at hfound
  rcases hrule : rule reader with ⟨outcome, middle⟩
  rw [hrule] at hfound
  cases outcome with
  | error stop => cases hfound
  | ok a => exact hnext a (h reader a middle hrule) middle found after hfound

/-- What the first of two rules reads may not matter. -/
theorem skip {next : α → Rule β} (hnext : ∀ a, Yields Q (next a)) : Yields Q (rule >>= next) :=
  bind (fun _ _ _ _ => trivial : Yields (fun _ => True) rule) fun a _ => hnext a

/-- What would follow a retreat does not matter. -/
theorem retreat_bind {next : α → Rule β} : Yields Q ((Rule.retreat : Rule α) >>= next) :=
  bind retreat fun _ (h : False) => h.elim

theorem ite {c : Prop} [Decidable c] {other : Rule α} (h : Yields P rule) (h' : Yields P other) :
    Yields P (if c then rule else other) := by
  split
  · exact h
  · exact h'

/-- A rule may retreat first. -/
theorem guarded {c : Prop} [Decidable c] {next : PUnit → Rule α} (h : Yields P (next ⟨⟩)) :
    Yields P (if c then Rule.retreat >>= next else next ⟨⟩) :=
  .ite .retreat_bind h

theorem mono {R : α → Prop} (h : Yields P rule) (himp : ∀ a, P a → R a) : Yields R rule :=
  fun reader found after hfound => himp found (h reader found after hfound)

theorem attempt (h : Yields P rule) :
    Yields (fun found => ∀ a, found = some a → P a) (Rule.attempt rule) := by
  intro reader found after hfound
  unfold Rule.attempt at hfound
  rcases hrule : rule reader with ⟨outcome, middle⟩
  rw [hrule] at hfound
  cases outcome with
  | ok a =>
    cases hfound
    rintro a' ⟨⟩
    exact h reader a _ hrule
  | error stop =>
    cases stop with
    | retreat =>
      cases hfound
      intro a ha
      cases ha
    | refused problem => cases hfound
    | missingBlock => cases hfound

theorem repeated (h : Yields P rule) (fuel : Nat) :
    Yields (fun found => ∀ a ∈ found, P a) (Rule.repeated rule fuel) := by
  induction fuel with
  | zero => exact .pure fun a ha => absurd ha List.not_mem_nil
  | succ fuel ih =>
    refine .bind (.attempt h) fun found hfound => ?_
    cases found with
    | none => exact .pure fun a ha => absurd ha List.not_mem_nil
    | some first =>
      exact .bind ih fun rest hrest => .pure (List.forall_mem_cons.mpr ⟨hfound first rfl, hrest⟩)

theorem many (h : Yields P rule) : Yields (fun found => ∀ a ∈ found, P a) (Rule.many rule) :=
  .skip fun fuel => .repeated h fuel

theorem commaSeparated (h : Yields P rule) :
    Yields (fun found => found ≠ [] ∧ ∀ a ∈ found, P a) (Rule.commaSeparated rule) := by
  refine .bind h fun first hfirst => .bind (.many (.skip fun _ => h)) fun more hmore => .pure ?_
  exact ⟨List.cons_ne_nil first more, List.forall_mem_cons.mpr ⟨hfirst, hmore⟩⟩

theorem commaRow (h : Yields P rule) :
    Yields (fun found => found.1 ≠ [] ∧ ∀ a ∈ found.1, P a) (Rule.commaRow rule) := by
  refine .bind h fun first hfirst => .bind (.many (.skip fun _ => h)) fun more hmore =>
    .skip fun _ => .pure ?_
  exact ⟨List.cons_ne_nil first more, List.forall_mem_cons.mpr ⟨hfirst, hmore⟩⟩

theorem mapM {visit : α → Rule β} (h : ∀ a, Yields Q (visit a)) (items : List α) :
    Yields (fun found => ∀ b ∈ found, Q b) (items.mapM visit) := by
  induction items with
  | nil => exact .pure fun b hb => absurd hb List.not_mem_nil
  | cons a rest ih =>
    rw [List.mapM_cons]
    exact .bind (h a) fun b hb => .bind ih fun found hfound =>
      .pure (List.forall_mem_cons.mpr ⟨hb, hfound⟩)

/-- The rest of a row, which may be left out. -/
theorem rest (h : Yields P rule) :
    Yields (fun more => ∀ a ∈ (more.map (·.1)).getD [], P a)
    (Rule.attempt (Rule.commaRow rule)) := by
  refine .mono (.attempt (.commaRow h)) fun more hmore => ?_
  cases more with
  | none => exact fun a ha => absurd ha List.not_mem_nil
  | some found => exact (hmore found rfl).2

/-- A row may end here, or have a rest. -/
theorem orRest {c : Prop} [Decidable c] {next : Option (List α × Bool) → Rule β} (h : Yields P rule)
    (hnext : ∀ more, (∀ a ∈ (more.map (·.1)).getD [], P a) → Yields Q (next more)) :
    Yields Q (if c then Rule.attempt (Rule.commaRow rule) >>= next else Pure.pure none >>= next) :=
  .ite (.bind (.rest h) hnext) (.bind (.pure fun _ ha => absurd ha List.not_mem_nil) hnext)

/-- An optional node that is there. -/
theorem given {rule : Rule Node} {next : Option Node → Rule β} (h : Yields Complete rule)
    (hnext : ∀ found : Option Node, AllComplete found.toList → Yields Q (next found)) :
    Yields Q (rule >>= fun node => Pure.pure (some node) >>= next) :=
  .bind h fun _ hnode => .bind (.pure (.single hnode)) hnext

/-- An optional node that is left out. -/
theorem leftOut {next : Option Node → Rule β}
    (hnext : ∀ found : Option Node, AllComplete found.toList → Yields Q (next found)) :
    Yields Q ((Pure.pure none : Rule (Option Node)) >>= next) :=
  .bind (.pure .nil) hnext

/-- A row of at most one node. -/
theorem atMostOne {c : Prop} [Decidable c] {rule : Rule Node} {next : List Node → Rule β}
    (h : Yields Complete rule) (hnext : ∀ found, AllComplete found → Yields Q (next found)) :
    Yields Q (if c then rule >>= fun node =>
      Pure.pure [node] >>= next else Pure.pure [] >>= next) :=
  .ite (.bind h fun _ hnode => .bind (.pure (.single hnode)) hnext) (.bind (.pure .nil) hnext)

end Rule.Yields

/-! ## Expressions -/

namespace Expression

open Rule

variable {again : Again}

section

variable (hagain : ∀ level, Yields Complete (again level))
include hagain

/-! ### Rows -/

theorem yields_named : Yields Complete (named again) := by
  refine .skip fun assignment => ?_
  cases assignment with
  | some found =>
    exact .bind (hagain _) fun value hvalue =>
      .pure (complete_other (.cons (complete_mk trivial .nil) (.single hvalue)))
  | none => exact .bind (hagain _) fun found hfound => .skip fun _ => .ite .retreat (.pure hfound)

theorem yields_starredOperation : Yields Complete (starredOperation again) :=
  .skip fun _ => .bind (hagain _) fun _ hfound => .pure (complete_mk trivial (.single hfound))

theorem yields_starredWhole : Yields Complete (starredWhole again) :=
  .skip fun _ => .bind (hagain _) fun _ hfound => .pure (complete_mk trivial (.single hfound))

theorem yields_starred : Yields Complete (starred again) :=
  .skip fun _ => .ite (yields_starredOperation hagain) (hagain _)

theorem yields_starredNamed : Yields Complete (starredNamed again) :=
  .skip fun _ => .ite (yields_starredOperation hagain) (yields_named hagain)

theorem yields_row : Yields Complete (row again) := by
  refine .bind (.commaRow (yields_starred hagain)) fun found hfound => ?_
  split
  · exact .pure (hfound.2 _ List.mem_cons_self)
  · exact .pure (complete_mk trivial hfound.2)

theorem yields_yielded : Yields Complete (yielded again) := by
  refine .skip fun _ => .skip fun _ => .ite ?_ ?_
  · exact .bind (hagain _) fun _ hfound => .pure (complete_other (.single hfound))
  · exact .bind (.attempt (yields_row hagain)) fun _ hfound =>
      .pure (complete_other (.toList hfound))

/-! ### Targets and comprehensions -/

theorem yields_target : Yields Complete (target again) := by
  refine .skip fun _ => ?_
  -- both branches go on with the same check
  extract_lets checked
  have hchecked : ∀ found, found.Complete → Yields Complete (checked found) :=
    fun found hfound => .ite (.pure hfound) .retreat
  refine .ite (.bind (hagain _) fun found hfound => ?_) (.bind (hagain _) hchecked)
  exact .bind (.pure (complete_mk trivial (.single hfound))) hchecked

theorem yields_targets : Yields Complete (targets again) := by
  refine .bind (.commaRow (yields_target hagain)) fun found hfound => ?_
  split
  · exact .pure (hfound.2 _ List.mem_cons_self)
  · exact .pure (complete_mk trivial hfound.2)

theorem yields_comprehension : Yields Complete (comprehension again) := by
  refine .skip fun _ => .skip fun _ => .bind (yields_targets hagain) fun found hfound => ?_
  refine .skip fun _ => .bind (hagain _) fun source hsource => ?_
  refine .bind (.many (.skip fun _ => hagain _)) fun conditions hconditions => ?_
  exact .pure (complete_other (.cons hfound (.cons hsource hconditions)))

theorem yields_comprehensions : Yields AllComplete (comprehensions again) :=
  .bind (yields_comprehension hagain) fun _ hfirst =>
    .bind (.many (yields_comprehension hagain)) fun _ hmore => .pure (.cons hfirst hmore)

/-- A comprehension in brackets, behind the nodes that it is made of. -/
theorem yields_comprehended {label closer : String} (nodes : List Node) (h : AllComplete nodes) :
    Yields Complete (comprehensions again >>= fun parts => expect closer >>= fun _ =>
      Pure.pure (other label (nodes ++ parts))) :=
  .bind (yields_comprehensions hagain) fun _ hparts =>
    .skip fun _ => .pure (complete_other (h.append hparts))

/-! ### Parameters -/

omit hagain in
theorem yields_parameter {annotated : Bool} {typeRule : Rule Node} (h : Yields Complete typeRule) :
    Yields Complete (parameter annotated typeRule) := by
  have hbare : Yields Complete (Pure.pure (other "arg" []) : Rule Node) :=
      .pure (complete_other .nil)
  refine .skip fun _ => .ite (.skip fun _ => .ite ?_ hbare) hbare
  exact .bind h fun _ hfound => .pure (complete_other (.single hfound))

/-- All nodes of some parameters are complete. -/
structure ParametersComplete (p : Parameters) : Prop where
  positional : AllComplete p.positional
  rowParameter : AllComplete p.rowParameter.toList
  keywordOnly : AllComplete p.keywordOnly
  keywordDefaults : AllComplete p.keywordDefaults
  mappingParameter : AllComplete p.mappingParameter.toList
  defaults : AllComplete p.defaults

theorem yields_parametersBehind (annotated : Bool) (closer : String) (fuel : Nat)
    {soFar : Parameters}
    (h : ParametersComplete soFar) :
    Yields ParametersComplete (parametersBehind again annotated closer fuel soFar) := by
  induction fuel generalizing soFar with
  | zero => exact .retreat
  | succ fuel ih =>
    refine .skip fun _ => .ite (.ite .retreat (.pure h)) (.skip fun _ => .ite ?_
      (.skip fun _ => .ite ?_ (.skip fun _ => .ite ?_ ?_)))
    · refine .guarded (.bind (yields_parameter (hagain _)) fun found hfound => ?_)
      exact .skip fun _ => .skip fun _ =>
        .ite (.pure { h with mappingParameter := .single hfound }) .retreat
    · refine .guarded (.skip fun _ => .ite (ih { h with }) ?_)
      refine .bind (yields_parameter (yields_starred hagain)) fun found hfound => .skip fun _ => ?_
      exact ih { h with rowParameter := .single hfound }
    · exact .guarded (.skip fun _ => ih { h with })
    · refine .bind (yields_parameter (hagain _)) fun found hfound => .skip fun _ => ?_
      extract_lets behind
      have hbehind : ∀ given : Option Node, AllComplete given.toList →
          Yields ParametersComplete (behind given) := by
        refine fun given hgiven => .skip fun _ => .ite (ih ?_) (.ite .retreat (ih ?_))
        · exact { h with
            keywordOnly := h.keywordOnly.append (.single hfound)
            keywordDefaults := h.keywordDefaults.append hgiven }
        · exact { h with
            positional := h.positional.append (.single hfound)
            defaults := h.defaults.append hgiven }
      exact .ite (.given (hagain _) hbehind) (.leftOut hbehind)

theorem yields_parameters (annotated : Bool) (closer : String) :
    Yields Complete (parameters again annotated closer) := by
  have hnone : ParametersComplete {} := ⟨.nil, .nil, .nil, .nil, .nil, .nil⟩
  refine .skip fun _ => .bind (yields_parametersBehind hagain annotated closer _ hnone)
    fun p hp => .pure ?_
  have hleading :=
      ((hp.positional.append hp.rowParameter).append hp.keywordOnly).append hp.keywordDefaults
  exact complete_other ((hleading.append hp.mappingParameter).append hp.defaults)

theorem yields_lambda : Yields Complete (lambda again) := by
  refine .skip fun _ => .bind (yields_parameters hagain _ _) fun found hfound => .skip fun _ => ?_
  exact .bind (hagain _) fun body hbody => .pure (complete_other (.cons hfound (.single hbody)))

/-! ### Calls and items -/

/-- All nodes of some arguments are complete. -/
structure ArgumentsComplete (given : Arguments) : Prop where
  positional : AllComplete given.positional
  keywords : AllComplete given.keywords

theorem yields_argument {soFar : Arguments} (h : ArgumentsComplete soFar) :
    Yields ArgumentsComplete (argument again soFar) := by
  have hkeyword : ∀ {value : Node}, value.Complete →
      AllComplete (soFar.keywords ++ [other "keyword" [value]]) :=
    fun hvalue => h.keywords.append (.single (complete_other (.single hvalue)))
  refine .skip fun _ => .ite ?_ (.skip fun _ => .ite ?_ (.skip fun keyword => ?_))
  · exact .bind (hagain _) fun value hvalue => .pure { h with keywords := hkeyword hvalue }
  · refine .guarded (.bind (yields_starredWhole hagain) fun value hvalue => ?_)
    exact .pure { h with positional := h.positional.append (.single hvalue) }
  · cases keyword with
    | some id =>
      exact .bind (hagain _) fun value hvalue => .pure { h with keywords := hkeyword hvalue }
    | none =>
      refine .bind (yields_named hagain) fun value hvalue => .guarded (.skip fun _ => .guarded ?_)
      exact .pure { h with positional := h.positional.append (.single hvalue) }

theorem yields_argumentsBehind (fuel : Nat) {soFar : Arguments} (h : ArgumentsComplete soFar) :
    Yields ArgumentsComplete (argumentsBehind again fuel soFar) := by
  induction fuel generalizing soFar with
  | zero => exact .retreat
  | succ fuel ih =>
    refine .skip fun _ => .ite (.pure h) (.bind (yields_argument hagain h) fun found hfound => ?_)
    exact .skip fun _ => .ite (ih hfound) (.skip fun _ => .ite (.pure hfound) .retreat)

omit hagain in
theorem argumentsComplete_empty : ArgumentsComplete {} := ⟨.nil, .nil⟩

theorem yields_classArguments : Yields ArgumentsComplete (classArguments again) := by
  refine .skip fun _ => .bind (yields_argumentsBehind hagain _ argumentsComplete_empty)
    fun found hfound => ?_
  exact .skip fun _ => .pure hfound

theorem yields_others {first : Arguments} (h : ArgumentsComplete first) :
    Yields ArgumentsComplete (arguments.others again first) := by
  refine .skip fun _ => ?_
  extract_lets closed
  have hclosed : ∀ found, ArgumentsComplete found → Yields ArgumentsComplete (closed found) :=
    fun found hfound => .skip fun _ => .pure hfound
  exact .ite (.skip fun _ => .bind (yields_argumentsBehind hagain _ h) hclosed)
    (.bind (.pure h) hclosed)

theorem yields_arguments : Yields ArgumentsComplete (arguments again) := by
  refine .skip fun _ => .ite (.pure argumentsComplete_empty) ?_
  refine .bind (yields_argument hagain argumentsComplete_empty) fun first hfirst => ?_
  have hothers := yields_others hagain hfirst
  split
  · rename_i item hitem
    have hsingle : item.Complete := hfirst.positional item (hitem ▸ List.mem_cons_self)
    refine .skip fun _ => .ite (.bind (yields_comprehensions hagain) fun parts hparts => ?_) hothers
    exact .skip fun _ => .pure ⟨.single (complete_other (.cons hsingle hparts)), .nil⟩
  · exact hothers

theorem yields_sliceBehind {lower : Option Node} (hlower : AllComplete lower.toList) :
    Yields Complete (sliceBehind again lower) := by
  refine .skip fun _ => .skip fun _ => ?_
  extract_lets withUpper
  have hupper : ∀ upper : Option Node, AllComplete upper.toList →
      Yields Complete (withUpper upper) := by
    refine fun upper hupper => .skip fun _ => ?_
    extract_lets withStep
    have hstep : ∀ step : Option Node, AllComplete step.toList → Yields Complete (withStep step) :=
      fun step hstep => .pure (complete_other ((hlower.append hupper).append hstep))
    exact .ite (.skip fun _ => .ite (.leftOut hstep) (.given (hagain _) hstep)) (.leftOut hstep)
  exact .ite (.leftOut hupper) (.given (hagain _) hupper)

theorem yields_slice : Yields Complete (slice again) := by
  refine .skip fun _ => .ite (yields_sliceBehind hagain .nil) (.skip fun _ => .ite ?_ ?_)
  · exact yields_named hagain
  · refine .bind (yields_named hagain) fun first hfirst => .skip fun _ => .ite ?_ (.pure hfirst)
    exact yields_sliceBehind hagain (.single hfirst)

theorem yields_slices : Yields Complete (slices again) := by
  refine .bind (.commaRow (.skip fun _ => .ite (yields_starredWhole hagain) (yields_slice hagain)))
    fun found hfound => ?_
  split
  · rename_i single
    have hsingle : single.Complete := hfound.2 _ List.mem_cons_self
    refine .pure ?_
    split
    · exact complete_mk trivial (.single hsingle)
    · exact hsingle
  · exact .pure (complete_mk trivial hfound.2)

/-! ### Atoms -/

theorem yields_parenthesized : Yields Complete (parenthesized again) := by
  refine .skip fun _ => .skip fun _ =>
    .ite (.pure (complete_mk trivial .nil)) (.skip fun _ => .ite ?_ ?_)
  · exact .bind (yields_yielded hagain) fun found hfound => .skip fun _ => .pure hfound
  · refine .bind (yields_starredNamed hagain) fun first hfirst => .skip fun _ =>
      .ite ?_ (.ite .retreat ?_)
    · refine .bind (.rest (yields_starredNamed hagain)) fun more hmore => .skip fun _ => ?_
      exact .pure (complete_mk trivial (.cons hfirst hmore))
    · exact .skip fun _ =>
        .ite (yields_comprehended hagain [first] (.single hfirst)) (.skip fun _ => .pure hfirst)

theorem yields_bracketed : Yields Complete (bracketed again) := by
  refine .skip fun _ => .skip fun _ => .ite (.pure (complete_mk trivial .nil)) ?_
  refine .bind (yields_starredNamed hagain) fun first hfirst => .skip fun _ => ?_
  refine .ite (yields_comprehended hagain [first] (.single hfirst)) (.skip fun _ => ?_)
  refine .orRest (yields_starredNamed hagain) fun more hmore => .skip fun _ => ?_
  exact .pure (complete_mk trivial (.cons hfirst hmore))

/-- The nodes of an entry are complete. -/
def EntryComplete (entry : Option Node × Node) : Prop :=
  AllComplete entry.1.toList ∧ entry.2.Complete

theorem yields_entry : Yields EntryComplete (entry again) := by
  refine .skip fun _ => .ite (.bind (hagain _) fun value hvalue => .pure ⟨.nil, hvalue⟩) ?_
  refine .bind (hagain _) fun key hkey => .skip fun _ => ?_
  exact .bind (hagain _) fun value hvalue => .pure ⟨.single hkey, hvalue⟩

omit hagain in
theorem complete_mapping {entries : List (Option Node × Node)}
    (h : ∀ entry ∈ entries, EntryComplete entry) : (mapping entries).Complete := by
  refine complete_other (.append (fun node hnode => ?_) fun node hnode => ?_)
  · obtain ⟨entry, hentry, hkey⟩ := List.mem_filterMap.mp hnode
    exact (h entry hentry).1 node (Option.mem_toList.mpr hkey)
  · obtain ⟨entry, hentry, rfl⟩ := List.mem_map.mp hnode
    exact (h entry hentry).2

theorem yields_mappingBehind {first : Option Node × Node} (h : EntryComplete first) :
    Yields Complete (mappingBehind again first) := by
  refine .skip fun _ => .orRest (yields_entry hagain) fun more hmore => .skip fun _ => ?_
  exact .pure (complete_mapping (List.forall_mem_cons.mpr ⟨h, hmore⟩))

theorem yields_braced : Yields Complete (braced again) := by
  refine .skip fun _ => .skip fun _ =>
    .ite (.pure (complete_other .nil)) (.skip fun _ => .ite ?_ ?_)
  · exact .bind (yields_entry hagain) fun first hfirst => yields_mappingBehind hagain hfirst
  · refine .skip fun _ => .bind (yields_starredNamed hagain) fun first hfirst => ?_
    refine .skip fun _ => .ite (.guarded ?_) (.skip fun _ => ?_)
    · refine .skip fun _ => .bind (hagain _) fun value hvalue => .skip fun _ => .ite ?_ ?_
      · exact yields_comprehended hagain [first, value] (.cons hfirst (.single hvalue))
      · exact yields_mappingBehind hagain ⟨.single hfirst, hvalue⟩
    · refine .ite (yields_comprehended hagain [first] (.single hfirst)) (.skip fun _ => ?_)
      refine .orRest (yields_starredNamed hagain) fun more hmore => .skip fun _ => ?_
      exact .pure (complete_other (.cons hfirst hmore))

/-- A field of a text is read by a reader of its own, of which only the result is taken over. -/
theorem yields_fieldExpression (text : List Char) (line : Nat) :
    Yields Complete (fieldExpression again text line) := by
  unfold fieldExpression
  split
  · rename_i found _ hfound
    exact .pure (yields_row hagain _ _ _ hfound)
  · exact .refuse

end

mutual

theorem yields_field (hagain : ∀ level, Yields Complete (again level)) (line : Nat) (f : Field) :
    Yields Complete (field again line f) := by
  match f with
  | .mk text offset hasFormat inner =>
    refine .bind (yields_fieldExpression hagain _ _) fun value hvalue => ?_
    refine .bind (yields_fields hagain line inner) fun parts hparts => ?_
    refine .pure (complete_other (.cons hvalue ?_))
    split
    · exact .single (complete_other hparts)
    · exact .nil

theorem yields_fields (hagain : ∀ level, Yields Complete (again level)) (line : Nat)
    (fs : List Field) :
    Yields AllComplete (fields again line fs) := by
  match fs with
  | [] => exact .pure .nil
  | first :: rest =>
    exact .bind (yields_field hagain line first) fun _ hfirst =>
      .bind (yields_fields hagain line rest) fun _ hrest => .pure (.cons hfirst hrest)

end

section

variable (hagain : ∀ level, Yields Complete (again level))
include hagain

theorem yields_literalParts (literal : Literal) (line : Nat) :
    Yields AllComplete (literalParts again literal line) := by
  refine .ite ?_ (.ite (.pure .nil) .refuse)
  split
  · exact yields_fields hagain line _
  · exact .refuse

theorem yields_literals : Yields Complete (literals again) := by
  refine .skip fun _ => .skip fun row => ?_
  split
  · exact .retreat
  · refine .bind (.mapM (fun literal => yields_literalParts hagain _ _) _) fun parts hparts => ?_
    exact .ite .refuse (.ite (.pure (complete_other (.flatten hparts)))
      (.pure (complete_other .nil)))

theorem yields_atom : Yields Complete (atom again) := by
  have hconstant : (other "Constant" []).Complete := complete_other .nil
  refine .skip fun next => ?_
  split
  · refine .ite (.skip fun _ => .pure hconstant) (.skip fun _ => .pure (complete_mk trivial .nil))
  · exact .skip fun _ => .ite .refuse (.pure hconstant)
  · exact yields_literals hagain
  · exact yields_parenthesized hagain
  · exact yields_bracketed hagain
  · exact yields_braced hagain
  · exact .skip fun _ => .pure hconstant
  · exact .retreat

theorem yields_trailers (fuel : Nat) {found : Node} (h : found.Complete) :
    Yields Complete (trailers again fuel found) := by
  induction fuel generalizing found with
  | zero => exact .pure h
  | succ fuel ih =>
    refine .skip fun _ => .ite ?_ (.skip fun _ => .ite ?_ (.skip fun _ => .ite ?_ (.pure h)))
    · exact .skip fun _ => ih (complete_mk (List.cons_ne_nil _ _) (.single h))
    · refine .bind (yields_arguments hagain) fun given hgiven => ih ?_
      exact complete_mk (List.cons_ne_nil _ _) (.append (.cons h hgiven.positional) hgiven.keywords)
    · refine .bind (yields_slices hagain) fun index hindex => .skip fun _ => ih ?_
      exact complete_mk trivial (.cons h (.single hindex))

theorem yields_primary : Yields Complete (primary again) :=
  .bind (yields_atom hagain) fun _ hfound => .skip fun fuel => yields_trailers hagain fuel hfound

/-! ### Operators -/

theorem yields_power : Yields Complete (power again) := by
  refine .skip fun _ => ?_
  extract_lets raised
  have hraised : ∀ base, base.Complete → Yields Complete (raised base) := by
    refine fun base hbase => .skip fun _ => .ite ?_ (.pure hbase)
    exact .bind (hagain _) fun exponent hexponent =>
      .pure (complete_other (.cons hbase (.single hexponent)))
  refine .ite (.bind (yields_primary hagain) fun found hfound => ?_)
    (.bind (yields_primary hagain) hraised)
  exact .bind (.pure (complete_other (.single hfound))) hraised

theorem yields_factor : Yields Complete (factor again) := by
  refine .skip fun _ => .ite (.skip fun _ => ?_) (yields_power hagain)
  exact .bind (hagain _) fun _ hfound => .pure (complete_other (.single hfound))

omit hagain in
theorem yields_leftToRight {operand : Rule Node} (h : Yields Complete operand)
    (symbols : List String)
    (fuel : Nat) {left : Node} (hleft : left.Complete) :
    Yields Complete (leftToRight symbols operand fuel left) := by
  induction fuel generalizing left with
  | zero => exact .pure hleft
  | succ fuel ih =>
    refine .skip fun _ => .ite (.skip fun _ => .bind h fun right hright => ?_) (.pure hleft)
    exact ih (complete_other (.cons hleft (.single hright)))

theorem yields_operationWith (levels : List (List String)) :
    Yields Complete (operationWith again levels) := by
  induction levels with
  | nil => exact yields_factor hagain
  | cons symbols tighter ih =>
    exact .bind ih fun _ hleft => .skip fun fuel => yields_leftToRight ih symbols fuel hleft

theorem yields_compared (fuel : Nat) : Yields AllComplete (compared again fuel) := by
  induction fuel with
  | zero => exact .pure .nil
  | succ fuel ih =>
    refine .skip fun _ => .ite ?_ (.pure .nil)
    exact .bind (yields_operationWith hagain _) fun _ hfound =>
      .bind ih fun _ hrest => .pure (.cons hfound hrest)

theorem yields_comparison : Yields Complete (comparison again) := by
  refine .bind (yields_operationWith hagain _) fun left hleft => .skip fun fuel => ?_
  refine .bind (yields_compared hagain fuel) fun others hothers => ?_
  split
  · exact .pure hleft
  · exact .pure (complete_other (.cons hleft hothers))

theorem yields_inversion : Yields Complete (inversion again) := by
  refine .skip fun _ => .ite ?_ (yields_comparison hagain)
  exact .bind (hagain _) fun _ hfound => .pure (complete_other (.single hfound))

omit hagain in
theorem yields_wordOperands {operand : Rule Node} (h : Yields Complete operand) (word : String)
    (fuel : Nat) : Yields AllComplete (joinedBy.wordOperands word operand fuel) := by
  induction fuel with
  | zero => exact .pure .nil
  | succ fuel ih =>
    refine .skip fun _ => .ite ?_ (.pure .nil)
    exact .bind h fun _ hfound => .bind ih fun _ hrest => .pure (.cons hfound hrest)

omit hagain in
theorem yields_joinedBy {operand : Rule Node} (h : Yields Complete operand) (word : String) :
    Yields Complete (joinedBy word operand) := by
  refine .bind h fun first hfirst => .skip fun fuel => ?_
  refine .bind (yields_wordOperands h word fuel) fun others hothers => ?_
  split
  · exact .pure hfirst
  · exact .pure (complete_other (.cons hfirst hothers))

theorem yields_disjunction : Yields Complete (disjunction again) :=
  yields_joinedBy (yields_joinedBy (yields_inversion hagain) _) _

theorem yields_whole : Yields Complete (whole again) := by
  refine .skip fun _ => .ite (yields_lambda hagain) ?_
  refine .bind (yields_disjunction hagain) fun found hfound => .skip fun _ => .ite ?_ (.pure hfound)
  refine .bind (yields_disjunction hagain) fun test htest => .skip fun _ => ?_
  exact .bind (hagain _) fun other hother =>
    .pure (complete_other (.cons htest (.cons hfound (.single hother))))

end

/-- **Expressions are complete**, of whatever level and however deep they are nested. -/
theorem yields_ruleAt (depth : Nat) (level : ExpressionLevel) :
    Yields Complete (ruleAt depth level) := by
  induction depth generalizing level with
  | zero => exact .retreat
  | succ depth ih =>
    cases level with
    | whole => exact yields_whole ih
    | disjunction => exact yields_disjunction ih
    | inversion => exact yields_inversion ih
    | operation => exact yields_operationWith ih _
    | factor => exact yields_factor ih
    | primary => exact yields_primary ih

end Expression

end WorkflowAudit.Code
