import WorkflowAudit.Code.Program
import WorkflowAudit.Proofs.CompleteTrees

/-! # Complete programs

The rules for patterns and statements read complete trees, as those for expressions do, and so the
tree of every program that can be read is complete (`complete_of_parseValue`).
-/
namespace WorkflowAudit.Code

open Node Rule

/-! ## Patterns of cases -/

namespace CasePattern

variable {again : Rule Node} {expressions : Again}

theorem yields_signedNumber : Yields Complete signedNumber := by
  have hconstant : (other "Constant" []).Complete := complete_other .nil
  refine .skip fun negative => .skip fun _ => ?_
  extract_lets constant value
  have hvalue : value.Complete := by
    cases negative with
    | true => exact complete_other (.single hconstant)
    | false => exact hconstant
  refine .skip fun _ => .ite (.ite (.bind .refuse fun _ (h : False) => h.elim) ?_) (.pure hvalue)
  refine .skip fun _ => .skip fun _ => .ite (.pure ?_) .refuse
  exact complete_other (.cons hvalue (.single hconstant))

theorem yields_constant (hexpressions : ∀ level, Yields Complete (expressions level)) :
    Yields Complete (constant expressions) := by
  refine .skip fun next => ?_
  split
  · exact yields_signedNumber
  · exact yields_signedNumber
  · exact Expression.yields_literals hexpressions
  · exact .ite (.skip fun _ => .pure (complete_other .nil)) .retreat
  · exact .retreat

theorem yields_attributes (fuel : Nat) {found : Node} (h : found.Complete) :
    Yields Complete (attributes fuel found) := by
  induction fuel generalizing found with
  | zero => exact .pure h
  | succ fuel ih =>
    refine .skip fun _ => .ite (.skip fun _ => ih ?_) (.pure h)
    exact complete_mk (List.cons_ne_nil _ _) (.single h)

theorem yields_dottedName : Yields Complete dottedName :=
  .skip fun _ => .skip fun fuel => yields_attributes fuel (complete_mk trivial .nil)

section

variable (hagain : Yields Complete again)
include hagain

theorem yields_starred : Yields Complete (starred again) := by
  have hrest : Yields Complete (Pure.pure (Node.mk .starred []) : Rule Node) :=
    .pure (complete_mk trivial .nil)
  exact .skip fun _ => .ite (.skip fun _ => .ite hrest (.skip fun _ => hrest)) hagain

theorem yields_rowUpTo (closer : String) :
    Yields (fun found => AllComplete found.1) (rowUpTo again closer) := by
  refine .skip fun _ => .ite (.pure .nil) ?_
  exact .bind (.commaRow (yields_starred hagain)) fun found hfound => .skip fun _ => .pure hfound.2

theorem yields_classPatterns (fuel : Nat) {positional keyword : List Node}
    (h : AllComplete positional)
    (h' : AllComplete keyword) :
    Yields AllComplete (classPatterns again fuel positional keyword) := by
  induction fuel generalizing positional keyword with
  | zero => exact .retreat
  | succ fuel ih =>
    refine .skip fun _ => .ite (.pure (h.append h')) (.skip fun found => ?_)
    extract_lets behind
    have hbehind : ∀ patterns, AllComplete patterns.1 ∧ AllComplete patterns.2 →
        Yields AllComplete (behind patterns) := fun patterns hpatterns =>
      .skip fun _ => .ite (ih hpatterns.1 hpatterns.2) (.skip fun _ =>
        .pure (hpatterns.1.append hpatterns.2))
    cases found with
    | some id =>
      exact .bind hagain fun pattern hpattern =>
        .bind (.pure ⟨h, h'.append (.single hpattern)⟩) hbehind
    | none =>
      refine .bind hagain fun pattern hpattern => .ite ?_ .retreat_bind
      exact .bind (.pure ⟨h.append (.single hpattern), h'⟩) hbehind

theorem yields_fromName : Yields Complete (fromName again) := by
  refine .skip fun _ => .ite (.pure (complete_other .nil)) ?_
  refine .bind yields_dottedName fun found hfound => .skip fun _ => .ite (.skip fun fuel => ?_) ?_
  · refine .bind (yields_classPatterns hagain _ .nil .nil) fun patterns hpatterns => ?_
    exact .pure (complete_other (.cons hfound hpatterns))
  · refine .skip fun _ => .ite .retreat ?_
    split
    · exact .pure (complete_other (.single hfound))
    · exact .pure (complete_other .nil)

theorem yields_parenthesized : Yields Complete (parenthesized again) := by
  refine .skip fun _ => .bind (yields_rowUpTo hagain _) fun found hfound => ?_
  split
  · exact .ite .retreat (.pure (hfound _ List.mem_cons_self))
  · exact .pure (complete_other hfound)

theorem yields_casePattern : Yields Complete (whole again) := by
  refine .bind (.commaRow (yields_starred hagain)) fun found hfound => ?_
  split
  · exact .ite .retreat (.pure (hfound.2 _ List.mem_cons_self))
  · exact .pure (complete_other hfound.2)

variable (hexpressions : ∀ level, Yields Complete (expressions level))
include hexpressions

theorem yields_mappingEntry :
    Yields (fun entry => entry.1.Complete ∧ entry.2.Complete) (mappingEntry again expressions) := by
  refine .bind (.attempt (yields_constant hexpressions)) fun constant hconstant => ?_
  extract_lets behind
  have hbehind : ∀ key, key.Complete →
      Yields (fun entry => entry.1.Complete ∧ entry.2.Complete) (behind key) := fun key hkey =>
    .skip fun _ => .bind hagain fun _ hvalue => .pure ⟨hkey, hvalue⟩
  cases constant with
  | some found => exact .bind (.pure (hconstant found rfl)) hbehind
  | none =>
    refine .bind yields_dottedName fun found hfound => ?_
    split
    · exact .bind (.pure hfound) hbehind
    · exact .retreat_bind

theorem yields_mapping : Yields Complete (mapping again expressions) := by
  refine .skip fun _ => .bind (.attempt (.commaSeparated (yields_mappingEntry hagain hexpressions)))
    fun found hfound => ?_
  have hentries : ∀ entry ∈ found.getD [], entry.1.Complete ∧ entry.2.Complete := by
    cases found with
    | none => exact fun _ h => absurd h List.not_mem_nil
    | some entries => exact (hfound entries rfl).2
  extract_lets entries finished behind
  have hfinished : Yields Complete (finished ()) := by
    refine .skip fun _ => .pure (complete_other (.append ?_ ?_))
    · exact List.forall_mem_map.mpr fun entry hentry => (hentries entry hentry).1
    · exact List.forall_mem_map.mpr fun entry hentry => (hentries entry hentry).2
  have hbehind : ∀ hasComma, Yields Complete (behind hasComma) := fun hasComma =>
    .ite (.skip fun _ => .ite (.skip fun _ => .skip fun _ => hfinished) hfinished) hfinished
  exact .ite (.skip hbehind) (.skip hbehind)

theorem yields_closed : Yields Complete (closed again expressions) := by
  refine .skip fun next => ?_
  split
  · exact yields_parenthesized hagain
  · refine .skip fun _ => .bind (yields_rowUpTo hagain _) fun found hfound => ?_
    exact .pure (complete_other hfound)
  · exact yields_mapping hagain hexpressions
  · refine .ite (.bind (yields_constant hexpressions) fun found hfound => ?_)
      (yields_fromName hagain)
    exact .pure (complete_other (.single hfound))
  · exact .bind (yields_constant hexpressions) fun _ hfound =>
      .pure (complete_other (.single hfound))

theorem yields_alternatives (fuel : Nat) :
    Yields AllComplete (alternatives again expressions fuel) := by
  induction fuel with
  | zero => exact .pure .nil
  | succ fuel ih =>
    refine .skip fun _ => .ite ?_ (.pure .nil)
    exact .bind (yields_closed hagain hexpressions) fun _ hfound =>
      .bind ih fun _ hrest => .pure (.cons hfound hrest)

theorem yields_pattern : Yields Complete (pattern again expressions) := by
  refine .bind (yields_closed hagain hexpressions) fun first hfirst => .skip fun fuel => ?_
  refine .bind (yields_alternatives hagain hexpressions fuel) fun others hothers => ?_
  extract_lets captured
  have hcaptured : ∀ found, found.Complete → Yields Complete (captured found) := fun found hfound =>
    .skip fun _ => .ite (.skip fun _ => .pure (complete_other (.single hfound))) (.pure hfound)
  split
  · exact .bind (.pure hfirst) hcaptured
  · exact .bind (.pure (complete_other (.cons hfirst hothers))) hcaptured

end

theorem yields_ruleAt (hexpressions : ∀ level, Yields Complete (expressions level)) (depth : Nat) :
    Yields Complete (ruleAt expressions depth) := by
  induction depth with
  | zero => exact .retreat
  | succ depth ih => exact yields_pattern ih hexpressions

end CasePattern

/-! ## Statements -/

namespace Statement

section

variable {expressions : Again} (hexpressions : ∀ level, Yields Complete (expressions level))
include hexpressions

/-! ### Simple statements -/

theorem yields_assigned : Yields Complete (assigned expressions) :=
  .skip fun _ => .ite (Expression.yields_yielded hexpressions) (Expression.yields_row hexpressions)

theorem yields_assignmentBehind (fuel : Nat) {targets : List Node} (h : AllComplete targets) :
    Yields Complete (assignmentBehind expressions fuel targets) := by
  induction fuel generalizing targets with
  | zero => exact .retreat
  | succ fuel ih =>
    refine .skip fun _ => .ite ?_ ?_
    · refine .bind (Expression.yields_yielded hexpressions) fun value hvalue => .skip fun _ =>
        .guarded ?_
      exact .pure (complete_other (h.append (.single hvalue)))
    · refine .bind (Expression.yields_row hexpressions) fun found hfound => .skip fun _ =>
        .ite ?_ ?_
      · exact .guarded (.skip fun _ => ih (h.append (.single hfound)))
      · exact .pure (complete_other (h.append (.single hfound)))

theorem yields_annotationBehind {target : Node} (h : target.Complete) :
    Yields Complete (annotationBehind expressions target) := by
  refine .bind (hexpressions _) fun type htype => .skip fun _ => ?_
  extract_lets annotated
  have hannotated : ∀ value : Option Node, AllComplete value.toList →
      Yields Complete (annotated value) :=
    fun value hvalue => .pure (complete_other (.cons h (.cons htype hvalue)))
  exact .ite (.given (yields_assigned hexpressions) hannotated) (.leftOut hannotated)

theorem yields_assignment : Yields Complete (assignment expressions) := by
  refine .bind (Expression.yields_row hexpressions) fun first hfirst => .skip fun _ => .ite ?_
    (.skip fun _ => .ite ?_ (.skip fun _ => .ite ?_ ?_))
  · exact .guarded (.skip fun _ => yields_annotationBehind hexpressions hfirst)
  · refine .guarded (.skip fun _ => .skip fun fuel => ?_)
    exact yields_assignmentBehind hexpressions _ (.single hfirst)
  · refine .guarded (.skip fun _ => .bind (yields_assigned hexpressions) fun value hvalue => ?_)
    exact .pure (complete_other (.cons hfirst (.single hvalue)))
  · exact .pure (complete_other (.single hfirst))

omit hexpressions in
theorem yields_importModules : Yields Complete importModules := by
  have hany : ∀ rule : Rule String, Yields (fun _ => True) rule := fun _ _ _ _ _ => trivial
  refine .skip fun _ => .bind (.commaSeparated (hany _)) fun names hnames => ?_
  exact .pure (complete_mk hnames.1 .nil)

omit hexpressions in
theorem yields_importedNames : Yields (fun names => names ≠ []) importedNames := by
  have hany : Yields (fun _ => True) importedName := fun _ _ _ _ => trivial
  refine .skip fun _ => .ite (.pure (List.cons_ne_nil _ _)) (.skip fun _ => .ite ?_ ?_)
  · exact .bind (.commaRow hany) fun names hnames => .skip fun _ => .pure hnames.1
  · exact .bind (.commaSeparated hany) fun names hnames => .skip fun _ => .guarded (.pure hnames.1)

omit hexpressions in
theorem yields_importFromModule : Yields Complete importFromModule := by
  refine .skip fun _ => .skip fun points => .skip fun _ => ?_
  extract_lets behind
  have hbehind : ∀ module, Yields Complete (behind module) := fun module =>
    .skip fun _ => .bind yields_importedNames fun names hnames => .pure (complete_mk hnames .nil)
  exact .ite (.skip fun _ => .skip hbehind) (.ite (.skip hbehind) (.skip fun _ => .skip hbehind))

theorem yields_deletion : Yields Complete (deletion expressions) := by
  refine .skip fun _ => .bind (.commaRow (hexpressions _)) fun found hfound => .skip fun next => ?_
  extract_lets deleted
  have hdeleted : ∀ atEnd, Yields Complete (deleted atEnd) :=
    fun atEnd => .ite (.pure (complete_other hfound.2)) .retreat
  split
  · exact .skip hdeleted
  · exact .skip hdeleted
  · exact .skip hdeleted

theorem yields_fromKeyword (word : String) : Yields Complete (fromKeyword expressions word) := by
  have hbare : ∀ label, Yields Complete (Pure.pure (other label []) : Rule Node) :=
    fun label => .pure (complete_other .nil)
  have hwith : ∀ {label : String} {node : Node}, node.Complete → ∀ more, AllComplete more →
      Yields Complete (Pure.pure (other label (node :: more)) : Rule Node) :=
    fun hnode more hmore => .pure (complete_other (.cons hnode hmore))
  unfold fromKeyword
  split
  · exact .skip fun _ => hbare _
  · exact .skip fun _ => hbare _
  · exact .skip fun _ => hbare _
  · refine .skip fun _ => .bind (.attempt (Expression.yields_row hexpressions))
      fun found hfound => ?_
    exact .pure (complete_other (.toList hfound))
  · refine .skip fun _ => .bind (.attempt (hexpressions _)) fun found hfound => ?_
    cases found with
    | none => exact hbare _
    | some raised => exact .skip fun _ => .atMostOne (hexpressions _) (hwith (hfound raised rfl))
  · exact .skip fun _ => .skip fun _ => hbare _
  · exact .skip fun _ => .skip fun _ => hbare _
  · exact yields_deletion hexpressions
  · refine .skip fun _ => .bind (hexpressions _) fun test htest => .skip fun _ => ?_
    exact .atMostOne (hexpressions _) (hwith htest)
  · exact yields_importModules
  · exact yields_importFromModule
  · exact .bind (Expression.yields_yielded hexpressions) fun found hfound => hwith hfound [] .nil
  · exact yields_assignment hexpressions

theorem yields_simple : Yields Complete (simple expressions) := by
  refine .skip fun next => ?_
  split
  · exact yields_fromKeyword hexpressions _
  · exact yields_assignment hexpressions

theorem yields_simpleLine : Yields AllComplete (simpleLine expressions) := by
  refine .bind (yields_simple hexpressions) fun first hfirst => ?_
  refine .bind (.many (.skip fun _ => yields_simple hexpressions)) fun more hmore => ?_
  exact .skip fun _ => .skip fun _ => .pure (.cons hfirst hmore)

/-! ### Blocks -/

omit hexpressions in
theorem yields_untilDedent {again : Rule (List Node)} (h : Yields AllComplete again) (fuel : Nat) :
    Yields AllComplete (untilDedent again fuel) := by
  induction fuel with
  | zero => exact .retreat
  | succ fuel ih =>
    refine .bind h fun found hfound => .skip fun next => ?_
    split
    · exact .skip fun _ => .pure hfound
    · exact .bind ih fun rest hrest => .pure (hfound.append hrest)

variable {again : Rule (List Node)} (hagain : Yields AllComplete again)
include hagain

theorem yields_block : Yields AllComplete (block again expressions) := by
  refine .skip fun _ => .ite (.skip fun _ => .skip fun fuel => ?_) (yields_simpleLine hexpressions)
  exact yields_untilDedent hagain _

theorem yields_colonBlock : Yields AllComplete (colonBlock again expressions) :=
  .skip fun _ => yields_block hexpressions hagain

theorem yields_otherwise : Yields AllComplete (otherwise again expressions) :=
  .skip fun _ => .ite (yields_colonBlock hexpressions hagain) (.pure .nil)

/-! ### Statements with blocks -/

theorem yields_conditional (fuel : Nat) : Yields Complete (conditional again expressions fuel) := by
  induction fuel with
  | zero => exact .retreat
  | succ fuel ih =>
    refine .bind (Expression.yields_named hexpressions) fun test htest => ?_
    refine .bind (yields_colonBlock hexpressions hagain) fun body hbody => .skip fun _ => ?_
    extract_lets behind
    have hbehind : ∀ rest, AllComplete rest → Yields Complete (behind rest) := fun rest hrest =>
      .pure (complete_mk (List.cons_ne_nil _ _) (.append (.cons htest hbody) hrest))
    refine .ite (.bind ih fun found hfound => .bind (.pure (.single hfound)) hbehind) ?_
    exact .bind (yields_otherwise hexpressions hagain) hbehind

theorem yields_whileLoop : Yields Complete (whileLoop again expressions) := by
  refine .bind (Expression.yields_named hexpressions) fun test htest => ?_
  refine .bind (yields_colonBlock hexpressions hagain) fun body hbody => ?_
  exact .bind (yields_otherwise hexpressions hagain) fun rest hrest =>
    .pure (complete_other (.append (.cons htest hbody) hrest))

theorem yields_forLoop (label : String) : Yields Complete (forLoop again expressions label) := by
  refine .bind (Expression.yields_targets hexpressions) fun target htarget => .skip fun _ => ?_
  refine .bind (Expression.yields_row hexpressions) fun source hsource => ?_
  refine .bind (yields_colonBlock hexpressions hagain) fun body hbody => ?_
  exact .bind (yields_otherwise hexpressions hagain) fun rest hrest =>
    .pure (complete_other (.append (.cons htarget (.cons hsource hbody)) hrest))

omit hagain in
theorem yields_context : Yields Complete (context expressions) := by
  refine .bind (hexpressions _) fun found hfound => .skip fun _ => .ite ?_ ?_
  · refine .bind (Expression.yields_target hexpressions) fun target htarget => .skip fun _ =>
      .ite ?_ .retreat
    exact .pure (complete_other (.cons hfound (.single htarget)))
  · exact .pure (complete_other (.single hfound))

omit hagain in
theorem yields_contexts : Yields AllComplete (contexts expressions) := by
  have hgrouped : Yields AllComplete (do
      expect "("
      let found ← commaRow (context expressions)
      expect ")"
      expect ":"
      return found.1) := by
    refine .skip fun _ => .bind (.commaRow (yields_context hexpressions)) fun found hfound => ?_
    exact .skip fun _ => .skip fun _ => .pure hfound.2
  refine .bind (.attempt hgrouped) fun grouped hgrouped => ?_
  cases grouped with
  | some found => exact .pure (hgrouped found rfl)
  | none =>
    refine .bind (.commaSeparated (yields_context hexpressions)) fun found hfound => ?_
    exact .skip fun _ => .pure hfound.2

theorem yields_withBlock (label : String) : Yields Complete (withBlock again expressions label) :=
  .bind (yields_contexts hexpressions) fun _ hfound =>
    .bind (yields_block hexpressions hagain) fun _ hbody =>
      .pure (complete_other (hfound.append hbody))

omit hagain in
theorem yields_handled : Yields Complete (handled expressions) :=
  .bind (hexpressions _) fun _ hfound => .skip fun _ => .pure hfound

theorem yields_handler (isGroup : Bool) : Yields Complete (handler again expressions isGroup) := by
  refine .skip fun _ => ?_
  extract_lets behind handling
  have hbehind : ∀ kind, AllComplete kind → Yields Complete (behind kind) := fun kind hkind =>
    .bind (yields_colonBlock hexpressions hagain) fun _ hbody =>
      .pure (complete_other (hkind.append hbody))
  have hhandling : Yields Complete (handling ()) := by
    refine .skip fun _ => .ite (.ite .retreat_bind (.bind (.pure .nil) hbehind)) ?_
    exact .bind (yields_handled hexpressions) fun kind hkind =>
      .bind (.pure (.single hkind)) hbehind
  exact .ite (.skip fun _ => hhandling) hhandling

theorem yields_handlers (isGroup : Bool) (fuel : Nat) :
    Yields AllComplete (handlers again expressions isGroup fuel) := by
  induction fuel with
  | zero => exact .pure .nil
  | succ fuel ih =>
    refine .skip fun _ => .ite ?_ (.pure .nil)
    exact .bind (yields_handler hexpressions hagain isGroup) fun _ hfound =>
      .bind ih fun _ hrest => .pure (.cons hfound hrest)

theorem yields_guardedBlock : Yields Complete (guardedBlock again expressions) := by
  have hblock := yields_colonBlock hexpressions hagain
  refine .bind hblock fun body hbody => .skip fun _ => .ite ?_ (.skip fun _ => .ite .refuse ?_)
  · exact .bind hblock fun final hfinal => .pure (complete_other (hbody.append hfinal))
  · refine .skip fun isGroup => ?_
    refine .bind (yields_handler hexpressions hagain isGroup) fun first hfirst =>
      .skip fun fuel => ?_
    refine .bind (yields_handlers hexpressions hagain isGroup fuel) fun others hothers => ?_
    refine .bind (yields_otherwise hexpressions hagain) fun rest hrest => .skip fun _ => ?_
    extract_lets behind
    have hbehind : ∀ final, AllComplete final → Yields Complete (behind final) :=
        fun final hfinal =>
      .pure (complete_other (((hbody.append (.cons hfirst hothers)).append hrest).append hfinal))
    exact .ite (.bind hblock hbehind) (.bind (.pure .nil) hbehind)

theorem yields_function (kind : String → NodeKind) (hkind : ∀ id parts, (kind id).Fits parts)
    {decorators : List Node} (h : AllComplete decorators) :
    Yields Complete (function again expressions kind decorators) := by
  refine .skip fun _ => .skip fun _ => ?_
  refine .bind (Expression.yields_parameters hexpressions _ _) fun parameters hparameters => ?_
  refine .skip fun _ => .skip fun _ => .atMostOne (hexpressions _) fun result hresult => ?_
  refine .bind (yields_colonBlock hexpressions hagain) fun body hbody =>
    .pure (complete_mk (hkind _ _) ?_)
  exact .append (.append (.cons hparameters hbody) h) hresult

theorem yields_classDefinition {decorators : List Node} (h : AllComplete decorators) :
    Yields Complete (classDefinition again expressions decorators) := by
  refine .skip fun _ => .skip fun _ => ?_
  extract_lets behind
  have hbehind : ∀ bases, Expression.ArgumentsComplete bases → Yields Complete (behind bases) := by
    refine fun bases hbases => .bind (yields_colonBlock hexpressions hagain) fun body hbody => ?_
    exact .pure (complete_other
      (((hbases.positional.append hbases.keywords).append hbody).append h))
  exact .ite (.bind (Expression.yields_classArguments hexpressions) hbehind)
    (.bind (.pure Expression.argumentsComplete_empty) hbehind)

theorem yields_asynchronous {decorators : List Node} (h : AllComplete decorators) :
    Yields Complete (asynchronous again expressions decorators) := by
  refine .skip fun _ => .skip fun _ => .ite ?_
    (.ite .retreat (.skip fun _ => .ite ?_ (.skip fun _ => .ite ?_ .retreat)))
  · exact yields_function hexpressions hagain (fun _ => .other "AsyncFunctionDef")
      (fun _ _ => trivial) h
  · exact yields_forLoop hexpressions hagain _
  · exact yields_withBlock hexpressions hagain _

theorem yields_decorated : Yields Complete (decorated again expressions) := by
  have hdecorator : Yields Complete (do
      expect "@"
      let found ← Expression.named expressions
      expectNewline
      return found) :=
    .skip fun _ => .bind (Expression.yields_named hexpressions) fun _ hfound => .skip fun _ =>
      .pure hfound
  refine .bind (.many hdecorator) fun decorators hdecorators => .ite .retreat ?_
  refine .skip fun _ => .ite ?_ (.skip fun _ => .ite ?_ ?_)
  · exact yields_function hexpressions hagain .function (fun _ _ => trivial) hdecorators
  · exact yields_classDefinition hexpressions hagain hdecorators
  · exact yields_asynchronous hexpressions hagain hdecorators

/-! ### Choices -/

omit hagain in
theorem yields_subject : Yields Complete (subject expressions) := by
  refine .bind (.commaRow (Expression.yields_starredNamed hexpressions)) fun found hfound => ?_
  split
  · exact .ite .retreat (.pure (hfound.2 _ List.mem_cons_self))
  · exact .pure (complete_mk trivial hfound.2)

omit hagain in
theorem yields_choiceHead : Yields Complete (choiceHead expressions) := by
  refine .bind (yields_subject hexpressions) fun found hfound => .skip fun next => ?_
  split
  · exact .skip fun _ => .retreat
  · exact .skip fun _ => .skip fun _ => .pure hfound

variable {patterns : Rule Node} (hpatterns : Yields Complete patterns)
include hpatterns

theorem yields_case : Yields Complete (case again expressions patterns) := by
  refine .skip fun _ => .bind (CasePattern.yields_casePattern hpatterns) fun pattern hpattern => ?_
  refine .skip fun _ => .atMostOne (Expression.yields_named hexpressions) fun guard hguard => ?_
  exact .bind (yields_colonBlock hexpressions hagain) fun body hbody =>
    .pure (complete_other (.append (.cons hpattern hguard) hbody))

theorem yields_cases (fuel : Nat) : Yields AllComplete (cases again expressions patterns fuel) := by
  induction fuel with
  | zero => exact .retreat
  | succ fuel ih =>
    refine .bind (yields_case hexpressions hagain hpatterns) fun found hfound =>
      .skip fun next => ?_
    split
    · exact .skip fun _ => .pure (.single hfound)
    · exact .bind ih fun rest hrest => .pure (.cons hfound hrest)

theorem yields_choice :
    Yields (fun found => ∀ node, found = some node → node.Complete)
    (choice again expressions patterns) := by
  refine .bind (.attempt (.skip fun _ => yields_choiceHead hexpressions)) fun head hhead => ?_
  cases head with
  | none => exact .pure fun node h => (by cases h)
  | some found =>
    refine .skip fun _ => .skip fun fuel => ?_
    refine .bind (yields_cases hexpressions hagain hpatterns _) fun found' hfound => .pure ?_
    rintro node ⟨⟩
    exact complete_other (.cons (hhead found rfl) hfound)

theorem yields_statement : Yields AllComplete (statement again expressions patterns) := by
  have hfunction : Yields Complete (function again expressions NodeKind.function []) :=
    yields_function hexpressions hagain .function (fun _ _ => trivial) .nil
  have hsingle : ∀ {rule : Rule Node}, Yields Complete rule →
      Yields AllComplete (rule >>= fun found => Pure.pure [found]) :=
    fun hrule => .bind hrule fun _ hfound => .pure (.single hfound)
  refine .skip fun next => ?_
  split
  · exact hsingle (yields_decorated hexpressions hagain)
  · exact .skip fun _ => .skip fun _ => hsingle (yields_conditional hexpressions hagain _)
  · exact .skip fun _ => hsingle (yields_whileLoop hexpressions hagain)
  · exact .skip fun _ => hsingle (yields_forLoop hexpressions hagain _)
  · exact .skip fun _ => hsingle (yields_withBlock hexpressions hagain _)
  · exact .skip fun _ => hsingle (yields_guardedBlock hexpressions hagain)
  · exact .skip fun _ => hsingle hfunction
  · exact .skip fun _ => hsingle (yields_classDefinition hexpressions hagain .nil)
  · exact hsingle (yields_asynchronous hexpressions hagain .nil)
  · refine .bind (yields_choice hexpressions hagain hpatterns) fun found hfound => ?_
    cases found with
    | some node => exact .pure (.single (hfound node rfl))
    | none => exact yields_simpleLine hexpressions
  · exact yields_simpleLine hexpressions

end

theorem yields_ruleAt {expressions : Again} {patterns : Rule Node}
    (hexpressions : ∀ level, Yields Complete (expressions level))
    (hpatterns : Yields Complete patterns)
    (depth : Nat) : Yields AllComplete (ruleAt expressions patterns depth) := by
  induction depth with
  | zero => exact .retreat
  | succ depth ih => exact yields_statement hexpressions ih hpatterns

theorem yields_untilFinish {rule : Rule (List Node)} (h : Yields AllComplete rule) (fuel : Nat) :
    Yields AllComplete (untilFinish rule fuel) := by
  induction fuel with
  | zero => exact .retreat
  | succ fuel ih =>
    refine .skip fun next => ?_
    split
    · exact .pure .nil
    · exact .bind h fun found hfound => .bind ih fun rest hrest => .pure (hfound.append hrest)

end Statement

/-! ## Programs -/

theorem yields_program (depth : Nat) : Yields Complete (program depth) := by
  have hexpressions := Expression.yields_ruleAt depth
  have hstatements := Statement.yields_ruleAt hexpressions
      (CasePattern.yields_ruleAt hexpressions depth) depth
  refine .skip fun fuel => .bind (Statement.yields_untilFinish hstatements _) fun statements h => ?_
  exact .pure (complete_other h)

/-- **The trees of programs are complete**: all their nodes have the parts and names that they
need. -/
theorem complete_of_parseValue {code : Value} {tree : Node} (h : parseValue code = .ok tree) :
    tree.Complete := by
  cases code with
  | text s =>
    have hparse : parse s.toList = .ok tree := by
      change (parse s.toList).mapError Failure.code = .ok tree at h
      cases hresult : parse s.toList with
      | error problem =>
        rw [hresult] at h
        cases h
      | ok found =>
        rw [hresult] at h
        cases h
        rfl
    unfold parse at hparse
    split at hparse
    · cases hparse
    · dsimp only at hparse
      split at hparse
      · rename_i hprogram
        cases hparse
        exact yields_program _ _ _ _ hprogram
      · cases hparse
  | _ => cases h

end WorkflowAudit.Code
