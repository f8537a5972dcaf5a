import WorkflowAudit.Proofs.CompletePrograms
import WorkflowAudit.Proofs.Imports

/-! # Statistics accumulate

Each node of a tree adds something to statistics that does not depend on what was collected before
(`Node.collected`, `Node.importsFound`).  Adding is `Statistics.merge`: lists are appended, and the
names of a module take the place of those it had.  It is associative (`override_assoc`,
`merge_assoc`), so a scan adds to any statistics what it finds on its own, whether it fails or not,
and a row of scans adds what its scans find one after the other (`statistics_accumulate`).

What the scans do is said of every tree first (`scan_complete_iff`, `scan_extended`,
`scanImports_extended`, `modules_scanImports`, `namesOf?_scanImports_eq_or`); programs come in with
the tree that they are parsed to.
-/
namespace WorkflowAudit.Code

open Node

namespace Statistics

/-! ## Entries over entries -/

section

variable (module other : Option String) (names : List String)
  (entries old new : List (Option String × List String))

/-- The entries of all modules but one. -/
def without : List (Option String × List String) :=
  entries.filter (·.1 != module)

/-- New entries over old ones.  A module that had an entry keeps its place, and the other new ones
follow. -/
def override : (old new : List (Option String × List String)) → List (Option String × List String)
  | [], new => new
  | (module, names) :: old, new =>
    (module, (new.lookup module).getD names) :: override old (without module new)

theorem without_cons_self :
    without module ((module, names) :: entries) = without module entries := by
  simp [without]

variable {module other} in
theorem without_cons_ne (h : other ≠ module) :
    without module ((other, names) :: entries) = (other, names) :: without module entries := by
  simp [without, h]

theorem without_without : without module (without module entries) = without module entries := by
  simp [without, List.filter_filter]

theorem without_comm :
    without module (without other entries) = without other (without module entries) := by
  simp only [without, List.filter_filter, Bool.and_comm]

theorem lookup_without :
    (without module entries).lookup other =
      if other = module then none else entries.lookup other := by
  induction entries with
  | nil => simp [without]
  | cons entry rest ih =>
    obtain ⟨first, names⟩ := entry
    by_cases hfirst : first = module
    · subst hfirst
      rw [without_cons_self, ih, lookup_entry_cons]
      by_cases h : other = first <;> simp [h]
    · rw [without_cons_ne _ _ hfirst, lookup_entry_cons, lookup_entry_cons, ih]
      by_cases h : other = first
      · simp [h, hfirst]
      · simp [h]

theorem override_nil : override old [] = old := by
  induction old with
  | nil => rfl
  | cons entry rest ih =>
    simp only [override, without, List.filter_nil, List.lookup_nil, ih, Option.getD_none]

/-- A module has its new names, and its old ones if there are none. -/
theorem lookup_override :
    (override old new).lookup module = (new.lookup module).or (old.lookup module) := by
  induction old generalizing new with
  | nil => simp [override]
  | cons entry rest ih =>
    obtain ⟨first, names⟩ := entry
    rw [override, lookup_entry_cons, lookup_entry_cons, ih, lookup_without]
    by_cases h : module = first
    · subst h
      cases new.lookup module <;> simp
    · simp [h]

/-- The modules of the old entries come first, and then the new ones that are not among them. -/
theorem map_override :
    (override old new).map (·.1) =
      old.map (·.1) ++ (new.map (·.1)).filter fun module => module ∉ old.map (·.1) := by
  induction old generalizing new with
  | nil => simp [override]
  | cons entry rest ih =>
    obtain ⟨first, names⟩ := entry
    have hwithout : (without first new).map (·.1) = (new.map (·.1)).filter (· != first) := by
      rw [List.filter_map]
      rfl
    rw [override, List.map_cons, ih, hwithout, List.filter_filter, List.map_cons, List.cons_append]
    simp [Bool.and_comm, bne, Bool.beq_eq_decide_eq]

/-- Leaving out a module goes through both. -/
theorem without_override :
    without module (override old new) = override (without module old) (without module new) := by
  induction old generalizing new with
  | nil => rfl
  | cons entry rest ih =>
    obtain ⟨first, names⟩ := entry
    by_cases h : first = module
    · subst h
      rw [override, without_cons_self, without_cons_self, ih, without_without]
    · rw [override, without_cons_ne _ _ h, without_cons_ne _ _ h, override, ih,
        lookup_without, if_neg h, without_comm]

theorem override_assoc (newest : List (Option String × List String)) :
    override (override old new) newest = override old (override new newest) := by
  induction old generalizing new newest with
  | nil => rfl
  | cons entry rest ih =>
    obtain ⟨first, names⟩ := entry
    -- the first module has its newest names on either side, and is left out of the rest
    rw [override, override, override, ih, lookup_override, without_override]
    cases newest.lookup first <;> rfl

theorem setModule_eq_override :
    setModule module names entries = override entries [(module, names)] := by
  induction entries with
  | nil => rfl
  | cons entry rest ih =>
    obtain ⟨first, old⟩ := entry
    rw [setModule, override, lookup_entry_cons]
    by_cases h : first = module
    · subst h
      rw [without_cons_self]
      simp [without, override_nil]
    · rw [without_cons_ne _ _ (Ne.symm h), ih]
      simp [h, without]

end

/-! ## Statistics added to statistics -/

/-- Statistics with others added to them. -/
def merge (stats more : Statistics) : Statistics where
  imports := stats.imports ++ more.imports
  fromModules := override stats.fromModules more.fromModules
  conditions := stats.conditions ++ more.conditions
  functions := stats.functions ++ more.functions
  inputs := stats.inputs ++ more.inputs
  opens := stats.opens ++ more.opens
  calls := stats.calls ++ more.calls

/-- How many entries statistics have, in all lists together. -/
def size (stats : Statistics) : Nat :=
  stats.imports.length + stats.fromModules.length + stats.conditions.length +
    stats.functions.length + stats.inputs.length + stats.opens.length + stats.calls.length

/-- Statistics with the lists of others, one after the other, behind their own; the names from
modules stay as they are. -/
def extended (stats : Statistics) (news : List Statistics) : Statistics where
  imports := stats.imports ++ news.flatMap (·.imports)
  fromModules := stats.fromModules
  conditions := stats.conditions ++ news.flatMap (·.conditions)
  functions := stats.functions ++ news.flatMap (·.functions)
  inputs := stats.inputs ++ news.flatMap (·.inputs)
  opens := stats.opens ++ news.flatMap (·.opens)
  calls := stats.calls ++ news.flatMap (·.calls)

@[simp] theorem merge_empty (stats : Statistics) : stats.merge {} = stats := by
  simp only [merge, override_nil, List.append_nil]

theorem merge_assoc (first second third : Statistics) :
    (first.merge second).merge third = first.merge (second.merge third) := by
  simp only [merge, override_assoc, List.append_assoc]

instance : Std.Associative merge := ⟨merge_assoc⟩

/-- What is added step by step can be added at once. -/
theorem foldl_merge (stats : Statistics) (news : List Statistics) :
    news.foldl merge stats = stats.merge (news.foldl merge {}) :=
  calc
    news.foldl merge stats = news.foldl merge (stats.merge {}) := by rw [merge_empty]
    _ = stats.merge (news.foldl merge {}) := List.foldl_assoc

theorem foldl_merge_eq_extended (stats : Statistics) {news : List Statistics}
    (h : ∀ new ∈ news, new.fromModules = []) : news.foldl merge stats = stats.extended news := by
  induction news generalizing stats with
  | nil => simp [extended]
  | cons new rest ih =>
    obtain ⟨hnew, hrest⟩ := List.forall_mem_cons.mp h
    rw [List.foldl_cons, ih _ hrest]
    simp only [extended, merge, hnew, override_nil, List.flatMap_cons, List.append_assoc]

end Statistics

/-! ## What a node adds -/

namespace Node

open Statistics

/-- What the scan for imports finds at a node. -/
def importsFound (node : Node) : Statistics where
  imports := node.importedNames
  fromModules := node.importedFrom?.toList

/-- What the full scan finds at a call of a node. -/
def collectedWhenCalled : Node → Statistics
  | .mk (.name id line) _ =>
    if id == "input" || id == "raw_input" then { inputs := [line] }
    else if id == "open" then { opens := [line] }
    else { calls := [id] }
  | .mk .attributeOf (owner :: _) => { calls := [shown owner] }
  | _ => {}

/-- What the full scan finds at a node. -/
def collected : Node → Statistics
  | .mk .condition (test :: _) => { conditions := [shown test] }
  | .mk (.function name) _ => { functions := [name] }
  | .mk .call (called :: _) => called.collectedWhenCalled
  | .mk (.importNames names) _ => { imports := names }
  | _ => {}

/-- A node is a conditional statement, a function, or a call of a name or an attribute. -/
def isNoted : Node → Bool
  | .mk .condition _ | .mk (.function _) _ => true
  | .mk .call (.mk (.name _ _) _ :: _) | .mk .call (.mk .attributeOf _ :: _) => true
  | _ => false

/-- The nodes of a tree in order, up to the first import from a module. -/
def upToImportFrom (tree : Node) : List Node :=
  tree.breadthFirst.takeWhile fun node => node.importedFrom?.isNone

theorem fromModules_collected (node : Node) : node.collected.fromModules = [] := by
  unfold collected
  split
  · rfl
  · rfl
  · unfold collectedWhenCalled
    split
    · split
      · rfl
      · split <;> rfl
    · rfl
    · rfl
  · rfl
  · rfl

theorem size_collectedWhenCalled_name (id : String) (line : Nat) (parts : List Node) :
    (collectedWhenCalled (.mk (.name id line) parts)).size = 1 ∧
      (collectedWhenCalled (.mk (.name id line) parts)).imports = [] := by
  unfold collectedWhenCalled
  dsimp only
  split
  · exact ⟨rfl, rfl⟩
  · split
    · exact ⟨rfl, rfl⟩
    · exact ⟨rfl, rfl⟩

/-- In a complete tree each node that is noted adds one thing, to a list other than that of
imports. -/
theorem size_collected {node : Node} (hcomplete : node.Complete) (h : node.isNoted = true) :
    node.collected.size = 1 ∧ node.collected.imports = [] := by
  obtain ⟨kind, parts⟩ := node
  have hfits : kind.Fits parts := hcomplete _ .root
  cases kind with
  | condition =>
    obtain ⟨test, rest, rfl⟩ := List.exists_cons_of_ne_nil hfits
    exact ⟨rfl, rfl⟩
  | function name => exact ⟨rfl, rfl⟩
  | call =>
    obtain ⟨⟨kind, parts⟩, rest, rfl⟩ := List.exists_cons_of_ne_nil hfits
    -- an attribute that is called needs an owner, so the part has to be complete as well
    have hfits : kind.Fits parts := hcomplete (.mk kind parts) (.part List.mem_cons_self .root)
    cases kind with
    | name id line => exact size_collectedWhenCalled_name id line parts
    | attributeOf =>
      obtain ⟨owner, rest, rfl⟩ := List.exists_cons_of_ne_nil hfits
      exact ⟨rfl, rfl⟩
    | _ => cases h
  | _ => cases h

/-- A node that is not noted adds the modules that it imports. -/
theorem collected_of_not_isNoted {node : Node} (h : node.isNoted = false) :
    node.collected = { imports := node.importedNames } := by
  obtain ⟨kind, parts⟩ := node
  cases kind with
  | condition => cases h
  | function name => cases h
  | call =>
    cases parts with
    | nil => rfl
    | cons called rest =>
      obtain ⟨kind, parts⟩ := called
      cases kind with
      | name id line => cases h
      | attributeOf => cases h
      | _ => rfl
  | _ => rfl

/-- What a node of a complete tree adds. -/
theorem collected_cases {node : Node} (hcomplete : node.Complete) :
    if node.isNoted then node.collected.size = 1 ∧ node.collected.imports = []
    else node.collected = { imports := node.importedNames } := by
  split
  · exact size_collected hcomplete ‹_›
  · exact collected_of_not_isNoted (Bool.not_eq_true _ ▸ ‹_›)

end Node

namespace Statistics

/-! ## The scan for imports -/

theorem addImports_eq (stats : Statistics) (node : Node) :
    stats.addImports node = stats.merge node.importsFound := by
  obtain ⟨kind, parts⟩ := node
  cases kind with
  | importNames names =>
    simp [addImports, merge, importsFound, importedNames, importedFrom?, Node.kind, override_nil]
  | importFrom module names =>
    simp [addImports, merge, importsFound, importedNames, importedFrom?, Node.kind,
      setModule_eq_override]
  | _ => exact (merge_empty stats).symm

/-- The scan of a tree for imports adds what it finds on its own. -/
theorem scanImports_eq (stats : Statistics) (tree : Node) :
    stats.scanImports tree = stats.merge (({} : Statistics).scanImports tree) := by
  have hfold : ∀ stats : Statistics,
      stats.scanImports tree = (tree.breadthFirst.map importsFound).foldl merge stats := by
    intro stats
    unfold scanImports
    rw [List.foldl_map]
    exact congrArg (fun add => List.foldl add stats tree.breadthFirst)
      (funext fun before => funext (addImports_eq before))
  rw [hfold, hfold, foldl_merge]

/-- The scan for imports appends the modules that nodes import, and leaves the other lists as they
are. -/
theorem foldl_addImports_eq (stats : Statistics) (nodes : List Node) :
    nodes.foldl addImports stats = { stats with
      imports := stats.imports ++ nodes.flatMap importedNames
      fromModules := (nodes.foldl addImports stats).fromModules } := by
  induction nodes generalizing stats with
  | nil => simp
  | cons node rest ih =>
    rw [List.foldl_cons]
    refine (ih (stats.addImports node)).trans ?_
    generalize (rest.foldl addImports (stats.addImports node)).fromModules = entries
    simp [addImports_eq, merge, importsFound]

/-- The scan of a tree for imports leaves its own entries over those before. -/
theorem fromModules_scanImports (stats : Statistics) (tree : Node) :
    (stats.scanImports tree).fromModules =
      override stats.fromModules (({} : Statistics).scanImports tree).fromModules := by
  rw [scanImports_eq stats]
  rfl

theorem scanImports_extended (stats : Statistics) (tree : Node) :
    stats.scanImports tree = { stats with
      imports := stats.imports ++ tree.breadthFirst.flatMap importedNames
      fromModules := override stats.fromModules
        (({} : Statistics).scanImports tree).fromModules } := by
  rw [← fromModules_scanImports]
  exact foldl_addImports_eq stats tree.breadthFirst

/-- Modules that had an entry keep their place, and the others follow. -/
theorem modules_scanImports (stats : Statistics) (tree : Node) :
    (stats.scanImports tree).modules =
      stats.modules ++ (({} : Statistics).scanImports tree).modules.filter (· ∉ stats.modules) := by
  unfold modules
  rw [fromModules_scanImports]
  exact map_override _ _

/-- A module has the names that are found now, if there are any, and otherwise those it had. -/
theorem namesOf?_scanImports_eq_or (stats : Statistics) (tree : Node) (module : Option String) :
    (stats.scanImports tree).namesOf? module =
      ((({} : Statistics).scanImports tree).namesOf? module).or (stats.namesOf? module) := by
  unfold namesOf?
  rw [fromModules_scanImports]
  exact lookup_override module _ _

/-! ## The full scan -/

theorem addCall_eq (stats : Statistics) (called : Node) :
    stats.addCall called = stats.merge called.collectedWhenCalled := by
  obtain ⟨kind, parts⟩ := called
  cases kind with
  | name id line =>
    unfold addCall collectedWhenCalled
    dsimp only
    split
    · simp [merge, override_nil]
    · split
      · simp [merge, override_nil]
      · simp [merge, override_nil]
  | attributeOf =>
    cases parts with
    | nil => exact (merge_empty stats).symm
    | cons owner rest => simp [addCall, collectedWhenCalled, merge, override_nil]
  | _ => exact (merge_empty stats).symm

/-- The full scan adds to any statistics what it finds at a node. -/
theorem addNode?_eq (stats : Statistics) {node : Node} (h : node.importedFrom? = none) :
    stats.addNode? node = some (stats.merge node.collected) := by
  obtain ⟨kind, parts⟩ := node
  cases kind with
  | importFrom module names => cases h
  | importNames names => simp [addNode?, collected, merge, override_nil]
  | function name => simp [addNode?, collected, merge, override_nil]
  | condition =>
    cases parts with
    | nil => exact congrArg some (merge_empty stats).symm
    | cons test rest => simp [addNode?, collected, merge, override_nil]
  | call =>
    cases parts with
    | nil => exact congrArg some (merge_empty stats).symm
    | cons called rest => exact congrArg some (addCall_eq stats called)
  | _ => exact congrArg some (merge_empty stats).symm

theorem addNodes_eq (stats : Statistics) (nodes : List Node) :
    (stats.addNodes nodes).1 =
      ((nodes.takeWhile fun node => node.importedFrom?.isNone).map collected).foldl merge
        stats := by
  induction nodes generalizing stats with
  | nil => rfl
  | cons node rest ih =>
    unfold addNodes
    cases hfrom : node.importedFrom? with
    | some found =>
      rw [addNode?_of_importedFrom? hfrom, List.takeWhile_cons_of_neg (by simp [hfrom])]
      rfl
    | none =>
      rw [addNode?_eq stats hfrom, List.takeWhile_cons_of_pos (by simp [hfrom])]
      exact ih _

theorem scan_eq (stats : Statistics) (tree : Node) :
    (stats.scan tree).1 = (tree.upToImportFrom.map collected).foldl merge stats :=
  addNodes_eq stats tree.breadthFirst

/-- The full scan of a tree adds what it finds on its own. -/
theorem scan_merge (stats : Statistics) (tree : Node) :
    (stats.scan tree).1 = stats.merge (({} : Statistics).scan tree).1 := by
  rw [scan_eq, scan_eq, foldl_merge]

/-- No node that the full scan takes in has names from a module, so these stay as they are. -/
theorem scan_extended (stats : Statistics) (tree : Node) :
    (stats.scan tree).1 = stats.extended (tree.upToImportFrom.map collected) := by
  rw [scan_eq]
  exact foldl_merge_eq_extended stats (List.forall_mem_map.mpr fun node _ =>
    fromModules_collected node)

theorem scan_complete_iff (stats : Statistics) (tree : Node) :
    (stats.scan tree).2 = true ↔ tree.upToImportFrom = tree.breadthFirst := by
  obtain ⟨-, -, hend⟩ := addNodes_imports stats tree.breadthFirst
  unfold scan upToImportFrom
  rw [hend, List.takeWhile_eq_self_iff]
  simp only [Option.isNone_iff_eq_none]

/-! ## Requests -/

namespace Request

/-- What statistics are after a request, and its failure if it fails. -/
def outcome (stats : Statistics) : Request → Statistics × Option Failure
  | .scan code => stats.scanCode code
  | .scanImports code => stats.scanCodeImports code
  | .report =>
    match Json.write stats.toValue with
    | .ok _ => (stats, none)
    | .error failure => (stats, some failure)

/-- What a request finds on its own. -/
def contribution (request : Request) : Statistics :=
  (request.outcome {}).1

@[simp] theorem outcome_report (stats : Statistics) : (report.outcome stats).1 = stats := by
  unfold outcome
  dsimp only
  split <;> rfl

/-- A request adds to any statistics what it finds on its own, also when it fails. -/
theorem outcome_eq (stats : Statistics) (request : Request) :
    (request.outcome stats).1 = stats.merge request.contribution := by
  cases request with
  | scan code =>
    change (stats.scanCode code).1 = stats.merge (({} : Statistics).scanCode code).1
    cases h : parseValue code with
    | error failure =>
      unfold scanCode
      rw [h]
      exact (merge_empty stats).symm
    | ok tree =>
      rw [scanCode_eq stats h, scanCode_eq {} h]
      exact scan_merge stats tree
  | scanImports code =>
    change (stats.scanCodeImports code).1 = stats.merge (({} : Statistics).scanCodeImports code).1
    cases h : parseValue code with
    | error failure =>
      unfold scanCodeImports
      rw [h]
      exact (merge_empty stats).symm
    | ok tree =>
      rw [scanCodeImports_eq stats h, scanCodeImports_eq {} h]
      exact scanImports_eq stats tree
  | report =>
    rw [contribution, outcome_report, outcome_report]
    exact (merge_empty stats).symm

end Request

/-- Printing statistics fails as writing them does. -/
theorem says_report (stats : Statistics) (s : Session) :
    (try stats.report; pure (stats, none) catch failure => pure (stats, some failure)
      : Audit (Statistics × Option Failure)).Says s (Request.report.outcome stats) := by
  unfold report Request.outcome
  cases Json.write stats.toValue with
  | ok text => exact Audit.Says.tryCatch (.bind (.say _) fun _ => .pure _)
  | error failure =>
    refine ⟨[], ?_⟩
    rw [Session.printed_nil]
    rfl

theorem serve_cons (stats : Statistics) (request : Request) (rest : List Request)
    {outcomes : List (Statistics × Option Failure)}
    (h : ∀ s, (serve (request.outcome stats).1 rest).Says s outcomes) (s : Session) :
    (serve stats (request :: rest)).Says s (request.outcome stats :: outcomes) := by
  cases request with
  | scan code => exact .bind (.pure _) fun _ => .bind (h _) fun _ => .pure _
  | scanImports code => exact .bind (.pure _) fun _ => .bind (h _) fun _ => .pure _
  | report =>
    exact .bind (says_report stats s) fun _ => .bind (h _) fun _ => .pure _

/-- Serving requests only prints, and each leaves the statistics before it with what it finds on its
own added to them. -/
theorem exists_outcomes (stats : Statistics) (requests : List Request) :
    ∃ outcomes, (∀ s, (serve stats requests).Says s outcomes) ∧
      stats :: outcomes.map (·.1) = (requests.map Request.contribution).scanl merge stats := by
  induction requests generalizing stats with
  | nil => exact ⟨[], fun s => .pure [], rfl⟩
  | cons request rest ih =>
    obtain ⟨outcomes, hserve, hstats⟩ := ih (request.outcome stats).1
    refine ⟨request.outcome stats :: outcomes, serve_cons stats request rest hserve, ?_⟩
    rw [List.map_cons, hstats, List.map_cons, List.scanl_cons, request.outcome_eq stats]

/-! ## Accumulation -/

/-- **Statistics accumulate.**  Take any statistics and the tree of a program, whose nodes come in
the order of a queue.

The full scan fails exactly if the nodes up to the first import from a module are not all nodes.  In
either case it leaves the names from modules as they are, and puts behind each of the other lists
what these nodes add, node by node.  A conditional statement, a function, and a call of a name or an
attribute add one thing to one list; any other node adds the modules that it imports.

The scan for imports does not fail.  It appends the modules that are imported, and puts the entries
that it finds on its own over those before: modules that had an entry keep their place, the others
follow, and each module has the names found now, if there are any, and otherwise those it had.

So after each of any requests the statistics are those before all of them, with what each request
finds on its own added one after the other. -/
theorem statistics_accumulate (stats : Statistics) {code : Value} {tree : Node}
    (h : parseValue code = .ok tree) :
    Served [tree] tree.breadthFirst ∧
    ((stats.scanCode code).2 = none ↔ tree.upToImportFrom = tree.breadthFirst) ∧
    (tree.upToImportFrom ≠ tree.breadthFirst →
      (stats.scanCode code).2 = some (.noAttribute "dict" "append")) ∧
    (stats.scanCode code).1 = stats.extended (tree.upToImportFrom.map collected) ∧
    (∀ node : Node, node.Within tree →
      if node.isNoted then node.collected.size = 1 ∧ node.collected.imports = []
      else node.collected = { imports := node.importedNames }) ∧
    (stats.scanCodeImports code).2 = none ∧
    (stats.scanCodeImports code).1 = { stats with
      imports := stats.imports ++ tree.breadthFirst.flatMap importedNames
      fromModules := override stats.fromModules
        (({} : Statistics).scanCodeImports code).1.fromModules } ∧
    (stats.scanCodeImports code).1.modules =
      stats.modules ++ (({} : Statistics).scanCodeImports code).1.modules.filter
        (· ∉ stats.modules) ∧
    (∀ module, (stats.scanCodeImports code).1.namesOf? module =
      ((({} : Statistics).scanCodeImports code).1.namesOf? module).or (stats.namesOf? module)) ∧
    ∀ requests, ∃ outcomes, (∀ s, (serve stats requests).Says s outcomes) ∧
      stats :: outcomes.map (·.1) = (requests.map Request.contribution).scanl merge stats := by
  have hcomplete := scan_complete_iff stats tree
  rw [scanCode_eq stats h, scanCodeImports_eq stats h, scanCodeImports_eq {} h]
  refine ⟨served_iff.mpr rfl, ?_, ?_, scan_extended stats tree, ?_, rfl,
    scanImports_extended stats tree,
    modules_scanImports stats tree, namesOf?_scanImports_eq_or stats tree, exists_outcomes stats⟩
  · rw [← hcomplete]
    cases (stats.scan tree).2 <;> simp
  · intro hstops
    have hnot : ¬ (stats.scan tree).2 = true := fun hend => hstops (hcomplete.mp hend)
    exact if_neg hnot
  · intro node hwithin
    exact collected_cases ((complete_of_parseValue h).of_within hwithin)

/-- Statistics of some programs before. -/
def earlier : Statistics where
  imports := ["sys"]
  fromModules := [(some "os", ["getcwd"]), (some "re", ["sub"])]
  inputs := [7]

/-- A program that asks for input before it imports a name from a module. -/
def guardedImport : Value := .text "import os\nif input():\n    from os import path\n"

/-- The law at a program whose full scan fails midway: what was found up to there stays, and the
scan for imports that follows puts the new names in the place of the old ones. -/
theorem guardedImport_accumulates :
    ∃ tree, parseValue guardedImport = .ok tree ∧ tree.upToImportFrom ≠ tree.breadthFirst ∧
      (earlier.scanCode guardedImport).2 = some (.noAttribute "dict" "append") ∧
      (earlier.scanCode guardedImport).1 = earlier.extended (tree.upToImportFrom.map collected) ∧
      (tree.upToImportFrom.map collected).flatMap (·.inputs) = [2] ∧
      (earlier.scanCodeImports guardedImport).1.modules = [some "os", some "re"] ∧
      (earlier.scanCodeImports guardedImport).1.namesOf? (some "os") = some ["path"] ∧
      ∃ outcomes,
        (∀ s, (serve earlier [.scan guardedImport, .scanImports guardedImport]).Says s outcomes) ∧
        earlier :: outcomes.map (·.1) =
          ([.scan guardedImport, .scanImports guardedImport].map Request.contribution).scanl merge
            earlier := by
  have hrun : (parseValue guardedImport).toOption.any (fun tree =>
      tree.upToImportFrom.length != tree.breadthFirst.length &&
        (tree.upToImportFrom.map collected).flatMap (·.inputs) == [2]) = true := by
    decide +kernel
  have hfresh : (({} : Statistics).scanCodeImports guardedImport).1.fromModules =
      [(some "os", ["path"])] := by
    decide +kernel
  obtain ⟨tree, hparse, hrun⟩ := exists_ok_of_any hrun
  obtain ⟨hlength, hinputs⟩ := Bool.and_eq_true_iff.mp hrun
  have hstops : tree.upToImportFrom ≠ tree.breadthFirst := fun heq => by
    rw [heq] at hlength
    simp at hlength
  obtain ⟨-, -, hfails, hscan, -, -, -, hmodules, hnames, hserve⟩ :=
    statistics_accumulate earlier hparse
  refine ⟨tree, hparse, hstops, hfails hstops, hscan, eq_of_beq hinputs, hmodules.trans ?_,
    (hnames _).trans ?_, hserve _⟩
  · unfold modules
    rw [hfresh]
    decide
  · unfold namesOf?
    rw [hfresh]
    decide

end Statistics
end WorkflowAudit.Code
