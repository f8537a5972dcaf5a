import Mathlib.Data.List.TakeWhile
import WorkflowAudit.Code.Statistics
import WorkflowAudit.Proofs.Runs
import WorkflowAudit.Proofs.TreeOrder

/-! # Imports of a program

Two scans collect the imports of a program.  The scan for imports goes through the whole tree.  It
has every import of a module, in the order of the tree, and an entry for every module from which
names are imported.  But each import from a module takes the place of the one before, so the entry
holds the names of the last one only (`namesOf?_foldl`), and nothing is lost exactly when the
last import from each module has the names of all of them (`imports_complete_iff_last_covers`).

The full scan stops at the first import from a module.  So it comes to the end, and agrees with the
scan for imports, exactly for trees that have none (`scan_ends_iff`, `sameImports_iff`), and hence
for the programs that are parsed to such trees (`scans_agree_iff_nothing_from`).
-/
namespace WorkflowAudit.Code

/-! ## What a node imports -/

namespace Node

/-- The modules that a node imports as such. -/
def importedNames (node : Node) : List String :=
  match node.kind with
  | .importNames names => names
  | _ => []

/-- The module from which a node imports names, with these names. -/
def importedFrom? (node : Node) : Option (Option String × List String) :=
  match node.kind with
  | .importFrom module names => some (module, names)
  | _ => none

/-- A tree has an import of names from a module. -/
def ImportsFrom (tree : Node) (module : Option String) (names : List String) : Prop :=
  ∃ node : Node, node.Within tree ∧ node.importedFrom? = some (module, names)

/-- A tree has no import of names from a module. -/
def NothingFrom (tree : Node) : Prop :=
  ∀ module names, ¬ tree.ImportsFrom module names

/-- The names that nodes import from a module, import by import. -/
def namesFrom (module : Option String) (nodes : List Node) : List (List String) :=
  ((nodes.filterMap importedFrom?).filter fun found => found.1 == module).map (·.2)

/-- The last import from each module has the names of all imports from it. -/
def LastCovers (tree : Node) : Prop :=
  ∀ module names last, tree.ImportsFrom module names →
    (namesFrom module tree.breadthFirst).getLast? = some last → names ⊆ last

theorem mem_namesFrom {tree : Node} {module : Option String} {names : List String} :
    names ∈ namesFrom module tree.breadthFirst ↔ tree.ImportsFrom module names := by
  simp only [namesFrom, List.mem_map, List.mem_filter, List.mem_filterMap, mem_breadthFirst,
    beq_iff_eq]
  constructor
  · rintro ⟨⟨module', names'⟩, ⟨⟨node, hwithin, hfound⟩, rfl⟩, rfl⟩
    exact ⟨node, hwithin, hfound⟩
  · rintro ⟨node, hwithin, hfound⟩
    exact ⟨(module, names), ⟨⟨node, hwithin, hfound⟩, rfl⟩, rfl⟩

theorem nothingFrom_iff {tree : Node} :
    tree.NothingFrom ↔ ∀ node ∈ tree.breadthFirst, node.importedFrom? = none := by
  simp only [NothingFrom, ImportsFrom, not_exists, not_and, mem_breadthFirst,
    Option.eq_none_iff_forall_ne_some, Prod.forall]
  exact ⟨fun h node hwithin module names => h module names node hwithin,
    fun h module names node hwithin => h node hwithin module names⟩

end Node

open Node

namespace Statistics

/-- The modules that statistics have an entry for. -/
def modules (stats : Statistics) : List (Option String) :=
  stats.fromModules.map (·.1)

/-- The names that statistics have for a module. -/
def namesOf? (stats : Statistics) (module : Option String) : Option (List String) :=
  stats.fromModules.lookup module

/-- Statistics have a name for a module. -/
def HasName (stats : Statistics) (module : Option String) (name : String) : Prop :=
  ∃ found, stats.namesOf? module = some found ∧ name ∈ found

/-- Statistics have every name that a tree imports from a module. -/
def HasAllNames (stats : Statistics) (tree : Node) : Prop :=
  ∀ module names, tree.ImportsFrom module names → ∀ name ∈ names, stats.HasName module name

theorem mem_modules {stats : Statistics} {module : Option String} :
    module ∈ stats.modules ↔ (stats.namesOf? module).isSome := by
  unfold modules namesOf?
  rw [List.mem_map, List.lookup_isSome_iff]
  exact ⟨fun ⟨entry, hentry, he⟩ => ⟨entry, hentry, beq_iff_eq.mpr he.symm⟩,
    fun ⟨entry, hentry, he⟩ => ⟨entry, hentry, (beq_iff_eq.mp he).symm⟩⟩

/-! ## The entries of modules -/

variable {module other : Option String} {names : List String}

theorem lookup_entry_cons (entries : List (Option String × List String)) :
    ((module, names) :: entries).lookup other =
      if other = module then some names else entries.lookup other := by
  by_cases h : other = module
  · simp [h]
  · have hne : (other == module) = false := beq_eq_false_iff_ne.mpr h
    simp [List.lookup_cons, hne, h]

theorem lookup_setModule (entries : List (Option String × List String)) :
    (setModule module names entries).lookup other =
      if other = module then some names else entries.lookup other := by
  induction entries with
  | nil => exact lookup_entry_cons []
  | cons entry rest ih =>
    obtain ⟨first, old⟩ := entry
    unfold setModule
    by_cases hfirst : first = module
    · subst hfirst
      simp only [BEq.rfl, if_true, lookup_entry_cons]
      by_cases h : other = first <;> simp [h]
    · simp only [beq_iff_eq, hfirst, if_false, lookup_entry_cons, ih]
      by_cases h : other = first
      · simp [h, hfirst]
      · simp [h]

theorem mem_map_setModule {entries : List (Option String × List String)} :
    other ∈ (setModule module names entries).map (·.1) ↔
      other = module ∨ other ∈ entries.map (·.1) := by
  induction entries with
  | nil => simp [setModule]
  | cons entry rest ih =>
    unfold setModule
    by_cases hfirst : entry.1 = module
    · simp [hfirst]
    · simp only [beq_iff_eq, hfirst, if_false, List.map_cons, List.mem_cons, ih]
      exact ⟨fun h => h.elim (fun h => .inr (.inl h)) (fun h => h.imp_right .inr),
        fun h => h.elim (fun h => .inr (.inl h)) (fun h => h.imp_right .inr)⟩

theorem nodup_setModule {entries : List (Option String × List String)}
    (h : (entries.map (·.1)).Nodup) : ((setModule module names entries).map (·.1)).Nodup := by
  induction entries with
  | nil => simp [setModule]
  | cons entry rest ih =>
    obtain ⟨hfresh, hrest⟩ := List.nodup_cons.mp h
    unfold setModule
    by_cases hfirst : entry.1 = module
    · simpa [hfirst] using h
    · simp only [beq_iff_eq, hfirst, if_false, List.map_cons]
      refine List.nodup_cons.mpr ⟨fun hmem => ?_, ih hrest⟩
      exact (mem_map_setModule.mp hmem).elim hfirst hfresh

/-! ## The scan for imports -/

theorem imports_addImports (stats : Statistics) (node : Node) :
    (stats.addImports node).imports = stats.imports ++ node.importedNames := by
  unfold addImports importedNames
  split <;> simp_all

theorem fromModules_addImports (stats : Statistics) (node : Node) :
    (stats.addImports node).fromModules =
      match node.importedFrom? with
      | some found => setModule found.1 found.2 stats.fromModules
      | none => stats.fromModules := by
  unfold addImports importedFrom?
  split <;> simp_all

theorem imports_foldl (stats : Statistics) (nodes : List Node) :
    (nodes.foldl addImports stats).imports = stats.imports ++ nodes.flatMap importedNames := by
  induction nodes generalizing stats with
  | nil => simp
  | cons node rest ih =>
    rw [List.foldl_cons, ih, imports_addImports, List.flatMap_cons, List.append_assoc]

theorem nodup_foldl {stats : Statistics} (h : stats.modules.Nodup) (nodes : List Node) :
    (nodes.foldl addImports stats).modules.Nodup := by
  induction nodes generalizing stats with
  | nil => exact h
  | cons node rest ih =>
    refine ih ?_
    unfold modules
    rw [fromModules_addImports]
    split
    · exact nodup_setModule h
    · exact h

/-- Of the imports from a module the last one stands. -/
theorem namesOf?_foldl (stats : Statistics) (nodes : List Node) (module : Option String) :
    (nodes.foldl addImports stats).namesOf? module =
      (namesFrom module nodes).getLast?.or (stats.namesOf? module) := by
  induction nodes generalizing stats with
  | nil => rfl
  | cons node rest ih =>
    rw [List.foldl_cons, ih]
    unfold namesOf? namesFrom
    rw [fromModules_addImports, List.filterMap_cons]
    cases node.importedFrom? with
    | none => rfl
    | some found =>
      dsimp only
      rw [lookup_setModule, List.filter_cons]
      by_cases h : found.1 = module
      · -- the names of this import are those of the last one if no other follows
        simp only [h, BEq.rfl, if_true, List.map_cons, List.getLast?_cons]
        cases (List.map _ (List.filter _ (rest.filterMap importedFrom?))).getLast? <;> rfl
      · simp only [beq_iff_eq, h, if_false, Ne.symm h]

variable (tree : Node)

theorem namesOf?_scanImports (module : Option String) :
    (({} : Statistics).scanImports tree).namesOf? module =
      (namesFrom module tree.breadthFirst).getLast? := by
  unfold scanImports
  rw [namesOf?_foldl]
  exact Option.or_none

theorem mem_modules_scanImports :
    module ∈ (({} : Statistics).scanImports tree).modules ↔ ∃ names,
      tree.ImportsFrom module names := by
  rw [mem_modules, namesOf?_scanImports, List.getLast?_isSome]
  constructor
  · intro h
    obtain ⟨names, hnames⟩ := List.exists_mem_of_ne_nil _ h
    exact ⟨names, mem_namesFrom.mp hnames⟩
  · rintro ⟨names, himports⟩
    exact List.ne_nil_of_mem (mem_namesFrom.mpr himports)

/-- The names of an entry are those of one import. -/
theorem importsFrom_of_namesOf?
    (h : (({} : Statistics).scanImports tree).namesOf? module = some names) :
    tree.ImportsFrom module names := by
  rw [namesOf?_scanImports] at h
  exact mem_namesFrom.mp (List.mem_of_getLast? h)

/-- **Names from a module are complete exactly when its last import has them all.**  After the scan
for imports of a tree, the imported modules are those of all imports in the order in which a queue
serves the tree.  There is one entry for each module from which something is imported, and no other;
it holds the names of the last import from it, and so no name that is not imported from it.  All
names are there exactly when the last import from each module covers the others. -/
theorem imports_complete_iff_last_covers :
    Served [tree] tree.breadthFirst ∧
    (({} : Statistics).scanImports tree).imports = tree.breadthFirst.flatMap importedNames ∧
    (({} : Statistics).scanImports tree).modules.Nodup ∧
    (∀ module, module ∈ (({} : Statistics).scanImports tree).modules ↔
      ∃ names, tree.ImportsFrom module names) ∧
    (∀ module, (({} : Statistics).scanImports tree).namesOf? module =
      (namesFrom module tree.breadthFirst).getLast?) ∧
    (∀ module name, (({} : Statistics).scanImports tree).HasName module name →
      ∃ names, tree.ImportsFrom module names ∧ name ∈ names) ∧
    ((({} : Statistics).scanImports tree).HasAllNames tree ↔ tree.LastCovers) := by
  have hnodup : ({} : Statistics).modules.Nodup := List.nodup_nil
  refine ⟨served_iff.mpr rfl, imports_foldl {} tree.breadthFirst,
    nodup_foldl hnodup tree.breadthFirst,
    fun module => mem_modules_scanImports tree, namesOf?_scanImports tree, ?_, ?_⟩
  · rintro module name ⟨found, hfound, hname⟩
    exact ⟨found, importsFrom_of_namesOf? tree hfound, hname⟩
  · constructor
    · intro h module names last himports hlast name hname
      obtain ⟨found, hfound, hmem⟩ := h module names himports name hname
      rw [namesOf?_scanImports, hlast] at hfound
      exact Option.some.inj hfound ▸ hmem
    · intro h module names himports name hname
      obtain ⟨last, hlast⟩ :=
        Option.isSome_iff_exists.mp
          (mem_modules.mp ((mem_modules_scanImports tree).mpr ⟨names, himports⟩))
      exact ⟨last, hlast, h module names last himports
        (namesOf?_scanImports tree module ▸ hlast) hname⟩

/-- A program that imports two names from one module, one after the other. -/
def twoImports : Value := .text "from a import b\nfrom a import c\n"

/-- Of two imports from one module the names of the first are lost. -/
theorem first_import_lost :
    ∃ tree, parseValue twoImports = .ok tree ∧ tree.ImportsFrom (some "a") ["b"] ∧
      tree.ImportsFrom (some "a") ["c"] ∧
      (({} : Statistics).scanImports tree).fromModules = [(some "a", ["c"])] ∧
      ¬ (({} : Statistics).scanImports tree).HasName (some "a") "b" := by
  have hrun : (parseValue twoImports).toOption.any (fun tree =>
      tree.breadthFirst.filterMap importedFrom? == [(some "a", ["b"]), (some "a", ["c"])] &&
        (({} : Statistics).scanImports tree).fromModules == [(some "a", ["c"])]) = true := by
    decide +kernel
  obtain ⟨tree, hparse, hrun⟩ := exists_ok_of_any hrun
  obtain ⟨himports, hfound⟩ := Bool.and_eq_true_iff.mp hrun
  have hnames : namesFrom (some "a") tree.breadthFirst = [["b"], ["c"]] := by
    unfold namesFrom
    rw [eq_of_beq himports]
    rfl
  have hentries := eq_of_beq hfound
  refine ⟨tree, hparse, mem_namesFrom.mp ?_, mem_namesFrom.mp ?_, hentries, ?_⟩
  · rw [hnames]
    decide
  · rw [hnames]
    decide
  · rintro ⟨found, hlookup, hmem⟩
    unfold namesOf? at hlookup
    rw [hentries] at hlookup
    obtain rfl : ["c"] = found := Option.some.inj hlookup
    exact absurd hmem (by decide)

/-! ## The full scan -/

/-- The full scan refuses an import from a module. -/
theorem addNode?_of_importedFrom? {stats : Statistics} {node : Node}
    {found : Option String × List String}
    (h : node.importedFrom? = some found) : stats.addNode? node = none := by
  obtain ⟨kind, parts⟩ := node
  cases kind with
  | importFrom module names => rfl
  | _ => cases h

theorem addCall_imports (stats : Statistics) (called : Node) :
    (stats.addCall called).imports = stats.imports ∧
      (stats.addCall called).fromModules = stats.fromModules := by
  unfold addCall
  split
  · split
    · exact ⟨rfl, rfl⟩
    · split
      · exact ⟨rfl, rfl⟩
      · exact ⟨rfl, rfl⟩
  · exact ⟨rfl, rfl⟩
  · exact ⟨rfl, rfl⟩

/-- It takes in any other node, which adds the modules that it imports. -/
theorem exists_addNode? {node : Node} (stats : Statistics) (h : node.importedFrom? = none) :
    ∃ after, stats.addNode? node = some after ∧
      after.imports = stats.imports ++ node.importedNames ∧
        after.fromModules = stats.fromModules := by
  obtain ⟨kind, parts⟩ := node
  cases kind with
  | importFrom module names => cases h
  | importNames names => exact ⟨_, rfl, rfl, rfl⟩
  | function name => exact ⟨_, rfl, (List.append_nil _).symm, rfl⟩
  | condition =>
    cases parts with
    | nil => exact ⟨_, rfl, (List.append_nil _).symm, rfl⟩
    | cons test rest => exact ⟨_, rfl, (List.append_nil _).symm, rfl⟩
  | call =>
    cases parts with
    | nil => exact ⟨_, rfl, (List.append_nil _).symm, rfl⟩
    | cons called rest =>
      obtain ⟨himports, hfrom⟩ := addCall_imports stats called
      exact ⟨_, rfl, himports.trans (List.append_nil _).symm, hfrom⟩
  | _ => exact ⟨_, rfl, (List.append_nil _).symm, rfl⟩

/-- **What the full scan has of imports.**  It goes through the nodes before the first import from a
module, and comes to the end exactly when there is none. -/
theorem addNodes_imports (stats : Statistics) (nodes : List Node) :
    (stats.addNodes nodes).1.imports =
        stats.imports ++ (nodes.takeWhile fun node =>
          node.importedFrom?.isNone).flatMap importedNames ∧
      (stats.addNodes nodes).1.fromModules = stats.fromModules ∧
      ((stats.addNodes nodes).2 = true ↔ ∀ node ∈ nodes, node.importedFrom? = none) := by
  induction nodes generalizing stats with
  | nil => simp [addNodes]
  | cons node rest ih =>
    unfold addNodes
    cases hfrom : node.importedFrom? with
    | some found =>
      rw [addNode?_of_importedFrom? hfrom]
      simp [hfrom]
    | none =>
      obtain ⟨after, hadded, himports, hmodules⟩ := exists_addNode? stats hfrom
      obtain ⟨ihimports, ihmodules, ihend⟩ := ih after
      rw [hadded]
      refine ⟨?_, ihmodules.trans hmodules, ?_⟩
      · simp [ihimports, himports, hfrom]
      · simp [ihend, hfrom]

/-! ## The two scans -/

/-- Two statistics name the same imported modules, and the same names from the same modules. -/
structure SameImports (stats stats' : Statistics) : Prop where
  imports : ∀ name, name ∈ stats.imports ↔ name ∈ stats'.imports
  modules : ∀ module, module ∈ stats.modules ↔ module ∈ stats'.modules
  names : ∀ module name, stats.HasName module name ↔ stats'.HasName module name

variable {tree}

theorem scanCode_eq {code : Value} (stats : Statistics) (h : parseValue code = .ok tree) :
    stats.scanCode code = ((stats.scan tree).1,
      if (stats.scan tree).2 then none else some scanFailure) := by
  unfold scanCode
  rw [h]
  rcases hscan : stats.scan tree with ⟨after, complete⟩
  cases complete <;> simp [hscan]

theorem scanCodeImports_eq {code : Value} (stats : Statistics) (h : parseValue code = .ok tree) :
    stats.scanCodeImports code = (stats.scanImports tree, none) := by
  unfold scanCodeImports
  rw [h]

/-- The full scan has the first of the modules that the scan for imports has. -/
theorem scan_imports_prefix :
    (({} : Statistics).scan tree).1.imports <+: (({} : Statistics).scanImports tree).imports := by
  obtain ⟨himports, -, -⟩ := addNodes_imports {} tree.breadthFirst
  show (({} : Statistics).addNodes tree.breadthFirst).1.imports <+: _
  unfold scanImports
  rw [himports, imports_foldl, List.prefix_append_right_inj]
  obtain ⟨rest, hrest⟩ := List.takeWhile_prefix (fun node : Node => node.importedFrom?.isNone)
    (l := tree.breadthFirst)
  exact ⟨rest.flatMap importedNames, by rw [← List.flatMap_append, hrest]⟩

/-- Without imports from modules both scans have the same imports. -/
theorem scan_imports_eq (h : tree.NothingFrom) :
    (({} : Statistics).scan tree).1.imports = (({} : Statistics).scanImports tree).imports ∧
      (({} : Statistics).scanImports tree).fromModules = [] := by
  have hnone := nothingFrom_iff.mp h
  obtain ⟨himports, -, -⟩ := addNodes_imports {} tree.breadthFirst
  have hall : (tree.breadthFirst.takeWhile fun node => node.importedFrom?.isNone) =
      tree.breadthFirst :=
    List.takeWhile_eq_self_iff.mpr fun node hnode => by rw [hnone node hnode]; rfl
  constructor
  · show (({} : Statistics).addNodes tree.breadthFirst).1.imports = _
    unfold scanImports
    rw [himports, hall, imports_foldl]
  · have hempty : (({} : Statistics).scanImports tree).modules = [] := by
      refine List.eq_nil_iff_forall_not_mem.mpr fun module hmodule => ?_
      obtain ⟨names, himports⟩ := (mem_modules_scanImports tree).mp hmodule
      exact h module names himports
    exact List.map_eq_nil_iff.mp hempty

/-- The full scan has no entry for a module. -/
theorem fromModules_scan : (({} : Statistics).scan tree).1.fromModules = [] :=
  (addNodes_imports {} tree.breadthFirst).2.1

/-- The full scan of a tree comes to its end exactly when nothing is imported from a module. -/
theorem scan_ends_iff : (({} : Statistics).scan tree).2 = true ↔ tree.NothingFrom :=
  (addNodes_imports {} tree.breadthFirst).2.2.trans nothingFrom_iff.symm

/-- The two scans of a tree agree exactly when nothing is imported from a module in it. -/
theorem sameImports_iff :
    SameImports (({} : Statistics).scan tree).1 (({} : Statistics).scanImports tree) ↔
      tree.NothingFrom := by
  constructor
  · -- the scan for imports has an entry for each module, and the full scan has none at all
    intro hsame module names himports
    have hmodule := (hsame.modules module).mpr
        ((mem_modules_scanImports tree).mpr ⟨names, himports⟩)
    unfold modules at hmodule
    rw [fromModules_scan] at hmodule
    cases hmodule
  · intro hnothing
    obtain ⟨himports, hempty⟩ := scan_imports_eq hnothing
    have hentries : (({} : Statistics).scan tree).1.fromModules =
        (({} : Statistics).scanImports tree).fromModules := fromModules_scan.trans hempty.symm
    refine ⟨fun name => by rw [himports], fun module => ?_, fun module name => ?_⟩
    · unfold modules
      rw [hentries]
    · unfold HasName namesOf?
      rw [hentries]

/-- **The two scans agree exactly on programs that import nothing from a module.**  The scan for
imports of a program never fails.  The full scan comes to the end, and names the same imports,
exactly when the program has no import from a module; then it has the same list of modules, and
neither scan has an entry. Otherwise it fails, with some of the modules in its list and without an
entry. -/
theorem scans_agree_iff_nothing_from {code : Value} (h : parseValue code = .ok tree) :
    (({} : Statistics).scanCodeImports code).2 = none ∧
    ((({} : Statistics).scanCode code).2 = none ↔ tree.NothingFrom) ∧
    (SameImports (({} : Statistics).scanCode code).1 (({} : Statistics).scanCodeImports code).1 ↔
      tree.NothingFrom) ∧
    (tree.NothingFrom →
      (({} : Statistics).scanCode code).1.imports =
        (({} : Statistics).scanCodeImports code).1.imports ∧
      (({} : Statistics).scanCodeImports code).1.fromModules = []) ∧
    (¬ tree.NothingFrom → (({} : Statistics).scanCode code).2 =
      some (.noAttribute "dict" "append")) ∧
    (({} : Statistics).scanCode code).1.imports <+:
      (({} : Statistics).scanCodeImports code).1.imports ∧
    (({} : Statistics).scanCode code).1.fromModules = [] := by
  rw [scanCode_eq {} h, scanCodeImports_eq {} h]
  refine ⟨rfl, ?_, sameImports_iff, scan_imports_eq, ?_, scan_imports_prefix, fromModules_scan⟩
  · rw [← scan_ends_iff]
    cases (({} : Statistics).scan tree).2 <;> simp
  · intro hnot
    have hstops : (({} : Statistics).scan tree).2 = false := by
      rw [← Bool.not_eq_true, scan_ends_iff]
      exact hnot
    rw [hstops]
    rfl

/-- A program that imports a module and then a name from it. -/
def mixedImports : Value := .text "import os\nfrom os import path\n"

/-- The law at a program with an import of either kind: the full scan fails behind the first one. -/
theorem scans_of_mixedImports :
    ∃ tree, parseValue mixedImports = .ok tree ∧ ¬ tree.NothingFrom ∧
      (({} : Statistics).scanCodeImports mixedImports).2 = none ∧
      (({} : Statistics).scanCode mixedImports).2 = some (.noAttribute "dict" "append") ∧
      ¬ SameImports (({} : Statistics).scanCode mixedImports).1
        (({} : Statistics).scanCodeImports mixedImports).1 := by
  have hrun : (parseValue mixedImports).toOption.any (fun tree =>
      tree.breadthFirst.any fun node => node.importedFrom?.isSome) = true := by decide +kernel
  obtain ⟨tree, hparse, hrun⟩ := exists_ok_of_any hrun
  obtain ⟨node, hnode, hsome⟩ := List.any_eq_true.mp hrun
  have hnot : ¬ tree.NothingFrom := fun hnothing => by
    rw [nothingFrom_iff.mp hnothing node hnode] at hsome
    cases hsome
  obtain ⟨himports, -, hsame, -, hfails, -⟩ := scans_agree_iff_nothing_from hparse
  exact ⟨tree, hparse, hnot, himports, hfails hnot, fun h => hnot (hsame.mp h)⟩

/-- The full scan fails at an import from a module, and has nothing of it. -/
theorem import_from_refused :
    (({} : Statistics).scanCode (.text "from os import path\n")).2.map Failure.kind = some
      .attribute ∧
      (({} : Statistics).scanCode (.text "from os import path\n")).1.fromModules = [] ∧
      (({} : Statistics).scanCodeImports (.text "from os import path\n")).1.fromModules =
        [(some "os", ["path"])] := by
  decide +kernel

end Statistics
end WorkflowAudit.Code
