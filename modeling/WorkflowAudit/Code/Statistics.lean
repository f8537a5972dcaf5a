import WorkflowAudit.Code.Program
import WorkflowAudit.Json.Writer
import WorkflowAudit.Session.Basic

/-! # Statistics of code

What a scan of programs collects: the modules and names they import, their conditions, functions and
calls, and the lines where they ask for input or open files.  A scan goes through the tree level by
level and adds to what was collected before.

The full scan cannot take in an import from a module: it stops there, and what it collected before
stays.  The scan for imports takes in both kinds; of several imports from one module the last one
stands.
-/

namespace WorkflowAudit.Code

/-- What scans have collected. -/
structure Statistics where
  imports : List String := []
  /-- The names imported from each module; a relative import may name no module. -/
  fromModules : List (Option String × List String) := []
  conditions : List String := []
  functions : List String := []
  /-- The lines where input is asked for. -/
  inputs : List Nat := []
  /-- The lines where a file is opened. -/
  opens : List Nat := []
  calls : List String := []

namespace Statistics

/-- How a node is shown. -/
def shown (node : Node) : String :=
  "<ast." ++ node.kind.label ++ " object>"

/-- Takes in a call of a function: one that asks for input or opens a file by its line, another by
its name, and one of an attribute by what it is an attribute of. -/
def addCall (stats : Statistics) (called : Node) : Statistics :=
  match called with
  | .mk (.name id line) _ =>
    if id == "input" || id == "raw_input" then { stats with inputs := stats.inputs ++ [line] }
    else if id == "open" then { stats with opens := stats.opens ++ [line] }
    else { stats with calls := stats.calls ++ [id] }
  | .mk .attributeOf (owner :: _) => { stats with calls := stats.calls ++ [shown owner] }
  | _ => stats

/-- Takes in a node; `none` for an import from a module. -/
def addNode? (stats : Statistics) (node : Node) : Option Statistics :=
  match node with
  | .mk .condition (test :: _) => some { stats with conditions := stats.conditions ++ [shown test] }
  | .mk (.function name) _ => some { stats with functions := stats.functions ++ [name] }
  | .mk .call (called :: _) => some (stats.addCall called)
  | .mk (.importNames names) _ => some { stats with imports := stats.imports ++ names }
  | .mk (.importFrom _ _) _ => none
  | _ => some stats

/-- Takes in nodes up to the first import from a module, and says whether there is none. -/
def addNodes (stats : Statistics) : List Node → Statistics × Bool
  | [] => (stats, true)
  | node :: rest =>
    match stats.addNode? node with
    | some stats => addNodes stats rest
    | none => (stats, false)

/-- The full scan of a tree: what is collected after it, and whether it came to the end. -/
def scan (stats : Statistics) (tree : Node) : Statistics × Bool :=
  stats.addNodes tree.breadthFirst

/-- Puts the names imported from a module in place of those before. -/
def setModule (module : Option String) (names : List String) :
    List (Option String × List String) → List (Option String × List String)
  | [] => [(module, names)]
  | (other, old) :: rest =>
    if other == module then (other, names) :: rest else (other, old) :: setModule module names rest

/-- Takes in the imports of a node. -/
def addImports (stats : Statistics) (node : Node) : Statistics :=
  match node.kind with
  | .importNames names => { stats with imports := stats.imports ++ names }
  | .importFrom module names =>
    { stats with fromModules := setModule module names stats.fromModules }
  | _ => stats

/-- The scan of a tree for imports. -/
def scanImports (stats : Statistics) (tree : Node) : Statistics :=
  tree.breadthFirst.foldl addImports stats

/-! ## Statistics as values -/

/-- A module as a key. -/
def moduleKey : Option String → Value
  | some name => .text name
  | none => .null

/-- Texts as a value. -/
def texts (items : List String) : Value :=
  .plainList (items.map .text)

/-- Lines as a value. -/
def lines (items : List Nat) : Value :=
  .plainList (items.map fun n => .int (Int.ofNat n))

/-- Statistics as a value. -/
def toValue (stats : Statistics) : Value :=
  .record [("import", texts stats.imports),
    ("from", .map .plain (stats.fromModules.map fun (module, names) =>
      (moduleKey module, texts names))),
    ("if", texts stats.conditions), ("functionDef", texts stats.functions),
    ("input", lines stats.inputs), ("open", lines stats.opens),
    ("functionCalls", texts stats.calls)]

/-- Prints statistics. -/
def report (stats : Statistics) : Audit Unit := do
  Audit.say (← Audit.check (Json.write stats.toValue))

/-- What the full scan fails with at an import from a module. -/
def scanFailure : Failure := .noAttribute "dict" "append"

/-- The full scan of a program text: what is collected after it, and its failure if it fails. -/
def scanCode (stats : Statistics) (code : Value) : Statistics × Option Failure :=
  match parseValue code with
  | .error failure => (stats, some failure)
  | .ok tree =>
    match stats.scan tree with
    | (after, true) => (after, none)
    | (after, false) => (after, some scanFailure)

/-- The scan of a program text for imports. -/
def scanCodeImports (stats : Statistics) (code : Value) : Statistics × Option Failure :=
  match parseValue code with
  | .error failure => (stats, some failure)
  | .ok tree => (stats.scanImports tree, none)

/-- Prints the outcome of a scan, unless it failed. -/
def reportScan : Statistics × Option Failure → Audit Unit
  | (_, some failure) => throw failure
  | (stats, none) => stats.report

/-- Scans a program text and prints what was collected. -/
def reportCode (code : Value) : Audit Unit :=
  reportScan (scanCode {} code)

/-- Scans the program in a file and prints what was collected. -/
def reportFile (path : Value) : Audit Unit := do
  reportCode (.ofChars (← Audit.readTextOf path))

/-- Scans the program in a file for imports and prints what was collected. -/
def reportFileImports (path : Value) : Audit Unit := do
  reportScan (scanCodeImports {} (.ofChars (← Audit.readTextOf path)))

/-! ## Several scans -/

/-- A request to a collector of statistics. -/
inductive Request where
  | scan (code : Value)
  | scanImports (code : Value)
  | report

/-- Serves requests one after the other; each leaves its statistics, and its failure if it fails. -/
def serve : Statistics → List Request → Audit (List (Statistics × Option Failure))
  | _, [] => return []
  | stats, request :: rest => do
    let outcome ←
      match request with
      | .scan code => pure (stats.scanCode code)
      | .scanImports code => pure (stats.scanCodeImports code)
      | .report =>
        try
          stats.report
          pure (stats, none)
        catch failure => pure (stats, some failure)
    return outcome :: (← serve outcome.1 rest)

end Statistics

end WorkflowAudit.Code
