import WorkflowAudit.Json.Reader
import WorkflowAudit.Session.Basic

/-! # Vulnerabilities

Other analyses of code leave their reports in directories: one directory for each run, with the
vulnerabilities it found in a file of JSON.  They are listed by category and severity, and
experiments that are to be analysed have a directory of their own.
-/

namespace WorkflowAudit.Code.Vulnerabilities

/-- The file of a run that holds the vulnerabilities it found. -/
def reportName : String := "taint-python-report.json"

/-- Prints the category and the severity of a vulnerability. -/
def say (vulnerability : Value) : Audit Unit := do
  let category ← Audit.check (vulnerability.itemNamed "cwe_category")
  let severity ← Audit.check (vulnerability.itemNamed "severity")
  Audit.say ((← Audit.check category.shown) ++ [' '] ++ (← Audit.check severity.shown))

/-- Prints the vulnerabilities of a run, unless it left none. -/
def sayRun (run : String) : Audit Unit := do
  let files := (← get).files
  let report := run ++ "/" ++ reportName
  if files.isDirectory run && files.isFilled report then
    let found ← Audit.check (Json.read (← Audit.readText report))
    let vulnerabilities ← Audit.check (do (← found.itemNamed "vulnerabilities").items)
    vulnerabilities.forM say

/-- Prints the vulnerabilities of all runs in a directory. -/
def sayAll (directory : String) : Audit Unit := do
  (← Audit.listing directory).forM fun name => sayRun (directory ++ "/" ++ name)

/-- The directory of the experiments. -/
def experiments : String := "experiments"

/-- The experiment that was begun last. -/
def lastExperiment : Audit String := do
  match (← get).files.newestIn? [experiments] with
  | some name => return experiments ++ "/" ++ name
  | none => throw .emptyMaximum

/-- The flow analysis of the last experiment, which needs a program that is not there. -/
def analyseFlow : Audit Unit := do
  let _ ← lastExperiment
  throw (.path .missing "../venv/bin/pyre")

/-- The container scan of a file: the last experiment gets a directory for it, and the service that
runs containers is missing. -/
def scanContainer (file : String) : Audit Unit := do
  Audit.makeDirectories ((← lastExperiment) ++ "/" ++ file)
  throw (.undefinedName "docker")

end WorkflowAudit.Code.Vulnerabilities
