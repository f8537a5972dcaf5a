import WorkflowAudit.Batch
import WorkflowAudit.Code.Statistics
import WorkflowAudit.Code.Vulnerabilities
import WorkflowAudit.CommandLine.Usage

/-! # Commands

The three commands: `scan` looks at code, `report` writes the report of saved workflows, and `batch`
goes through the collected ones.  Running a command on its arguments comes to an exit code and a
complaint, which is empty unless the arguments were refused; what the command did stands in the
session.
-/

namespace WorkflowAudit.CommandLine

/-- The commands. -/
inductive Command where
  | scan | report | batch
deriving BEq, DecidableEq

/-- How a command ended. -/
structure Ending where
  code : Nat := 0
  complaint : String := ""

namespace Command

/-- What a command is for. -/
def summary : Command → String
  | scan => ""
  | report => ""
  | batch =>
    "A wrapper aroud GHAST to just analize workflows from a MongoDB database and store the results"

/-- The options of a command, besides the one that asks for help. -/
def choices : Command → List Choice
  | scan =>
    [.ofText "--code" "code" "code to parse", .ofText "--file" "file" "code to parse",
      .ofFlag "--struct" "struct" "code to parse", .ofText "--sec" "security" "code to parse",
      .ofFlag "--slscan" "slscan", .ofText "--analysis" "analysis", .ofFlag "--imports" "imports"]
  | report => [.ofText "--src" "source", .ofText "--dest" "dest"]
  | batch =>
    [{ names := ["--count"], operand := .integer "COUNT",
       explanation := "Number of workflows to analyze (0 for all)", setting := "count",
       absent := .int 1000 }]

/-- Scans code: the program in a file, or a text, in the way that is asked for; without a file,
lists what was found before. -/
def performScan (settings : Settings) : Audit Unit :=
  let file := settings.get "file"
  let analysis := settings.get "analysis"
  if file.isTruthy then
    if (settings.get "struct").isTruthy then Code.Statistics.reportFile file
    else if (settings.get "imports").isTruthy then Code.Statistics.reportFileImports file
    else if (settings.get "security").isTruthy then Code.Vulnerabilities.analyseFlow
    else if (settings.get "slscan").isTruthy then
      Code.Vulnerabilities.scanContainer (String.ofList file.displayed)
    else Code.Statistics.reportCode (settings.get "code")
  else if analysis.isTruthy then Code.Vulnerabilities.sayAll (String.ofList analysis.displayed)
  else pure ()

/-- The settings as they are printed. -/
def shownSettings (settings : Settings) : List Char :=
  Value.applied "Namespace"
    (settings.map fun (name, value) => name.displayed ++ ['='] ++ value.written)

/-- Audits a batch, after saying with which settings. -/
def performBatch (settings : Settings) : Audit Unit := do
  let source := ((← get).source.map Value.text).getD .null
  Audit.say ("running with ".toList ++ shownSettings settings ++ ", srcDB is ".toList ++
    source.displayed)
  Batch.run settings

/-- What a command does with its settings. -/
def perform : Command → Settings → Audit Unit
  | scan => performScan
  | report => Report.write
  | batch => performBatch

/-- Runs a command, under the name of a program, on its arguments. -/
def run (command : Command) (program : String) (arguments : List String) : Audit Ending :=
  match read command.choices arguments with
  | .settings settings => do
    command.perform settings
    return {}
  | .help => do
    Audit.print (helpText program command.summary command.choices).toList
    return {}
  | .refused problem => return { code := 2, complaint := complaint program command.choices problem }

end Command

end WorkflowAudit.CommandLine
