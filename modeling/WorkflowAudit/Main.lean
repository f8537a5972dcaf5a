import WorkflowAudit.CommandLine.Commands
import WorkflowAudit.Session.Description

/-! # The program

Runs one command.  The first argument names it and the others are its own; the description of the
session is read as JSON from standard input.  What the command printed is printed, and each file it
wrote follows under its path.
-/

namespace WorkflowAudit.CommandLine

/-- The command of a name. -/
def Command.ofName? : String → Option Command
  | "scan" => some .scan
  | "report" => some .report
  | "batch" => some .batch
  | _ => none

/-- The name of the program. -/
def programName : String := "workflow-audit"

/-- What is printed when no command is named. -/
def commandsText : String := "usage: " ++ programName ++ " (scan | report | batch) [options]\n"

/-- The session that a text describes; an empty text describes the one with nothing in it. -/
def sessionOf (text : List Char) : Except Failure Session := do
  if (Text.strip text).isEmpty then return Session.ofValue .null
  return Session.ofValue (← Json.read text)

/-- The files that a command wrote, each under its path. -/
def writtenText (before after : Session) : String :=
  String.join ((Files.changesSince before.files after.files).map fun (path, content) =>
    "/".intercalate path ++ ":\n" ++ String.ofList ((Text.decodeUtf8? content).getD []) ++ "\n")

/-- Runs a command in the session that a text describes: its ending, and all that it printed and
wrote. -/
def runIn (command : Command) (arguments : List String) (description : List Char) :
    Except Failure Ending × String :=
  match sessionOf description with
  | .error failure => (.error failure, "")
  | .ok session =>
    let (result, after) := (command.run programName arguments).perform session
    (result, String.ofList after.log.printed ++ writtenText session after)

/-- Prints what a command did and how it ended, and gives the exit code. -/
def showOutcome (outcome : Except Failure Ending × String) : IO UInt32 := do
  let (result, output) := outcome
  IO.print output
  match result with
  | .ok ending =>
    IO.eprint ending.complaint
    return ending.code.toUInt32
  | .error failure =>
    IO.eprintln (programName ++ ": " ++ failure.message)
    return 1

end WorkflowAudit.CommandLine

open WorkflowAudit.CommandLine in
/-- Runs the command that the arguments name. -/
def main (arguments : List String) : IO UInt32 := do
  match arguments with
  | [] =>
    IO.eprint commandsText
    return 2
  | name :: rest =>
    match Command.ofName? name with
    | none =>
      IO.eprint commandsText
      return 2
    | some command =>
      let input ← (← IO.getStdin).readToEnd
      showOutcome (runIn command rest input.toList)
