import WorkflowAudit.CommandLine.Options

/-! # Usage

The texts that explain a command: a line with its options, broken where it gets too long, and a
table with an explanation of each.
-/

namespace WorkflowAudit.CommandLine

/-- The greatest length of a line. -/
def lineWidth : Nat := 78

/-- Blanks. -/
def blanks (count : Nat) : String :=
  String.ofList (List.replicate count ' ')

/-- Fills lines with words.  A word that would make a line longer than `width` begins the next one.
The next word of the line comes behind `used` places, and each further line begins behind `indent`
places. -/
def fillLines (width indent : Nat) (used : Nat) (line : List String) :
    List String → List (List String)
  | [] => if line.isEmpty then [] else [line]
  | word :: rest =>
    if used + word.length > width && !line.isEmpty then
      line :: fillLines width indent (indent + word.length + 1) [word] rest
    else fillLines width indent (used + word.length + 1) (line ++ [word]) rest

namespace Choice

/-- An option with its operand, as it stands between brackets in the usage. -/
def inUsage (choice : Choice) : String :=
  match choice.names.head?, choice.operandShown? with
  | some name, none => "[" ++ name ++ "]"
  | some name, some shown => "[" ++ name ++ " " ++ shown ++ "]"
  | none, _ => ""

/-- An option by all its names, as it stands in the table. -/
def inTable (choice : Choice) : String :=
  ", ".intercalate (choice.names.map fun name =>
    match choice.operandShown? with
    | none => name
    | some shown => name ++ " " ++ shown)

end Choice

/-- The lead of the usage. -/
def usageLead : String := "usage: "

/-- The usage of a program. -/
def usage (program : String) (choices : List Choice) : String :=
  let indent := usageLead.length + program.length + 1
  let words := program :: (Choice.help :: choices).map Choice.inUsage
  let lines := (fillLines lineWidth indent usageLead.length [] words).map (" ".intercalate ·)
  usageLead ++ ("\n" ++ blanks indent).intercalate lines ++ "\n"

/-- The table of options: the explanations stand in one column, two places behind the longest
option. -/
def table (choices : List Choice) : String :=
  let all := Choice.help :: choices
  let column := (all.map fun choice => choice.inTable.length).foldl max 0 + 2
  String.join (all.map fun choice =>
    let shown := choice.inTable
    if choice.explanation.isEmpty then "  " ++ shown ++ "\n"
    else "  " ++ shown ++ blanks (column - shown.length) ++ choice.explanation ++ "\n")

/-- A summary in lines of its own, with an empty line behind it. -/
def summaryText (summary : String) : String :=
  let words := ((Text.pieces ' ' summary.toList).filter (!·.isEmpty)).map String.ofList
  let lines := (fillLines lineWidth 0 0 [] words).map (" ".intercalate ·)
  if lines.isEmpty then "" else "\n".intercalate lines ++ "\n\n"

/-- The help text of a program. -/
def helpText (program summary : String) (choices : List Choice) : String :=
  usage program choices ++ "\n" ++ summaryText summary ++ "options:\n" ++ table choices

/-- What a program says about arguments that it refuses. -/
def complaint (program : String) (choices : List Choice) (problem : Problem) : String :=
  usage program choices ++ program ++ ": error: " ++ problem.message ++ "\n"

end WorkflowAudit.CommandLine
