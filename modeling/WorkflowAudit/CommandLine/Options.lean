import WorkflowAudit.Decimal.Reading
import WorkflowAudit.Text.Search
import WorkflowAudit.Value.Written

/-! # Options

The options of a command and how its arguments are read.  An option has one or more names, and takes
one operand or none. A long name may be shortened as far as it stays unambiguous, and its operand is
attached with `=` or follows as the next argument; a short name is followed by its operand or by
further short names at once.

Arguments are read in two passes.  The first says what each argument is, and already refuses an
ambiguous name; the second goes through them from the left.  Asking for help ends it there, and
arguments that belong to nothing are refused only at the end.
-/

namespace WorkflowAudit.CommandLine

/-- What an option takes. -/
inductive Operand where
  | nothing
  /-- Any text; `shown` stands for it in the usage. -/
  | text (shown : String)
  /-- The text of an integer. -/
  | integer (shown : String)

/-- An option of a command. -/
structure Choice where
  /-- The ways to write it, the usual one first. -/
  names : List String
  operand : Operand := .nothing
  explanation : String := ""
  /-- The setting that it fills. -/
  setting : String
  /-- What the setting is without the option. -/
  absent : Value := .bool false

namespace Choice

/-- The word that stands for the operand in the usage. -/
def operandShown? (choice : Choice) : Option String :=
  match choice.operand with
  | .nothing => none
  | .text shown => some shown
  | .integer shown => some shown

/-- An option that takes a text. -/
def ofText (name setting : String) (explanation : String := "") : Choice :=
  { names := [name], operand := .text (setting.map Char.toUpper), explanation := explanation,
    setting := setting, absent := .null }

/-- An option without an operand. -/
def ofFlag (name setting : String) (explanation : String := "") : Choice :=
  { names := [name], explanation := explanation, setting := setting }

/-- The option that asks for help, which every command has. -/
def help : Choice :=
  { names := ["-h", "--help"], explanation := "show this help message and exit", setting := "help" }

end Choice

/-- Why arguments are refused. -/
inductive Problem where
  | ambiguous (given : String) (candidates : List String)
  | missingOperand (choice : Choice)
  | unwantedOperand (choice : Choice) (given : String)
  | notAnInteger (choice : Choice) (given : String)
  | unrecognized (arguments : List String)

namespace Problem

/-- What a problem with an option says. -/
def about (choice : Choice) (wording : String) : String :=
  "argument " ++ "/".intercalate choice.names ++ ": " ++ wording

/-- The wording of a problem. -/
def message : Problem → String
  | ambiguous given candidates =>
    "ambiguous option: " ++ given ++ " could match " ++ ", ".intercalate candidates
  | missingOperand choice => about choice "expected one argument"
  | unwantedOperand choice given =>
    about choice ("ignored explicit argument " ++ String.ofList (Text.quoted given.toList))
  | notAnInteger choice given =>
    about choice ("invalid int value: " ++ String.ofList (Text.quoted given.toList))
  | unrecognized arguments => "unrecognized arguments: " ++ " ".intercalate arguments

end Problem

/-! ## What an argument is -/

/-- What an argument is. -/
inductive Argument where
  /-- The argument behind which all others are plain. -/
  | separator
  | plain (text : String)
  /-- It looks like an option and is none. -/
  | unknown (text : String)
  /-- An option by one of its names, perhaps with an operand attached. -/
  | chosen (choice : Choice) (name : String) (attached : Option String)

/-- The argument behind which all others are plain. -/
def separatorText : String := "--"

/-- Every name of the options, with its option. -/
def namesOf (choices : List Choice) : List (String × Choice) :=
  choices.flatMap fun choice => choice.names.map fun name => (name, choice)

/-- Cuts a text at its first equals sign. -/
def cutAtEquals (text : String) : String × Option String :=
  match text.toList.dropWhile (· ≠ '=') with
  | [] => (text, none)
  | _ :: rest => (String.ofList (Text.beforeFirst '=' text.toList), some (String.ofList rest))

/-- Whether a name is a long one. -/
def isLong (name : String) : Bool :=
  Text.startsWith ['-', '-'] name.toList

/-- The options that an argument may shorten. -/
def candidates (choices : List Choice) (text : String) : List (Choice × String × Option String) :=
  if isLong text then
    let (start, attached) := cutAtEquals text
    (namesOf choices).filterMap fun (name, choice) =>
      if Text.startsWith start.toList name.toList then some (choice, name, attached) else none
  else
    let (short, attached) := text.toList.splitAt 2
    (namesOf choices).filterMap fun (name, choice) =>
      if name.toList = short then some (choice, name, some (String.ofList attached)) else none

/-- Whether a text is that of a negative number: digits with at most one point among or before
them. -/
def isNegativeNumber (text : List Char) : Bool :=
  match text with
  | '-' :: digits =>
    let whole := digits.takeWhile Text.isDigit
    match digits.drop whole.length with
    | [] | ['\n'] => !whole.isEmpty
    | '.' :: fraction =>
      let places := fraction.takeWhile Text.isDigit
      let rest := fraction.drop places.length
      !places.isEmpty && (rest == [] || rest == ['\n'])
    | _ => false
  | _ => false

/-- What an argument before the separator is. -/
def argumentOf (choices : List Choice) (text : String) : Except Problem Argument :=
  match text.toList with
  | '-' :: _ :: _ =>
    match (namesOf choices).lookup text with
    | some choice => pure (.chosen choice text none)
    | none =>
      let (name, attached) := cutAtEquals text
      match attached, (namesOf choices).lookup name with
      | some operand, some choice => pure (.chosen choice name (some operand))
      | _, _ =>
        match candidates choices text with
        | [(choice, name, attached)] => pure (.chosen choice name attached)
        | [] =>
          if isNegativeNumber text.toList || text.toList.contains ' ' then pure (.plain text)
          else pure (.unknown text)
        | several => throw (.ambiguous text (several.map fun (_, name, _) => name))
  | _ => pure (.plain text)

/-- What each argument is. -/
def argumentsOf (choices : List Choice) : List String → Except Problem (List Argument)
  | [] => pure []
  | text :: rest =>
    if text = separatorText then pure (.separator :: rest.map .plain)
    else do
      let argument ← argumentOf choices text
      return argument :: (← argumentsOf choices rest)

/-! ## Settings -/

/-- What options have been given, by the settings they fill. -/
abbrev Settings := Entries

namespace Settings

/-- The settings without any option. -/
def initial (choices : List Choice) : Settings :=
  choices.map fun choice => (.text choice.setting, choice.absent)

/-- A setting. -/
def get (settings : Settings) (name : String) : Value :=
  (Entries.field? name settings).getD .null

end Settings

/-- What reading the arguments comes to. -/
inductive Reading where
  | settings (settings : Settings)
  | help
  | refused (problem : Problem)

/-- The value of an operand.  The separator is never an operand: attached to an option it leaves an
empty list. -/
def operandValue (choice : Choice) (given : String) : Except Problem Value :=
  if given = separatorText then pure (.plainList [])
  else
    match choice.operand with
    | .integer _ =>
      match Decimal.readInt? given.toList with
      | some n => pure (.int n)
      | none => throw (.notAnInteger choice given)
    | _ => pure (.text given)

/-- The options that one argument gives, the last of them with the operand that is attached to it.
Short names without an operand may stand together behind one dash. -/
def together (choices : List Choice) (choice : Choice) (name : String) (attached : List Char) :
    Except Problem (List Choice × Option (List Char)) :=
  match choice.operand with
  | .nothing =>
    if isLong name then throw (.unwantedOperand choice (String.ofList attached))
    else further choice attached
  | _ => pure ([choice], some attached)
where
  /-- The options of the letters behind a short name that takes no operand. -/
  further (choice : Choice) : List Char → Except Problem (List Choice × Option (List Char))
    | [] => throw (.unwantedOperand choice "")
    | letter :: rest =>
      match (namesOf choices).lookup (String.ofList ['-', letter]) with
      | none => throw (.unwantedOperand choice (String.ofList (letter :: rest)))
      | some next =>
        if rest.isEmpty then pure ([choice, next], none)
        else
          match next.operand with
          | .nothing => do
            let (others, attached) ← further next rest
            return (choice :: others, attached)
          | _ => pure ([choice, next], some rest)

/-- What one argument gives: options without an operand, and perhaps one with its operand. -/
structure Given where
  flags : List Choice
  valued : Option (Choice × String) := none
  /-- Whether the operand is the next argument. -/
  usesNext : Bool := false

/-- What an option gives, in view of the argument behind it. -/
def givenBy (choices : List Choice) (choice : Choice) (name : String) (attached : Option String)
    (next : Option Argument) : Except Problem Given := do
  let (all, attached) ←
    match attached with
    | some operand => together choices choice name operand.toList
    | none => pure ([choice], none)
  let last := all.getLastD choice
  match last.operand, attached, next with
  | .nothing, _, _ => return { flags := all }
  | _, some operand, _ =>
    return { flags := all.dropLast, valued := some (last, String.ofList operand) }
  | _, none, some (.plain text) =>
    return { flags := all.dropLast, valued := some (last, text), usesNext := true }
  | _, none, _ => throw (.missingOperand last)

/-- Fills the settings of what one argument gives; `none` when it asks for help. -/
def fill (settings : Settings) (given : Given) : Except Problem (Option Settings) :=
  if given.flags.any fun choice => choice.setting = Choice.help.setting then pure none
  else
    let settings := given.flags.foldl
      (fun settings choice => Entries.insert (.text choice.setting) (.bool true) settings) settings
    match given.valued with
    | none => pure (some settings)
    | some (choice, text) => do
      return some (Entries.insert (.text choice.setting) (← operandValue choice text) settings)

/-- Goes through the arguments from the left.  `skip` says that the first one was the operand of an
option, and `extras` are those that belong to nothing. -/
def readFrom (choices : List Choice) (skip : Bool) (settings : Settings) (extras : List String) :
    List Argument → Reading
  | [] => if extras.isEmpty then .settings settings else .refused (.unrecognized extras)
  | argument :: rest =>
    if skip then readFrom choices false settings extras rest
    else
      match argument with
      | .separator => readFrom choices false settings (extras ++ [separatorText]) rest
      | .plain text => readFrom choices false settings (extras ++ [text]) rest
      | .unknown text => readFrom choices false settings (extras ++ [text]) rest
      | .chosen choice name attached =>
        match givenBy choices choice name attached rest.head? with
        | .error problem => .refused problem
        | .ok given =>
          match fill settings given with
          | .error problem => .refused problem
          | .ok none => .help
          | .ok (some settings) => readFrom choices given.usesNext settings extras rest

/-- Reads the arguments of a command. -/
def read (choices : List Choice) (arguments : List String) : Reading :=
  let all := Choice.help :: choices
  match argumentsOf all arguments with
  | .error problem => .refused problem
  | .ok arguments => readFrom all false (Settings.initial choices) [] arguments

end WorkflowAudit.CommandLine
