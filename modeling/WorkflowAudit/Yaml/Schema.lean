import WorkflowAudit.Decimal.Reading
import WorkflowAudit.Yaml.Fault

/-! # What plain scalars mean

A plain scalar without a tag gets one from its spelling: the words for truth values and null, the
forms of numbers and points in time, the merge key and the default key.  Everything else is text.
The version of the language decides which words and forms count.
-/

namespace WorkflowAudit.Yaml

/-- What a node is to be understood as. -/
inductive Tag where
  | null | bool | int | float | binary | timestamp
  | orderedMapping | pairs | set | text | sequence | mapping
  | merge | default
  | unknown (name : List Char)
deriving BEq, DecidableEq

namespace Tag

/-- What the full names of the known tags start with. -/
def namespaceText : List Char := "tag:yaml.org,2002:".toList

/-- The tags that a short name stands for. -/
def shortNames : List (String × Tag) :=
  [("null", .null), ("bool", .bool), ("int", .int), ("float", .float), ("binary", .binary),
   ("timestamp", .timestamp), ("omap", .orderedMapping), ("pairs", .pairs), ("set", .set),
   ("str", .text), ("seq", .sequence), ("map", .mapping)]

/-- The tag with a full name. -/
def ofName (name : List Char) : Tag :=
  match Text.after? namespaceText name with
  | none => .unknown name
  | some short =>
    match shortNames.lookup (String.ofList short) with
    | some tag => tag
    | none => .unknown name

/-- Whether a name is the short name of a tag. -/
def isShortName (name : List Char) : Bool :=
  (shortNames.lookup (String.ofList name)).isSome

end Tag

namespace Schema

/-- The rest of a text behind a sign, if it has one. -/
def unsigned (text : List Char) : List Char :=
  (Decimal.takeSign text).2

/-- Whether a character is a digit or an underscore. -/
def isGrouped (c : Char) : Bool :=
  Text.isAsciiDigit c || c = '_'

/-- Whether a text is an exponent, or empty. -/
def isExponentOrEmpty (signRequired : Bool) : List Char → Bool
  | [] => true
  | c :: rest =>
    let signed := rest.head? = some '-' || rest.head? = some '+'
    let digits := unsigned rest
    (c = 'e' || c = 'E') && (signed || !signRequired) && !digits.isEmpty &&
      digits.all Text.isAsciiDigit

/-- What follows one or more groups of a number to the base sixty, each a colon and a number below
sixty. -/
def behindSixties (fuel : Nat) (text : List Char) : Option (List Char) :=
  match fuel, text with
  | fuel + 1, ':' :: a :: b :: rest =>
    if '0' ≤ a ∧ a ≤ '5' ∧ Text.isAsciiDigit b then some ((behindSixties fuel rest).getD rest)
    else if Text.isAsciiDigit a then some ((behindSixties fuel (b :: rest)).getD (b :: rest))
    else none
  | _ + 1, [':', a] => if Text.isAsciiDigit a then some [] else none
  | _, _ => none

/-- Whether a text is a double. -/
def isFloat (version : Version) (text : List Char) : Bool :=
  let body := unsigned text
  let hasSign := body.length < text.length
  match body with
  | '.' :: rest =>
    let fraction := rest.takeWhile isGrouped
    (!fraction.isEmpty && isExponentOrEmpty true (rest.drop fraction.length) &&
        (version ≠ Version.old || !hasSign)) ||
      ["inf", "Inf", "INF"].any (·.toList == rest) ||
      (!hasSign && ["nan", "NaN", "NAN"].any (·.toList == rest))
  | c :: _ =>
    if Text.isAsciiDigit c then
      let behind := body.drop (body.takeWhile isGrouped).length
      match behind with
      | '.' :: rest => isExponentOrEmpty false (rest.dropWhile isGrouped)
      | 'e' :: _ | 'E' :: _ => isExponentOrEmpty false behind
      | ':' :: _ =>
        version == Version.old &&
          match behindSixties behind.length behind with
          | some ('.' :: rest) => rest.all isGrouped
          | _ => false
      | _ => false
    else false
  | [] => false

/-- Whether a text is not empty and all its characters satisfy a test. -/
def isRun (test : Char → Bool) (text : List Char) : Bool :=
  !text.isEmpty && text.all test

/-- Whether a character is a binary digit or an underscore. -/
def isBinaryChar (c : Char) : Bool :=
  c = '0' || c = '1' || c = '_'

/-- Whether a character is an octal digit or an underscore. -/
def isOctalChar (c : Char) : Bool :=
  ('0' ≤ c && c ≤ '7') || c = '_'

/-- Whether a character is a hexadecimal digit or an underscore. -/
def isHexChar (c : Char) : Bool :=
  Text.isAsciiDigit c || ('a' ≤ c && c ≤ 'f') || ('A' ≤ c && c ≤ 'F') || c = '_'

/-- Whether a text is an integer. -/
def isInt (version : Version) (text : List Char) : Bool :=
  let startsRight :=
    match text with
    | c :: _ => c = '-' || c = '+' || Text.isAsciiDigit c
    | [] => false
  let body := unsigned text
  startsRight &&
    match body with
    | '0' :: 'b' :: rest => isRun isBinaryChar rest
    | '0' :: 'x' :: rest => isRun isHexChar rest
    | '0' :: 'o' :: rest => version ≠ Version.old && isRun isOctalChar rest
    | c :: _ =>
      if version == Version.old then
        isRun isOctalChar body ||
          ('1' ≤ c && c ≤ '9' &&
            (let behind := body.drop (body.takeWhile isGrouped).length
             behind.isEmpty || behindSixties behind.length behind == some []))
      else isRun isGrouped body
    | [] => false

/-- The number of digits at the front of a text. -/
def leadingDigits (text : List Char) : Nat :=
  (text.takeWhile Text.isAsciiDigit).length

/-- Whether a text is a zone: the letter for universal time, or a signed offset in hours and
minutes. -/
def isZone : List Char → Bool
  | ['Z'] => true
  | c :: rest =>
    let hours := leadingDigits rest
    (c = '-' || c = '+') && (hours = 1 || hours = 2) &&
      match rest.drop hours with
      | [] => true
      | [':', a, b] => Text.isAsciiDigit a && Text.isAsciiDigit b
      | _ => false
  | [] => false

/-- Whether a text, behind day and separator, is a time of day with or without a zone. -/
def isTime (text : List Char) : Bool :=
  let hours := leadingDigits text
  (hours = 1 || hours = 2) &&
    match text.drop hours with
    | ':' :: a :: b :: ':' :: c :: d :: rest =>
      [a, b, c, d].all Text.isAsciiDigit &&
        (let behind :=
          match rest with
          | '.' :: fraction => fraction.dropWhile Text.isAsciiDigit
          | _ => rest
         let zone := behind.dropWhile fun c => c = ' ' || c = '\t'
         behind.isEmpty || isZone zone)
    | _ => false

/-- The lengths of the three numbers of a day at the front of a text, and what follows them. -/
def dayShape? (text : List Char) : Option ((Nat × Nat × Nat) × List Char) :=
  let years := leadingDigits text
  match text.drop years with
  | '-' :: rest =>
    let months := leadingDigits rest
    match rest.drop months with
    | '-' :: rest =>
      let days := leadingDigits rest
      some ((years, months, days), rest.drop days)
    | _ => none
  | _ => none

/-- Whether a text is a point in time: a day with two digits each for month and day, or a day and a
time. -/
def isTimestamp (text : List Char) : Bool :=
  match dayShape? text with
  | some ((4, months, days), rest) =>
    (months = 2 && days = 2 && rest.isEmpty) ||
      ((months = 1 || months = 2) && (days = 1 || days = 2) &&
        match rest with
        | 'T' :: time | 't' :: time => isTime time
        | ' ' :: time | '\t' :: time => isTime (time.dropWhile fun c => c = ' ' || c = '\t')
        | _ => false)
  | _ => false

/-- The words for truth values. -/
def boolWords (version : Version) : List String :=
  let words := ["true", "True", "TRUE", "false", "False", "FALSE"]
  if version == Version.old then
    ["y", "Y", "yes", "Yes", "YES", "n", "N", "no", "No", "NO", "on", "On", "ON", "off", "Off",
      "OFF"] ++ words
  else words

/-- The tag that the spelling of a plain scalar gives it. -/
def plainTag (version : Version) (text : List Char) : Tag :=
  let word := String.ofList text
  if (boolWords version).contains word then .bool
  else if isFloat version text then .float
  else if isInt version text then .int
  else if word == "<<" then .merge
  else if ["", "~", "null", "Null", "NULL"].contains word then .null
  else if isTimestamp text then .timestamp
  else if word == "=" then .default
  else .text

/-- The tag of a plain scalar; only two versions of the language say what plain scalars mean. -/
def resolve (version : Version) (text : List Char) : Except Fault Tag :=
  if version == Version.current || version == Version.old then pure (plainTag version text)
  else throw (.failure (.noKey (.list .fixed [.int version.major, .int version.minor])))

end Schema

end WorkflowAudit.Yaml
