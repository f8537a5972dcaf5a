import WorkflowAudit.Value.Written

/-! # Failures

Everything that can end an operation early, by cause.  `Failure.kind` groups the causes and
`Failure.message` is the one place where their wording is fixed.

Running out of stack or memory is left out: values nest, and texts grow, without a limit.
-/

namespace WorkflowAudit

/-- The groups of causes that answers distinguish. -/
inductive FailureKind where
  | attribute | index | json | key | name | type | value
  | missingFile | directoryGiven | notADirectory | occupied | connection
  | code | indentation | tabs
  | pattern | encoding | saved
  | document | documentCharacter | construction | duplicateKey | documentStream
  | assertion | overflow | system
deriving BEq, DecidableEq

/-- What is wrong with a JSON text. -/
inductive JsonProblem where
  | expectedValue | extraData | expectedComma | expectedColon | expectedName
  | unterminatedText | badEscape | badCodeEscape | controlCharacter | byteOrderMark
deriving BEq, DecidableEq

/-- What is wrong with a path. -/
inductive PathProblem where
  | missing | isDirectory | notDirectory | occupied
deriving BEq, DecidableEq

/-- How Python code fails to be a program. -/
inductive CodeProblem where
  | invalid | badIndentation | mixedTabs
deriving BEq, DecidableEq

/-- Why a document could not be turned into a value. -/
inductive DocumentProblem where
  | grammar | character | construction | duplicateKey | notText
deriving BEq, DecidableEq

/-- A cause that ends an operation. -/
inductive Failure where
  /-- A value of kind `owner` lacks what `name` asks for. -/
  | noAttribute (owner name : String)
  | noKey (key : Value)
  | outOfRange (owner : String)
  | undefinedName (name : String)
  | notSubscriptable (owner : String)
  | notIterable (owner : String)
  | badListIndex (given : String)
  | badTextIndex (given : String)
  | noAssignment (owner : String)
  | notUnpackable (owner : String)
  | joinOfOther
  | joinItem (position : Nat) (given : String)
  | unhashable (owner : String)
  | notSearchable (given : String)
  | searchedFor (given : String)
  | concatenation (given : String)
  | subtraction (left : String)
  | notACount (given : String)
  | notEncodable (given : String)
  | comparison (left : String)
  | notCode
  | notAPath (given : String)
  /-- A value of a kind that JSON has no form for. -/
  | notSerializable (given : String)
  /-- A key of a kind that cannot be the name of a member. -/
  | notAMemberName (given : String)
  /-- A procedure was handed a different number of arguments than it takes. -/
  | argumentCount (procedure : String) (takes given : Nat)
  | tooFewToUnpack (expected given : Nat)
  | tooManyToUnpack (expected : Nat)
  | negativeWait
  | undefinedWait
  | emptyMaximum
  | notFinite
  | badInteger (base : Nat) (text : String)
  | badFloat (text : String)
  /-- A text with too many digits to be read as an integer. -/
  | longNumeral (digits : Nat)
  /-- An integer with too many digits to be shown. -/
  | longInteger
  | missingPoint
  | outOfCalendar (part : String) (bounds : String)
  | yearOutOfRange (year : Nat)
  | dayOutOfMonth
  | nullInPath
  | negativeDescriptor
  | badCodePoint
  | clashingFlags
  | json (problem : JsonProblem) (line column position : Nat)
  | path (problem : PathProblem) (path : String)
  | noAnswer
  | code (problem : CodeProblem)
  | pattern
  | notUtf8
  | notSaved
  | document (problem : DocumentProblem)
  | assertion
  | overflow
  | system

namespace JsonProblem

/-- The wording of a problem with a JSON text. -/
def message : JsonProblem → String
  | expectedValue => "Expecting value"
  | extraData => "Extra data"
  | expectedComma => "Expecting ',' delimiter"
  | expectedColon => "Expecting ':' delimiter"
  | expectedName => "Expecting property name enclosed in double quotes"
  | unterminatedText => "Unterminated string starting at"
  | badEscape => "Invalid \\escape"
  | badCodeEscape => "Invalid \\uXXXX escape"
  | controlCharacter => "Invalid control character at"
  | byteOrderMark => "Unexpected UTF-8 BOM (decode using utf-8-sig)"

end JsonProblem

namespace PathProblem

/-- The number and wording of a problem with a path. -/
def message : PathProblem → String
  | missing => "[Errno 2] No such file or directory"
  | isDirectory => "[Errno 21] Is a directory"
  | notDirectory => "[Errno 20] Not a directory"
  | occupied => "[Errno 17] File exists"

end PathProblem

namespace Failure

/-- The group a cause belongs to. -/
def kind : Failure → FailureKind
  | noAttribute _ _ => .attribute
  | noKey _ => .key
  | outOfRange _ => .index
  | undefinedName _ => .name
  | notSubscriptable _ | notIterable _ | badListIndex _ | badTextIndex _ | noAssignment _
  | notUnpackable _ | joinOfOther | joinItem _ _ | unhashable _ | notSearchable _ | searchedFor _
  | concatenation _ | subtraction _ | notACount _ | notEncodable _
  | comparison _ | notCode | notAPath _ | notSerializable _ | notAMemberName _
  | argumentCount _ _ _ => .type
  | tooFewToUnpack _ _ | tooManyToUnpack _ | negativeWait | undefinedWait | emptyMaximum | notFinite
  | badInteger _ _ | badFloat _ | longNumeral _ | longInteger
  | missingPoint | outOfCalendar _ _ | yearOutOfRange _ | dayOutOfMonth | nullInPath
  | negativeDescriptor | badCodePoint | clashingFlags => .value
  | json _ _ _ _ => .json
  | path .missing _ => .missingFile
  | path .isDirectory _ => .directoryGiven
  | path .notDirectory _ => .notADirectory
  | path .occupied _ => .occupied
  | noAnswer => .connection
  | code .invalid => .code
  | code .badIndentation => .indentation
  | code .mixedTabs => .tabs
  | pattern => .pattern
  | notUtf8 => .encoding
  | notSaved => .saved
  | document .grammar => .document
  | document .character => .documentCharacter
  | document .construction => .construction
  | document .duplicateKey => .duplicateKey
  | document .notText => .documentStream
  | assertion => .assertion
  | overflow => .overflow
  | system => .system

/-- A text between quotes. -/
def quotedName (s : String) : String :=
  String.ofList (Text.quoted s.toList)

/-- What the wording of both causes about long integers starts with, and what it ends with. -/
def longIntegerWording (middle : String) : String :=
  let limit := Text.digitLimit
  s!"Exceeds the limit ({limit} digits) for integer string conversion{middle}; " ++
    "use sys.set_int_max_str_digits() to increase the limit"

/-- The wording of a cause; empty for the kinds whose answers carry no text. -/
def message : Failure → String
  | noAttribute owner name => s!"'{owner}' object has no attribute '{name}'"
  | noKey key => String.ofList key.written
  | outOfRange owner => s!"{owner} index out of range"
  | undefinedName name => s!"name '{name}' is not defined"
  | notSubscriptable owner => s!"'{owner}' object is not subscriptable"
  | notIterable owner => s!"'{owner}' object is not iterable"
  | badListIndex given => s!"list indices must be integers or slices, not {given}"
  | badTextIndex given => s!"string indices must be integers, not '{given}'"
  | noAssignment owner => s!"'{owner}' object does not support item assignment"
  | notUnpackable owner => s!"cannot unpack non-iterable {owner} object"
  | joinOfOther => "can only join an iterable"
  | joinItem position given => s!"sequence item {position}: expected str instance, {given} found"
  | unhashable owner => s!"unhashable type: '{owner}'"
  | notSearchable given => s!"expected string or bytes-like object, got '{given}'"
  | searchedFor given => s!"'in <string>' requires string as left operand, not {given}"
  | concatenation given => s!"can only concatenate str (not \"{given}\") to str"
  | subtraction left => s!"unsupported operand type(s) for -: '{left}' and 'int'"
  | notACount given => s!"bad operand type for abs(): '{given}'"
  | notEncodable given =>
    s!"descriptor 'encode' for 'str' objects doesn't apply to a '{given}' object"
  | comparison left => s!"'<' not supported between instances of '{left}' and 'int'"
  | notCode => "compile() arg 1 must be a string, bytes or AST object"
  | notAPath given => s!"expected str, bytes or os.PathLike object, not {given}"
  | notSerializable given => s!"Object of type {given} is not JSON serializable"
  | notAMemberName given => s!"keys must be str, int, float, bool or None, not {given}"
  | argumentCount procedure takes given =>
    s!"{procedure}() takes {takes} positional arguments but {given} were given"
  | tooFewToUnpack expected given =>
    s!"not enough values to unpack (expected {expected}, got {given})"
  | tooManyToUnpack expected => s!"too many values to unpack (expected {expected})"
  | negativeWait => "sleep length must be non-negative"
  | undefinedWait => "Invalid value NaN (not a number)"
  | emptyMaximum => "max() arg is an empty sequence"
  | notFinite => "cannot convert float NaN to integer"
  | badInteger base text =>
    let shown := quotedName text
    s!"invalid literal for int() with base {base}: {shown}"
  | badFloat text =>
    let shown := quotedName text
    s!"could not convert string to float: {shown}"
  | longNumeral digits => longIntegerWording s!": value has {digits} digits"
  | longInteger => longIntegerWording ""
  | missingPoint => "substring not found"
  | outOfCalendar part bounds => s!"{part} must be in {bounds}"
  | yearOutOfRange year => s!"year {year} is out of range"
  | dayOutOfMonth => "day is out of range for month"
  | nullInPath => "embedded null byte"
  | negativeDescriptor => "negative file descriptor"
  | badCodePoint => "chr() arg not in range(0x110000)"
  | clashingFlags => "ASCII and UNICODE flags are incompatible"
  | json problem line column position =>
    let wording := problem.message
    s!"{wording}: line {line} column {column} (char {position})"
  | .path problem name =>
    let wording := problem.message
    let shown := quotedName name
    s!"{wording}: {shown}"
  | noAnswer => "no answer scripted"
  | _ => ""

end Failure

end WorkflowAudit
