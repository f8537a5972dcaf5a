import WorkflowAudit.Text.Digit
import WorkflowAudit.Text.Search

/-! # Versions

A version is three numbers, perhaps with release identifiers before and build identifiers after the
release.  `coerce?` makes a version of a loosely written text: it needs one to three leading
numbers, supplies missing ones as zero, drops leading zeros, and reads the rest as identifiers, with
a dash in place of every character that identifiers cannot hold.

Versions are ordered by their numbers, then a version with release identifiers comes before the one
without, then identifiers are compared one by one, numbers before words; build identifiers do not
count.  A version with a release identifier that is too long a number cannot be compared.
-/

namespace WorkflowAudit

/-- A version. -/
structure Version where
  major : Nat
  minor : Nat
  patch : Nat
  prerelease : List (List Char)
  build : List (List Char)

namespace Version

/-- The numbers at the front of a text, up to `count` of them with points between, and what follows
them. -/
def leadingNumbers : (count : Nat) → List Char → List (List Char) × List Char
  | 0, text => ([], text)
  | count + 1, text =>
    let digits := text.takeWhile Text.isDigit
    let rest := text.drop digits.length
    if digits.isEmpty then ([], text)
    else
      match rest with
      | '.' :: behind =>
        match leadingNumbers count behind with
        | ([], _) => ([digits], rest)
        | (more, left) => (digits :: more, left)
      | _ => ([digits], rest)

/-- Whether a character can stand in what follows the numbers. -/
def isIdentifierChar (c : Char) : Bool :=
  c.isAlphanum || c = '+' || c = '.' || c = '-'

/-- The release and build parts of what follows the numbers.  A plus or a point starts the build
part at once; otherwise the release part, with one leading dash dropped, goes up to the first
plus. -/
def splitRest : List Char → List Char × List Char
  | [] => ([], [])
  | c :: rest =>
    if c = '+' ∨ c = '.' then ([], rest)
    else
      let text := if c = '-' then rest else c :: rest
      (text.takeWhile (· ≠ '+'), (text.dropWhile (· ≠ '+')).drop 1)

/-- The identifiers of a part; `none` when one is empty.  An empty part has no identifiers. -/
def identifiers? (part : List Char) : Option (List (List Char)) :=
  if part.isEmpty then some []
  else
    let identifiers := Text.pieces '.' part
    if identifiers.any (·.isEmpty) then none else some identifiers

/-- Whether an identifier is a number. -/
def isNumeric (identifier : List Char) : Bool :=
  identifier.all Text.isAsciiDigit

/-- Whether an identifier is a number with a superfluous zero in front. -/
def hasLeadingZero (identifier : List Char) : Bool :=
  identifier.head? == some '0' && identifier != ['0'] && isNumeric identifier

/-- The number that digits spell, unless there are more of them than a version may have. -/
def number? (digits : List Char) : Option Nat :=
  if (digits.dropWhile (· = '0')).length > Text.digitLimit then none
  else some (Text.digitsValue digits)

/-- The version that a loosely written text stands for. -/
def coerce? (text : List Char) : Option Version :=
  match leadingNumbers 3 text with
  | ([], _) => none
  | (numbers, rest) => do
    let major ← number? (numbers.getD 0 [])
    let minor ← number? (numbers.getD 1 [])
    let patch ← number? (numbers.getD 2 [])
    let (release, build) := splitRest (rest.map fun c => if isIdentifierChar c then c else '-')
    let release ← identifiers? release
    let build ← identifiers? (build.map fun c => if c = '+' then '.' else c)
    if release.any hasLeadingZero then none
    else some ⟨major, minor, patch, release, build⟩

/-- The order of texts by code points. -/
def compareTexts : List Char → List Char → Ordering
  | [], [] => .eq
  | [], _ => .lt
  | _, [] => .gt
  | c :: s, d :: t => (compare c.toNat d.toNat).then (compareTexts s t)

/-- The order of identifiers: numbers come before words. -/
def compareIdentifiers (a b : List Char) : Ordering :=
  match isNumeric a, isNumeric b with
  | true, true => compare (Text.digitsValue a) (Text.digitsValue b)
  | true, false => .lt
  | false, true => .gt
  | false, false => compareTexts a b

/-- The order of lists of identifiers. -/
def compareAll : List (List Char) → List (List Char) → Ordering
  | [], [] => .eq
  | [], _ => .lt
  | _, [] => .gt
  | a :: as, b :: bs => (compareIdentifiers a b).then (compareAll as bs)

/-- The order of release parts: having none comes last. -/
def compareReleases (a b : List (List Char)) : Ordering :=
  match a.isEmpty, b.isEmpty with
  | true, true => .eq
  | true, false => .gt
  | false, true => .lt
  | false, false => compareAll a b

/-- The order of versions. -/
def order (v w : Version) : Ordering :=
  (compare v.major w.major).then <|
    (compare v.minor w.minor).then <|
      (compare v.patch w.patch).then (compareReleases v.prerelease w.prerelease)

/-- Whether a version can be compared: no number among its release identifiers has more digits than
an integer is read from. -/
def isComparable (v : Version) : Bool :=
  v.prerelease.all fun identifier =>
    !(isNumeric identifier && identifier.length > Text.digitLimit)

/-- Whether a version is at least as new as another. -/
def isAtLeast (v w : Version) : Bool :=
  (v.order w).isGE

end Version

end WorkflowAudit
