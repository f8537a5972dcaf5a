import WorkflowAudit.Pattern.Basic
import WorkflowAudit.Text.Blank

/-! # Matching

A pattern is matched from a position on by backtracking: a matcher is handed what is to follow, and
tries its own ways of matching in order of preference until one lets the rest succeed.  White space
is that of all scripts; digits, the characters of words and the cases of letters are those of ASCII.
-/

namespace WorkflowAudit.Pattern

/-- A position in a subject and what the groups have matched. -/
structure Progress where
  position : Nat
  /-- The start and the end of the text of each group that has matched, the latest first. -/
  groups : List (Nat × Nat × Nat) := []

/-- What is to follow a match. -/
abbrev Continuation := Progress → Option Progress

/-- A way of matching. -/
abbrev Matcher := Continuation → Progress → Option Progress

/-- The other case of a letter. -/
def otherCase (c : Char) : Char :=
  if c.isLower then c.toUpper else c.toLower

/-- Whether a character can be part of a word. -/
def isWordChar (c : Char) : Bool :=
  c.isAlphanum || c = '_'

/-- Whether a character is in a class. -/
def CharClass.has (kind : CharClass) (c : Char) : Bool :=
  match kind with
  | .digit => c.isDigit
  | .space => Text.isBlank c
  | .word => isWordChar c

/-- Whether a character is a member of a set. -/
def memberHas (c : Char) : SetMember → Bool
  | .range first last => first ≤ c.toNat && c.toNat ≤ last
  | .ofClass kind negated => CharClass.has kind c != negated

/-- Whether a set has a character, in either case where case is ignored. -/
def setHas (flags : PatternFlags) (members : List SetMember) (c : Char) : Bool :=
  members.any (memberHas c) || (flags.ignoreCase && members.any (memberHas (otherCase c)))

/-- Matches one character by a test. -/
def matchChar (subject : Array Char) (test : Char → Bool) : Matcher := fun follow p =>
  match subject[p.position]? with
  | some c => if test c then follow { p with position := p.position + 1 } else none
  | none => none

/-- Whether a position is where a word starts or ends. -/
def atWordBoundary (subject : Array Char) (position : Nat) : Bool :=
  let isWordAt (k : Nat) : Bool := (subject[k]?.map isWordChar).getD false
  let before := position > 0 && isWordAt (position - 1)
  before != isWordAt position

/-- Whether a position satisfies an anchor. -/
def holdsAt (subject : Array Char) (flags : PatternFlags) (kind : Anchor) (position : Nat) : Bool :=
  let atEnd := position == subject.size
  match kind with
  | .textStart => position == 0
  | .lineStart => position == 0 || (flags.multiline && subject[position - 1]? == some '\n')
  | .textEnd => atEnd
  | .lineEnd =>
    atEnd || (subject[position]? == some '\n' && (flags.multiline || position + 1 == subject.size))
  | .wordBoundary => atWordBoundary subject position
  | .noWordBoundary => !atWordBoundary subject position

/-- Whether two characters are the same, in either case where case is ignored. -/
def sameChar (flags : PatternFlags) (c d : Char) : Bool :=
  c == d || (flags.ignoreCase && otherCase c == d)

/-- Matches the text of a group once more. -/
def matchReference (subject : Array Char) (flags : PatternFlags) (number : Nat) : Matcher :=
    fun follow p =>
  match p.groups.lookup number with
  | none => none
  | some (first, last) =>
    let length := last - first
    let same := (List.range length).all fun k =>
      match subject[first + k]?, subject[p.position + k]? with
      | some c, some d => sameChar flags c d
      | _, _ => false
    if same then follow { p with position := p.position + length } else none

/-- Rounds of a repetition.  `done` rounds have been made; a further round beyond the least number
must start behind the start of the round before it, which bounds their number by `fuel`. -/
def rounds (mode : RepeatMode) (body : Matcher) (least : Nat) (most : Option Nat) :
    (fuel done : Nat) → (last : Option Nat) → Matcher
  | 0, _, _ => fun follow p => follow p
  | fuel + 1, done, last => fun follow p =>
    if done < least then
      body (fun q => rounds mode body least most fuel (done + 1) last follow q) p
    else
      let mayGoOn := most.all (fun bound => done < bound) && last ≠ some p.position
      let goOn : Option Progress :=
        if mayGoOn then
          body (fun q => rounds mode body least most fuel (done + 1) (some p.position) follow q) p
        else none
      match mode with
      | .lazy => (follow p).or goOn
      | _ => goOn.or (follow p)

/-- Rounds of a possessive repetition, each of which is made in its preferred way only. -/
def ownRounds (body : Matcher) (least : Nat) (most : Option Nat) :
    (fuel done : Nat) → (last : Option Nat) → Progress → Option Progress
  | 0, _, _ => fun p => some p
  | fuel + 1, done, last => fun p =>
    if done < least then
      match body some p with
      | some q => ownRounds body least most fuel (done + 1) last q
      | none => none
    else if most.all (fun bound => done < bound) && last ≠ some p.position then
      match body some p with
      | some q => ownRounds body least most fuel (done + 1) (some p.position) q
      | none => some p
    else some p

mutual

/-- Matches a pattern. -/
def run (subject : Array Char) : Pattern → Matcher
  | .oneOf flags negated members => matchChar subject fun c => setHas flags members c != negated
  | .any flags => matchChar subject fun c => flags.dotAll || c ≠ '\n'
  | .anchor flags kind => fun follow p =>
    if holdsAt subject flags kind p.position then follow p else none
  | .sequence parts => runAll subject parts
  | .choice options => runOneOf subject options
  | .group number body => fun follow p =>
    run subject body
      (fun q => follow { q with groups := (number, p.position, q.position) :: q.groups }) p
  | .atomic body => fun follow p =>
    match run subject body some p with
    | some q => follow q
    | none => none
  | .repetition mode least most body => fun follow p =>
    -- a round that matches nothing can be repeated at will, so more rounds than characters need no
    -- counting
    let least := min least (subject.size + 1)
    let fuel := least + subject.size + 3
    match mode with
    | .possessive =>
      match ownRounds (run subject body) least most fuel 0 none p with
      | some q => follow q
      | none => none
    | _ => rounds mode (run subject body) least most fuel 0 none follow p
  | .reference flags number _ _ => matchReference subject flags number
  | .look behind negated body => fun follow p =>
    let found :=
      match behind with
      | none => run subject body some p
      | some width =>
        if width ≤ p.position then
          run subject body some { p with position := p.position - width }
        else none
    match found, negated with
    | some q, false => follow { q with position := p.position }
    | none, true => follow p
    | _, _ => none
  | .condition number yes no => fun follow p =>
    if (p.groups.lookup number).isSome then run subject yes follow p else run subject no follow p

/-- Matches patterns in a row. -/
def runAll (subject : Array Char) : List Pattern → Matcher
  | [] => fun follow p => follow p
  | part :: rest => fun follow p => run subject part (fun q => runAll subject rest follow q) p

/-- Matches the first of some patterns that lets the rest succeed. -/
def runOneOf (subject : Array Char) : List Pattern → Matcher
  | [] => fun _ _ => none
  | option :: rest => fun follow p =>
    (run subject option follow p).or (runOneOf subject rest follow p)

end

/-- Whether a pattern matches at the beginning of a subject. -/
def matchesStart (pattern : Pattern) (subject : List Char) : Bool :=
  (run subject.toArray pattern some ⟨0, []⟩).isSome

end WorkflowAudit.Pattern
