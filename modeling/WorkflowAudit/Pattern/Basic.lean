/-! # Patterns

Regular expressions with groups, references to groups, conditions on groups, assertions about the
surroundings, and greedy, lazy and possessive repetition.  The flags in force at a place are part of
the pattern there.
-/

namespace WorkflowAudit

/-- The flags that change how characters match. -/
structure PatternFlags where
  ignoreCase : Bool := false
  multiline : Bool := false
  dotAll : Bool := false
  verbose : Bool := false

/-- The classes of characters that have an escape. -/
inductive CharClass where
  | digit
  | space
  | word

/-- A member of a set of characters. -/
inductive SetMember where
  /-- The characters with codes between two bounds. -/
  | range (first last : Nat)
  | ofClass (kind : CharClass) (negated : Bool)

/-- A condition on a position. -/
inductive Anchor where
  | lineStart
  | lineEnd
  | textStart
  | textEnd
  | wordBoundary
  | noWordBoundary

/-- How a repetition chooses among the numbers of rounds. -/
inductive RepeatMode where
  | greedy
  | lazy
  | possessive

/-- A pattern. -/
inductive Pattern where
  /-- One character that is, or is not, in a set. -/
  | oneOf (flags : PatternFlags) (negated : Bool) (members : List SetMember)
  /-- One character, except a newline unless the flags allow it. -/
  | any (flags : PatternFlags)
  | anchor (flags : PatternFlags) (kind : Anchor)
  | sequence (parts : List Pattern)
  | choice (options : List Pattern)
  /-- A group with a number. -/
  | group (number : Nat) (body : Pattern)
  /-- A group that is never entered again once it has matched. -/
  | atomic (body : Pattern)
  | repetition (mode : RepeatMode) (least : Nat) (most : Option Nat) (body : Pattern)
  /-- The text that a group has matched; the widths are those of the group. -/
  | reference (flags : PatternFlags) (number : Nat) (least : Nat) (most : Option Nat)
  /-- The text ahead, or the text of a given width behind, matches or does not match. -/
  | look (behind : Option Nat) (negated : Bool) (body : Pattern)
  /-- One of two patterns, as a group has matched or not. -/
  | condition (number : Nat) (yes no : Pattern)

namespace Pattern

/-- The pattern that matches the empty text. -/
def empty : Pattern := .sequence []

/-- The sum of two widths, of which there may be no greatest one. -/
def addWidth : Option Nat → Option Nat → Option Nat
  | some a, some b => some (a + b)
  | _, _ => none

/-- The greater of two widths. -/
def maxWidth : Option Nat → Option Nat → Option Nat
  | some a, some b => some (max a b)
  | _, _ => none

/-- The width of rounds of a width. -/
def scaleWidth : Option Nat → Option Nat → Option Nat
  | some 0, _ => some 0
  | _, some 0 => some 0
  | some a, some b => some (a * b)
  | _, _ => none

mutual

/-- The least and the greatest number of characters that a pattern matches. -/
def width : Pattern → Nat × Option Nat
  | .oneOf _ _ _ | .any _ => (1, some 1)
  | .anchor _ _ | .look _ _ _ => (0, some 0)
  | .sequence parts => sequenceWidth parts
  | .choice options => choiceWidth options
  | .group _ body | .atomic body => width body
  | .repetition _ least most body =>
    let (low, high) := width body
    (low * least, scaleWidth high most)
  | .reference _ _ least most => (least, most)
  | .condition _ yes no =>
    let (low, high) := width yes
    let (low', high') := width no
    (min low low', maxWidth high high')

/-- The widths of patterns in a row. -/
def sequenceWidth : List Pattern → Nat × Option Nat
  | [] => (0, some 0)
  | p :: rest =>
    let (low, high) := width p
    let (low', high') := sequenceWidth rest
    (low + low', addWidth high high')

/-- The widths of patterns of which one matches. -/
def choiceWidth : List Pattern → Nat × Option Nat
  | [] => (0, some 0)
  | [p] => width p
  | p :: rest =>
    let (low, high) := width p
    let (low', high') := choiceWidth rest
    (min low low', maxWidth high high')

end

mutual

/-- Whether a pattern repeats something. -/
def repeats : Pattern → Bool
  | .repetition _ _ _ _ => true
  | .sequence parts | .choice parts => anyRepeats parts
  | .group _ body | .atomic body | .look _ _ body => repeats body
  | .condition _ yes no => repeats yes || repeats no
  | .oneOf _ _ _ | .any _ | .anchor _ _ | .reference _ _ _ _ => false

/-- Whether one of some patterns repeats something. -/
def anyRepeats : List Pattern → Bool
  | [] => false
  | p :: rest => repeats p || anyRepeats rest

end

end Pattern

end WorkflowAudit
