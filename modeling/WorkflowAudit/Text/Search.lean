/-! # Searching text

Text is searched as a list of characters.  The operations are the ones a line-oriented audit needs:
does a text begin with another, does it contain it, where, and what are the pieces between
separators.

Positions count characters.  `offsets` lists the places where a non-overlapping search from the left
finds its needle; `pieces` cuts a text at a separator character, so a text with `n` separators has
`n + 1` pieces.
-/

namespace WorkflowAudit.Text

/-- The rest of a text after `lead`, when the text begins with `lead`. -/
def after? : (lead text : List Char) → Option (List Char)
  | [], text => some text
  | _ :: _, [] => none
  | c :: lead, d :: text => if c = d then after? lead text else none

/-- Whether a text begins with `lead`. -/
def startsWith (lead text : List Char) : Bool :=
  (after? lead text).isSome

/-- Whether `needle` occurs somewhere in a text. -/
def occursIn (needle : List Char) : List Char → Bool
  | [] => needle.isEmpty
  | c :: text => startsWith needle (c :: text) || occursIn needle text

/-- The position of the first occurrence of `needle`. -/
def indexOf? (needle : List Char) : List Char → Option Nat
  | [] => if needle.isEmpty then some 0 else none
  | c :: text =>
    if startsWith needle (c :: text) then some 0 else (indexOf? needle text).map (· + 1)

/-- The positions of the occurrences of `needle` that a search from the left finds: after an
occurrence the search goes on behind it.  `skip` characters still belong to the occurrence found
last, and `start` is the position reached. -/
def offsetsFrom (needle : List Char) : (skip start : Nat) → List Char → List Nat
  | _, _, [] => []
  | skip + 1, start, _ :: text => offsetsFrom needle skip (start + 1) text
  | 0, start, c :: text =>
    if startsWith needle (c :: text) then
      start :: offsetsFrom needle (needle.length - 1) (start + 1) text
    else
      offsetsFrom needle 0 (start + 1) text

/-- The positions of the non-overlapping occurrences of a non-empty `needle`, in increasing
order. -/
def offsets (needle text : List Char) : List Nat :=
  offsetsFrom needle 0 0 text

/-- The pieces of a text between the occurrences of a separator; a text without it is its own single
piece. -/
def pieces (separator : Char) : List Char → List (List Char)
  | [] => [[]]
  | c :: text =>
    if c = separator then
      [] :: pieces separator text
    else
      match pieces separator text with
      | [] => [[c]]
      | piece :: rest => (c :: piece) :: rest

/-- The piece before the first separator. -/
def beforeFirst (separator : Char) (text : List Char) : List Char :=
  text.takeWhile (· ≠ separator)

/-- The piece behind the last separator; the whole text when there is none. -/
def afterLast (separator : Char) (text : List Char) : List Char :=
  (pieces separator text).getLastD []

/-- Replaces every non-overlapping occurrence of `needle`, found from the left; `skip` characters
still belong to the occurrence replaced last. -/
def replaceFrom (needle substitute : List Char) : (skip : Nat) → List Char → List Char
  | _, [] => []
  | skip + 1, _ :: text => replaceFrom needle substitute skip text
  | 0, c :: text =>
    if startsWith needle (c :: text) then
      substitute ++ replaceFrom needle substitute (needle.length - 1) text
    else
      c :: replaceFrom needle substitute 0 text

/-- Replaces every non-overlapping occurrence of a non-empty `needle`. -/
def replaceAll (needle substitute text : List Char) : List Char :=
  replaceFrom needle substitute 0 text

theorem pieces_ne_nil (separator : Char) (text : List Char) : pieces separator text ≠ [] := by
  cases text with
  | nil => simp [pieces]
  | cons c text =>
    unfold pieces
    split
    · simp
    · split <;> simp

end WorkflowAudit.Text
