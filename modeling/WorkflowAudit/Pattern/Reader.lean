import WorkflowAudit.Decimal.Reading
import WorkflowAudit.Failure
import WorkflowAudit.Json.Reader
import WorkflowAudit.Pattern.Matcher
import WorkflowAudit.Text.CharacterName
import WorkflowAudit.Text.Identifier

/-! # Reading patterns

The written form of patterns.  A backslash and the character behind it are one piece of the text.
Flags for the whole pattern may stand at its very beginning only; flags for a group stand in its
opening.  A group may be referred to once it is closed, and not from inside an assertion about the
text behind that contains it; such an assertion must have a fixed width.
-/

namespace WorkflowAudit.Pattern

/-- What reading a pattern depends on. -/
structure Reader where
  rest : List Char
  flags : PatternFlags := {}
  /-- Whether ASCII classes and Unicode classes were asked for. -/
  asksAscii : Bool := false
  asksUnicode : Bool := false
  /-- Whether the pattern is to be one without repetition. -/
  asksTemplate : Bool := false
  /-- The widths of the groups opened so far, from group one on; an open group has none yet. -/
  widths : List (Option (Nat × Option Nat)) := []
  names : List (List Char × Nat) := []
  /-- How many groups were open before the outermost assertion about the text behind, while in
  one. -/
  lookbehindGroups : Option Nat := none
  /-- The numbers of the groups that conditions name. -/
  conditionGroups : List Nat := []
  /-- Whether an assertion about the text behind has no fixed width, or too large a one. -/
  hasLooseLookbehind : Bool := false

/-- A step of reading a pattern. -/
abbrev Read := StateT Reader (Except Failure)

namespace Read

/-- The text is no pattern. -/
def invalid {α : Type} : Read α :=
  throw .pattern

/-- A number of rounds that is too large. -/
def roundLimit : Nat := 4294967295

/-- The piece at the front of a text: a character, or a backslash with the character behind it. -/
def piece? : List Char → Option (List Char × List Char)
  | [] => none
  | ['\\'] => none
  | '\\' :: c :: rest => some (['\\', c], rest)
  | c :: rest => some ([c], rest)

/-- Goes on with a rest.  A backslash at the very end is refused as soon as it comes next. -/
def goOn (rest : List Char) : Read Unit :=
  if rest = ['\\'] then invalid else modify fun reader => { reader with rest := rest }

/-- Takes the next piece; `none` at the end. -/
def next : Read (Option (List Char)) := do
  match piece? (← get).rest with
  | none => return none
  | some (piece, rest) =>
    goOn rest
    return some piece

/-- Looks at the next character. -/
def peek : Read (Option Char) := do
  return (← get).rest.head?

/-- Takes a character, if it comes next. -/
def accept (c : Char) : Read Bool := do
  match (← get).rest with
  | d :: rest =>
    if c = d then
      goOn rest
      return true
    else return false
  | [] => return false

/-- Takes up to `count` characters that satisfy a test. -/
def takeUpTo (count : Nat) (test : Char → Bool) : Read (List Char) := do
  let reader ← get
  let taken := (reader.rest.take count).takeWhile test
  goOn (reader.rest.drop taken.length)
  return taken

/-- Takes a name up to a terminator, which must follow. -/
def name (terminator : Char) : Read (List Char) := do
  let reader ← get
  let rec go : (fuel : Nat) → List Char → Option (List Char × List Char)
    | 0, _ => none
    | fuel + 1, text =>
      match piece? text with
      | none => none
      | some (piece, rest) =>
        if piece = [terminator] then some ([], rest)
        else (go fuel rest).map fun (more, left) => (piece ++ more, left)
  match go (reader.rest.length + 1) reader.rest with
  | none | some ([], _) => invalid
  | some (found, rest) =>
    goOn rest
    return found

/-- Takes a group name up to a terminator. -/
def groupName (terminator : Char) : Read (List Char) := do
  let found ← name terminator
  if Text.isIdentifier found then return found else invalid

/-! ## Groups -/

/-- The widths of a closed group. -/
def closedWidth (number : Nat) : Read (Nat × Option Nat) := do
  match (← get).widths[number - 1]? with
  | some (some width) => if number = 0 then invalid else return width
  | _ => invalid

/-- Refuses a group that an assertion about the text behind must not refer to. -/
def checkLookbehind (number : Nat) : Read Unit := do
  match (← get).lookbehindGroups with
  | none => pure ()
  | some known =>
    let _ ← closedWidth number
    if number > known then invalid

/-- A reference to a closed group. -/
def referenceTo (flags : PatternFlags) (number : Nat) : Read Pattern := do
  let (least, most) ← closedWidth number
  checkLookbehind number
  return .reference flags number least most

/-- Opens a group, with a name if it has one. -/
def openGroup (groupName : Option (List Char)) : Read Nat := do
  let reader ← get
  let number := reader.widths.length + 1
  match groupName with
  | none => set { reader with widths := reader.widths ++ [none] }
  | some found =>
    if (reader.names.lookup found).isSome then invalid
    else
      set { reader with
        widths := reader.widths ++ [none]
        names := (found, number) :: reader.names }
  return number

/-- Closes a group. -/
def closeGroup (number : Nat) (body : Pattern) : Read Unit :=
  modify fun reader => { reader with widths := reader.widths.set (number - 1) (some body.width) }

/-! ## Characters and escapes -/

/-- A pattern for one character, given by its code. -/
def literal (flags : PatternFlags) (code : Nat) : Pattern :=
  .oneOf flags false [.range code code]

/-- The code of the character of an escape letter, in a set or outside. -/
def escapeLetter? : Char → Option Nat
  | 'a' => some 7
  | 't' => some 9
  | 'n' => some 10
  | 'v' => some 11
  | 'f' => some 12
  | 'r' => some 13
  | '\\' => some 92
  | _ => none

/-- The class of an escape letter, and whether it is negated. -/
def classLetter? : Char → Option SetMember
  | 'd' => some (.ofClass .digit false)
  | 'D' => some (.ofClass .digit true)
  | 's' => some (.ofClass .space false)
  | 'S' => some (.ofClass .space true)
  | 'w' => some (.ofClass .word false)
  | 'W' => some (.ofClass .word true)
  | _ => none

/-- The anchor of an escape letter. -/
def anchorLetter? : Char → Option Anchor
  | 'A' => some .textStart
  | 'b' => some .wordBoundary
  | 'B' => some .noWordBoundary
  | 'Z' => some .textEnd
  | _ => none

/-- Whether a character is an octal digit. -/
def isOctal (c : Char) : Bool :=
  '0' ≤ c && c ≤ '7'

/-- The number that octal digits spell. -/
def octalValue (digits : List Char) : Nat :=
  digits.foldl (fun n c => 8 * n + (c.toNat - 48)) 0

/-- The code of a hexadecimal escape with exactly `width` digits. -/
def hexEscape (width : Nat) : Read Nat := do
  let digits ← takeUpTo width fun c => (Json.hexValue? c).isSome
  let code := digits.foldl (fun n c => 16 * n + (Json.hexValue? c).getD 0) 0
  if digits.length < width || code ≥ 0x110000 then invalid else return code

/-- The number of digits of a hexadecimal escape. -/
def hexWidth? : Char → Option Nat
  | 'x' => some 2
  | 'u' => some 4
  | 'U' => some 8
  | _ => none

/-- The code of the character that is named between braces. -/
def namedEscape : Read Nat := do
  if ← accept '{' then
    match Text.namedCode? (← name '}') with
    | some code => return code
    | none => invalid
  else invalid

/-- The character of an escape that means a character inside a set; the backslash and `c` have been
taken. -/
def setEscape (c : Char) : Read SetMember := do
  if c = 'b' then return .range 8 8
  if c = 'N' then
    let found ← namedEscape
    return .range found found
  match escapeLetter? c, classLetter? c, hexWidth? c with
  | some found, _, _ => return .range found found
  | _, some kind, _ => return kind
  | _, _, some width =>
    let found ← hexEscape width
    return .range found found
  | none, none, none =>
    if isOctal c then
      let digits := c :: (← takeUpTo 2 isOctal)
      if octalValue digits > 255 then invalid
      else return .range (octalValue digits) (octalValue digits)
    else if c.isAlphanum then invalid
    else return .range c.toNat c.toNat

/-- The pattern of an escape outside sets; the backslash and `c` have been taken. -/
def escape (flags : PatternFlags) (c : Char) : Read Pattern := do
  match anchorLetter? c, classLetter? c, escapeLetter? c, hexWidth? c with
  | some kind, _, _, _ => return .anchor flags kind
  | _, some kind, _, _ => return .oneOf flags false [kind]
  | _, _, some found, _ => return literal flags found
  | _, _, _, some width => return literal flags (← hexEscape width)
  | none, none, none, none =>
    if c = '0' then
      let digits ← takeUpTo 2 isOctal
      return literal flags (octalValue digits)
    else if c.isDigit then
      match ← takeUpTo 1 Char.isDigit with
      | [d] =>
        match (← peek).filter isOctal, isOctal c && isOctal d with
        | some e, true =>
          let _ ← accept e
          if octalValue [c, d, e] > 255 then invalid
          else return literal flags (octalValue [c, d, e])
        | _, _ => referenceTo flags (Text.digitsValue [c, d])
      | _ => referenceTo flags (Text.digitsValue [c])
    else if c = 'N' then return literal flags (← namedEscape)
    else if c.isAlpha then invalid
    else return literal flags c.toNat

/-! ## Sets -/

/-- A member of a set from the piece that spells its start. -/
def setMember : List Char → Read SetMember
  | ['\\', c] => setEscape c
  | [c] => return .range c.toNat c.toNat
  | _ => invalid

/-- Reads the members of a set up to its closing bracket. -/
def setMembers : (fuel : Nat) → (soFar : List SetMember) → Read (List SetMember)
  | 0, _ => invalid
  | fuel + 1, soFar => do
    match ← next with
    | none => invalid
    | some piece =>
      if piece = [']'] && !soFar.isEmpty then return soFar
      else
        let first ← setMember piece
        if ← accept '-' then
          match ← next with
          | none => invalid
          | some [']'] => return soFar ++ [first, .range 45 45]
          | some piece =>
            let last ← setMember piece
            match first, last with
            | .range low _, .range high _ =>
              if high < low then invalid else setMembers fuel (soFar ++ [.range low high])
            | _, _ => invalid
        else setMembers fuel (soFar ++ [first])

/-! ## Repetition -/

/-- The least and the greatest number of rounds of a repetition mark. -/
structure Rounds where
  least : Nat
  most : Option Nat

/-- The number of rounds that digits spell; no digits are zero. -/
def roundNumber (digits : List Char) : Read Nat :=
  if digits.length > Text.digitLimit then throw (.longNumeral digits.length)
  else if Text.digitsValue digits ≥ roundLimit then throw .overflow
  else return Text.digitsValue digits

/-- Reads the numbers of rounds between braces, the opening one having been taken; `none` when they
have not the right form, and nothing is taken then. -/
def bracedRounds : Read (Option Rounds) := do
  let reader ← get
  match reader.rest with
  | '}' :: _ => return none
  | _ =>
    let low ← takeUpTo reader.rest.length Char.isDigit
    let high ← if ← accept ',' then takeUpTo reader.rest.length Char.isDigit else pure low
    if ← accept '}' then
      let least ← roundNumber low
      let most ← if high.isEmpty then pure none else some <$> roundNumber high
      if most.any (fun bound => bound < least) then invalid
      else return some ⟨least, most⟩
    else
      set reader
      return none

/-- Whether a repetition mark may follow a pattern. -/
def isRepeatable : Pattern → Bool
  | .anchor _ _ | .repetition _ _ _ _ => false
  | _ => true

/-- The mode that a mark behind the number of rounds asks for.  At most one such mark is taken. -/
def repeatMode : Read RepeatMode := do
  if ← accept '?' then return .lazy
  if ← accept '+' then return .possessive
  return .greedy

/-- Repeats the last of some parts. -/
def repeatLast (parts : List Pattern) (rounds : Rounds) : Read (List Pattern) := do
  match parts.getLast? with
  | none => invalid
  | some part =>
    if isRepeatable part then
      return parts.dropLast ++ [.repetition (← repeatMode) rounds.least rounds.most part]
    else invalid

/-! ## Flags -/

/-- Whether a character is a flag. -/
def isFlag (c : Char) : Bool :=
  ['i', 'L', 'm', 's', 'x', 'a', 't', 'u'].contains c

/-- The flags after those with given letters are turned on or off. -/
def withLetters (value : Bool) (letters : List Char) (flags : PatternFlags) : PatternFlags :=
  letters.foldl (fun flags c =>
    match c with
    | 'i' => { flags with ignoreCase := value }
    | 'm' => { flags with multiline := value }
    | 's' => { flags with dotAll := value }
    | 'x' => { flags with verbose := value }
    | _ => flags) flags

/-- Reads letters of flags up to a character that is none. -/
def flagLetters : Read (List Char) := do
  takeUpTo (← get).rest.length isFlag

/-- What an opening with flags stands for. -/
inductive FlagOpening where
  /-- Flags for the whole pattern. -/
  | whole (letters : List Char)
  /-- Flags turned on and off for a group. -/
  | scoped (on off : List Char)

/-- Whether letters choose two different classes of characters, or one that does not go with
text. -/
def clash (letters : List Char) : Bool :=
  letters.contains 'L' || (letters.contains 'a' && letters.contains 'u')

/-- Reads an opening with flags. -/
def flagOpening : Read FlagOpening := do
  let on ← flagLetters
  if clash on then invalid
  match ← next with
  | some [')'] => if on.isEmpty then invalid else return .whole on
  | some [':'] => if on.isEmpty || on.contains 't' then invalid else return .scoped on []
  | some ['-'] =>
    let off ← flagLetters
    if on.contains 't' || off.isEmpty || off.any (['a', 'u', 'L', 't'].contains ·) ||
        on.any off.contains then invalid
    match ← next with
    | some [':'] => return .scoped on off
    | _ => invalid
  | _ => invalid

/-! ## The grammar -/

/-- Whether white space is skipped in verbose patterns. -/
def isVerboseSpace (c : Char) : Bool :=
  c = ' ' || ('\t' ≤ c && c ≤ '\r')

/-- Passes over a comment up to the end of its line. -/
def skipLine : (fuel : Nat) → Read Unit
  | 0 => pure ()
  | fuel + 1 => do
    match ← next with
    | none | some ['\n'] => pure ()
    | some _ => skipLine fuel

/-- Passes over a comment up to its closing parenthesis. -/
def skipComment : (fuel : Nat) → Read Unit
  | 0 => invalid
  | fuel + 1 => do
    match ← next with
    | none => invalid
    | some [')'] => pure ()
    | some _ => skipComment fuel

/-- Refuses anything but a closing parenthesis. -/
def closeParenthesis : Read Unit := do
  if ← accept ')' then pure () else invalid

mutual

/-- Reads alternatives; `top` holds for the whole pattern. -/
def alternatives : (fuel : Nat) → (flags : PatternFlags) → (top first : Bool) → Read Pattern
  | 0, _, _, _ => invalid
  | fuel + 1, flags, top, first => do
    let option ← parts fuel flags (top && first) []
    if ← accept '|' then
      let reader ← get
      let flags := if top then reader.flags else flags
      match ← alternatives fuel flags top false with
      | .choice options => return .choice (option :: options)
      | other => return .choice [option, other]
    else if first then return option
    else return .choice [option]

/-- Reads patterns in a row.  Flags for the whole pattern may stand before everything else where
`first` holds. -/
def parts : (fuel : Nat) → (flags : PatternFlags) → (first : Bool) → (soFar : List Pattern) →
    Read Pattern
  | 0, _, _, _ => invalid
  | fuel + 1, flags, first, soFar => do
    match ← peek with
    | none => return .sequence soFar
    | some c =>
      if c = '|' || c = ')' then return .sequence soFar
      else
        match ← next with
        | none => return .sequence soFar
        | some ['\\', c] => parts fuel flags first (soFar ++ [← escape flags c])
        | some _ =>
          if flags.verbose && isVerboseSpace c then parts fuel flags first soFar
          else if flags.verbose && c = '#' then
            skipLine ((← get).rest.length + 1)
            parts fuel flags first soFar
          else if c = '[' then
            let negated ← accept '^'
            let members ← setMembers ((← get).rest.length + 1) []
            parts fuel flags first (soFar ++ [.oneOf flags negated members])
          else if c = '.' then parts fuel flags first (soFar ++ [.any flags])
          else if c = '^' then parts fuel flags first (soFar ++ [.anchor flags .lineStart])
          else if c = '$' then parts fuel flags first (soFar ++ [.anchor flags .lineEnd])
          else if c = '?' then parts fuel flags first (← repeatLast soFar ⟨0, some 1⟩)
          else if c = '*' then parts fuel flags first (← repeatLast soFar ⟨0, none⟩)
          else if c = '+' then parts fuel flags first (← repeatLast soFar ⟨1, none⟩)
          else if c = '{' then
            match ← bracedRounds with
            | some rounds => parts fuel flags first (← repeatLast soFar rounds)
            | none => parts fuel flags first (soFar ++ [literal flags c.toNat])
          else if c = '(' then
            if ← accept '?' then extension fuel flags first soFar
            else
              let group ← numberedGroup fuel flags none
              parts fuel flags first (soFar ++ [group])
          else parts fuel flags first (soFar ++ [literal flags c.toNat])

/-- Reads a group with a number. -/
def numberedGroup : (fuel : Nat) → (flags : PatternFlags) → (name : Option (List Char)) →
    Read Pattern
  | 0, _, _ => invalid
  | fuel + 1, flags, name => do
    let number ← openGroup name
    let body ← alternatives fuel flags false true
    closeParenthesis
    closeGroup number body
    return .group number body

/-- Reads what starts with an opening parenthesis and a question mark, and goes on with the row. -/
def extension : (fuel : Nat) → (flags : PatternFlags) → (first : Bool) → (soFar : List Pattern) →
    Read Pattern
  | 0, _, _, _ => invalid
  | fuel + 1, flags, first, soFar => do
    match ← peek with
    | none => invalid
    | some c =>
      if isFlag c || c = '-' then
        match ← flagOpening with
        | .whole letters =>
          if !first || !soFar.isEmpty then invalid
          else
            modify fun reader => { reader with
              flags := withLetters true letters reader.flags
              asksAscii := reader.asksAscii || letters.contains 'a'
              asksUnicode := reader.asksUnicode || letters.contains 'u'
              asksTemplate := reader.asksTemplate || letters.contains 't' }
            parts fuel (withLetters true letters flags) first soFar
        | .scoped on off =>
          let inside := withLetters false off (withLetters true on flags)
          let body ← alternatives fuel inside false true
          closeParenthesis
          parts fuel flags first (soFar ++ [.sequence [body]])
      else
        match ← next with
        | some [':'] =>
          let body ← alternatives fuel flags false true
          closeParenthesis
          parts fuel flags first (soFar ++ [.sequence [body]])
        | some ['>'] =>
          let body ← alternatives fuel flags false true
          closeParenthesis
          parts fuel flags first (soFar ++ [.atomic body])
        | some ['#'] =>
          skipComment ((← get).rest.length + 1)
          parts fuel flags first soFar
        | some ['='] => parts fuel flags first (soFar ++ [← lookaround fuel flags false false])
        | some ['!'] => parts fuel flags first (soFar ++ [← lookaround fuel flags false true])
        | some ['<'] =>
          match ← next with
          | some ['='] => parts fuel flags first (soFar ++ [← lookaround fuel flags true false])
          | some ['!'] => parts fuel flags first (soFar ++ [← lookaround fuel flags true true])
          | _ => invalid
        | some ['P'] =>
          if ← accept '<' then
            let found ← groupName '>'
            parts fuel flags first (soFar ++ [← numberedGroup fuel flags (some found)])
          else if ← accept '=' then
            let found ← groupName ')'
            match (← get).names.lookup found with
            | none => invalid
            | some number => parts fuel flags first (soFar ++ [← referenceTo flags number])
          else invalid
        | some ['('] => parts fuel flags first (soFar ++ [← conditional fuel flags])
        | _ => invalid

/-- Reads an assertion about the text ahead or behind. -/
def lookaround : (fuel : Nat) → (flags : PatternFlags) → (behind negated : Bool) → Read Pattern
  | 0, _, _, _ => invalid
  | fuel + 1, flags, behind, negated => do
    let outer := (← get).lookbehindGroups
    if behind && outer.isNone then
      modify fun reader => { reader with lookbehindGroups := some reader.widths.length }
    let body ← alternatives fuel flags false true
    if behind then modify fun reader => { reader with lookbehindGroups := outer }
    closeParenthesis
    if behind then
      let (least, most) := body.width
      if most ≠ some least || least > roundLimit then
        modify fun reader => { reader with hasLooseLookbehind := true }
      return .look (some least) negated body
    else return .look none negated body

/-- Reads a condition on a group with its one or two patterns. -/
def conditional : (fuel : Nat) → (flags : PatternFlags) → Read Pattern
  | 0, _ => invalid
  | fuel + 1, flags => do
    let text ← name ')'
    let number ←
      if Text.isIdentifier text then
        match (← get).names.lookup text with
        | some number => pure number
        | none => invalid
      else
        match Decimal.readInt? text with
        | some n =>
          if n ≤ 0 then invalid
          else
            modify fun reader =>
              { reader with conditionGroups := n.toNat :: reader.conditionGroups }
            pure n.toNat
        | none => invalid
    checkLookbehind number
    let yes ← parts fuel flags false []
    let no ←
      if ← accept '|' then
        let found ← parts fuel flags false []
        if (← peek) = some '|' then invalid else pure found
      else pure .empty
    closeParenthesis
    return .condition number yes no

end

/-- Reads a whole pattern. -/
def whole (fuel : Nat) : Read Pattern := do
  goOn (← get).rest
  let pattern ← alternatives fuel {} true true
  let reader ← get
  if reader.asksAscii && reader.asksUnicode then throw .clashingFlags
  else if !reader.rest.isEmpty || reader.conditionGroups.any (· > reader.widths.length) ||
      reader.hasLooseLookbehind || (reader.asksTemplate && pattern.repeats) then invalid
  else return pattern

end Read

/-- The pattern that a text spells. -/
def ofText (text : List Char) : Except Failure Pattern :=
  (Read.whole (8 * text.length + 16)).run' { rest := text }

/-- Whether the pattern that a text spells matches at the beginning of a subject. -/
def textMatches (text subject : List Char) : Except Failure Bool := do
  return (← ofText text).matchesStart subject

end WorkflowAudit.Pattern
