import WorkflowAudit.Yaml.Cursor

/-! # Block scalars

A scalar introduced by `|` (literal) or `>` (folded) takes the lines below it that are indented
enough.  The header may say how far they are indented and what happens to the line breaks at the
end: by default one is kept, `-` drops it and `+` keeps them all.  A folded scalar joins
neighbouring lines that start with text.
-/

namespace WorkflowAudit.Yaml

/-- What happens to the line breaks at the end. -/
inductive Chomping where
  | clip
  | strip
  | keep
deriving BEq, DecidableEq

/-- The header of a block scalar. -/
structure BlockHeader where
  chomping : Chomping
  increment : Option Nat

/-- The chomping that an indicator stands for. -/
def chomping? : Char → Option Chomping
  | '+' => some .keep
  | '-' => some .strip
  | _ => none

/-- The digit of an indentation indicator; zero is refused. -/
def increment? (c : Char) : Except Fault (Option Nat) :=
  if c = '0' then throw .lexical
  else if '1' ≤ c ∧ c ≤ '9' then pure (some (c.toNat - 48))
  else pure none

/-- Reads the indicators of a header, in either order. -/
def readIndicators (cursor : Cursor) : Except Fault (BlockHeader × Cursor) := do
  let (header, behind) ←
    match chomping? cursor.peek with
    | some chomping => do
      let behind := cursor.step
      match ← increment? behind.peek with
      | some n => pure (BlockHeader.mk chomping (some n), behind.step)
      | none => pure (BlockHeader.mk chomping none, behind)
    | none => do
      match ← increment? cursor.peek with
      | some n =>
        let behind := cursor.step
        match chomping? behind.peek with
        | some chomping => pure (BlockHeader.mk chomping (some n), behind.step)
        | none => pure (BlockHeader.mk .clip (some n), behind)
      | none => pure (BlockHeader.mk .clip none, cursor)
  if isBreakOrSpace behind.peek then return (header, behind) else throw .lexical

/-- Passes over the rest of a header or directive line, which may hold a comment only. -/
def skipIgnoredLine (cursor : Cursor) : Except Fault Cursor :=
  let cursor := cursor.skipSpaces
  let cursor := if cursor.peek = '#' then cursor.skipWhile fun c => !isLineEnd c else cursor
  if isLineEnd cursor.peek then pure cursor.lineBreak.2 else throw .lexical

/-- The breaks before the first line with text, the deepest column reached in them, and the cursor
there. -/
def leadingBreaks : (fuel : Nat) → (deepest : Nat) → Cursor → List Char × Nat × Cursor
  | 0, deepest, cursor => ([], deepest, cursor)
  | fuel + 1, deepest, cursor =>
    if cursor.peek = ' ' then
      let behind := cursor.step
      leadingBreaks fuel (max deepest behind.column) behind
    else if isBreak cursor.peek then
      let (taken, behind) := cursor.lineBreak
      let (more, found, behind) := leadingBreaks fuel deepest behind
      (taken ++ more, found, behind)
    else ([], deepest, cursor)

/-- Passes over spaces up to a column. -/
def indentTo (indent : Nat) (cursor : Cursor) : Cursor :=
  let spaces := (cursor.rest.takeWhile (· = ' ')).length
  cursor.advance (min spaces (indent - cursor.column))

/-- The breaks ahead, each line being passed over up to the indentation. -/
def blockBreaks (indent : Nat) : (fuel : Nat) → Cursor → List (List Char) × Cursor
  | 0, cursor => ([], cursor)
  | fuel + 1, cursor =>
    let cursor := indentTo indent cursor
    if isBreak cursor.peek then
      let (taken, behind) := cursor.lineBreak
      let (more, behind) := blockBreaks indent fuel behind
      (taken :: more, behind)
    else ([], cursor)

/-- What a block scalar has been read to. -/
structure BlockBody where
  text : List Char
  /-- The break that ended the last line. -/
  lastBreak : List Char
  /-- The breaks behind it. -/
  breaks : List (List Char)
  behind : Cursor

/-- Reads the lines of a block scalar.  At the top level a document indicator ends it. -/
def blockLines (folded topLevel : Bool) (indent : Nat) : (fuel : Nat) → BlockBody → BlockBody
  | 0, body => body
  | fuel + 1, body =>
    let cursor := body.behind
    if cursor.column ≠ indent || cursor.peek = endMark then body
    else
      let startsWithText := cursor.peek ≠ ' ' && cursor.peek ≠ '\t'
      let (line, behind) := cursor.takeWhile fun c => !isLineEnd c
      let (taken, behind) := behind.lineBreak
      let (breaks, behind) := blockBreaks indent (behind.rest.length + 1) behind
      let text := body.text ++ body.breaks.flatten ++ line
      if topLevel && (behind.atIndicator '-' || behind.atIndicator '.') then
        ⟨text, taken, breaks, behind⟩
      else if behind.column = indent && behind.peek ≠ endMark then
        let folds :=
          folded && taken = ['\n'] && startsWithText && behind.peek ≠ ' ' && behind.peek ≠ '\t'
        let joint := if folds then (if breaks.isEmpty then [' '] else []) else taken
        blockLines folded topLevel indent fuel ⟨text ++ joint, taken, breaks, behind⟩
      else ⟨text, taken, breaks, behind⟩

/-- A block scalar as read. -/
structure BlockScalar where
  text : List Char
  /-- Whether line breaks at the end were left out of the text. -/
  dropsBreaks : Bool
  /-- The line on which the scalar itself ends. -/
  lastLine : Nat
  behind : Cursor

/-- Reads a block scalar; the cursor stands on its indicator, and `indent` is the indentation around
it. -/
def readBlock (folded : Bool) (indent : Int) (cursor : Cursor) : Except Fault BlockScalar := do
  let (header, behind) ← readIndicators cursor.step
  let behind ← skipIgnoredLine behind
  let least := (indent + 1).toNat
  let (column, breaks, behind) :=
    match header.increment with
    | none =>
      let (taken, deepest, behind) := leadingBreaks (behind.rest.length + 1) 0 behind
      (max least deepest, taken, behind)
    | some n =>
      let column := max least 1 + n - 1
      let (taken, behind) := blockBreaks column (behind.rest.length + 1) behind
      (column, taken.flatten, behind)
  let topLevel := least = 0 && header.increment.isNone
  let start : BlockBody := ⟨[], [], breaks.map fun c => [c], behind⟩
  let body := blockLines folded topLevel column (behind.rest.length + 1) start
  let text :=
    match header.chomping with
    | .clip => body.text ++ body.lastBreak
    | .strip => body.text
    | .keep => body.text ++ body.lastBreak ++ body.breaks.flatten
  let drops := header.chomping ≠ .keep && !body.breaks.isEmpty
  return ⟨text, drops, body.behind.line, body.behind⟩

end WorkflowAudit.Yaml
