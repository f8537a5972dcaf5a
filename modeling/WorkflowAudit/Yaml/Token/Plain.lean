import WorkflowAudit.Yaml.Cursor

/-! # Plain scalars

A scalar without quotes goes on as long as nothing ahead can be read as structure: a colon or a
comment mark counts only next to white space, and inside brackets so do commas, colons and brackets.
A plain scalar may go over several lines that are indented enough; a line break folds to a space, or
to the breaks that follow it.
-/

namespace WorkflowAudit.Yaml

/-- What decides where a plain scalar ends. -/
structure PlainContext where
  /-- Whether the scalar stands inside brackets. -/
  inFlow : Bool
  /-- The least column at which a further line may start. -/
  indent : Int
  version : Version

/-- The characters of a plain scalar up to white space or structure. -/
def plainRun (context : PlainContext) : List Char → List Char
  | [] => []
  | c :: rest =>
    let next := rest.headD endMark
    if c = ':' && !isLineEndOrSpace next then c :: plainRun context rest
    else if c = '?' && context.version ≠ Version.old then c :: plainRun context rest
    else if isLineEndOrSpace c || c = ':' ||
        (context.inFlow && [',', '?', '[', ']', '{', '}'].contains c) then []
    else c :: plainRun context rest

/-- White space behind a run of a plain scalar. -/
structure PlainSpace where
  /-- What it contributes when the scalar goes on. -/
  text : List Char
  /-- Whether it holds a line break. -/
  crossesLine : Bool
  behind : Cursor

/-- The line breaks ahead with the spaces between them dropped; `none` when a document separator
follows a break. -/
def plainBreaks : (fuel : Nat) → Cursor → Option (List Char) × Cursor
  | 0, cursor => (some [], cursor)
  | fuel + 1, cursor =>
    if cursor.peek = ' ' then plainBreaks fuel cursor.step
    else if isBreak cursor.peek then
      let (taken, behind) := cursor.lineBreak
      if behind.atSeparator then (none, behind)
      else
        let (more, behind) := plainBreaks fuel behind
        (more.map (taken ++ ·), behind)
    else (some [], cursor)

/-- The white space behind a run. -/
def plainSpace (cursor : Cursor) : PlainSpace :=
  let (spaces, behind) := cursor.takeWhile (· = ' ')
  if isBreak behind.peek then
    let (taken, behind) := behind.lineBreak
    if behind.atSeparator then ⟨[], true, behind⟩
    else
      match plainBreaks (behind.rest.length + 1) behind with
      | (none, behind) => ⟨[], true, behind⟩
      | (some breaks, behind) =>
        let first := if taken ≠ ['\n'] then taken else if breaks.isEmpty then [' '] else []
        ⟨first ++ breaks, true, behind⟩
  else ⟨spaces, false, behind⟩

/-- A plain scalar as read. -/
structure PlainScalar where
  text : List Char
  /-- Whether the reading stopped behind a line break. -/
  crossesLine : Bool
  /-- The line on which the scalar itself ends. -/
  lastLine : Nat
  behind : Cursor

/-- Reads on in a plain scalar; `spaces` were passed since its last run. -/
def plainFrom (context : PlainContext) :
    (fuel : Nat) → (soFar : PlainScalar) → (spaces : List Char) → PlainScalar
  | 0, soFar, _ => soFar
  | fuel + 1, soFar, spaces =>
    let cursor := soFar.behind
    if cursor.peek = '#' then soFar
    else
      let run := plainRun context cursor.rest
      if run.isEmpty then soFar
      else
        let behind := cursor.advance run.length
        let space := plainSpace behind
        let longer : PlainScalar :=
          ⟨soFar.text ++ spaces ++ run, space.crossesLine, behind.line, space.behind⟩
        if space.text.isEmpty || space.behind.peek = '#' ||
            (!context.inFlow && (space.behind.column : Int) < context.indent) then longer
        else plainFrom context fuel longer space.text

/-- Reads a plain scalar. -/
def readPlain (context : PlainContext) (cursor : Cursor) : PlainScalar :=
  plainFrom context (cursor.rest.length + 1) ⟨[], false, cursor.line, cursor⟩ []

end WorkflowAudit.Yaml
