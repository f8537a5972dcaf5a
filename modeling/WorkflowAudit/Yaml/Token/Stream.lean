import WorkflowAudit.Yaml.Token.Block
import WorkflowAudit.Yaml.Token.Mark
import WorkflowAudit.Yaml.Token.Plain
import WorkflowAudit.Yaml.Token.Quoted

/-! # The stream of tokens

Tokens are read on demand and wait in a queue.  A scalar, a bracket or a mark may turn out to be a
key only when the colon behind it is met; until then its number is remembered as a pending key, and
the tokens that announce a key are put into the queue in front of it afterwards.  A pending key must
be followed by its colon on the same line and within 1024 characters.

A token is handed out once it is no pending key and one more token has been read behind it.  How far
the stream has been read when a token is handed out decides which of two faults of a text is met
first.
-/

namespace WorkflowAudit.Yaml

/-- Something that becomes a key if a colon follows. -/
structure PendingKey where
  /-- The number of its first token, counting all tokens of the stream. -/
  number : Nat
  /-- Whether only a key may stand there. -/
  required : Bool
  index : Nat
  line : Nat
  column : Nat

/-- The tokens of a text as far as they have been read. -/
structure Stream where
  cursor : Cursor
  queue : List Lexeme
  /-- How many tokens have been handed out. -/
  taken : Nat := 0
  finished : Bool := false
  /-- The open brackets, the innermost first. -/
  brackets : List Char := []
  /-- The indentation of the block around the cursor. -/
  indent : Int := -1
  /-- The indentations of the blocks around that one, the innermost first. -/
  outerIndents : List Int := []
  keyAllowed : Bool := true
  /-- The pending keys, by the number of open brackets around them. -/
  pending : List (Nat × PendingKey) := []
  declared : Option Version := none

namespace Stream

/-- The stream of a text. -/
def ofText (text : List Char) : Stream :=
  { cursor := { rest := text }, queue := [⟨.streamStart, 0⟩] }

/-- The version of the language in force. -/
def version (s : Stream) : Version :=
  s.declared.getD Version.current

/-- How many brackets are open. -/
def depth (s : Stream) : Nat :=
  s.brackets.length

/-- Whether the cursor is inside brackets. -/
def inFlow (s : Stream) : Bool :=
  !s.brackets.isEmpty

/-- Puts a token at the end of the queue. -/
def push (s : Stream) (token : Token) : Stream :=
  { s with queue := s.queue ++ [⟨token, s.cursor.line⟩] }

/-- Passes over `count` characters, which are a token. -/
def pushIndicator (s : Stream) (token : Token) (count : Nat) : Stream :=
  Stream.push { s with cursor := s.cursor.advance count } token

/-! ## Pending keys -/

/-- Whether a pending key can no longer become a key. -/
def isStale (cursor : Cursor) (key : PendingKey) : Bool :=
  key.line ≠ cursor.line || cursor.index - key.index > 1024

/-- Gives up the pending keys that can no longer become keys. -/
def dropStale (s : Stream) : Except Fault Stream :=
  if s.pending.any fun (_, key) => isStale s.cursor key && key.required then throw .lexical
  else pure { s with pending := s.pending.filter fun (_, key) => !isStale s.cursor key }

/-- Gives up the pending key inside the innermost bracket. -/
def dropPending (s : Stream) : Except Fault Stream :=
  match s.pending.lookup s.depth with
  | none => pure s
  | some key =>
    if key.required then throw .lexical
    else pure { s with pending := s.pending.filter (·.1 ≠ s.depth) }

/-- Notes that the next token may start a key. -/
def notePending (s : Stream) : Except Fault Stream :=
  if s.keyAllowed then do
    let required := !s.inFlow && s.indent == s.cursor.column
    let s ← s.dropPending
    let key : PendingKey :=
      ⟨s.taken + s.queue.length, required, s.cursor.index, s.cursor.line, s.cursor.column⟩
    return { s with pending := (s.depth, key) :: s.pending }
  else pure s

/-- Whether the next token to be handed out is a pending key. -/
def nextIsPending (s : Stream) : Bool :=
  match s.pending.map (·.2.number) with
  | [] => false
  | n :: rest => rest.foldl min n == s.taken

/-! ## Indentation -/

/-- Closes blocks until the indentation is at most `column`; `outer` are the indentations around the
current one. -/
def closeBlocks (column : Int) : (outer : List Int) → Stream → Stream
  | [], s =>
    if s.indent > column then Stream.push { s with indent := -1, outerIndents := [] } .blockEnd
    else s
  | indent :: outer, s =>
    if s.indent > column then
      closeBlocks column outer
        (Stream.push { s with indent := indent, outerIndents := outer } .blockEnd)
    else s

/-- Closes the blocks that a column lies outside of; inside brackets indentation has no meaning. -/
def unwind (s : Stream) (column : Int) : Stream :=
  if s.inFlow then s else closeBlocks column s.outerIndents s

/-- Whether a column opens a new block. -/
def opensBlock (s : Stream) (column : Nat) : Bool :=
  s.indent < column

/-- Makes a column the indentation of a new block. -/
def openBlock (s : Stream) (column : Nat) : Stream :=
  { s with indent := column, outerIndents := s.indent :: s.outerIndents }

/-! ## From token to token -/

/-- Passes over line breaks as long as there are any. -/
def skipBreaks : (fuel : Nat) → Cursor → Cursor
  | 0, cursor => cursor
  | fuel + 1, cursor =>
    let (taken, behind) := cursor.lineBreak
    if taken.isEmpty then cursor else skipBreaks fuel behind

/-- A line break outside brackets allows a key. -/
def allowKeyOnNewLine (s : Stream) : Stream :=
  if s.inFlow then s else { s with keyAllowed := true }

/-- Passes over spaces, line breaks and one comment.  A comment, and likewise a run of empty lines,
is returned by the line it starts on. -/
def toNextToken : (fuel : Nat) → Stream → Option Nat × Stream
  | 0, s => (none, s)
  | fuel + 1, s =>
    let cursor := s.cursor.skipSpaces
    if cursor.peek = '#' then
      let behind := cursor.skipWhile fun c => !isLineEnd c
      let behind := skipBreaks (behind.rest.length + 1) behind.step
      (some cursor.line, allowKeyOnNewLine { s with cursor := behind })
    else
      let (taken, behind) := cursor.lineBreak
      if taken.isEmpty then (none, { s with cursor := cursor })
      else
        let s := allowKeyOnNewLine { s with cursor := behind }
        if behind.peek = '\n' then
          let next := behind.skipWhile fun c => isBreak c || c = ' ' || c = '\t'
          (some behind.line, { s with cursor := next })
        else toNextToken fuel s

/-- Passes over a byte order mark at the beginning of the text. -/
def skipByteOrderMark (s : Stream) : Stream :=
  if s.cursor.index = 0 && s.cursor.peek = byteOrderMark then { s with cursor := s.cursor.step }
  else s

/-- Passes over everything up to the next token but one comment. -/
def skipToToken (s : Stream) : Option Nat × Stream :=
  toNextToken (s.cursor.rest.length + 1) s.skipByteOrderMark

/-- Passes over all comments up to the next token. -/
def skipComments : (fuel : Nat) → Stream → Stream
  | 0, s => s
  | fuel + 1, s =>
    match s.skipToToken with
    | (none, s) => s
    | (some _, s) => skipComments fuel s

/-! ## Reading one token -/

/-- The end of the text closes everything. -/
def readEnd (s : Stream) : Except Fault Stream := do
  let s ← (s.unwind (-1)).dropPending
  return Stream.push { s with keyAllowed := false, pending := [], finished := true } .streamEnd

/-- A directive. -/
def readDirectiveToken (s : Stream) : Except Fault Stream := do
  let s ← (s.unwind (-1)).dropPending
  let (directive, behind) ← readDirective s.version s.cursor
  let declared :=
    match directive with
    | .version version => some version
    | _ => s.declared
  let s := { s with keyAllowed := false, declared := declared, cursor := behind }
  return Stream.push s (.directive directive)

/-- An indicator that starts or ends a document. -/
def readDocumentIndicator (s : Stream) (token : Token) : Except Fault Stream := do
  let s ← (s.unwind (-1)).dropPending
  return Stream.pushIndicator { s with keyAllowed := false } token 3

/-- An opening bracket, which may start a key. -/
def readOpening (s : Stream) (token : Token) (bracket : Char) : Except Fault Stream := do
  let s ← s.notePending
  let s := { s with brackets := bracket :: s.brackets, keyAllowed := true }
  return Stream.pushIndicator s token 1

/-- A closing bracket. -/
def readClosing (s : Stream) (token : Token) : Except Fault Stream := do
  let s ← s.dropPending
  return Stream.pushIndicator { s with brackets := s.brackets.tail, keyAllowed := false } token 1

/-- A comma. -/
def readFlowEntry (s : Stream) : Except Fault Stream := do
  let s ← Stream.dropPending { s with keyAllowed := true }
  return s.pushIndicator .flowEntry 1

/-- Opens a block at the cursor if it lies deeper than the one around it, with the token that
announces it. -/
def openBlockHere (s : Stream) (token : Token) : Stream :=
  if s.opensBlock s.cursor.column then (s.openBlock s.cursor.column).push token else s

/-- A dash that starts an item of a block sequence. -/
def readBlockEntry (s : Stream) : Except Fault Stream := do
  let s ←
    if s.inFlow then pure s
    else if s.keyAllowed then pure (s.openBlockHere .blockSequenceStart)
    else throw .lexical
  let s ← Stream.dropPending { s with keyAllowed := true }
  return s.pushIndicator .blockEntry 1

/-- A question mark that starts a key. -/
def readKey (s : Stream) : Except Fault Stream := do
  let s ←
    if s.inFlow then pure s
    else if s.keyAllowed then pure (s.openBlockHere .blockMappingStart)
    else throw .lexical
  let s ← Stream.dropPending { s with keyAllowed := !s.inFlow }
  return s.pushIndicator .key 1

/-- Puts tokens into the queue in front of the token with a given number. -/
def insertBefore (s : Stream) (number : Nat) (tokens : List Token) : Stream :=
  let place := number - s.taken
  let lexemes := tokens.map fun token => Lexeme.mk token s.cursor.line
  { s with queue := s.queue.take place ++ lexemes ++ s.queue.drop place }

/-- A colon: it makes a key of what is pending, or else starts the value of a key that was started
before. -/
def readValue (s : Stream) : Except Fault Stream := do
  match s.pending.lookup s.depth with
  | some key =>
    let s := { s with pending := s.pending.filter (·.1 ≠ s.depth), keyAllowed := false }
    let s :=
      if !s.inFlow && s.opensBlock key.column then
        (s.openBlock key.column).insertBefore key.number [.blockMappingStart, .key]
      else s.insertBefore key.number [.key]
    return s.pushIndicator .value 1
  | none =>
    let s ←
      if s.inFlow then pure s
      else if s.keyAllowed then pure (s.openBlockHere .blockMappingStart)
      else throw .lexical
    let s ← Stream.dropPending { s with keyAllowed := !s.inFlow }
    return s.pushIndicator .value 1

/-- An alias or an anchor. -/
def readName (s : Stream) (token : List Char → Token) : Except Fault Stream := do
  let s ← s.notePending
  let (name, behind) ← readAnchorName s.cursor
  return Stream.push { s with keyAllowed := false, cursor := behind } (token name)

/-- A tag. -/
def readTagToken (s : Stream) : Except Fault Stream := do
  let s ← s.notePending
  let (token, behind) ← readTag s.version s.cursor
  return Stream.push { s with keyAllowed := false, cursor := behind } token

/-- A quoted scalar. -/
def readQuotedToken (s : Stream) (style : QuoteStyle) : Except Fault Stream := do
  let s ← s.notePending
  let (text, behind) ← readQuoted style s.cursor
  return Stream.push { s with keyAllowed := false, cursor := behind } (.scalar text false)

/-- A plain scalar. -/
def readPlainToken (s : Stream) : Except Fault Stream := do
  let s ← s.notePending
  let scalar := readPlain ⟨s.inFlow, s.indent + 1, s.version⟩ s.cursor
  let lexeme : Lexeme := ⟨.scalar scalar.text true, scalar.lastLine⟩
  return { s with
    keyAllowed := scalar.crossesLine
    cursor := scalar.behind
    queue := s.queue ++ [lexeme] }

/-- A block scalar.  One that leaves out line breaks takes the comments behind it along. -/
def readBlockToken (s : Stream) (folded : Bool) : Except Fault Stream := do
  let s ← Stream.dropPending { s with keyAllowed := true }
  let scalar ← readBlock folded s.indent s.cursor
  let s := { s with cursor := scalar.behind }
  let s := if scalar.dropsBreaks then skipComments (s.cursor.rest.length + 1) s else s
  return { s with queue := s.queue ++ [⟨.scalar scalar.text false, scalar.lastLine⟩] }

/-- Whether the last token read is a colon. -/
def endsWithValue (s : Stream) : Bool :=
  match s.queue.getLast? with
  | some ⟨.value, _⟩ => true
  | _ => false

/-- Whether a colon at the cursor is structure. -/
def isValueIndicator (s : Stream) : Bool :=
  let spaced := isLineEndOrSpace (s.cursor.peek 1)
  match s.brackets with
  | [] => spaced
  | bracket :: _ =>
    if s.version == Version.old then true
    else if bracket = '[' then spaced
    else if s.endsWithValue then spaced
    else true

/-- The characters that no plain scalar starts with, unless what follows them allows it. -/
def indicators : List Char :=
  "-?:,[]{}#&*!|>'\"%@".toList ++ [Char.ofNat 0x60]

/-- Whether a plain scalar starts at the cursor. -/
def startsPlain (s : Stream) : Bool :=
  let c := s.cursor.peek
  let next := s.cursor.peek 1
  if !(isBreakOrSpace c || c = '\t' || indicators.contains c) then true
  else if c = '-' then !isLineEndOrSpace next
  else if c = ':' && s.inFlow && s.version ≠ Version.old then next ≠ ' ' && next ≠ '\t'
  else (c = '?' || c = ':') && !s.inFlow && !isLineEndOrSpace next

/-- Reads the token at the cursor. -/
def readToken (s : Stream) : Except Fault Stream :=
  let c := s.cursor.peek
  let spaced := isLineEndOrSpace (s.cursor.peek 1)
  if c = endMark then s.readEnd
  else if c = '%' && s.cursor.column = 0 then s.readDirectiveToken
  else if s.cursor.atIndicator '-' then s.readDocumentIndicator .documentStart
  else if s.cursor.atIndicator '.' then s.readDocumentIndicator .documentEnd
  else if c = '[' then s.readOpening .flowSequenceStart '['
  else if c = '{' then s.readOpening .flowMappingStart '{'
  else if c = ']' then s.readClosing .flowSequenceEnd
  else if c = '}' then s.readClosing .flowMappingEnd
  else if c = ',' then s.readFlowEntry
  else if c = '-' && spaced then s.readBlockEntry
  else if c = '?' && (s.inFlow || spaced) then s.readKey
  else if c = ':' && s.isValueIndicator then s.readValue
  else if c = '*' then s.readName .alias
  else if c = '&' then s.readName .anchor
  else if c = '!' then s.readTagToken
  else if c = '|' && !s.inFlow then s.readBlockToken false
  else if c = '>' && !s.inFlow then s.readBlockToken true
  else if c = '\'' then s.readQuotedToken .single
  else if c = '"' then s.readQuotedToken .double
  else if s.startsPlain then s.readPlainToken
  else throw .lexical

/-- Reads on: a comment, or the next token with the ends of blocks before it. -/
def readMore (s : Stream) : Except Fault Stream := do
  match s.skipToToken with
  | (some line, s) => return { s with queue := s.queue ++ [⟨.comment, line⟩] }
  | (none, s) =>
    let s ← s.dropStale
    (s.unwind s.cursor.column).readToken

/-! ## Handing tokens out -/

/-- Whether more has to be read before the next token can be handed out. -/
def needsMore (s : Stream) : Except Fault (Bool × Stream) :=
  if s.finished then pure (false, s)
  else if s.queue.isEmpty then pure (true, s)
  else do
    let s ← s.dropStale
    return (s.nextIsPending, s)

/-- Reads until the next token can be handed out. -/
def fill : (fuel : Nat) → Stream → Except Fault Stream
  | 0, s => pure s
  | fuel + 1, s => do
    let (more, s) ← s.needsMore
    if more then fill fuel (← s.readMore) else return s

/-- Drops a comment at the front of the queue. -/
def dropComment (s : Stream) : Stream :=
  match s.queue with
  | ⟨.comment, _⟩ :: rest => { s with queue := rest, taken := s.taken + 1 }
  | _ => s

/-- Reads until the next token can be handed out, dropping the comments before it. -/
def fillPastComments : (fuel : Nat) → Stream → Except Fault Stream
  | 0, s => pure s
  | fuel + 1, s => do
    let (more, s) ← s.needsMore
    if more then fillPastComments fuel (← s.readMore).dropComment else return s

/-- More than the number of tokens that can still be read. -/
def bound (s : Stream) : Nat :=
  2 * s.cursor.rest.length + s.outerIndents.length + 4

/-- Brings the next token to the front of the queue, with one more token behind it. -/
def prepare (s : Stream) : Except Fault Stream := do
  let s ← fill s.bound s
  let s ← fillPastComments s.bound s.dropComment
  if !s.finished && s.queue.length < 2 then s.readMore else return s

/-- The token at the front. -/
def front (s : Stream) : Token :=
  match s.queue with
  | [] => .streamEnd
  | lexeme :: _ => lexeme.token

/-- Drops the comments behind the token at the front, reading on after each. -/
def dropFollowingComments : (fuel : Nat) → Stream → Except Fault Stream
  | 0, s => pure s
  | fuel + 1, s =>
    match s.queue with
    | lexeme :: ⟨.comment, _⟩ :: rest => do
      let s := { s with queue := lexeme :: rest, taken := s.taken + 1 }
      dropFollowingComments fuel (← s.readMore)
    | _ => pure s

/-- Drops the comment that belongs to the token at the front: one on its own line for a scalar, a
colon or a closing bracket, and all that follow for a scalar. -/
def dropOwnComment (s : Stream) : Except Fault Stream :=
  match s.queue with
  | lexeme :: ⟨.comment, line⟩ :: rest =>
    let onLine := lexeme.line == line
    match lexeme.token with
    | .scalar _ _ =>
      if onLine then pure { s with queue := lexeme :: rest, taken := s.taken + 1 }
      else dropFollowingComments s.bound s
    | .value | .flowSequenceEnd | .flowMappingEnd =>
      if onLine then pure { s with queue := lexeme :: rest, taken := s.taken + 1 } else pure s
    | _ => pure s
  | _ => pure s

/-- Looks at the next token. -/
def peek (s : Stream) : Except Fault (Token × Stream) := do
  let s ← s.prepare
  return (s.front, s)

/-- Takes the next token. -/
def next (s : Stream) : Except Fault (Token × Stream) := do
  let s ← s.prepare
  let s ← s.dropOwnComment
  return (s.front, { s with queue := s.queue.tail, taken := s.taken + 1 })

end Stream

end WorkflowAudit.Yaml
