import WorkflowAudit.Yaml.Node.Basic
import WorkflowAudit.Yaml.Token.Stream

/-! # From tokens to nodes

The grammar of documents, read from the stream of tokens by recursive descent.  A text holds at most
one document. Anchors are numbered in the order in which they are met; an alias must follow an
anchor of its name, and means the last one.
-/

namespace WorkflowAudit.Yaml

/-- What reading nodes depends on. -/
structure NodeReader where
  stream : Stream
  /-- The tag handles in force. -/
  handles : List (List Char × List Char) := []
  /-- The numbers of the anchors met, by name, the last one first. -/
  anchors : List (List Char × Nat) := []

/-- A step of reading nodes. -/
abbrev ReadNode := StateT NodeReader (Except Fault)

namespace ReadNode

/-- The handles of a document that declares none. -/
def standardHandles : List (List Char × List Char) :=
  [(['!'], ['!']), (['!', '!'], Tag.namespaceText)]

/-- Looks at the next token. -/
def peek : ReadNode Token := do
  let reader ← get
  let (token, stream) ← reader.stream.peek
  set { reader with stream := stream }
  return token

/-- Takes the next token. -/
def next : ReadNode Token := do
  let reader ← get
  let (token, stream) ← reader.stream.next
  set { reader with stream := stream }
  return token

/-- The text breaks the grammar. -/
def ungrammatical {α : Type} : ReadNode α :=
  throw (.failure (.document .grammar))

/-- The version of the language in force. -/
def version : ReadNode Version := do
  return (← get).stream.version

/-! ## Directives -/

/-- Reads the directives before a document; `versionSeen` tells whether one gave the version. -/
def directives : (fuel : Nat) → (versionSeen : Bool) → ReadNode Unit
  | 0, _ => pure ()
  | fuel + 1, versionSeen => do
    match ← peek with
    | .directive _ =>
      match ← next with
      | .directive (.version v) =>
        if versionSeen || v.major ≠ 1 then ungrammatical else directives fuel true
      | .directive (.tag handle shorthand) =>
        let reader ← get
        if (reader.handles.lookup handle).isSome then ungrammatical
        else
          set { reader with handles := (handle, shorthand) :: reader.handles }
          directives fuel versionSeen
      | _ => directives fuel versionSeen
    | _ => pure ()

/-! ## Properties of nodes -/

/-- The full name of a tag.  Only the short names of known tags are spelled out; other tags stay as
they are written. -/
def tagName (handle : Option (List Char)) (suffix : List Char) : ReadNode (List Char) := do
  match handle with
  | none => return suffix
  | some handle =>
    match (← get).handles.lookup handle with
    | none => ungrammatical
    | some shorthand =>
      if handle = ['!', '!'] && Tag.isShortName suffix then return shorthand ++ suffix
      else return handle ++ suffix

/-- Anchor and tag before a node, in either order. -/
structure Properties where
  anchor : Option (List Char) := none
  tag : Option (List Char) := none

/-- Reads the anchor and the tag before a node. -/
def properties : ReadNode Properties := do
  match ← peek with
  | .anchor _ =>
    match ← next with
    | .anchor name =>
      match ← peek with
      | .tag _ _ =>
        match ← next with
        | .tag handle suffix => return ⟨some name, some (← tagName handle suffix)⟩
        | _ => return ⟨some name, none⟩
      | _ => return ⟨some name, none⟩
    | _ => return {}
  | .tag _ _ =>
    match ← next with
    | .tag handle suffix =>
      match ← peek with
      | .anchor _ =>
        match ← next with
        | .anchor name => return ⟨some name, some (← tagName handle suffix)⟩
        | _ => return {}
      | _ => return ⟨none, some (← tagName handle suffix)⟩
    | _ => return {}
  | _ => return {}

/-- Whether properties leave the tag open: there is none, or the one that asks for the usual one. -/
def Properties.leavesTagOpen (p : Properties) : Bool :=
  p.tag.isNone || p.tag = some ['!']

/-- Numbers an anchor. -/
def numberAnchor (p : Properties) : ReadNode (Option Nat) := do
  match p.anchor with
  | none => return none
  | some name =>
    let reader ← get
    let number := reader.anchors.length
    set { reader with anchors := (name, number) :: reader.anchors }
    return some number

/-- The tag of a collection. -/
def collectionTag (p : Properties) (usual : Tag) : Tag :=
  if p.leavesTagOpen then usual else Tag.ofName (p.tag.getD [])

/-- A scalar with its properties. -/
def scalarNode (p : Properties) (text : List Char) (plain : Bool) : ReadNode Node := do
  let tag ←
    if p.tag = some ['!'] || (p.tag.isNone && plain) then Schema.resolve (← version) text
    else if p.tag.isNone then pure Tag.text
    else pure (Tag.ofName (p.tag.getD []))
  return .scalar (← numberAnchor p) tag text

/-- The scalar where nothing is written. -/
def emptyNode : ReadNode Node :=
  scalarNode {} [] true

/-! ## Tokens that leave a place empty -/

/-- Whether a token ends an item of a block sequence. -/
def endsBlockItem : Token → Bool
  | .blockEntry | .blockEnd => true
  | _ => false

/-- Whether a token ends an item of a block sequence that is not indented. -/
def endsFlatItem : Token → Bool
  | .blockEntry | .key | .value | .blockEnd => true
  | _ => false

/-- Whether a token ends a key or a value of a block mapping. -/
def endsBlockMember : Token → Bool
  | .key | .value | .blockEnd => true
  | _ => false

/-- Whether a token ends a value of a flow collection. -/
def endsFlowValue : Token → Bool
  | .flowEntry | .flowSequenceEnd => true
  | _ => false

/-- Whether a token ends a value of a flow mapping. -/
def endsFlowMember : Token → Bool
  | .flowEntry | .flowMappingEnd => true
  | _ => false

/-- Whether a token is a colon. -/
def isValue : Token → Bool
  | .value => true
  | _ => false

mutual

/-- Reads a node.  In a block context block collections may follow; `flat` allows a sequence that is
not indented. -/
def node : (fuel : Nat) → (block flat : Bool) → ReadNode Node
  | 0, _, _ => ungrammatical
  | fuel + 1, block, flat => do
    match ← peek with
    | .alias _ =>
      match ← next with
      | .alias name =>
        match (← get).anchors.lookup name with
        | some number => return .alias number
        | none => throw .reference
      | _ => ungrammatical
    | _ =>
      let p ← properties
      match ← peek with
      | .blockEntry =>
        if flat then
          let anchor ← numberAnchor p
          return .sequence anchor (collectionTag p .sequence) (← flatItems fuel)
        else noContent p
      | .scalar _ _ =>
        match ← next with
        | .scalar text plain => scalarNode p text plain
        | _ => ungrammatical
      | .flowSequenceStart =>
        let anchor ← numberAnchor p
        let _ ← next
        return .sequence anchor (collectionTag p .sequence) (← flowItems fuel true)
      | .flowMappingStart =>
        let anchor ← numberAnchor p
        let _ ← next
        return .mapping anchor (collectionTag p .mapping) (← flowMembers fuel true)
      | .blockSequenceStart =>
        if block then
          let anchor ← numberAnchor p
          let _ ← next
          return .sequence anchor (collectionTag p .sequence) (← blockItems fuel)
        else noContent p
      | .blockMappingStart =>
        if block then
          let anchor ← numberAnchor p
          let _ ← next
          return .mapping anchor (collectionTag p .mapping) (← blockMembers fuel)
        else noContent p
      | _ => noContent p
where
  /-- A node of which only properties are written is an empty scalar. -/
  noContent (p : Properties) : ReadNode Node :=
    if p.anchor.isSome || p.tag.isSome then scalarNode p [] p.leavesTagOpen else ungrammatical

/-- Reads the items of a block sequence. -/
def blockItems : (fuel : Nat) → ReadNode (List Node)
  | 0 => ungrammatical
  | fuel + 1 => do
    match ← peek with
    | .blockEntry =>
      let _ ← next
      let item ← if endsBlockItem (← peek) then emptyNode else node fuel true false
      return item :: (← blockItems fuel)
    | .blockEnd =>
      let _ ← next
      return []
    | _ => ungrammatical

/-- Reads the items of a sequence that is not indented. -/
def flatItems : (fuel : Nat) → ReadNode (List Node)
  | 0 => ungrammatical
  | fuel + 1 => do
    match ← peek with
    | .blockEntry =>
      let _ ← next
      let item ← if endsFlatItem (← peek) then emptyNode else node fuel true false
      return item :: (← flatItems fuel)
    | _ => return []

/-- Reads the members of a block mapping. -/
def blockMembers : (fuel : Nat) → ReadNode (List (Node × Node))
  | 0 => ungrammatical
  | fuel + 1 => do
    match ← peek with
    | .key =>
      let _ ← next
      let key ← if endsBlockMember (← peek) then emptyNode else node fuel true true
      let value ← blockValue fuel
      return (key, value) :: (← blockMembers fuel)
    | .value =>
      -- only the new version takes a value without a key
      if (← version).isNew then
        let key ← emptyNode
        let value ← blockValue fuel
        return (key, value) :: (← blockMembers fuel)
      else ungrammatical
    | .blockEnd =>
      let _ ← next
      return []
    | _ => ungrammatical

/-- Reads the value of a member of a block mapping. -/
def blockValue : (fuel : Nat) → ReadNode Node
  | 0 => ungrammatical
  | fuel + 1 => do
    if isValue (← peek) then
      let _ ← next
      if endsBlockMember (← peek) then emptyNode else node fuel true true
    else emptyNode

/-- Reads the items of a flow sequence; all but the first follow a comma. -/
def flowItems : (fuel : Nat) → (first : Bool) → ReadNode (List Node)
  | 0, _ => ungrammatical
  | fuel + 1, first => do
    match ← peek with
    | .flowSequenceEnd =>
      let _ ← next
      return []
    | token =>
      if !first then
        match token with
        | .flowEntry =>
          let _ ← next
        | _ => ungrammatical
      match ← peek with
      | .key =>
        -- a single member without braces
        let _ ← next
        let start ← peek
        let key ← if isValue start || endsFlowValue start then emptyNode else node fuel false false
        let value ←
          if isValue (← peek) then do
            let _ ← next
            if endsFlowValue (← peek) then emptyNode else node fuel false false
          else emptyNode
        return .mapping none .mapping [(key, value)] :: (← flowItems fuel false)
      | .flowSequenceEnd =>
        let _ ← next
        return []
      | _ =>
        let item ← node fuel false false
        return item :: (← flowItems fuel false)

/-- Reads the members of a flow mapping; all but the first follow a comma. -/
def flowMembers : (fuel : Nat) → (first : Bool) → ReadNode (List (Node × Node))
  | 0, _ => ungrammatical
  | fuel + 1, first => do
    match ← peek with
    | .flowMappingEnd =>
      let _ ← next
      return []
    | token =>
      if !first then
        match token with
        | .flowEntry =>
          let _ ← next
        | _ => ungrammatical
      match ← peek with
      | .key =>
        let _ ← next
        let start ← peek
        let key ← if isValue start || endsFlowMember start then emptyNode else node fuel false false
        let value ← flowValue fuel
        return (key, value) :: (← flowMembers fuel false)
      | .flowMappingEnd =>
        let _ ← next
        return []
      | .value =>
        if (← version).isNew then
          let key ← emptyNode
          let value ← flowValue fuel
          return (key, value) :: (← flowMembers fuel false)
        else
          let key ← node fuel false false
          return (key, ← emptyNode) :: (← flowMembers fuel false)
      | _ =>
        let key ← node fuel false false
        return (key, ← emptyNode) :: (← flowMembers fuel false)

/-- Reads the value of a member of a flow mapping. -/
def flowValue : (fuel : Nat) → ReadNode Node
  | 0 => ungrammatical
  | fuel + 1 => do
    if isValue (← peek) then
      let _ ← next
      if endsFlowMember (← peek) then emptyNode else node fuel false false
    else emptyNode

end

/-! ## Documents -/

/-- Whether a token can only stand between documents. -/
def isOutsideDocuments : Token → Bool
  | .directive _ | .documentStart | .documentEnd | .streamEnd => true
  | _ => false

/-- Drops the indicators that end a document. -/
def dropDocumentEnds : (fuel : Nat) → ReadNode Unit
  | 0 => pure ()
  | fuel + 1 => do
    match ← peek with
    | .documentEnd =>
      let _ ← next
      dropDocumentEnds fuel
    | _ => pure ()

/-- How a document starts. -/
inductive Start where
  | implicit
  | explicit
  | endOfStream

/-- Reads the start of a document up to its content, or the end of the stream.  Where
`implicitAllowed`, a document may start without an indicator. -/
def documentStart (fuel : Nat) (implicitAllowed : Bool) : ReadNode Start := do
  let isImplicit :=
    match ← peek with
    | .directive _ | .documentStart | .streamEnd => false
    | _ => implicitAllowed
  if isImplicit then
    modify fun reader => { reader with handles := standardHandles }
    return .implicit
  else
    dropDocumentEnds fuel
    match ← peek with
    | .streamEnd =>
      let _ ← next
      return .endOfStream
    | _ =>
      modify fun reader => { reader with handles := [] }
      directives fuel false
      modify fun reader => { reader with handles := reader.handles ++ standardHandles }
      match ← peek with
      | .documentStart =>
        let _ ← next
        return .explicit
      | _ => ungrammatical

/-- Reads the content of a document and the indicator that may end it. -/
def documentContent (fuel : Nat) (start : Start) : ReadNode Node := do
  let root ←
    match start with
    | .explicit => do if isOutsideDocuments (← peek) then emptyNode else node fuel true false
    | _ => node fuel true false
  match ← peek with
  | .documentEnd =>
    let _ ← next
  | _ => pure ()
  return root

/-- Reads the only document of a text with the version it is written in; `none` when the text holds
none. -/
def onlyDocument (fuel : Nat) : ReadNode (Option (Node × Version)) := do
  let _ ← next
  match ← documentStart fuel true with
  | .endOfStream => return none
  | start =>
    let root ← documentContent fuel start
    match ← documentStart fuel ((← version) ≠ Version.old) with
    | .endOfStream => return some (root, ← version)
    | _ => throw .reference

end ReadNode

/-- The document of a text and its version, when the text holds one. -/
def Node.ofText? (text : List Char) : Except Fault (Option (Node × Version)) :=
  let fuel := 8 * (text.length + 8)
  (ReadNode.onlyDocument fuel).run' { stream := Stream.ofText text }

end WorkflowAudit.Yaml
