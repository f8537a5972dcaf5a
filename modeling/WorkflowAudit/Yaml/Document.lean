import WorkflowAudit.Value.Access
import WorkflowAudit.Yaml.Node.Reading
import WorkflowAudit.Yaml.Scalar

/-! # Documents

The value of a document text.  Nodes become values from the root down; an alias stands for the value
of its anchor, or for null inside that very value.  The members of a merge key are added to a
mapping behind its own, where their keys are still free.  At the root a merge key brings in only
what the merged mappings hold themselves.

Values are finite, so an alias inside the root for the root itself is null as well; a value that
contains itself is left out.
-/

namespace WorkflowAudit.Yaml

/-- What building values depends on. -/
structure Builder where
  version : Version
  /-- The nodes with an anchor, by number. -/
  anchored : List (Nat × Node)
  /-- The values built for anchors. -/
  built : List (Nat × Value) := []
  /-- The anchors whose values are being built. -/
  underway : List Nat := []

/-- A step of building values. -/
abbrev Build := StateT Builder (Except Failure)

namespace Build

/-- The node cannot be given a value. -/
def unbuildable {α : Type} : Build α :=
  throw (.document .construction)

/-- The node that an alias stands for. -/
def target (node : Node) : Build Node := do
  match node with
  | .alias n => return ((← get).anchored.lookup n).getD node
  | _ => return node

/-- A value made fit to serve as a key: lists and, unless only lists are wanted, mappings are fixed.
Sets never are. -/
def asKey (value : Value) (listsOnly : Bool := false) : Build Value :=
  match value with
  | .list _ items => return .list .fixed items
  | .map _ entries => if listsOnly then unbuildable else return .map .fixed entries
  | .set _ => unbuildable
  | v => return v

/-- Refuses a key with a part that cannot serve as one. -/
def checkKey (key : Value) : Build Unit :=
  match key.unhashablePart? with
  | some owner => throw (.unhashable owner)
  | none => return ()

/-- Whether a node is a merge key. -/
def isMergeKey : Node → Bool
  | .scalar _ .merge _ => true
  | _ => false

/-- A key as it stands in a mapping, where the default key is plain text. -/
def plainKey : Node → Node
  | .scalar anchor .default text => .scalar anchor .text text
  | node => node

/-- The mappings that the value of a merge key names. -/
def mergeSources (value : Node) : Build (List Node) := do
  match ← target value with
  | .mapping _ _ _ => return [value]
  | .sequence _ _ items =>
    items.forM fun item => do
      match ← target item with
      | .mapping _ _ _ => pure ()
      | _ => unbuildable
    return items
  | _ => unbuildable

/-- Whether a key is taken.  A scalar under a tag that means nothing here never collides with
another. -/
def isTaken (key : Value) (taken : List Value) : Bool :=
  !key.isTagged && taken.any (·.equal key)

/-- Adds the entries of a merged mapping whose keys are free. -/
def addMerged (entries : Entries) (source : Value) : Build Entries :=
  match source with
  | .map .document others =>
    pure (others.foldl (fun found (k, v) =>
      if isTaken k (Entries.keys found) then found else found ++ [(k, v)]) entries)
  | v => throw (.noAttribute v.typeName "add_referent")

/-- Adds an entry whose key must be new. -/
def addEntry (entries : Entries) (key value : Value) : Build Entries := do
  checkKey key
  if isTaken key (Entries.keys entries) then throw (.document .duplicateKey)
  else return entries ++ [(key, value)]

/-- Turns every failure of a step into the one for a node that cannot be given a value. -/
def orUnbuildable {α : Type} (step : Build α) : Build α := do
  let builder ← get
  match step.run builder with
  | .ok (result, builder) =>
    set builder
    return result
  | .error _ => unbuildable

/-- The single member of an item of an ordered list. -/
def singleMember (item : Node) : Build (Node × Node) := do
  match ← target item with
  | .mapping _ _ [member] => return member
  | _ => unbuildable

mutual

/-- The value of a node. -/
def value : (fuel : Nat) → Node → Build Value
  | 0, _ => return .null
  | fuel + 1, .alias n => do
    let builder ← get
    match builder.built.lookup n with
    | some found => return found
    | none =>
      if builder.underway.contains n then return .null
      else
        match builder.anchored.lookup n with
        | some node => value fuel node
        | none => return .null
  | fuel + 1, node => do
    match node.anchor? with
    | none => content fuel node
    | some n =>
      let builder ← get
      match builder.built.lookup n with
      | some found => return found
      | none =>
        set { builder with underway := n :: builder.underway }
        let found ← content fuel node
        modify fun builder => { builder with
          underway := builder.underway.filter (· ≠ n), built := (n, found) :: builder.built }
        return found

/-- The value of a node that is no alias. -/
def content : (fuel : Nat) → Node → Build Value
  | 0, _ => return .null
  | fuel + 1, node => do
    match node with
    | .alias _ => return .null
    | .scalar anchor tag text => Scalar.value (← get).version anchor.isSome tag text
    | .sequence _ tag items =>
      match tag with
      | .sequence => return .list .document (← items.mapM (value fuel))
      | .orderedMapping => return .map .ordered (← orderedEntries fuel items [])
      | .pairs => return .list .plain (← items.mapM (pairItem fuel))
      | .unknown _ => return .list .document (← orUnbuildable (items.mapM (value fuel)))
      | _ => unbuildable
    | .mapping _ tag entries =>
      match tag with
      | .mapping => return .map .document (← mappingEntries fuel entries)
      | .set => return .set (← setMembers fuel entries [])
      | .unknown _ => return .map .document (← orUnbuildable (mappingEntries fuel entries))
      | _ => unbuildable

/-- The entries of a mapping: its own, then the merged ones. -/
def mappingEntries : (fuel : Nat) → List (Node × Node) → Build Entries
  | 0, _ => return []
  | fuel + 1, members => do
    let merged ← mergedValues fuel members []
    let own ← ownEntries fuel members []
    merged.foldlM addMerged own

/-- The values of the mappings to be merged; a second merge key is refused once there is one. -/
def mergedValues : (fuel : Nat) → List (Node × Node) → List Value → Build (List Value)
  | 0, _, found => return found
  | _ + 1, [], found => return found
  | fuel + 1, (key, member) :: rest, found => do
    if isMergeKey key then
      if !found.isEmpty then throw (.document .duplicateKey)
      let sources ← mergeSources member
      let values ← sources.mapM (value fuel)
      mergedValues fuel rest (found ++ values)
    else mergedValues fuel rest found

/-- The entries of a mapping without those of merge keys. -/
def ownEntries : (fuel : Nat) → List (Node × Node) → Entries → Build Entries
  | 0, _, entries => return entries
  | _ + 1, [], entries => return entries
  | fuel + 1, (key, member) :: rest, entries => do
    if isMergeKey key then ownEntries fuel rest entries
    else
      let key ← asKey (← value fuel (plainKey key))
      let found ← value fuel member
      ownEntries fuel rest (← addEntry entries key found)

/-- The entries of an ordered mapping, which is written as a list of single members. -/
def orderedEntries : (fuel : Nat) → List Node → Entries → Build Entries
  | 0, _, entries => return entries
  | _ + 1, [], entries => return entries
  | fuel + 1, item :: rest, entries => do
    let (key, member) ← singleMember item
    let key ← value fuel key
    checkKey key
    if isTaken key (Entries.keys entries) then throw .assertion
    let found ← value fuel member
    orderedEntries fuel rest (entries ++ [(key, found)])

/-- An item of a list of pairs. -/
def pairItem : (fuel : Nat) → Node → Build Value
  | 0, _ => return .null
  | fuel + 1, item => do
    let (key, member) ← singleMember item
    let key ← value fuel key
    let found ← value fuel member
    return .list .fixed [key, found]

/-- The members of a set, which are written as keys. -/
def setMembers : (fuel : Nat) → List (Node × Node) → List Value → Build (List Value)
  | 0, _, members => return members
  | _ + 1, [], members => return members
  | fuel + 1, (key, member) :: rest, members => do
    let key ← asKey (← value fuel key) true
    let _ ← value fuel member
    checkKey key
    if isTaken key members then throw (.document .duplicateKey)
    setMembers fuel rest (members ++ [key])

end

/-- The sources of the merge keys of the root. -/
def rootSources : List (Node × Node) → List Node → Build (List Node)
  | [], found => return found
  | (key, member) :: rest, found => do
    if isMergeKey key then
      if !found.isEmpty then throw (.document .duplicateKey)
      rootSources rest (found ++ (← mergeSources member))
    else rootSources rest found

/-- The entries of the mapping at the root.  Merged mappings count with their own entries only, and
after everything else has been built. -/
def rootEntries (fuel : Nat) (members : List (Node × Node)) : Build Entries := do
  let sources ← rootSources members []
  let own ← ownEntries fuel members []
  sources.foldlM (fun entries source => do
    match ← target source with
    | .mapping _ .set _ => throw (.noAttribute "CommentedSet" "add_referent")
    | .mapping _ _ others => addMerged entries (.map .document (← ownEntries fuel others []))
    | _ => return entries) own

/-- The value of a document. -/
def root (fuel : Nat) (node : Node) : Build Value := do
  match node.anchor? with
  | none => pure ()
  | some n => modify fun builder => { builder with underway := [n] }
  match node with
  | .mapping _ .mapping members => return .map .document (← rootEntries fuel members)
  | .mapping _ (.unknown _) members =>
    return .map .document (← orUnbuildable (rootEntries fuel members))
  | _ => content fuel node

end Build

/-- Whether a document text may hold a character. -/
def isDocumentChar (c : Char) : Bool :=
  let n := c.toNat
  c = '\t' || c = '\n' || c = '\r' || (0x20 ≤ n && n ≤ 0x7E) || n = 0x85 ||
    (0xA0 ≤ n && n ≤ 0xD7FF) || (0xE000 ≤ n && n ≤ 0xFFFD) || 0x10000 ≤ n

/-- The value of a document text; a text without a document is null. -/
def load (text : List Char) : Except Fault Value :=
  if !text.all isDocumentChar then throw (.failure (.document .character))
  else do
    match ← Node.ofText? text with
    | none => return .null
    | some (node, version) =>
      let fuel := 8 * node.size + 16
      let builder : Builder := { version := version, anchored := node.anchored }
      match (Build.root fuel node).run' builder with
      | .ok value => return value
      | .error cause => throw (.failure cause)

end WorkflowAudit.Yaml
