import RichTemplate.Yaml.Node
import RichTemplate.Yaml.Tokens

/-!
# The graph of a document

Tokens are composed into nodes. An anchor names its node from where the node starts, so an alias
inside the node leads back to it. A text is given up where its collections lie deeper within one
another than it is read; what aliases make of the nodes may be deeper.
-/

namespace RichTemplate.Yaml

def deepestNesting : Nat := 486

/-- The nodes of a document with its root, and the order in which the nodes were completed. -/
structure Composition where
  graph : Graph
  root : NodeId
  completed : List NodeId
  /-- Whether an alias leads back to a node around it. -/
  cyclic : Bool

/-- The state of composing: the tokens left, the nodes so far, those completed, latest first, those
that have begun, innermost first, the nodes of anchors, and what handles stand for. -/
structure Draft where
  tokens : List Token
  graph : Graph
  completed : List NodeId
  begun : List NodeId
  cyclic : Bool
  anchors : List (String × NodeId)
  handles : List (String × String)

abbrev Compose := StateT Draft (Except Error)

namespace Compose

def malformed {α : Type} : Compose α := throw .malformed

def peek : Compose Token := do
  match (← get).tokens with
  | [] => malformed
  | .invalid e :: _ => throw e
  | t :: _ => return t

def advance : Compose Unit :=
  modify fun s => { s with tokens := s.tokens.drop 1 }

def accept (p : Token → Bool) : Compose Bool := do
  if p (← peek) then
    advance
    return true
  else return false

/-- The properties of a node: its anchor and its tag. -/
structure Properties where
  anchor : Option String
  tag : Option String

def acceptAnchor : Compose (Option String) := do
  match ← peek with
  | .anchor name =>
    advance
    return some name
  | _ => return none

def acceptTag : Compose (Option TagName) := do
  match ← peek with
  | .tag name =>
    advance
    return some name
  | _ => return none

/-- The tag that a name stands for; its handle must be known. -/
def expandTag (name : TagName) : Compose String := do
  match name.handle with
  | none => return name.suffix
  | some handle =>
    match (← get).handles.lookup handle with
    | some leading => return leading ++ name.suffix
    | none => malformed

/-- An anchor and a tag, in either order. -/
def properties : Compose Properties := do
  let before ← acceptAnchor
  let name ← acceptTag
  let anchor ← if before.isSome || name.isNone then pure before else acceptAnchor
  let tag ← name.mapM expandTag
  return ⟨anchor, tag⟩

def checkAnchor (anchor : Option String) : Compose Unit := do
  match anchor with
  | none => return
  | some name => if ((← get).anchors.lookup name).isSome then malformed else return

def addNode (anchor : Option String) (n : Node) : Compose NodeId := do
  let s ← get
  let id := s.graph.size
  let anchors := (anchor.map fun name => (name, id)).toList ++ s.anchors
  set { s with graph := s.graph.add n, anchors := anchors }
  return id

def complete (id : NodeId) : Compose NodeId := do
  modify fun s => { s with completed := id :: s.completed }
  return id

def scalar (anchor : Option String) (tag text : String) : Compose NodeId := do
  complete (← addNode anchor (.scalar tag text))

def emptyNode : Compose NodeId :=
  scalar none (scalarTag none true "") ""

/-- A collection, whose parts are composed once it has its place. -/
def collection {α : Type} (anchor : Option String) (ofParts : List α → Node)
    (parts : Compose (List α)) : Compose NodeId := do
  let id ← addNode anchor (ofParts [])
  let s ← get
  if deepestNesting ≤ s.begun.length then throw .tooDeep
  set { s with begun := id :: s.begun }
  let found ← parts
  modify fun s => { s with graph := s.graph.replace id (ofParts found), begun := s.begun.drop 1 }
  complete id

def aliased (name : String) : Compose NodeId := do
  let s ← get
  match s.anchors.lookup name with
  | some id =>
    set { s with cyclic := s.cyclic || s.begun.contains id }
    return id
  | none => malformed

def isBlockEntry : Token → Bool
  | .blockEntry => true
  | _ => false

def isBlockEnd : Token → Bool
  | .blockEnd => true
  | _ => false

def isKey : Token → Bool
  | .key => true
  | _ => false

def isValue : Token → Bool
  | .value => true
  | _ => false

def isFlowEntry : Token → Bool
  | .flowEntry => true
  | _ => false

def isSequenceEnd : Token → Bool
  | .flowSequenceEnd => true
  | _ => false

def isMappingEnd : Token → Bool
  | .flowMappingEnd => true
  | _ => false

def endsBlockPart (t : Token) : Bool := isKey t || isValue t || isBlockEnd t

/-- What stands where a node may stand: in a block, behind a key of one, or inside brackets. -/
inductive Setting where
  | block
  | blockOrIndentless
  | flow
deriving DecidableEq

mutual

/-- A node, or the empty node if the token in front ends the place for it. -/
def nodeUnless : Nat → (Token → Bool) → Setting → Compose NodeId
  | 0, _, _ => malformed
  | fuel + 1, ends, setting => do
    if ends (← peek) then emptyNode else node fuel setting

def node : Nat → Setting → Compose NodeId
  | 0, _ => malformed
  | fuel + 1, setting => do
    match ← peek with
    | .alias name =>
      advance
      aliased name
    | _ =>
      let props ← properties
      let t ← peek
      let sequence := collection props.anchor (.sequence (collectionTag props.tag "seq"))
      let mapping := collection props.anchor (.mapping (collectionTag props.tag "map"))
      checkAnchor props.anchor
      match t, setting with
      | .blockEntry, .blockOrIndentless => sequence (indentlessItems fuel)
      | .scalar text plain, _ =>
        advance
        scalar props.anchor (scalarTag props.tag plain text) text
      | .flowSequenceStart, _ =>
        advance
        sequence (flowItems fuel true)
      | .flowMappingStart, _ =>
        advance
        mapping (flowEntries fuel true)
      | .blockSequenceStart, .block =>
        advance
        sequence (blockItems fuel)
      | .blockSequenceStart, .blockOrIndentless =>
        advance
        sequence (blockItems fuel)
      | .blockMappingStart, .block =>
        advance
        mapping (blockEntries fuel)
      | .blockMappingStart, .blockOrIndentless =>
        advance
        mapping (blockEntries fuel)
      | _, _ =>
        if props.anchor.isSome || props.tag.isSome then
          scalar props.anchor (scalarTag props.tag props.tag.isNone "") ""
        else malformed

def blockItems : Nat → Compose (List NodeId)
  | 0 => malformed
  | fuel + 1 => do
    if ← accept isBlockEntry then
      let item ← nodeUnless fuel (fun t => isBlockEntry t || isBlockEnd t) .block
      return item :: (← blockItems fuel)
    else if ← accept isBlockEnd then return []
    else malformed

/-- The items of a sequence that is indented no further than the key in front of it. -/
def indentlessItems : Nat → Compose (List NodeId)
  | 0 => malformed
  | fuel + 1 => do
    if ← accept isBlockEntry then
      let item ← nodeUnless fuel (fun t => isBlockEntry t || endsBlockPart t) .block
      return item :: (← indentlessItems fuel)
    else return []

/-- The entries of a block mapping, up to its end. A missing key or value is empty, but a mapping
whose first mark is no key ends at once. -/
def blockEntries : Nat → Compose (List (NodeId × NodeId))
  | 0 => malformed
  | fuel + 1 => do
    if ← accept isKey then
      let key ← nodeUnless fuel endsBlockPart .blockOrIndentless
      let value ←
        if ← accept isValue then nodeUnless fuel endsBlockPart .blockOrIndentless
        else emptyNode
      return (key, value) :: (← blockEntries fuel)
    else if ← accept isBlockEnd then return []
    else malformed

/-- The items of a sequence in brackets. A key there makes an item that is a mapping of one
entry. -/
def flowItems : Nat → Bool → Compose (List NodeId)
  | 0, _ => malformed
  | fuel + 1, first => do
    if ← accept isSequenceEnd then return []
    if !first then
      if !(← accept isFlowEntry) then malformed
    if ← accept isKey then
      let item ← collection none (.mapping (languageTag "map")) do
        let key ← nodeUnless fuel (fun t => isValue t || isFlowEntry t || isSequenceEnd t) .flow
        let value ←
          if ← accept isValue then
            nodeUnless fuel (fun t => isFlowEntry t || isSequenceEnd t) .flow
          else emptyNode
        return [(key, value)]
      return item :: (← flowItems fuel false)
    else if ← accept isSequenceEnd then return []
    else
      let item ← node fuel .flow
      return item :: (← flowItems fuel false)

/-- The entries of a mapping in braces. A node without a colon is a key with an empty value. -/
def flowEntries : Nat → Bool → Compose (List (NodeId × NodeId))
  | 0, _ => malformed
  | fuel + 1, first => do
    if ← accept isMappingEnd then return []
    if !first then
      if !(← accept isFlowEntry) then malformed
    if ← accept isKey then
      let key ← nodeUnless fuel (fun t => isValue t || isFlowEntry t || isMappingEnd t) .flow
      let value ←
        if ← accept isValue then nodeUnless fuel (fun t => isFlowEntry t || isMappingEnd t) .flow
        else emptyNode
      return (key, value) :: (← flowEntries fuel false)
    else if ← accept isMappingEnd then return []
    else
      let key ← node fuel .flow
      return (key, ← emptyNode) :: (← flowEntries fuel false)

end

/-- What handles stand for unless a directive says otherwise. -/
def usualHandles : List (String × String) :=
  [("!", "!"), ("!!", languageTag "")]

/-- The directives in front of a document: one version at most, of the first major version, and one
prefix for each handle. -/
def directives : Nat → Bool → List (String × String) → Compose (List (String × String))
  | 0, _, _ => malformed
  | fuel + 1, versioned, handles => do
    match ← peek with
    | .directive (.version major) =>
      advance
      if versioned || major ≠ 1 then malformed else directives fuel true handles
    | .directive (.tag handle leading) =>
      advance
      if (handles.lookup handle).isSome then malformed
      else directives fuel versioned ((handle, leading) :: handles)
    | .directive .ignored =>
      advance
      directives fuel versioned handles
    | _ => return handles

def skipDocumentEnds : Nat → Compose Unit
  | 0 => malformed
  | fuel + 1 => do
    match ← peek with
    | .documentEnd =>
      advance
      skipDocumentEnds fuel
    | _ => return

/-- Whether a document that starts with a mark has no content. -/
def isContentless : Token → Bool
  | .directive _ => true
  | .documentStart => true
  | .documentEnd => true
  | .streamEnd => true
  | _ => false

def document (fuel : Nat) : Compose (Option NodeId) := do
  match ← peek with
  | .streamEnd => return none
  | .directive _ => explicit
  | .documentStart => explicit
  | _ => return some (← node fuel .block)
where
  explicit : Compose (Option NodeId) := do
    let handles ← directives fuel false []
    modify fun s => { s with handles := handles ++ usualHandles }
    match ← peek with
    | .documentStart =>
      advance
      return some (← nodeUnless fuel isContentless .block)
    | _ => malformed

/-- The content of the only document. What comes behind it is looked at as far as the directives of
another. -/
def onlyDocument (fuel : Nat) : Compose (Option NodeId) := do
  match ← document fuel with
  | none => return none
  | some n =>
    skipDocumentEnds fuel
    match ← peek with
    | .streamEnd => return some n
    | _ =>
      let _ ← directives fuel false []
      malformed

end Compose

def Composition.ofTokens? (tokens : List Token) : Except Error (Option Composition) := do
  let fuel := 4 * tokens.length + 8
  let (root?, s) ← (Compose.onlyDocument fuel).run
    ⟨tokens, ⟨#[]⟩, [], [], false, [], Compose.usualHandles⟩
  return root?.map fun root => ⟨s.graph, root, s.completed.reverse, s.cyclic⟩

end RichTemplate.Yaml
