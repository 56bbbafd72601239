import RichTemplate.Yaml.Node

/-!
# Merge keys

A merge key stands for the entries of the mapping under it, or of several mappings. They come in
front of the entries of the mapping that has the key, and those of a later mapping in front of those
of an earlier one. Flattening a mapping puts them in, once and for all who refer to the mapping.
-/

namespace RichTemplate.Yaml.Graph

def entries (g : Graph) (id : NodeId) : List (NodeId × NodeId) :=
  match g.node id with
  | .mapping _ entries => entries
  | _ => []

def setEntries (g : Graph) (id : NodeId) (entries : List (NodeId × NodeId)) : Graph :=
  g.replace id (.mapping (g.tag id) entries)

def isMapping (g : Graph) (id : NodeId) : Bool :=
  match g.node id with
  | .mapping _ _ => true
  | _ => false

/-- A key that is the mark for values is a text, to all who refer to it. -/
def readAsKey (g : Graph) (id : NodeId) : Graph :=
  if g.tag id == Kind.value.tag then g.replace id ((g.node id).withTag (languageTag "str")) else g

mutual

/-- Flattens a mapping. Merge keys are taken out one by one, so that a mapping that is merged into
itself brings in what it has left. -/
def flatten : Nat → NodeId → Graph → Except Error Graph
  | 0, _, _ => .error .tooDeep
  | fuel + 1, id, g => do
    let (inherited, g) ← takeMerges fuel id g
    let own := g.entries id
    let g := own.foldl (fun g e => g.readAsKey e.1) g
    return if inherited.isEmpty then g else g.setEntries id (inherited ++ own)

def takeMerges : Nat → NodeId → Graph → Except Error (List (NodeId × NodeId) × Graph)
  | 0, _, _ => .error .tooDeep
  | fuel + 1, id, g =>
    let entries := g.entries id
    match entries.findIdx? fun e => g.tag e.1 == Kind.merge.tag with
    | none => .ok ([], g)
    | some i => do
      let source := (entries.getD i (id, id)).2
      let (first, g) ← merged fuel source (g.setEntries id (entries.eraseIdx i))
      let (rest, g) ← takeMerges fuel id g
      return (first ++ rest, g)

def merged : Nat → NodeId → Graph → Except Error (List (NodeId × NodeId) × Graph)
  | 0, _, _ => .error .tooDeep
  | fuel + 1, id, g =>
    match g.node id with
    | .mapping _ _ => do
      let g ← flatten fuel id g
      return (g.entries id, g)
    | .sequence _ items => mergedAll fuel items g
    | .scalar _ _ => .error .malformed

/-- The entries of several mappings, those of the last first. -/
def mergedAll : Nat → List NodeId → Graph → Except Error (List (NodeId × NodeId) × Graph)
  | 0, _, _ => .error .tooDeep
  | _ + 1, [], g => .ok ([], g)
  | fuel + 1, id :: rest, g =>
    if g.isMapping id then do
      let g ← flatten fuel id g
      let own := g.entries id
      let (later, g) ← mergedAll fuel rest g
      return (later ++ own, g)
    else .error .malformed

end

/-- Flattens a mapping. Every merge key is taken out at most once, so the steps are bounded. -/
def flattened (g : Graph) (id : NodeId) : Except Error Graph :=
  flatten (4 * Nat.pow (g.weight + 2) 2) id g

end RichTemplate.Yaml.Graph
