import RichTemplate.Value.Key
import RichTemplate.Yaml.Graph
import RichTemplate.Yaml.Merge
import RichTemplate.Yaml.Scalar

/-!
# The values of documents

A node has the value that its tag and its content give it. Collections are begun where they are met
and filled one after the other, in the order in which they were begun, so of several failures the
one nearest to the root counts, and of those at one depth the first. Where an alias leads back to a
node around it the value has no end, and is unfolded until a way through it has met a node twice.
-/

namespace RichTemplate.Yaml

/-- What is known of a node that has been looked at. -/
inductive Shape where
  /-- A scalar. Values with one identity are one, even those that differ from themselves. -/
  | scalar (v : Value) (identity : Nat)
  | begun
  | list (items : List NodeId)
  | pairs (entries : List (NodeId × NodeId))
  | map (entries : List (Value × NodeId))
  | set (items : List Value)

/-- The state of building: the nodes, the shapes of those that have been looked at, and the
collections in the order in which they were begun. -/
structure Builder where
  graph : Graph
  shapes : Array (Option Shape)
  begun : Array NodeId

abbrev Build := StateT Builder (Except Error)

/-! ## Scalars -/

def languageName? (tag : String) : Option String :=
  let start := (languageTag "").toList
  if start.isPrefixOf tag.toList then some (String.ofList (tag.toList.drop start.length)) else none

/-- Reads a scalar by the name of its tag, unless the tag is unknown. -/
def scalarReader? (name : String) : Option (List Char → Except Error Value) :=
  match name with
  | "null" => some fun _ => .ok .null
  | "bool" => some Scalar.bool
  | "int" => some Scalar.int
  | "float" => some Scalar.float
  | "binary" => some Scalar.binary
  | "timestamp" => some Scalar.timestamp
  | "str" => some fun text => .ok (.str (String.ofList text))
  | _ => none

/-- The text of a scalar. A mapping with a value key has the text of what is under it; through more
nodes than there are, it would have itself under it. -/
def Graph.text (g : Graph) : Nat → NodeId → Except Error String
  | 0, _ => .error .tooDeep
  | fuel + 1, id =>
    match g.node id with
    | .scalar _ text => .ok text
    | .sequence _ _ => .error .malformed
    | .mapping _ entries =>
      match entries.find? fun e => g.tag e.1 == Kind.value.tag with
      | some (_, value) => g.text fuel value
      | none => .error .malformed

def Graph.scalar (g : Graph) (name : String) (id : NodeId) : Except Error Shape :=
  match scalarReader? name with
  | none => .error .malformed
  | some read => do
    let text := (← g.text (g.size + 1) id).toList
    if name == "timestamp" && g.isMapping id then .error .timestampNotText
    else
      let identity := if name == "float" && Scalar.namesNan text then g.size else id
      return .scalar (← read text) identity

namespace Build

def malformed {α : Type} : Build α := throw .malformed

def collectionNames : List String := ["seq", "map", "set", "omap", "pairs"]

def tagName? (id : NodeId) : Build (Option String) := do
  return languageName? ((← get).graph.tag id)

def setShape (id : NodeId) (shape : Shape) : Build Unit :=
  modify fun b => { b with shapes := b.shapes.setIfInBounds id (some shape) }

/-- Looks at a node: a scalar is read at once, a collection is begun. -/
def begin (id : NodeId) : Build Unit := do
  let b ← get
  if (b.shapes.getD id none).isSome then return
  match ← tagName? id with
  | none => malformed
  | some name =>
    if collectionNames.contains name then
      setShape id .begun
      modify fun b => { b with begun := b.begun.push id }
    else setShape id (← b.graph.scalar name id)

/-- The value of a key, which must be a scalar, and its identity. -/
def key (id : NodeId) : Build (Value × Nat) := do
  begin id
  match (← get).shapes.getD id none with
  | some (.scalar v identity) => return (v, identity)
  | _ => malformed

def entries : List (NodeId × NodeId) → List ((Value × Nat) × NodeId) →
    Build (List ((Value × Nat) × NodeId))
  | [], found => return found
  | (k, v) :: rest, found => do
    let name ← key k
    begin v
    entries rest (store name v found)
where
  isSame (a b : Value × Nat) : Bool := a.2 == b.2 || a.1.sameKey b.1
  store (name : Value × Nat) (v : NodeId) :
      List ((Value × Nat) × NodeId) → List ((Value × Nat) × NodeId)
    | [] => [(name, v)]
    | e :: rest => if isSame e.1 name then (e.1, v) :: rest else e :: store name v rest

def mappingEntries (id : NodeId) : Build (List (Value × NodeId)) := do
  let b ← get
  if b.graph.isMapping id then
    let graph ← b.graph.flattened id
    set { b with graph := graph }
    return (← entries (graph.entries id) []).map fun e => (e.1.1, e.2)
  else malformed

def items (id : NodeId) : Build (List NodeId) := do
  match (← get).graph.node id with
  | .sequence _ items => return items
  | _ => malformed

def singleEntries : List NodeId → Build (List (NodeId × NodeId))
  | [] => return []
  | id :: rest => do
    match (← get).graph.node id with
    | .mapping _ [(k, v)] =>
      begin k
      begin v
      return (k, v) :: (← singleEntries rest)
    | _ => malformed

def fill (id : NodeId) : Build Unit := do
  match ← tagName? id with
  | some "seq" =>
    let items ← items id
    items.forM begin
    setShape id (.list items)
  | some "map" => setShape id (.map (← mappingEntries id))
  | some "set" => setShape id (.set ((← mappingEntries id).map (·.1)))
  | _ => setShape id (.pairs (← singleEntries (← items id)))

def fillFrom : Nat → Nat → Build Unit
  | 0, _ => return
  | fuel + 1, i => do
    match (← get).begun[i]? with
    | some id =>
      fill id
      fillFrom fuel (i + 1)
    | none => return

end Build

/-! ## Unfolding -/

def Shape.value (values : Array Value) : Shape → Value
  | .scalar v _ => v
  | .begun => .null
  | .list items => .list (items.map (values.getD · .null))
  | .pairs entries =>
    .list (entries.map fun (k, v) => .tuple [values.getD k .null, values.getD v .null])
  | .map entries => .map (entries.map fun (k, v) => (k, values.getD v .null))
  | .set items => .set items

namespace Composition

/-- The values of the nodes in the order of completion, those of later nodes given. -/
def valuesFrom (c : Composition) (shapes : Array (Option Shape)) (values : Array Value) :
    Array Value :=
  c.completed.foldl (fun values id =>
    match shapes.getD id none with
    | some shape => values.setIfInBounds id (shape.value values)
    | none => values) values

/-- The value of the root. Without a cycle no node needs a later one. With one, each round follows
such a need once more; there are more rounds than nodes, so only what goes round is cut off, and it
has gone round by the node in front of the cut. -/
def unfold (c : Composition) (shapes : Array (Option Shape)) : Value :=
  let start := Array.replicate c.graph.size Value.endless
  let rounds := if c.cyclic then c.graph.size + 2 else 1
  (Nat.repeat (c.valuesFrom shapes) rounds start).getD c.root .null

def value (c : Composition) : Except Error Value := do
  let build : Build Unit := do
    Build.begin c.root
    Build.fillFrom (c.graph.size + 1) 0
  let (_, b) ← build.run ⟨c.graph, Array.replicate c.graph.size none, #[]⟩
  return c.unfold b.shapes

end Composition

/-- Reads the only document of a text. An empty text is a null. -/
def read (source : Source) : Except Error Value := do
  match ← Composition.ofTokens? (Token.ofSource source) with
  | none => return .null
  | some c => c.value

end RichTemplate.Yaml
