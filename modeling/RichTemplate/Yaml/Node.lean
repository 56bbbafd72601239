import RichTemplate.Yaml.Resolution

/-!
# Nodes

A document is a graph of nodes. A node is named by its place in the graph, so that aliases can lead
back to nodes that stand around them. Every node has its tag: the one it is given, or the one that
its form and its text select.
-/

namespace RichTemplate.Yaml

abbrev NodeId := Nat

inductive Node where
  | scalar (tag text : String)
  | sequence (tag : String) (items : List NodeId)
  | mapping (tag : String) (entries : List (NodeId × NodeId))
deriving Inhabited

namespace Node

def tag : Node → String
  | scalar tag _ => tag
  | sequence tag _ => tag
  | mapping tag _ => tag

def withTag (tag : String) : Node → Node
  | scalar _ text => scalar tag text
  | sequence _ items => sequence tag items
  | mapping _ entries => mapping tag entries

end Node

structure Graph where
  nodes : Array Node

namespace Graph

def size (g : Graph) : Nat := g.nodes.size

def node (g : Graph) (id : NodeId) : Node := g.nodes.getD id default

def tag (g : Graph) (id : NodeId) : String := (g.node id).tag

def replace (g : Graph) (id : NodeId) (n : Node) : Graph :=
  ⟨g.nodes.setIfInBounds id n⟩

/-- How many parts the nodes have altogether, the nodes themselves counted. -/
def weight (g : Graph) : Nat :=
  g.nodes.foldl (fun n node =>
    match node with
    | .scalar _ _ => n + 1
    | .sequence _ items => n + 1 + items.length
    | .mapping _ entries => n + 1 + entries.length) 0

/-- Adds a node, at the place that the size of the graph names. -/
def add (g : Graph) (n : Node) : Graph :=
  ⟨g.nodes.push n⟩

end Graph

/-! ## Tags -/

/-- The common start of the tags that the language defines. -/
def languageTag (name : String) : String := "tag:yaml.org,2002:" ++ name

def Kind.tag : Kind → String
  | bool => languageTag "bool"
  | float => languageTag "float"
  | int => languageTag "int"
  | merge => languageTag "merge"
  | null => languageTag "null"
  | timestamp => languageTag "timestamp"
  | value => languageTag "value"
  | mark => languageTag "yaml"

def plainTag (text : String) : String :=
  match resolve profileResolvers text.toList with
  | some kind => kind.tag
  | none => languageTag "str"

/-- The tag of a scalar. The tag `!` has even a quoted text looked at as if it were plain. -/
def scalarTag (given : Option String) (plain : Bool) (text : String) : String :=
  match given with
  | none => if plain then plainTag text else languageTag "str"
  | some "!" => plainTag text
  | some tag => tag

def collectionTag (given : Option String) (usual : String) : String :=
  match given with
  | none => languageTag usual
  | some "!" => languageTag usual
  | some tag => tag

end RichTemplate.Yaml
