import RichTemplate.Value.Key
import RichTemplate.Value.Show

/-!
# Elements and segments

A filled template is a list of segments: literal texts and nodes. An element is the node that
profiles build; its children are texts and elements. Two consumers walk the tree, one for the text
in it and one for its data, and each refuses the first child, in document order, that is neither.
They go down as far as the tree does; how deep an interpreter's stack reaches is left out.
An element that no profile has built may hold anything; its children are then what one meets on
going through what it holds, and its properties may be a list of pairs.
-/

namespace RichTemplate

/-- Why an element cannot be consumed: a child of it has no text, or no data, there is nothing to go
through, or what should be a pair of a property is none. -/
inductive NodeError where
  | noText (child : Value)
  | noData (child : Value)
  | notIterable (given : Value)
  | noPair (index : Nat)
  | wrongLength (index length : Nat)
  | unhashable (key : Value)

namespace NodeError

def message : NodeError → String
  | noText child => "'" ++ child.typeName ++ "' object has no attribute 'text_content'"
  | noData child => "'" ++ child.typeName ++ "' object has no attribute 'to_dict'"
  | notIterable given => "'" ++ given.typeName ++ "' object is not iterable"
  | noPair index =>
    "cannot convert dictionary update sequence element #" ++ toString index ++ " to a sequence"
  | wrongLength index length =>
    "dictionary update sequence element #" ++ toString index ++ " has length " ++
      toString length ++ "; 2 is required"
  | unhashable key => "unhashable type: '" ++ key.typeName ++ "'"

end NodeError

namespace Element

mutual

def childText : Value → Except NodeError String
  | .str s => .ok s
  | .element _ _ children => contentText children
  | v => .error (.noText v)

def contentText : Value → Except NodeError String
  | .str s => .ok s
  | .bytes (b :: _) => .error (.noText (.int b.toNat))
  | .bytes [] => .ok ""
  | .list items => childrenText items
  | .tuple items => childrenText items
  | .set items => childrenText items
  | .map entries => keysText entries
  | v => .error (.notIterable v)

def childrenText : List Value → Except NodeError String
  | [] => .ok ""
  | v :: vs => do
    let text ← childText v
    let rest ← childrenText vs
    return text ++ rest

/-- The text of children that are the keys of a map. -/
def keysText : List (Value × Value) → Except NodeError String
  | [] => .ok ""
  | (k, _) :: rest => do
    let text ← childText k
    let more ← keysText rest
    return text ++ more

end

def pair (index : Nat) (item : Value) : Except NodeError (Value × Value) :=
  match item.parts? with
  | none => .error (.noPair index)
  | some [k, v] => if k.isHashable then .ok (k, v) else .error (.unhashable k)
  | some parts => .error (.wrongLength index parts.length)

/-- The properties that a list of pairs gives, from an index on, laid over others. -/
def propsFrom (index : Nat) (props : Entries Value) :
    List Value → Except NodeError (Entries Value)
  | [] => .ok props
  | item :: rest => do
    let (k, v) ← pair index item
    propsFrom (index + 1) (props.insert k v) rest

def props : Value → Except NodeError (Entries Value)
  | .map entries => .ok entries
  | v =>
    match v.parts? with
    | some items => propsFrom 0 [] items
    | none => .error (.notIterable v)

def data (tag : String) (props : Entries Value) (children : List Value) : Value :=
  .map [(.str "tag", .str tag), (.str "props", .map props), (.str "children", .list children)]

mutual

def childData : Value → Except NodeError Value
  | .str s => .ok (.str s)
  | .element tag given children => do
    let props ← props given
    let inner ← contentData children
    return data tag props inner
  | v => .error (.noData v)

def contentData : Value → Except NodeError (List Value)
  | .str s => .ok (s.toList.map fun c => .str (String.ofList [c]))
  | .bytes (b :: _) => .error (.noData (.int b.toNat))
  | .bytes [] => .ok []
  | .list items => childrenData items
  | .tuple items => childrenData items
  | .set items => childrenData items
  | .map entries => keysData entries
  | v => .error (.notIterable v)

def childrenData : List Value → Except NodeError (List Value)
  | [] => .ok []
  | v :: vs => do
    let first ← childData v
    let rest ← childrenData vs
    return first :: rest

/-- The data of children that are the keys of a map. -/
def keysData : List (Value × Value) → Except NodeError (List Value)
  | [] => .ok []
  | (k, _) :: rest => do
    let first ← childData k
    let more ← keysData rest
    return first :: more

end

end Element

namespace Segment

def text : Value → Except NodeError String
  | .element _ _ children => Element.contentText children
  | .null => .ok ""
  | v => .ok v.plainText

def textOf : List Value → Except NodeError String
  | [] => .ok ""
  | v :: vs => do
    let first ← text v
    let rest ← textOf vs
    return first ++ rest

/-- The data of a segment: a text stands for itself, and a node that is no element is spelled. -/
def data : Value → Except NodeError Value
  | .str s => .ok (.str s)
  | .element tag props children => Element.childData (.element tag props children)
  | v => .ok (.map [(.str "node", .str v.spell)])

def dataOf (segments : List Value) : Except NodeError (List Value) :=
  segments.mapM data

end Segment

end RichTemplate
