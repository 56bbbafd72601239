import RichTemplate.Number.Binary64
import RichTemplate.Value.Calendar

/-!
# Values

What profiles hold and what templates are filled with: plain data, elements, and nodes that nobody
here looks into. A map lists its entries in insertion order.

A list or a map may lead back to itself and so have no end. Such a value is given by its unfolding,
which is cut off at a mark of its own. A value without the mark has an end, and whatever goes
through it comes to the end, however deep that is: how deep an interpreter's stack reaches is left
out.
-/

namespace RichTemplate

inductive Value where
  | null
  | bool (b : Bool)
  | int (i : Int)
  | float (x : Binary64)
  | str (s : String)
  | bytes (bs : List UInt8)
  | date (d : Date)
  | dateTime (t : DateTime)
  | list (items : List Value)
  | tuple (items : List Value)
  | set (items : List Value)
  | map (entries : List (Value × Value))
  | element (tag : String) (props children : Value)
  | opaqueNode (label : String)
  /-- Where the unfolding of a value without an end is cut off. -/
  | endless
deriving Inhabited, Repr

namespace Value

/-- The name of a value's type, as messages give it. -/
def typeName : Value → String
  | null => "NoneType"
  | bool _ => "bool"
  | int _ => "int"
  | float _ => "float"
  | str _ => "str"
  | bytes _ => "bytes"
  | date _ => "date"
  | dateTime _ => "datetime"
  | list _ => "list"
  | tuple _ => "tuple"
  | set _ => "set"
  | map _ => "dict"
  | element _ _ _ => "Element"
  | opaqueNode _ => "Opaque"
  | endless => "object"

/-- What one meets on going through a value: the items, the characters, the bytes or the keys. -/
def parts? : Value → Option (List Value)
  | str s => some (s.toList.map fun c => str (String.ofList [c]))
  | bytes bs => some (bs.map fun b => int b.toNat)
  | list items => some items
  | tuple items => some items
  | set items => some items
  | map entries => some (entries.map (·.1))
  | _ => none

def isNull : Value → Bool
  | null => true
  | _ => false

def isText : Value → Bool
  | str _ => true
  | _ => false

def text? : Value → Option String
  | str s => some s
  | _ => none

mutual

/-- Whether something holds of a part of a value that has no parts itself. -/
def anyLeaf (p : Value → Bool) : Value → Bool
  | list items => anyLeafOf p items
  | tuple items => anyLeafOf p items
  | set items => anyLeafOf p items
  | map entries => anyLeafIn p entries
  | element _ props children => anyLeaf p props || anyLeaf p children
  | v => p v

def anyLeafOf (p : Value → Bool) : List Value → Bool
  | [] => false
  | v :: vs => anyLeaf p v || anyLeafOf p vs

def anyLeafIn (p : Value → Bool) : List (Value × Value) → Bool
  | [] => false
  | (k, v) :: rest => anyLeaf p k || anyLeaf p v || anyLeafIn p rest

end

def map? : Value → Option (List (Value × Value))
  | map entries => some entries
  | _ => none

end Value

end RichTemplate
