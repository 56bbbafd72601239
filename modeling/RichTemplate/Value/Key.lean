import RichTemplate.Value.Basic

/-!
# Keys

Which values can be keys, when two keys are the same, and maps as lists of entries. Numbers are the
same key when they are equal, whatever their types, so `1`, `1.0` and `true` name one entry. An
entry that is written again keeps its place and its first key and takes the last value.
-/

namespace RichTemplate

namespace Value

def integer? : Value → Option Int
  | bool b => some (if b then 1 else 0)
  | int i => some i
  | _ => none

mutual

def isHashable : Value → Bool
  | list _ => false
  | set _ => false
  | map _ => false
  | element _ _ _ => false
  | endless => false
  | tuple items => areHashable items
  | _ => true

def areHashable : List Value → Bool
  | [] => true
  | v :: vs => isHashable v && areHashable vs

end

mutual

/-- Whether two values are the same key. -/
def sameKey : Value → Value → Bool
  | null, null => true
  | str s, str t => s == t
  | bytes s, bytes t => s == t
  | date d, date e => d == e
  | dateTime s, dateTime t => s.sameMoment t
  | opaqueNode s, opaqueNode t => s == t
  | float x, float y => x.eq y
  | float x, w => w.integer?.any x.eqInt
  | v, float y => v.integer?.any y.eqInt
  | tuple vs, tuple ws => sameKeys vs ws
  | v, w =>
    match v.integer?, w.integer? with
    | some i, some j => i == j
    | _, _ => false

def sameKeys : List Value → List Value → Bool
  | [], [] => true
  | v :: vs, w :: ws => sameKey v w && sameKeys vs ws
  | _, _ => false

end

end Value

/-- A map from values, as its entries in insertion order. -/
abbrev Entries (α : Type) := List (Value × α)

namespace Entries

variable {α : Type}

def find? (entries : Entries α) (key : Value) : Option α :=
  (List.find? (fun e => e.1.sameKey key) entries).map (·.2)

def contains (entries : Entries α) (key : Value) : Bool :=
  List.any entries fun e => e.1.sameKey key

/-- The entries with a value stored under a key: in the place of the key if it is there, at the end
if not. -/
def insert (entries : Entries α) (key : Value) (value : α) : Entries α :=
  match entries with
  | [] => [(key, value)]
  | (k, v) :: rest =>
    if k.sameKey key then (k, value) :: rest else (k, v) :: insert rest key value

def insertAll (entries pairs : Entries α) : Entries α :=
  List.foldl (fun es p => insert es p.1 p.2) entries pairs

def ofList (pairs : List (Value × α)) : Entries α :=
  insertAll [] pairs

def erase (entries : Entries α) (key : Value) : Entries α :=
  List.filter (fun e => !e.1.sameKey key) entries

def get? (entries : Entries α) (key : String) : Option α :=
  entries.find? (.str key)

def has (entries : Entries α) (key : String) : Bool :=
  entries.contains (.str key)

end Entries

end RichTemplate
