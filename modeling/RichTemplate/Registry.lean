import RichTemplate.Binding
import RichTemplate.Log
import RichTemplate.Text.Word
import RichTemplate.Trace

/-!
# Registries

A registry holds bindings under names that a template can spell, in the order in which the names
were first registered. What is wrong is refused, and each registration is logged.
-/

namespace RichTemplate

inductive RegistryError where
  | badName (given : Value)
  | notBinding (name : String) (given : Value)
  | invalid (name : String) (problems : List BindingProblem)

namespace RegistryError

def message : RegistryError → String
  | badName given => "Invalid binding name: " ++ given.spell
  | notBinding name given => "Binding '" ++ name ++ "' must be a Binding, got " ++ given.typeName
  | invalid name problems =>
    "Invalid binding '" ++ name ++ "': " ++
      "; ".intercalate (problems.map BindingProblem.message)

end RegistryError

inductive LookupError where
  | unhashable (key : Value)
  | absent (key : Value)

namespace LookupError

def message : LookupError → String
  | unhashable key => "unhashable type: '" ++ key.typeName ++ "'"
  | absent key => key.spell

end LookupError

/-- Entries under their names, in order of first registration. -/
structure Registry where
  entries : List (String × Entry)

/-- A change of registries that may be refused, with the records it logs. -/
abbrev Registration := Traced RegistryError LogRecord

namespace Registry

def logger : String := "richinterp.bindings.registry"

def empty : Registry := ⟨[]⟩

def order (r : Registry) : List String :=
  r.entries.map (·.1)

def names (r : Registry) : List String :=
  r.order.mergeSort (· ≤ ·)

def size (r : Registry) : Nat :=
  r.entries.length

def get? (r : Registry) (name : String) : Option Entry :=
  (r.entries.find? fun e => e.1 == name).map (·.2)

def has (r : Registry) (name : String) : Bool :=
  r.entries.any fun e => e.1 == name

/-- Stores an entry under a name and checks nothing. A name that is there keeps its place. -/
def put (r : Registry) (name : String) (entry : Entry) : Registry :=
  if r.has name then
    ⟨r.entries.map fun e => if e.1 == name then (e.1, entry) else e⟩
  else ⟨r.entries ++ [(name, entry)]⟩

def bindings (r : Registry) : Entries Entry :=
  r.entries.map fun e => (.str e.1, e.2)

def check (name : Value) (entry : Entry) : Except RegistryError (String × Binding) :=
  match name with
  | .str n =>
    if isWord n then
      match entry with
      | .binding b => if b.problems.isEmpty then .ok (n, b) else .error (.invalid n b.problems)
      | .other given => .error (.notBinding n given)
    else .error (.badName name)
  | _ => .error (.badName name)

def registrationRecords (r : Registry) (name : String) (b : Binding) : List LogRecord :=
  (if r.has name then [⟨logger, .debug, "Replacing binding: " ++ name⟩] else []) ++
    [⟨logger, .debug, "Registered " ++ b.kind.shown.plainText ++ " binding: " ++ name⟩]

def register (r : Registry) (name : Value) (entry : Entry) : Registration Registry :=
  match check name entry with
  | .ok (n, b) => ⟨.ok (r.put n (.binding b)), r.registrationRecords n b⟩
  | .error e => Traced.fail e

def registerAll (r : Registry) : Entries Entry → Registration Registry
  | [] => pure r
  | (name, entry) :: rest => do
    let r' ← r.register name entry
    r'.registerAll rest

def ofEntries (entries : Entries Entry) : Registration Registry :=
  empty.registerAll entries

/-- A new registry with the given entries laid over those of another, which all are registered
anew. -/
def merge (r : Registry) (upper : Entries Entry) : Registration Registry := do
  let base ← ofEntries r.bindings
  base.registerAll upper

def find? (r : Registry) (key : Value) : Except LookupError (Option Entry) :=
  if key.isHashable then .ok (key.text?.bind r.get?) else .error (.unhashable key)

def find (r : Registry) (key : Value) : Except LookupError Entry := do
  match ← r.find? key with
  | some entry => return entry
  | none => .error (.absent key)

def validateAll (r : Registry) : Except Value (List String) :=
  r.entries.foldlM (fun errors e =>
    match e.2 with
    | .binding b =>
      .ok (errors ++ b.problems.map fun p => "Binding '" ++ e.1 ++ "': " ++ p.message)
    | .other given => .error given) []

/-- The spelling of a registry: its names in ascending order. -/
def spell (r : Registry) : String :=
  "BindingRegistry(" ++ (Value.list (r.names.map .str)).spell ++ ")"

end Registry

end RichTemplate
