import RichTemplate.Interpolation
import RichTemplate.Profile.Schema
import RichTemplate.Registry

/-!
# Profiles

A profile declares bindings and void names. It is built from a document only when every part of the
document is sound; the bindings that are sound are registered, and logged, whatever the others are.
-/

namespace RichTemplate

structure Profile where
  registry : Registry
  voidNames : List String

namespace Profile

def entriesOf (bindings : Entries Binding) : Entries Entry :=
  bindings.map fun e => (e.1, .binding e.2)

/-- The void names of a document: its own in place of the usual ones, and more besides. -/
def readVoidNames (entries : Entries Value) : List String × List Issue :=
  let base :=
    match Entries.get? entries "void_names" with
    | some v => Schema.readNames "void_names" v
    | none => (defaultVoidNames, [])
  let extra :=
    match Entries.get? entries "extra_void_names" with
    | some v => Schema.readNames "extra_void_names" v
    | none => ([], [])
  (base.1 ++ extra.1, base.2 ++ extra.2)

def issues : Value → List Issue
  | .map entries =>
    Schema.versionIssues (Entries.get? entries "version") ++ Schema.fieldIssues entries ++
      (readVoidNames entries).2 ++ (Schema.readBindingsField (Entries.get? entries "bindings")).2
  | _ => [⟨.notAMap, ""⟩]

def registrationOf (bindings : Option Value) : Registration Registry :=
  Registry.ofEntries (entriesOf (Schema.readBindingsField bindings).1)

def registration : Value → Registration Registry
  | .map entries => registrationOf (Entries.get? entries "bindings")
  | _ => pure .empty

def voidNamesOf : Value → List String
  | .map entries => (readVoidNames entries).1.eraseDups
  | _ => []

/-- Builds the profile that a document declares, or finds every issue of it. -/
def ofValue (document : Value) : Traced (List Issue) LogRecord Profile :=
  let registered := registration document
  let found := issues document
  match found, registered.result with
  | [], .ok registry => ⟨.ok ⟨registry, voidNamesOf document⟩, registered.trace⟩
  | _, _ => ⟨.error found, registered.trace⟩

def interpolate (p : Profile) (template : String) : Run (List Value) :=
  RichTemplate.interpolate p.registry.bindings p.voidNames template

end Profile

end RichTemplate
