import RichTemplate.Profile.Basic

/-!
# The limits of profiles

Reading a document is given up where an issue would have to spell an integer that is too long, and
where it goes down into children that have no end. The bindings in front of it have been registered
by then. Children with an end are read however deep they nest.
-/

namespace RichTemplate

/-- The values that the message or the path of a fault spells. -/
def Fault.spelled : Fault → List Value
  | unknownField key => [key]
  | bindingNameNotText given => [given]
  | unknownBindingFields _ keys => keys
  | unknownElementFields keys => keys
  | propsKeysNotText keys => keys
  | _ => []

/-- A limit that reading a document comes up against. -/
inductive Limit where
  | overlong
  | nesting
deriving DecidableEq, Repr

/-- The limit at which a fault is met, if there is one; then nobody gets to tell the fault. -/
def Fault.limit? : Fault → Option Limit
  | endless => some .nesting
  | fault => if fault.spelled.any Value.isOverlong then some .overlong else none

namespace Limit

def message : Limit → String
  | overlong => overlongMessage
  | nesting => "maximum recursion depth exceeded"

/-- The place where reading is given up: the limit, and the issues found and the bindings read in
front of it. -/
structure Breach where
  limit : Limit
  issues : List Issue
  bindings : List (Value × Value)

def Breach.after (issues : List Issue) (bindings : List (Value × Value)) (b : Breach) : Breach :=
  ⟨b.limit, issues ++ b.issues, bindings ++ b.bindings⟩

/-- Reading is given up at the first issue that is met at a limit. -/
def ofIssues? : List Issue → Option Breach
  | [] => none
  | i :: rest =>
    match i.fault.limit? with
    | some limit => some ⟨limit, [], []⟩
    | none => (ofIssues? rest).map (Breach.after [i] [])

def ofBindings? : List (Value × Value) → Option Breach
  | [] => none
  | (name, spec) :: rest =>
    let issues := (Schema.readBinding name spec).issues
    match ofIssues? issues with
    | some breach => some breach
    | none => (ofBindings? rest).map (Breach.after issues [(name, spec)])

def ofDocument? : Value → Option Breach
  | .map entries =>
    let version := Schema.versionIssues (Entries.get? entries "version")
    let fields := Schema.fieldIssues entries
    match ofIssues? fields, Entries.get? entries "bindings" with
    | some breach, _ => some (breach.after version [])
    | none, some (.map bindings) =>
      (ofBindings? bindings).map
        (Breach.after (version ++ fields ++ (Profile.readVoidNames entries).2) [])
    | none, _ => none
  | _ => none

end Limit

end RichTemplate
