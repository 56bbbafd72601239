import RichTemplate.Binding
import RichTemplate.Profile.Fault
import RichTemplate.Text.Word
import RichTemplate.Value.Key

/-!
# Reading the parts of a profile

Each part is read on its own: it gives what it denotes, unless it is beyond use, and the issues
found in it. A field that no rule knows is an issue but does not stop the part from being read.
-/

namespace RichTemplate

/-- What a part of a profile denotes, if it can be used, and what is wrong with it. -/
structure Reading (α : Type) where
  value? : Option α
  issues : List Issue

namespace Reading

variable {α β : Type}

def ok (a : α) : Reading α :=
  ⟨some a, []⟩

def reject (fault : Fault) (path : String) : Reading α :=
  ⟨none, [⟨fault, path⟩]⟩

def after (issues : List Issue) (r : Reading α) : Reading α :=
  ⟨r.value?, issues ++ r.issues⟩

def andThen (r : Reading α) (f : α → Reading β) : Reading β :=
  match r.value? with
  | some a => (f a).after r.issues
  | none => ⟨none, r.issues⟩

end Reading

namespace Schema

def unknownKeys (known : List String) (entries : Entries Value) : List Value :=
  (entries.map (·.1)).filter fun key =>
    match key with
    | .str s => !known.contains s
    | _ => true

def unknownIssues (fault : List Value → Fault) (path : String) (keys : List Value) :
    List Issue :=
  if keys.isEmpty then [] else [⟨fault keys, path⟩]

/-- The fault of a value that cannot be used where it stands, unless nobody comes to its end. -/
def refusal (fault : Fault) : Value → Fault
  | .endless => .endless
  | _ => fault

/-- Reads properties: none, or a map in which every key is a text. -/
def readProps (path : String) (props : Value) : Reading (Entries Value) :=
  match props with
  | .null => .ok []
  | .map entries =>
    let bad := (entries.map (·.1)).filter fun key => !key.isText
    if bad.isEmpty then .ok entries else .reject (.propsKeysNotText bad) path
  | v => .reject (refusal .propsNotMap v) path

/-- A text that is not empty. -/
def filledText? : Option Value → Option String
  | some (.str s) => if s = "" then none else some s
  | _ => none

def childPath (path : String) (index : Nat) : String :=
  path ++ ".children[" ++ toString index ++ "]"

theorem sizeOf_lt_of_get? {entries : Entries Value} {key : String} {v : Value}
    (h : entries.get? key = some v) : sizeOf v < sizeOf entries := by
  simp only [Entries.get?, Entries.find?] at h
  obtain ⟨e, he, rfl⟩ := Option.map_eq_some_iff.mp h
  have hmem := List.sizeOf_lt_of_mem (List.mem_of_find?_eq_some he)
  have : sizeOf e.2 < sizeOf e := by
    obtain ⟨k, w⟩ := e
    change sizeOf w < sizeOf (k, w)
    rw [Prod.mk.sizeOf_spec]
    omega
  omega

mutual

/-- Reads an element: a map with a tag, and properties and children if there are any. -/
def readElement (path : String) (spec : Value) : Reading Value :=
  match spec with
  | .map entries =>
    let unknown := unknownIssues .unknownElementFields path
      (unknownKeys ["tag", "props", "children"] entries)
    let reading : Reading Value :=
      match filledText? (Entries.get? entries "tag") with
      | none => .reject .tagEmpty (path ++ ".tag")
      | some tag =>
        let reading := readProps (path ++ ".props") ((Entries.get? entries "props").getD .null)
        reading.andThen fun props =>
          match _h : Entries.get? entries "children" with
          | none => .ok (.element tag (.map props) (.list []))
          | some (.list children) =>
            (readChildren path 0 children).andThen fun built =>
              .ok (.element tag (.map props) (.list built))
          | some v => .reject (refusal .childrenNotList v) (path ++ ".children")
    reading.after unknown
  | v => .reject (refusal .elementNotMap v) path
termination_by sizeOf spec
decreasing_by
  have := sizeOf_lt_of_get? _h
  simp only [Value.list.sizeOf_spec, Value.map.sizeOf_spec] at this ⊢
  omega

/-- Reads children from an index on: texts stand for themselves, and the first that is neither a
text nor an element ends the reading. -/
def readChildren (path : String) (index : Nat) (children : List Value) : Reading (List Value) :=
  match children with
  | [] => .ok []
  | .str s :: rest =>
    (readChildren path (index + 1) rest).andThen fun built => .ok (.str s :: built)
  | child :: rest =>
    (readElement (childPath path index) child).andThen fun node =>
      (readChildren path (index + 1) rest).andThen fun built => .ok (node :: built)
termination_by sizeOf children

end

/-- The wrapper that encloses a text in a new element; an empty text gives no child. -/
def wrapIn (tag : String) (props : Entries Value) : Wrapper :=
  ⟨"profile", fun text =>
    .done (.ok (.element tag (.map props) (.list (if text = "" then [] else [.str text]))))⟩

def readWrap (name path : String) (spec : Entries Value) : Reading Binding :=
  let unknown := unknownIssues (.unknownBindingFields name) path
    (unknownKeys ["wrap", "props"] spec)
  let reading : Reading Binding :=
    match filledText? (spec.get? "wrap") with
    | none => .reject (.wrapEmpty name) (path ++ ".wrap")
    | some tag =>
      (readProps (path ++ ".props") ((spec.get? "props").getD .null)).andThen fun props =>
        .ok (.wrapper (.wrapper (wrapIn tag props)))
  reading.after unknown

def readNode (name path : String) (spec : Entries Value) (element : Value) : Reading Binding :=
  let unknown := unknownIssues (.unknownBindingFields name) path (unknownKeys ["element"] spec)
  ((readElement (path ++ ".element") element).andThen fun node => .ok (.value node)).after unknown

def readSpec (name path : String) (spec : Value) : Reading Binding :=
  match spec with
  | .map entries =>
    match Entries.has entries "wrap", Entries.get? entries "element" with
    | true, some _ => .reject (.bothForms name) path
    | true, none => readWrap name path entries
    | false, some element => readNode name path entries element
    | false, none => .reject (.neitherForm name) path
  | _ => .reject (.bindingNotMap name) path

def readBinding (name spec : Value) : Reading Binding :=
  let path := "bindings." ++ name.plainText
  match name with
  | .str n => if isWord n then readSpec n path spec else .reject (.bindingNameInvalid n) path
  | _ => .reject (.bindingNameNotText name) path

def readBindings (bindings : Entries Value) : Entries Binding × List Issue :=
  let readings := bindings.map fun e => (e.1, readBinding e.1 e.2)
  (readings.filterMap fun r => r.2.value?.map fun b => (r.1, b), readings.flatMap (·.2.issues))

/-- Reads the bindings of a profile; a profile need not have any. -/
def readBindingsField : Option Value → Entries Binding × List Issue
  | none => ([], [])
  | some .null => ([], [])
  | some (.map entries) => readBindings entries
  | some _ => ([], [⟨.bindingsNotMap, "bindings"⟩])

def readName (place : String) (v : Value) : Reading String :=
  match v with
  | .str s => if isWord s then .ok s else .reject (.nameInvalid place s) place
  | _ => .reject (.nameNotText place v) place

/-- The valid names among a list's items from an index on, and the issues of the others. -/
def readNamesFrom (field : String) (index : Nat) : List Value → List String × List Issue
  | [] => ([], [])
  | v :: vs =>
    let first := readName (field ++ "[" ++ toString index ++ "]") v
    let rest := readNamesFrom field (index + 1) vs
    (first.value?.toList ++ rest.1, first.issues ++ rest.2)

def readNames (field : String) : Value → List String × List Issue
  | .list items => readNamesFrom field 0 items
  | _ => ([], [⟨.namesNotList field, field⟩])

def versionIssues : Option Value → List Issue
  | none => [⟨.versionMissing, "version"⟩]
  | some .null => [⟨.versionMissing, "version"⟩]
  | some (.str s) => if s = "1" then [] else [⟨.versionUnsupported s, "version"⟩]
  | some v => [⟨.versionNotText v, "version"⟩]

def knownFields : List String :=
  ["version", "name", "void_names", "extra_void_names", "bindings"]

def fieldIssues (entries : Entries Value) : List Issue :=
  (unknownKeys knownFields entries).map fun key => ⟨.unknownField key, key.plainText⟩

end Schema

end RichTemplate
