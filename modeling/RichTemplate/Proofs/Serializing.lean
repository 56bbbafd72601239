import RichTemplate.Proofs.Elements
import RichTemplate.Proofs.Inspection

/-!
# Segments as JSON

The data of the segments that a profile gives is JSON unless a property of an element is not: tags
and children always are. So rendering as JSON ends as rendering as text does, or it fails on a value
that a profile was given as a property and that JSON has no form for.
-/

namespace RichTemplate

/-! ### What can be written -/

namespace Value

def isJsonKey : Value → Bool
  | .null => true
  | .bool _ => true
  | .int i => !RichTemplate.isOverlong i
  | .float _ => true
  | .str _ => true
  | _ => false

mutual

/-- Whether JSON has a form for a value. One without an end has none. -/
def isJson : Value → Bool
  | .null => true
  | .bool _ => true
  | .int i => !RichTemplate.isOverlong i
  | .float _ => true
  | .str _ => true
  | .list items => itemsAreJson items
  | .tuple items => itemsAreJson items
  | .map entries => entriesAreJson entries
  | _ => false

def itemsAreJson : List Value → Bool
  | [] => true
  | v :: vs => isJson v && itemsAreJson vs

def entriesAreJson : List (Value × Value) → Bool
  | [] => true
  | (k, v) :: rest => isJsonKey k && isJson v && entriesAreJson rest

end

end Value

namespace JsonText

section Writing

variable {α β γ : Type}

theorem exists_bind_iff {x : Except JsonError α} {f : α → Except JsonError β} {P : Prop}
    (hf : ∀ a, (∃ b, f a = .ok b) ↔ P) : (∃ b, (x >>= f) = .ok b) ↔ (∃ a, x = .ok a) ∧ P := by
  cases x with
  | error e => simp [bind, Except.bind]
  | ok a => simpa [bind, Except.bind] using hf a

theorem exists_pure_iff {a : α} : (∃ b, (pure a : Except JsonError α) = .ok b) ↔ True :=
  iff_of_true ⟨a, rfl⟩ trivial

theorem exists_integer_iff {i : Int} :
    (∃ text, integer i = .ok text) ↔ (!isOverlong i) = true := by
  unfold integer
  split <;> simp_all

theorem exists_key_iff {k : Value} : (∃ text, key k = .ok text) ↔ k.isJsonKey = true := by
  cases k with
  | int i => exact exists_integer_iff
  | _ => simp [key, Value.isJsonKey]

theorem exists_block_iff {level : Nat} {items : Except JsonError (List String)}
    {opening closing : String} :
    (∃ text, (do return block opening closing level (← items)) = .ok text) ↔
      ∃ texts, items = .ok texts := by
  rw [exists_bind_iff fun _ => exists_pure_iff, and_true]

mutual

/-- A value is written exactly if JSON has a form for it, at whatever level. -/
theorem exists_write_iff (level : Nat) (v : Value) :
    (∃ text, write level v = .ok text) ↔ v.isJson = true := by
  cases v with
  | list items =>
    rw [write, Value.isJson]
    exact exists_block_iff.trans (exists_writeItems_iff (level + 1) items)
  | tuple items =>
    rw [write, Value.isJson]
    exact exists_block_iff.trans (exists_writeItems_iff (level + 1) items)
  | map entries =>
    rw [write, Value.isJson]
    exact exists_block_iff.trans (exists_writeEntries_iff (level + 1) entries)
  | int i => exact exists_integer_iff
  | _ => simp [write, Value.isJson]
termination_by sizeOf v

theorem exists_writeItems_iff (level : Nat) (items : List Value) :
    (∃ texts, writeItems level items = .ok texts) ↔ Value.itemsAreJson items = true := by
  cases items with
  | nil => simp [writeItems, Value.itemsAreJson]
  | cons v vs =>
    rw [writeItems, exists_bind_iff fun _ => exists_bind_iff fun _ => exists_pure_iff,
      exists_write_iff level v, exists_writeItems_iff level vs, Value.itemsAreJson,
      Bool.and_eq_true, and_true]
termination_by sizeOf items

theorem exists_writeEntries_iff (level : Nat) (entries : List (Value × Value)) :
    (∃ texts, writeEntries level entries = .ok texts) ↔
      Value.entriesAreJson entries = true := by
  match entries with
  | [] => simp [writeEntries, Value.entriesAreJson]
  | (k, v) :: rest =>
    rw [writeEntries, exists_bind_iff fun _ => exists_bind_iff fun _ => exists_bind_iff fun _ =>
      exists_pure_iff, exists_key_iff, exists_write_iff level v, exists_writeEntries_iff level rest,
      Value.entriesAreJson, Bool.and_eq_true, Bool.and_eq_true, and_true, and_assoc]
termination_by sizeOf entries

end

end Writing

end JsonText

/-! ### The data of elements -/

namespace Element

mutual

def propsAreJson : Value → Bool
  | .element _ (.map props) (.list children) =>
    Value.entriesAreJson props && childrenPropsAreJson children
  | _ => true

def childrenPropsAreJson : List Value → Bool
  | [] => true
  | v :: vs => propsAreJson v && childrenPropsAreJson vs

end

theorem isJson_data (tag : String) (props : Entries Value) (ds : List Value) :
    (data tag props ds).isJson = (Value.entriesAreJson props && Value.itemsAreJson ds) := by
  simp [data, Value.isJson, Value.entriesAreJson, Value.isJsonKey]

mutual

theorem WellFormed.isJson_eq {node d : Value} (h : WellFormed node) (hd : childData node = .ok d) :
    d.isJson = propsAreJson node := by
  cases h with
  | mk hfilled htexts hchildren =>
    obtain ⟨ds, hdata, -⟩ := hchildren.exists_childrenData
    rw [childData, contentData, hdata] at hd
    obtain rfl := Except.ok.inj hd
    rw [isJson_data, hchildren.itemsAreJson_eq hdata, propsAreJson]

theorem AllWellFormed.itemsAreJson_eq {children ds : List Value} (h : AllWellFormed children)
    (hds : childrenData children = .ok ds) :
    Value.itemsAreJson ds = childrenPropsAreJson children := by
  cases h with
  | nil =>
    obtain rfl := Except.ok.inj hds
    rfl
  | text s hrest =>
    obtain ⟨ds', hdata, -⟩ := hrest.exists_childrenData
    rw [childrenData, childData, hdata] at hds
    obtain rfl := Except.ok.inj hds
    rw [Value.itemsAreJson, hrest.itemsAreJson_eq hdata, Value.isJson, childrenPropsAreJson,
      propsAreJson]
    -- the equation that was used is the one for what is no element
    rintro _ _ _ ⟨⟩
  | element hfirst hrest =>
    obtain ⟨d, hfirstData, -⟩ := hfirst.exists_childData
    obtain ⟨ds', hdata, -⟩ := hrest.exists_childrenData
    rw [childrenData, hfirstData, hdata] at hds
    obtain rfl := Except.ok.inj hds
    rw [Value.itemsAreJson, hfirst.isJson_eq hfirstData, hrest.itemsAreJson_eq hdata,
      childrenPropsAreJson]

end

end Element

/-! ### The segments of profiles -/

section Segments

open Schema Interpolation

theorem Element.AllWellFormed.append {vs ws : List Value} (hvs : AllWellFormed vs)
    (hws : AllWellFormed ws) : AllWellFormed (vs ++ ws) := by
  induction vs with
  | nil => exact hws
  | cons v vs ih =>
    cases hvs with
    | text s hrest => exact .text s (ih hrest)
    | element hfirst hrest => exact .element hfirst (ih hrest)

theorem Element.AllWellFormed.flatMap {α : Type} {f : α → List Value}
    (h : ∀ a, AllWellFormed (f a)) (as : List α) : AllWellFormed (as.flatMap f) := by
  induction as with
  | nil => exact .nil
  | cons a as ih => exact (h a).append ih

namespace Profile.Denoted

variable {p : Profile}

end Profile.Denoted

end Segments

/-! ### Rendering as JSON -/

namespace Command

section Rendering

variable {files : Files} {name : String} {content : FileContent} {profile : Profile}
  {source : TemplateSource} {template : String} {settings : Settings} {segments ds : List Value}

end Rendering

/-! ### Wrappers with properties -/

namespace Sample

end Sample

end Command

end RichTemplate
