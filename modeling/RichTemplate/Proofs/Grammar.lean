import RichTemplate.Profile.Source
import Mathlib.Data.List.Forall2

/-!
# The grammar of profiles

What the parts of a document may hold and what they denote, said apart from how they are read.
-/

namespace RichTemplate

theorem Value.sameKey_str_iff {v : Value} {s : String} :
    v.sameKey (.str s) = true ↔ v = .str s := by
  cases v <;> simp [Value.sameKey, Value.integer?]

namespace Entries

variable {α : Type} {entries : Entries α} {key : String} {a : α}

def Distinct (entries : Entries α) : Prop :=
  entries.Pairwise fun e e' => e.1.sameKey e'.1 = false

instance : Decidable entries.Distinct :=
  inferInstanceAs (Decidable (List.Pairwise _ entries))

def OnlyKeys (known : List String) (entries : Entries α) : Prop :=
  ∀ e ∈ entries, ∃ key ∈ known, e.1 = .str key

theorem get?_cons (k : Value) (a : α) (entries : Entries α) (key : String) :
    get? ((k, a) :: entries) key =
      if k.sameKey (.str key) = true then some a else entries.get? key := by
  simp only [get?, find?, List.find?_cons]
  split <;> simp_all

theorem get?_cons_self (key : String) (a : α) (entries : Entries α) :
    get? ((.str key, a) :: entries) key = some a := by
  rw [get?_cons, if_pos (Value.sameKey_str_iff.mpr rfl)]

theorem get?_cons_of_ne {k : Value} (h : k ≠ .str key) (a : α) (entries : Entries α) :
    get? ((k, a) :: entries) key = entries.get? key := by
  rw [get?_cons, if_neg fun hkey => h (Value.sameKey_str_iff.mp hkey)]

theorem mem_of_get? (h : entries.get? key = some a) : (Value.str key, a) ∈ entries := by
  obtain ⟨⟨k, b⟩, hfind, rfl⟩ := Option.map_eq_some_iff.mp h
  have hkey : k.sameKey (.str key) = true := by simpa using List.find?_some hfind
  obtain rfl := Value.sameKey_str_iff.mp hkey
  exact List.mem_of_find?_eq_some hfind

theorem has_eq_isSome : entries.has key = (entries.get? key).isSome := by
  rw [has, contains, get?, find?, Option.isSome_map, List.isSome_find?]

theorem OnlyKeys.get?_eq_none {known : List String} (h : entries.OnlyKeys known)
    (hkey : key ∉ known) : entries.get? key = none := by
  by_contra hsome
  obtain ⟨a, ha⟩ := Option.ne_none_iff_exists'.mp hsome
  obtain ⟨key', hmem, heq⟩ := h _ (mem_of_get? ha)
  exact hkey (Value.str.inj heq ▸ hmem)

end Entries

/-! ### Rules -/

namespace Schema

/-- Properties are absent or null, or a map in which every key is a text. -/
inductive DenotesProps : Option Value → Entries Value → Prop
  | absent : DenotesProps none []
  | null : DenotesProps (some .null) []
  | map {entries : Entries Value} (htexts : ∀ e ∈ entries, e.1.isText = true) :
    DenotesProps (some (.map entries)) entries

structure DenotesHead (entries : Entries Value) (tag : String) (props : Entries Value) : Prop where
  known : entries.OnlyKeys ["tag", "props", "children"]
  tag_eq : entries.get? "tag" = some (.str tag)
  filled : tag ≠ ""
  props : DenotesProps (entries.get? "props") props

mutual

inductive DenotesElement : Value → Value → Prop
  | leaf {entries props : Entries Value} {tag : String} (hhead : DenotesHead entries tag props)
    (hnone : entries.get? "children" = none) :
    DenotesElement (.map entries) (.element tag (.map props) (.list []))
  | node {entries props : Entries Value} {tag : String} {items children : List Value}
    (hhead : DenotesHead entries tag props) (hitems : entries.get? "children" = some (.list items))
    (hchildren : DenotesChildren items children) :
    DenotesElement (.map entries) (.element tag (.map props) (.list children))

inductive DenotesChildren : List Value → List Value → Prop
  | nil : DenotesChildren [] []
  | text {items children : List Value} (s : String) (hrest : DenotesChildren items children) :
    DenotesChildren (.str s :: items) (.str s :: children)
  | element {item node : Value} {items children : List Value} (hfirst : DenotesElement item node)
    (hrest : DenotesChildren items children) : DenotesChildren (item :: items) (node :: children)

end

inductive DenotesBinding : Value → Binding → Prop
  | wrap {entries props : Entries Value} {tag : String}
    (hknown : entries.OnlyKeys ["wrap", "props"]) (htag : entries.get? "wrap" = some (.str tag))
    (hfilled : tag ≠ "") (hprops : DenotesProps (entries.get? "props") props) :
    DenotesBinding (.map entries) (.wrapper (.wrapper (wrapIn tag props)))
  | element {entries : Entries Value} {spec node : Value} (hknown : entries.OnlyKeys ["element"])
    (hspec : entries.get? "element" = some spec) (helement : DenotesElement spec node) :
    DenotesBinding (.map entries) (.value node)

inductive DenotesEntry : Value × Value → String × Binding → Prop
  | mk {name : String} {spec : Value} {b : Binding} (hword : isWord name = true)
    (hbinding : DenotesBinding spec b) : DenotesEntry (.str name, spec) (name, b)

inductive DenotesBindings : Option Value → List (String × Binding) → Prop
  | absent : DenotesBindings none []
  | null : DenotesBindings (some .null) []
  | map {entries : Entries Value} {bindings : List (String × Binding)}
    (heach : List.Forall₂ DenotesEntry entries bindings) :
    DenotesBindings (some (.map entries)) bindings

/-- Names are a list of words; without one they are the usual ones. -/
inductive DenotesNames (usual : List String) : Option Value → List String → Prop
  | absent : DenotesNames usual none usual
  | list {names : List String} (hwords : ∀ name ∈ names, isWord name = true) :
    DenotesNames usual (some (.list (names.map .str))) names

inductive DenotesProfile : Value → Profile → Prop
  | map {entries : Entries Value} {names extra : List String} {bindings : List (String × Binding)}
    (hversion : entries.get? "version" = some (.str "1"))
    (hknown : entries.OnlyKeys ["version", "name", "void_names", "extra_void_names", "bindings"])
    (hnames : DenotesNames defaultVoidNames (entries.get? "void_names") names)
    (hextra : DenotesNames [] (entries.get? "extra_void_names") extra)
    (hbindings : DenotesBindings (entries.get? "bindings") bindings) :
    DenotesProfile (.map entries)
      ⟨⟨bindings.map fun b => (b.1, .binding b.2)⟩, (names ++ extra).eraseDups⟩

end Schema

end RichTemplate
