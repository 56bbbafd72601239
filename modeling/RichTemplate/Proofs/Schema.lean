import RichTemplate.Proofs.Grammar

/-!
# Readers and their rules

Each reader of a part of a profile meets the rule of that part: it is clean exactly where the rule
gives a meaning, and it is never without both a meaning and an issue. So no part is dropped in
silence, and no issue stands against a sound one, however deep it lies.
-/

namespace RichTemplate

namespace Reading

variable {α β : Type} {r : Reading α} {P Q : α → Prop}

/-- The reading is clean exactly where the rule gives a meaning, which it then has, and without a
meaning there is an issue. -/
structure Meets (r : Reading α) (P : α → Prop) : Prop where
  eq_ok_iff : ∀ a, r = ok a ↔ P a
  issues_ne_nil : r.value? = none → r.issues ≠ []

theorem Meets.congr (h : r.Meets P) (hPQ : ∀ a, P a ↔ Q a) : r.Meets Q :=
  ⟨fun a => (h.eq_ok_iff a).trans (hPQ a), h.issues_ne_nil⟩

theorem Meets.eq_ok (h : r.Meets P) (hnil : r.issues = []) : ∃ a, r = ok a ∧ P a := by
  cases hvalue : r.value? with
  | none => exact absurd hnil (h.issues_ne_nil hvalue)
  | some a =>
    have hr : r = ok a := by
      cases r
      simp_all [ok]
    exact ⟨a, hr, (h.eq_ok_iff a).mp hr⟩

theorem meets_ok {a : α} (hP : ∀ b, P b ↔ b = a) : (ok a).Meets P := by
  refine ⟨fun b => ?_, fun h => by cases h⟩
  rw [hP, ok, ok, Reading.mk.injEq, Option.some.injEq, and_iff_left rfl, eq_comm]

theorem meets_reject {fault : Fault} {path : String} (hP : ∀ a, ¬ P a) :
    (reject fault path).Meets P := by
  refine ⟨fun a => iff_of_false ?_ (hP a), fun _ => List.cons_ne_nil _ _⟩
  exact fun h => Option.some_ne_none a (congrArg value? h).symm

theorem after_eq_ok_iff {issues : List Issue} {a : α} :
    r.after issues = ok a ↔ issues = [] ∧ r = ok a := by
  cases r
  simp only [after, ok, Reading.mk.injEq, List.append_eq_nil_iff]
  tauto

theorem Meets.after (h : r.Meets P) (issues : List Issue) :
    (r.after issues).Meets fun a => issues = [] ∧ P a := by
  refine ⟨fun a => ?_, fun hnone => List.append_ne_nil_of_right_ne_nil _ (h.issues_ne_nil hnone)⟩
  rw [after_eq_ok_iff, h.eq_ok_iff]

theorem Meets.andThen {Q : α → β → Prop} {f : α → Reading β} (h : r.Meets P)
    (hf : ∀ a, (f a).Meets (Q a)) : (r.andThen f).Meets fun b => ∃ a, P a ∧ Q a b := by
  cases hvalue : r.value? with
  | none =>
    have heq : r.andThen f = ⟨none, r.issues⟩ := by rw [Reading.andThen, hvalue]
    rw [heq]
    refine ⟨fun b => iff_of_false
      (fun hok => Option.some_ne_none b (congrArg value? hok).symm) ?_,
        fun _ => h.issues_ne_nil hvalue⟩
    rintro ⟨a, ha, -⟩
    rw [(h.eq_ok_iff a).mpr ha] at hvalue
    cases hvalue
  | some a =>
    have heq : r.andThen f = (f a).after r.issues := by rw [Reading.andThen, hvalue]
    have hunique : ∀ a', P a' ↔ r.issues = [] ∧ a' = a := by
      intro a'
      rw [← h.eq_ok_iff]
      cases r
      simp_all [ok, eq_comm, and_comm]
    rw [heq]
    refine ((hf a).after r.issues).congr fun b => ?_
    constructor
    · rintro ⟨hnil, hb⟩
      exact ⟨a, (hunique a).mpr ⟨hnil, rfl⟩, hb⟩
    · rintro ⟨a', ha', hb⟩
      obtain ⟨hnil, rfl⟩ := (hunique a').mp ha'
      exact ⟨hnil, hb⟩

section Issues

variable {f : α → Reading β} {issues : List Issue} {i : Issue}

theorem mem_issues_after : i ∈ (r.after issues).issues ↔ i ∈ issues ∨ i ∈ r.issues :=
  List.mem_append

theorem mem_issues_andThen :
    i ∈ (r.andThen f).issues ↔ i ∈ r.issues ∨ ∃ a, r.value? = some a ∧ i ∈ (f a).issues := by
  rw [andThen]
  cases r.value? with
  | none => simp
  | some a => simp [mem_issues_after]

theorem issues_andThen_ok (r : Reading α) (g : α → β) :
    (r.andThen fun a => .ok (g a)).issues = r.issues := by
  rw [andThen]
  cases r.value? with
  | none => rfl
  | some a => exact List.append_nil _

end Issues

end Reading

namespace Schema

theorem unknownKeys_eq_nil_iff {known : List String} {entries : Entries Value} :
    unknownKeys known entries = [] ↔ entries.OnlyKeys known := by
  rw [unknownKeys, List.filter_eq_nil_iff, List.forall_mem_map]
  refine forall₂_congr fun e _ => ?_
  cases he : e.1 <;> simp

theorem unknownIssues_eq_nil_iff {fault : List Value → Fault} {path : String} {keys : List Value} :
    unknownIssues fault path keys = [] ↔ keys = [] := by
  cases keys <;> simp [unknownIssues]

theorem readProps_meets (path : String) (field : Option Value) :
    (readProps path (field.getD .null)).Meets (DenotesProps field) := by
  cases field with
  | none => exact Reading.meets_ok fun props => ⟨fun h => by cases h; rfl, fun h => h ▸ .absent⟩
  | some v =>
    cases v with
    | null => exact Reading.meets_ok fun props => ⟨fun h => by cases h; rfl, fun h => h ▸ .null⟩
    | map entries =>
      have htexts : ((entries.map (·.1)).filter fun key => !key.isText).isEmpty = true ↔
          ∀ e ∈ entries, e.1.isText = true := by
        rw [List.isEmpty_iff, List.filter_eq_nil_iff, List.forall_mem_map]
        simp
      rw [Option.getD_some, readProps]
      split
      next hnone =>
        refine Reading.meets_ok fun props => ⟨fun h => by cases h; rfl, ?_⟩
        rintro rfl
        exact .map (htexts.mp hnone)
      next hsome =>
        apply Reading.meets_reject
        rintro _ ⟨⟩
        next h => exact hsome (htexts.mpr h)
    | _ => exact Reading.meets_reject fun _ h => by cases h

theorem filledText?_eq_some_iff {field : Option Value} {tag : String} :
    filledText? field = some tag ↔ field = some (.str tag) ∧ tag ≠ "" := by
  rcases field with _ | v
  · simp [filledText?]
  · cases v <;> simp only [filledText?, reduceCtorEq, Option.some.injEq, false_and]
    next s =>
      rw [Value.str.injEq]
      split <;> simp_all [eq_comm]

def readChildrenField (path tag : String) (props : Entries Value) : Option Value → Reading Value
  | none => .ok (.element tag (.map props) (.list []))
  | some (.list items) =>
    (readChildren path 0 items).andThen fun built => .ok (.element tag (.map props) (.list built))
  | some v => .reject (refusal .childrenNotList v) (path ++ ".children")

def readTagged (path : String) (entries : Entries Value) : Option String → Reading Value
  | none => .reject .tagEmpty (path ++ ".tag")
  | some tag =>
    (readProps (path ++ ".props") ((entries.get? "props").getD .null)).andThen fun props =>
      readChildrenField path tag props (entries.get? "children")

theorem readElement_map (path : String) (entries : Entries Value) :
    readElement path (.map entries) =
      (readTagged path entries (filledText? (entries.get? "tag"))).after
        (unknownIssues .unknownElementFields path
          (unknownKeys ["tag", "props", "children"] entries)) := by
  rw [readElement]
  congr 1
  split
  next htag => rw [htag, readTagged]
  next tag htag =>
    rw [htag, readTagged]
    refine congrArg (Reading.andThen _) (funext fun props => ?_)
    split <;> simp_all [readChildrenField]

def DenotesBody (field : Option Value) (tag : String) (props : Entries Value) (node : Value) :
    Prop :=
  (field = none ∧ node = .element tag (.map props) (.list [])) ∨
    ∃ items children, field = some (.list items) ∧ DenotesChildren items children ∧
      node = .element tag (.map props) (.list children)

theorem readChildrenField_meets {path : String} (tag : String) (props : Entries Value)
    {field : Option Value} (hitems : ∀ items, field = some (.list items) →
      (readChildren path 0 items).Meets (DenotesChildren items)) :
    (readChildrenField path tag props field).Meets (DenotesBody field tag props) := by
  cases field with
  | none => exact Reading.meets_ok fun node => by simp [DenotesBody]
  | some v =>
    cases v with
    | list items =>
      refine ((hitems items rfl).andThen fun built => Reading.meets_ok fun _ => Iff.rfl).congr
        fun node => ?_
      simp [DenotesBody]
    | _ => exact Reading.meets_reject fun node => by simp [DenotesBody]

theorem denotesElement_map_iff {entries : Entries Value} {node : Value} :
    DenotesElement (.map entries) node ↔
      entries.OnlyKeys ["tag", "props", "children"] ∧
        ∃ tag, (entries.get? "tag" = some (.str tag) ∧ tag ≠ "") ∧
          ∃ props, DenotesProps (entries.get? "props") props ∧
            DenotesBody (entries.get? "children") tag props node := by
  constructor
  · intro h
    cases h with
    | leaf hhead hnone =>
      exact ⟨hhead.known, _, ⟨hhead.tag_eq, hhead.filled⟩, _, hhead.props, Or.inl ⟨hnone, rfl⟩⟩
    | node hhead hitems hchildren =>
      exact ⟨hhead.known, _, ⟨hhead.tag_eq, hhead.filled⟩, _, hhead.props,
        Or.inr ⟨_, _, hitems, hchildren, rfl⟩⟩
  · rintro ⟨hknown, tag, ⟨htag, hfilled⟩, props, hprops, hbody⟩
    obtain ⟨hnone, rfl⟩ | ⟨items, children, hitems, hchildren, rfl⟩ := hbody
    · exact .leaf ⟨hknown, htag, hfilled, hprops⟩ hnone
    · exact .node ⟨hknown, htag, hfilled, hprops⟩ hitems hchildren

theorem readElement_meets_of_children {path : String} {entries : Entries Value}
    (hitems : ∀ items, entries.get? "children" = some (.list items) →
      (readChildren path 0 items).Meets (DenotesChildren items)) :
    (readElement path (.map entries)).Meets (DenotesElement (.map entries)) := by
  have htagged : (readTagged path entries (filledText? (entries.get? "tag"))).Meets
      fun node => ∃ tag, (entries.get? "tag" = some (.str tag) ∧ tag ≠ "") ∧
        ∃ props, DenotesProps (entries.get? "props") props ∧
          DenotesBody (entries.get? "children") tag props node := by
    simp only [← filledText?_eq_some_iff]
    cases filledText? (entries.get? "tag") with
    | none => exact Reading.meets_reject fun node => by simp
    | some tag =>
      have hbody := (readProps_meets (path ++ ".props") (entries.get? "props")).andThen fun props =>
        readChildrenField_meets tag props hitems
      exact hbody.congr fun node => by simp
  rw [readElement_map]
  refine (htagged.after _).congr fun node => ?_
  rw [unknownIssues_eq_nil_iff, unknownKeys_eq_nil_iff, denotesElement_map_iff]

theorem readElement_meets_and_readChildren_meets :
    (∀ path spec, (readElement path spec).Meets (DenotesElement spec)) ∧
      ∀ path index items, (readChildren path index items).Meets (DenotesChildren items) := by
  apply readElement.mutual_induct
  case case1 =>
    intro path entries ih
    exact readElement_meets_of_children ih
  case case2 =>
    intro path spec hspec
    rw [readElement]
    · exact Reading.meets_reject fun node h => by cases h <;> exact hspec _ rfl
    · exact hspec
  case case3 =>
    intro path index
    rw [readChildren]
    exact Reading.meets_ok fun built => ⟨fun h => by cases h; rfl, fun h => h ▸ .nil⟩
  case case4 =>
    intro path index s rest ih
    rw [readChildren]
    refine (ih.andThen fun built => Reading.meets_ok fun _ => Iff.rfl).congr fun built => ?_
    constructor
    · rintro ⟨children, hrest, rfl⟩
      exact .text s hrest
    · intro h
      cases h with
      | text _ hrest => exact ⟨_, hrest, rfl⟩
      | element hfirst _ => cases hfirst
  case case5 =>
    intro path index child rest htext ihchild ihrest
    rw [readChildren]
    · refine (ihchild.andThen fun node => ihrest.andThen fun built =>
        Reading.meets_ok fun _ => Iff.rfl).congr fun built => ?_
      constructor
      · rintro ⟨node, hnode, children, hrest, rfl⟩
        exact .element hnode hrest
      · intro h
        cases h with
        | text s _ => exact absurd rfl (htext s)
        | element hfirst hrest => exact ⟨_, hfirst, _, hrest, rfl⟩
    · exact htext

theorem readElement_meets (path : String) (spec : Value) :
    (readElement path spec).Meets (DenotesElement spec) :=
  readElement_meets_and_readChildren_meets.1 path spec

theorem readWrap_meets (name path : String) (spec : Entries Value) :
    (readWrap name path spec).Meets fun b => spec.OnlyKeys ["wrap", "props"] ∧
      ∃ tag, (spec.get? "wrap" = some (.str tag) ∧ tag ≠ "") ∧
        ∃ props, DenotesProps (spec.get? "props") props ∧
          b = .wrapper (.wrapper (wrapIn tag props)) := by
  simp only [← filledText?_eq_some_iff, ← unknownKeys_eq_nil_iff]
  rw [readWrap]
  cases filledText? (spec.get? "wrap") with
  | none =>
    have hreject : (Reading.reject (.wrapEmpty name) (path ++ ".wrap") : Reading Binding).Meets
        fun _ => False := Reading.meets_reject fun _ => id
    exact (hreject.after _).congr fun b => by simp
  | some tag =>
    have hprops := (readProps_meets (path ++ ".props") (spec.get? "props")).andThen fun props =>
      Reading.meets_ok (a := Binding.wrapper (.wrapper (wrapIn tag props))) fun _ => Iff.rfl
    exact (hprops.after _).congr fun b => by simp [unknownIssues_eq_nil_iff]

theorem readNode_meets (name path : String) (spec : Entries Value) (element : Value) :
    (readNode name path spec element).Meets fun b => spec.OnlyKeys ["element"] ∧
      ∃ node, DenotesElement element node ∧ b = .value node := by
  have hnode := (readElement_meets (path ++ ".element") element).andThen fun node =>
    Reading.meets_ok (a := Binding.value node) fun _ => Iff.rfl
  refine (hnode.after _).congr fun b => ?_
  rw [unknownIssues_eq_nil_iff, unknownKeys_eq_nil_iff]

theorem denotesBinding_map_iff {spec : Entries Value} {b : Binding} :
    DenotesBinding (.map spec) b ↔
      (spec.OnlyKeys ["wrap", "props"] ∧ ∃ tag, (spec.get? "wrap" = some (.str tag) ∧ tag ≠ "") ∧
        ∃ props, DenotesProps (spec.get? "props") props ∧
          b = .wrapper (.wrapper (wrapIn tag props))) ∨
      ∃ element, spec.get? "element" = some element ∧ spec.OnlyKeys ["element"] ∧
        ∃ node, DenotesElement element node ∧ b = .value node := by
  constructor
  · intro h
    cases h with
    | wrap hknown htag hfilled hprops =>
      exact Or.inl ⟨hknown, _, ⟨htag, hfilled⟩, _, hprops, rfl⟩
    | element hknown hspec helement => exact Or.inr ⟨_, hspec, hknown, _, helement, rfl⟩
  · rintro (⟨hknown, tag, ⟨htag, hfilled⟩, props, hprops, rfl⟩ |
      ⟨element, hspec, hknown, node, helement, rfl⟩)
    · exact .wrap hknown htag hfilled hprops
    · exact .element hknown hspec helement

theorem readSpec_meets (name path : String) (spec : Value) :
    (readSpec name path spec).Meets (DenotesBinding spec) := by
  cases spec with
  | map entries =>
    rw [readSpec, Entries.has_eq_isSome]
    cases hwrap : Entries.get? entries "wrap" with
    | none =>
      cases helement : Entries.get? entries "element" with
      | none =>
        apply Reading.meets_reject
        intro b h
        cases h <;> simp_all
      | some element =>
        refine (readNode_meets name path entries element).congr fun b => ?_
        rw [denotesBinding_map_iff]
        simp [hwrap, helement]
    | some wrap =>
      cases helement : Entries.get? entries "element" with
      | none =>
        refine (readWrap_meets name path entries).congr fun b => ?_
        rw [denotesBinding_map_iff]
        simp [hwrap, helement]
      | some element =>
        apply Reading.meets_reject
        intro b h
        cases h with
        | wrap hknown _ _ _ => simp [hknown.get?_eq_none] at helement
        | element hknown _ _ => simp [hknown.get?_eq_none] at hwrap
  | _ => exact Reading.meets_reject fun b h => by cases h

theorem readBinding_meets (name spec : Value) :
    (readBinding name spec).Meets fun b => ∃ n, DenotesEntry (name, spec) (n, b) := by
  cases name with
  | str n =>
    rw [readBinding]
    split
    next hword =>
      refine (readSpec_meets n _ spec).congr fun b => ⟨fun h => ⟨n, .mk hword h⟩, ?_⟩
      rintro ⟨_, ⟨⟩⟩
      assumption
    next hword =>
      apply Reading.meets_reject
      rintro b ⟨_, ⟨⟩⟩
      exact hword ‹_›
  | _ =>
    exact Reading.meets_reject fun b h => by
      obtain ⟨n, h⟩ := h
      cases h

/-! ### Lists of parts -/

theorem readName_meets (place : String) (v : Value) :
    (readName place v).Meets fun name => v = .str name ∧ isWord name = true := by
  cases v with
  | str s =>
    rw [readName]
    split
    next hword =>
      apply Reading.meets_ok
      intro name
      constructor
      · rintro ⟨⟨⟩, -⟩
        rfl
      · rintro rfl
        exact ⟨rfl, hword⟩
    next hword =>
      apply Reading.meets_reject
      rintro name ⟨⟨⟩, hname⟩
      exact hword hname
  | _ => exact Reading.meets_reject fun name h => by cases h.1

theorem readNamesFrom_eq_iff {field : String} {index : Nat} {items : List Value}
    {names : List String} :
    readNamesFrom field index items = (names, []) ↔
      items = names.map .str ∧ ∀ name ∈ names, isWord name = true := by
  induction items generalizing index names with
  | nil => cases names <;> simp [readNamesFrom]
  | cons v items ih =>
    have hname := readName_meets (field ++ "[" ++ toString index ++ "]") v
    rw [readNamesFrom]
    constructor
    · intro h
      obtain ⟨hnames, hissues⟩ := Prod.mk.inj h
      obtain ⟨hfirst, hrest⟩ := List.append_eq_nil_iff.mp hissues
      obtain ⟨name, hok, rfl, hword⟩ := hname.eq_ok hfirst
      rw [hok] at hnames
      obtain ⟨hitems, hwords⟩ := ih.mp (Prod.ext rfl hrest)
      rw [← hnames]
      refine ⟨?_, List.forall_mem_cons.mpr ⟨hword, hwords⟩⟩
      simpa [Reading.ok] using hitems
    · rintro ⟨hitems, hwords⟩
      cases names with
      | nil => cases hitems
      | cons name names =>
        obtain ⟨hv, hrest⟩ := List.cons.inj hitems
        obtain ⟨hword, hwords⟩ := List.forall_mem_cons.mp hwords
        rw [(hname.eq_ok_iff name).mpr ⟨hv, hword⟩, ih.mpr ⟨hrest, hwords⟩]
        rfl

theorem readNames_eq_iff {field : String} {v : Value} {names : List String} :
    readNames field v = (names, []) ↔ DenotesNames [] (some v) names := by
  cases v with
  | list items =>
    rw [readNames, readNamesFrom_eq_iff]
    constructor
    · rintro ⟨rfl, hwords⟩
      exact .list hwords
    · rintro ⟨⟩
      exact ⟨rfl, ‹_›⟩
  | _ =>
    exact iff_of_false (fun h => List.cons_ne_nil _ _ (congrArg Prod.snd h)) fun h => by cases h

theorem readBindings_eq_iff {entries : Entries Value} {bindings : Entries Binding} :
    readBindings entries = (bindings, []) ↔
      ∃ bs, List.Forall₂ DenotesEntry entries bs ∧ bindings = bs.map fun b => (.str b.1, b.2) := by
  induction entries generalizing bindings with
  | nil => simp [readBindings, eq_comm]
  | cons e entries ih =>
    have hbinding := readBinding_meets e.1 e.2
    have hcons : readBindings (e :: entries) =
        (((readBinding e.1 e.2).value?.map fun b => (e.1, b)).toList ++ (readBindings entries).1,
          (readBinding e.1 e.2).issues ++ (readBindings entries).2) := by
      cases hvalue : (readBinding e.1 e.2).value? <;> simp [readBindings, hvalue]
    rw [hcons]
    constructor
    · intro h
      obtain ⟨hfirst, hrest⟩ := List.append_eq_nil_iff.mp (Prod.mk.inj h).2
      obtain ⟨b, hok, n, hentry⟩ := hbinding.eq_ok hfirst
      obtain ⟨bs, heach, heq⟩ := ih.mp (Prod.ext rfl hrest)
      refine ⟨(n, b) :: bs, .cons hentry heach, ?_⟩
      have hkey : e.1 = .str n := by cases e; cases hentry; rfl
      rw [← (Prod.mk.inj h).1, hok, hkey]
      exact congrArg (List.cons (.str n, b)) heq
    · rintro ⟨bs, heach, rfl⟩
      cases heach with
      | cons hentry heach =>
        next b bs =>
        have hkey : e.1 = .str b.1 := by cases e; cases hentry; rfl
        rw [(hbinding.eq_ok_iff b.2).mpr ⟨b.1, hentry⟩, ih.mpr ⟨bs, heach, rfl⟩, hkey]
        rfl

theorem readBindingsField_eq_iff {field : Option Value} {bindings : Entries Binding} :
    readBindingsField field = (bindings, []) ↔
      ∃ bs, DenotesBindings field bs ∧ bindings = bs.map fun b => (.str b.1, b.2) := by
  have hnone : (([], []) : Entries Binding × List Issue) = (bindings, []) ↔ bindings = [] := by
    simp [eq_comm]
  rcases field with _ | v
  · rw [readBindingsField, hnone]
    refine ⟨fun h => ⟨[], .absent, h⟩, ?_⟩
    rintro ⟨_, ⟨⟩, rfl⟩
    rfl
  · cases v with
    | null =>
      rw [readBindingsField, hnone]
      refine ⟨fun h => ⟨[], .null, h⟩, ?_⟩
      rintro ⟨_, ⟨⟩, rfl⟩
      rfl
    | map entries =>
      rw [readBindingsField, readBindings_eq_iff]
      constructor
      · rintro ⟨bs, heach, rfl⟩
        exact ⟨bs, .map heach, rfl⟩
      · rintro ⟨bs, ⟨⟩, rfl⟩
        exact ⟨bs, ‹_›, rfl⟩
    | _ =>
      refine iff_of_false (fun h => List.cons_ne_nil _ _ (congrArg Prod.snd h)) ?_
      rintro ⟨_, h, -⟩
      cases h

theorem versionIssues_eq_nil_iff {field : Option Value} :
    versionIssues field = [] ↔ field = some (.str "1") := by
  rcases field with _ | v
  · simp [versionIssues]
  · cases v <;> simp [versionIssues]

theorem fieldIssues_eq_nil_iff {entries : Entries Value} :
    fieldIssues entries = [] ↔ entries.OnlyKeys knownFields := by
  rw [fieldIssues, List.map_eq_nil_iff, unknownKeys_eq_nil_iff]

end Schema

namespace Profile

open Schema

def namesField (field : String) (usual : List String) : Option Value → List String × List Issue
  | some v => readNames field v
  | none => (usual, [])

theorem namesField_eq_iff {field : String} {usual names : List String} {v : Option Value} :
    namesField field usual v = (names, []) ↔ DenotesNames usual v names := by
  cases v with
  | none =>
    rw [namesField, Prod.mk.injEq, and_iff_left rfl]
    exact ⟨fun h => h ▸ .absent, fun h => by cases h; rfl⟩
  | some v =>
    refine readNames_eq_iff.trans ⟨?_, ?_⟩
    · rintro ⟨⟩
      exact .list ‹_›
    · rintro ⟨⟩
      exact .list ‹_›

theorem readVoidNames_eq (entries : Entries Value) :
    readVoidNames entries =
      let base := namesField "void_names" defaultVoidNames (entries.get? "void_names")
      let extra := namesField "extra_void_names" [] (entries.get? "extra_void_names")
      (base.1 ++ extra.1, base.2 ++ extra.2) := by
  unfold readVoidNames
  cases Entries.get? entries "void_names" <;> cases Entries.get? entries "extra_void_names" <;> rfl

theorem readVoidNames_eq_iff {entries : Entries Value} {all : List String} :
    readVoidNames entries = (all, []) ↔
      ∃ names extra, DenotesNames defaultVoidNames (entries.get? "void_names") names ∧
        DenotesNames [] (entries.get? "extra_void_names") extra ∧ all = names ++ extra := by
  rw [readVoidNames_eq]
  constructor
  · intro h
    obtain ⟨hall, hissues⟩ := Prod.mk.inj h
    obtain ⟨hnames, hextra⟩ := List.append_eq_nil_iff.mp hissues
    exact ⟨_, _, namesField_eq_iff.mp (Prod.ext rfl hnames),
      namesField_eq_iff.mp (Prod.ext rfl hextra), hall.symm⟩
  · rintro ⟨names, extra, hnames, hextra, rfl⟩
    rw [namesField_eq_iff.mpr hnames, namesField_eq_iff.mpr hextra]
    rfl

/-- A document without issues is one that denotes a profile. -/
theorem issues_map_eq_nil_iff {entries : Entries Value} :
    issues (.map entries) = [] ↔
      entries.get? "version" = some (.str "1") ∧ entries.OnlyKeys knownFields ∧
        (∃ all, readVoidNames entries = (all, [])) ∧
        ∃ bindings, readBindingsField (entries.get? "bindings") = (bindings, []) := by
  have hpair : ∀ {α β : Type} (p : α × List β), p.2 = [] ↔ ∃ a, p = (a, []) := by
    rintro α β ⟨a, bs⟩
    simp
  simp only [issues, List.append_eq_nil_iff, versionIssues_eq_nil_iff, fieldIssues_eq_nil_iff,
    hpair, and_assoc]

end Profile

end RichTemplate
