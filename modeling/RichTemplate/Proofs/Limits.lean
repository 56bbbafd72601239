import RichTemplate.Proofs.Schema

/-!
# Where reading is given up

Reading goes through a document unless an issue of it is met at a limit. Of a document that has an
end and holds no integer that is too long, every issue can be told, so such a document is read to
its end, however deep it nests.
-/

namespace RichTemplate

open Schema

section Limits

variable {fault : Fault}

theorem Fault.limit?_of_overlong (h : fault.spelled.any Value.isOverlong = true) :
    fault.limit? = some .overlong := by
  cases fault with
  | endless => cases h
  | _ => exact if_pos h

/-- A fault that cannot be told stands for what has no end, or spells an integer that is too
long. -/
theorem Fault.limit?_ne_none_iff : fault.limit? ≠ none ↔
    fault = .endless ∨ fault.spelled.any Value.isOverlong = true := by
  constructor
  · intro h
    by_contra hnot
    obtain ⟨hends, hshort⟩ := not_or.mp hnot
    have hnone :
        (if fault.spelled.any Value.isOverlong then some Limit.overlong else none) = none :=
      if_neg hshort
    cases fault with
    | endless => exact hends rfl
    | _ => exact h hnone
  · rintro (rfl | hlong)
    · exact Option.some_ne_none _
    · rw [limit?_of_overlong hlong]
      exact Option.some_ne_none _

end Limits

namespace Limit

theorem ofIssues?_eq_none_iff {issues : List Issue} :
    ofIssues? issues = none ↔ ∀ i ∈ issues, i.fault.limit? = none := by
  induction issues with
  | nil => simp [ofIssues?]
  | cons i issues ih =>
    rw [ofIssues?, List.forall_mem_cons, ← ih]
    cases i.fault.limit? <;> simp

/-- The issue at which reading is given up is the first that is met at a limit. -/
theorem exists_of_ofIssues? {issues : List Issue} {breach : Breach}
    (h : ofIssues? issues = some breach) :
    ∃ last rest, issues = breach.issues ++ last :: rest ∧
      last.fault.limit? = some breach.limit := by
  induction issues generalizing breach with
  | nil => cases h
  | cons i issues ih =>
    rw [ofIssues?] at h
    cases hi : i.fault.limit? with
    | some limit =>
      rw [hi] at h
      obtain rfl := Option.some.inj h
      exact ⟨i, issues, rfl, hi⟩
    | none =>
      rw [hi] at h
      obtain ⟨inner, hinner, rfl⟩ := Option.map_eq_some_iff.mp h
      obtain ⟨last, rest, heq, hlast⟩ := ih hinner
      exact ⟨last, rest, congrArg (i :: ·) heq, hlast⟩

theorem ofBindings?_eq_none_iff {bindings : Entries Value} :
    ofBindings? bindings = none ↔
      ∀ e ∈ bindings, ∀ i ∈ (readBinding e.1 e.2).issues, i.fault.limit? = none := by
  induction bindings with
  | nil => simp [ofBindings?]
  | cons e bindings ih =>
    obtain ⟨name, spec⟩ := e
    rw [ofBindings?, List.forall_mem_cons, ← ih, ← ofIssues?_eq_none_iff]
    cases ofIssues? (readBinding name spec).issues <;> simp

/-- No issue of the document is met at a limit: none would have to spell an integer that is too
long, and none stands for what has no end. -/
def Spares (document : Value) : Prop :=
  ∀ i ∈ Profile.issues document, i.fault.limit? = none

theorem limit?_of_mem_versionIssues {field : Option Value} {i : Issue}
    (h : i ∈ versionIssues field) : i.fault.limit? = none := by
  unfold versionIssues at h
  split at h
  case h_3 => split at h <;> simp_all [Fault.limit?, Fault.spelled]
  all_goals simp_all [Fault.limit?, Fault.spelled]

theorem limit?_of_mem_readNamesFrom {field : String} {index : Nat} {items : List Value} {i : Issue}
    (h : i ∈ (readNamesFrom field index items).2) : i.fault.limit? = none := by
  induction items generalizing index with
  | nil => simp [readNamesFrom] at h
  | cons v items ih =>
    rw [readNamesFrom, List.mem_append] at h
    rcases h with h | h
    · unfold readName at h
      split at h
      next => split at h <;> simp_all [Reading.ok, Reading.reject, Fault.limit?, Fault.spelled]
      next => simp_all [Reading.reject, Fault.limit?, Fault.spelled]
    · exact ih h

theorem limit?_of_mem_readVoidNames {entries : Entries Value} {i : Issue}
    (h : i ∈ (Profile.readVoidNames entries).2) : i.fault.limit? = none := by
  have hfield : ∀ {field : String} {usual : List String} {v : Option Value},
      i ∈ (Profile.namesField field usual v).2 → i.fault.limit? = none := by
    intro field usual v hmem
    rcases v with _ | v
    · exact absurd hmem List.not_mem_nil
    · cases v with
      | list items => exact limit?_of_mem_readNamesFrom hmem
      | _ =>
        obtain rfl := List.mem_singleton.mp hmem
        rfl
  rw [Profile.readVoidNames_eq] at h
  exact (List.mem_append.mp h).elim hfield hfield

theorem forall_mem_readBindings_iff {bindings : Entries Value} {P : Issue → Prop} :
    (∀ i ∈ (readBindings bindings).2, P i) ↔
      ∀ e ∈ bindings, ∀ i ∈ (readBinding e.1 e.2).issues, P i := by
  rw [readBindings, List.flatMap_map]
  simp only [List.mem_flatMap, forall_exists_index, and_imp]
  exact ⟨fun h e he i hi => h i e he hi, fun h i e he hi => h e he i hi⟩

/-- Of all that is looked at, only fields and bindings can bring reading to a limit. -/
theorem spares_map_iff {entries : Entries Value} :
    Spares (.map entries) ↔ ofIssues? (fieldIssues entries) = none ∧
      ∀ i ∈ (readBindingsField (entries.get? "bindings")).2, i.fault.limit? = none := by
  rw [Spares, Profile.issues, ofIssues?_eq_none_iff]
  simp only [List.mem_append]
  constructor
  · exact fun h => ⟨fun i hi => h i (Or.inl (Or.inl (Or.inr hi))), fun i hi => h i (Or.inr hi)⟩
  · rintro ⟨hfields, hbindings⟩ i (((hi | hi) | hi) | hi)
    · exact limit?_of_mem_versionIssues hi
    · exact hfields i hi
    · exact limit?_of_mem_readVoidNames hi
    · exact hbindings i hi

/-- Reading is given up exactly where a limit stands in the way. -/
theorem ofDocument?_eq_none_iff {document : Value} :
    ofDocument? document = none ↔ Spares document := by
  cases document with
  | map entries =>
    rw [spares_map_iff, ofDocument?]
    cases ofIssues? (fieldIssues entries) with
    | some breach => simp
    | none =>
      rw [and_iff_right rfl]
      rcases Entries.get? entries "bindings" with _ | v
      · simp [readBindingsField]
      · cases v with
        | map bindings =>
          rw [readBindingsField, forall_mem_readBindings_iff, ← ofBindings?_eq_none_iff]
          exact Option.map_eq_none_iff
        | _ => simp [readBindingsField, Fault.limit?, Fault.spelled]
  | _ =>
    refine iff_of_true rfl fun i hi => ?_
    obtain rfl := List.mem_singleton.mp hi
    rfl

end Limit

/-! ### Documents that keep within the limits -/

namespace Value

section Leaves

variable {p : Value → Bool}

theorem anyLeafOf_eq_false_iff {items : List Value} :
    anyLeafOf p items = false ↔ ∀ v ∈ items, v.anyLeaf p = false := by
  induction items with
  | nil => simp [anyLeafOf]
  | cons v items ih => rw [anyLeafOf, Bool.or_eq_false_iff, ih, List.forall_mem_cons]

theorem anyLeafIn_eq_false_iff {entries : Entries Value} :
    anyLeafIn p entries = false ↔
      ∀ e ∈ entries, e.1.anyLeaf p = false ∧ e.2.anyLeaf p = false := by
  induction entries with
  | nil => simp [anyLeafIn]
  | cons e entries ih =>
    rw [anyLeafIn, Bool.or_eq_false_iff, Bool.or_eq_false_iff, ih, List.forall_mem_cons]

end Leaves

def isEndless : Value → Bool :=
  anyLeaf fun leaf =>
    match leaf with
    | endless => true
    | _ => false

/-- A value has an end, and no integer in it is too long. -/
structure Moderate (v : Value) : Prop where
  short : v.isOverlong = false
  ends : v.isEndless = false

namespace Moderate

theorem list_iff {items : List Value} : (list items).Moderate ↔ ∀ v ∈ items, v.Moderate := by
  have hshort : (list items).isOverlong = false ↔ ∀ v ∈ items, v.isOverlong = false :=
    anyLeafOf_eq_false_iff
  have hends : (list items).isEndless = false ↔ ∀ v ∈ items, v.isEndless = false :=
    anyLeafOf_eq_false_iff
  constructor
  · exact fun h v hv => ⟨hshort.mp h.short v hv, hends.mp h.ends v hv⟩
  · exact fun h => ⟨hshort.mpr fun v hv => (h v hv).short, hends.mpr fun v hv => (h v hv).ends⟩

theorem map_iff {entries : Entries Value} :
    (map entries).Moderate ↔ ∀ e ∈ entries, e.1.Moderate ∧ e.2.Moderate := by
  have hshort : (map entries).isOverlong = false ↔
      ∀ e ∈ entries, e.1.isOverlong = false ∧ e.2.isOverlong = false := anyLeafIn_eq_false_iff
  have hends : (map entries).isEndless = false ↔
      ∀ e ∈ entries, e.1.isEndless = false ∧ e.2.isEndless = false := anyLeafIn_eq_false_iff
  constructor
  · intro h e he
    obtain ⟨hkey, hvalue⟩ := hshort.mp h.short e he
    obtain ⟨hkeyEnds, hvalueEnds⟩ := hends.mp h.ends e he
    exact ⟨⟨hkey, hkeyEnds⟩, hvalue, hvalueEnds⟩
  · intro h
    exact ⟨hshort.mpr fun e he => ⟨(h e he).1.short, (h e he).2.short⟩,
      hends.mpr fun e he => ⟨(h e he).1.ends, (h e he).2.ends⟩⟩

theorem ne_endless {v : Value} (h : v.Moderate) : v ≠ endless := by
  rintro rfl
  exact absurd h.ends (by decide)

variable {entries : Entries Value}

theorem of_get? (h : (map entries).Moderate) {key : String} {v : Value}
    (hget : entries.get? key = some v) : v.Moderate :=
  (map_iff.mp h _ (Entries.mem_of_get? hget)).2

/-- Keys of a map are short, however they are picked. -/
theorem any_isOverlong (h : (map entries).Moderate) (p : Value → Bool) :
    ((entries.map (·.1)).filter p).any isOverlong = false := by
  rw [List.any_eq_false]
  intro key hkey
  obtain ⟨e, he, rfl⟩ := List.mem_map.mp (List.mem_of_mem_filter hkey)
  rw [(map_iff.mp h e he).1.short]
  exact Bool.false_ne_true

end Moderate

end Value

namespace Schema

variable {path : String} {entries : Entries Value} {i : Issue}

theorem limit?_refusal {fault : Fault} (hfault : fault.limit? = none) {v : Value}
    (hv : v ≠ .endless) : (refusal fault v).limit? = none := by
  cases v with
  | endless => exact absurd rfl hv
  | _ => exact hfault

theorem limit?_of_mem_unknownIssues (h : (Value.map entries).Moderate) {known : List String}
    {fault : List Value → Fault} (hspelled : ∀ keys, keys.any Value.isOverlong = false →
      (fault keys).limit? = none)
    (hi : i ∈ unknownIssues fault path (unknownKeys known entries)) : i.fault.limit? = none := by
  rw [unknownIssues] at hi
  split at hi
  next => cases hi
  next =>
    obtain rfl := List.mem_singleton.mp hi
    exact hspelled _ (h.any_isOverlong _)

theorem limit?_of_mem_readProps {props : Value} (h : props.Moderate)
    (hi : i ∈ (readProps path props).issues) : i.fault.limit? = none := by
  unfold readProps at hi
  split at hi
  next => cases hi
  next entries =>
    dsimp only at hi
    split at hi
    next => cases hi
    next =>
      obtain rfl := List.mem_singleton.mp hi
      simp [Fault.limit?, Fault.spelled, h.any_isOverlong]
  next =>
    obtain rfl := List.mem_singleton.mp hi
    exact limit?_refusal rfl h.ne_endless

theorem limit?_of_mem_readProps_field (h : (Value.map entries).Moderate)
    (hi : i ∈ (readProps path ((entries.get? "props").getD .null)).issues) :
    i.fault.limit? = none := by
  cases hget : entries.get? "props" with
  | none =>
    rw [hget] at hi
    cases hi
  | some props =>
    rw [hget] at hi
    exact limit?_of_mem_readProps (h.of_get? hget) hi

theorem limit?_of_mem_readElement_and_readChildren :
    (∀ path spec, spec.Moderate → ∀ i ∈ (readElement path spec).issues, i.fault.limit? = none) ∧
      ∀ path index items, (∀ v ∈ items, v.Moderate) →
        ∀ i ∈ (readChildren path index items).issues, i.fault.limit? = none := by
  apply readElement.mutual_induct
  case case1 =>
    intro path entries ih h i hi
    rw [readElement_map, Reading.mem_issues_after] at hi
    obtain hi | hi := hi
    · exact limit?_of_mem_unknownIssues h (fun keys hkeys => by
        simp [Fault.limit?, Fault.spelled, hkeys]) hi
    cases htag : filledText? (Entries.get? entries "tag") with
    | none =>
      rw [htag] at hi
      obtain rfl := List.mem_singleton.mp hi
      rfl
    | some tag =>
      rw [htag, readTagged] at hi
      obtain hi | ⟨props, -, hi⟩ := Reading.mem_issues_andThen.mp hi
      · exact limit?_of_mem_readProps_field h hi
      · unfold readChildrenField at hi
        split at hi
        next => cases hi
        next items hitems =>
          rw [Reading.issues_andThen_ok] at hi
          exact ih items hitems (Value.Moderate.list_iff.mp (h.of_get? hitems)) i hi
        next v _ hget =>
          obtain rfl := List.mem_singleton.mp hi
          exact limit?_refusal rfl (h.of_get? hget).ne_endless
  case case2 =>
    intro path spec hspec h i hi
    rw [readElement] at hi
    · obtain rfl := List.mem_singleton.mp hi
      exact limit?_refusal rfl h.ne_endless
    · exact hspec
  case case3 =>
    intro path index h i hi
    rw [readChildren] at hi
    cases hi
  case case4 =>
    intro path index s rest ih h i hi
    rw [readChildren, Reading.issues_andThen_ok] at hi
    exact ih (List.forall_mem_cons.mp h).2 i hi
  case case5 =>
    intro path index child rest htext ihchild ihrest h i hi
    obtain ⟨hchild, hrest⟩ := List.forall_mem_cons.mp h
    rw [readChildren] at hi
    · obtain hi | ⟨node, -, hi⟩ := Reading.mem_issues_andThen.mp hi
      · exact ihchild hchild i hi
      · rw [Reading.issues_andThen_ok] at hi
        exact ihrest hrest i hi
    · exact htext

theorem limit?_of_mem_readSpec {name : String} {spec : Value} (h : spec.Moderate)
    (hi : i ∈ (readSpec name path spec).issues) : i.fault.limit? = none := by
  have hunknown : ∀ keys : List Value, keys.any Value.isOverlong = false →
      (Fault.unknownBindingFields name keys).limit? = none := fun keys hkeys => by
    simp [Fault.limit?, Fault.spelled, hkeys]
  unfold readSpec at hi
  split at hi
  next entries =>
    split at hi
    next =>
      obtain rfl := List.mem_singleton.mp hi
      rfl
    next =>
      obtain hi | hi := Reading.mem_issues_after.mp hi
      · exact limit?_of_mem_unknownIssues h hunknown hi
      split at hi
      next =>
        obtain rfl := List.mem_singleton.mp hi
        rfl
      next =>
        rw [Reading.issues_andThen_ok] at hi
        exact limit?_of_mem_readProps_field h hi
    next element helement =>
      obtain hi | hi := Reading.mem_issues_after.mp hi
      · exact limit?_of_mem_unknownIssues h hunknown hi
      rw [Reading.issues_andThen_ok] at hi
      exact limit?_of_mem_readElement_and_readChildren.1 _ _ (h.of_get? helement) i hi
    next =>
      obtain rfl := List.mem_singleton.mp hi
      rfl
  next =>
    obtain rfl := List.mem_singleton.mp hi
    rfl

theorem limit?_of_mem_readBinding {name spec : Value} (hname : name.Moderate)
    (hspec : spec.Moderate) (hi : i ∈ (readBinding name spec).issues) :
    i.fault.limit? = none := by
  unfold readBinding at hi
  dsimp only at hi
  split at hi
  next =>
    split at hi
    next => exact limit?_of_mem_readSpec hspec hi
    next =>
      obtain rfl := List.mem_singleton.mp hi
      rfl
  next =>
    obtain rfl := List.mem_singleton.mp hi
    simp [Fault.limit?, Fault.spelled, hname.short]

end Schema

/-- A document that has an end and holds no integer that is too long is read to its end. -/
theorem Value.Moderate.spares {document : Value} (h : document.Moderate) :
    Limit.Spares document := by
  cases document with
  | map entries =>
    refine Limit.spares_map_iff.mpr ⟨Limit.ofIssues?_eq_none_iff.mpr fun i hi => ?_, fun i hi => ?_⟩
    · obtain ⟨key, hkey, rfl⟩ := List.mem_map.mp hi
      obtain ⟨e, he, rfl⟩ := List.mem_map.mp (List.mem_of_mem_filter hkey)
      simp [Fault.limit?, Fault.spelled, (Value.Moderate.map_iff.mp h e he).1.short]
    · cases hfield : Entries.get? entries "bindings" with
      | none =>
        rw [hfield] at hi
        cases hi
      | some v =>
        have hv := h.of_get? hfield
        rw [hfield] at hi
        cases v with
        | map bindings =>
          have hall : ∀ i ∈ (readBindings bindings).2, i.fault.limit? = none :=
            Limit.forall_mem_readBindings_iff.mpr fun e he i hi =>
              limit?_of_mem_readBinding (Value.Moderate.map_iff.mp hv e he).1
                (Value.Moderate.map_iff.mp hv e he).2 hi
          exact hall i hi
        | null => cases hi
        | _ =>
          obtain rfl := List.mem_singleton.mp hi
          rfl
  | _ =>
    intro i hi
    obtain rfl := List.mem_singleton.mp hi
    rfl

end RichTemplate
