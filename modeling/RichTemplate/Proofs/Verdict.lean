import RichTemplate.Proofs.Acceptance

/-!
# Verdicts part by part

What loading says of a document is what it says of the parts of the document, each in a document of
its own, one after the other. No part hides what is wrong with another: only where reading is given
up at a part, the parts behind it are not looked at.
-/

namespace RichTemplate

open Schema

/-- What is said of a document: the issues found in it, and the limit that reading it was given up
at, if it was. -/
structure Verdict where
  issues : List Issue
  limit? : Option Limit

namespace Verdict

def clean : Verdict := ⟨[], none⟩

/-- One verdict and then another; nothing comes behind one at which reading was given up. -/
def andThen (v w : Verdict) : Verdict :=
  match v.limit? with
  | some _ => v
  | none => ⟨v.issues ++ w.issues, w.limit?⟩

def inTurn (vs : List Verdict) : Verdict :=
  vs.foldr andThen clean

variable {v w : Verdict} {vs : List Verdict} {issues : List Issue}

theorem clean_andThen (v : Verdict) : clean.andThen v = v := rfl

theorem andThen_of_none (h : v.limit? = none) (w : Verdict) :
    v.andThen w = ⟨v.issues ++ w.issues, w.limit?⟩ := by
  rw [andThen, h]

theorem andThen_of_some {l : Limit} (h : v.limit? = some l) (w : Verdict) : v.andThen w = v := by
  rw [andThen, h]

theorem andThen_clean (v : Verdict) : v.andThen clean = v := by
  obtain ⟨issues, _ | l⟩ := v
  · rw [andThen_of_none rfl]
    exact congrArg (Verdict.mk · none) (List.append_nil issues)
  · exact andThen_of_some rfl clean

theorem andThen_assoc (u v w : Verdict) : (u.andThen v).andThen w = u.andThen (v.andThen w) := by
  obtain ⟨us, _ | l⟩ := u
  · obtain ⟨vs, _ | l⟩ := v
    · simp only [andThen, List.append_assoc]
    · rfl
  · rfl

theorem inTurn_cons (v : Verdict) (vs : List Verdict) : inTurn (v :: vs) = v.andThen (inTurn vs) :=
  rfl

theorem inTurn_singleton (v : Verdict) : inTurn [v] = v :=
  andThen_clean v

theorem inTurn_append (vs ws : List Verdict) :
    inTurn (vs ++ ws) = (inTurn vs).andThen (inTurn ws) := by
  induction vs with
  | nil => exact (clean_andThen _).symm
  | cons v vs ih => rw [List.cons_append, inTurn_cons, ih, inTurn_cons, andThen_assoc]

theorem limit?_inTurn_eq_none_iff : (inTurn vs).limit? = none ↔ ∀ v ∈ vs, v.limit? = none := by
  induction vs with
  | nil => simp [inTurn, clean]
  | cons v vs ih =>
    rw [inTurn_cons, List.forall_mem_cons, ← ih]
    cases h : v.limit? with
    | none => rw [andThen_of_none h, and_iff_right rfl]
    | some l => simp [andThen_of_some h, h]

theorem issues_inTurn (h : ∀ v ∈ vs, v.limit? = none) :
    (inTurn vs).issues = vs.flatMap Verdict.issues := by
  induction vs with
  | nil => rfl
  | cons v vs ih =>
    obtain ⟨hv, hvs⟩ := List.forall_mem_cons.mp h
    rw [inTurn_cons, andThen_of_none hv, List.flatMap_cons, ← ih hvs]

def ofBreach (breach? : Option Limit.Breach) (issues : List Issue) : Verdict :=
  match breach? with
  | some breach => ⟨breach.issues, some breach.limit⟩
  | none => ⟨issues, none⟩

def ofIssues (issues : List Issue) : Verdict :=
  ofBreach (Limit.ofIssues? issues) issues

def ofBinding (name spec : Value) : Verdict :=
  ofIssues (readBinding name spec).issues

/-- Verdicts follow one another where what is found in front is put in front. -/
theorem ofBreach_map_after (front issues : List Issue) (bindings : List (Value × Value))
    (breach? : Option Limit.Breach) :
    ofBreach (breach?.map (Limit.Breach.after front bindings)) (front ++ issues)
      = andThen ⟨front, none⟩ (ofBreach breach? issues) := by
  cases breach? <;> rfl

theorem ofIssues_of_spared (h : ∀ i ∈ issues, i.fault.limit? = none) :
    ofIssues issues = ⟨issues, none⟩ := by
  rw [ofIssues, Limit.ofIssues?_eq_none_iff.mpr h, ofBreach]

theorem limit?_ofIssues_eq_none_iff :
    (ofIssues issues).limit? = none ↔ ∀ i ∈ issues, i.fault.limit? = none := by
  rw [ofIssues, ← Limit.ofIssues?_eq_none_iff]
  cases Limit.ofIssues? issues <;> simp [ofBreach]

theorem ofIssues_cons (i : Issue) (issues : List Issue) :
    ofIssues (i :: issues) = (ofIssues [i]).andThen (ofIssues issues) := by
  cases hi : i.fault.limit? with
  | some limit => simp [ofIssues, Limit.ofIssues?, hi, ofBreach, andThen]
  | none =>
    have hfirst : ofIssues [i] = ⟨[i], none⟩ := ofIssues_of_spared (by simpa using hi)
    have hmap : Limit.ofIssues? (i :: issues)
        = (Limit.ofIssues? issues).map (Limit.Breach.after [i] []) := by
      rw [Limit.ofIssues?, hi]
    rw [hfirst, ofIssues, hmap]
    exact ofBreach_map_after [i] issues [] _

theorem ofIssues_eq_inTurn (issues : List Issue) :
    ofIssues issues = inTurn (issues.map fun i => ofIssues [i]) := by
  induction issues with
  | nil => rfl
  | cons i issues ih => rw [ofIssues_cons, ih, List.map_cons, inTurn_cons]

theorem ofBreach_bindings (bindings : Entries Value) :
    ofBreach (Limit.ofBindings? bindings) (readBindings bindings).2
      = inTurn (bindings.map fun e => ofBinding e.1 e.2) := by
  induction bindings with
  | nil => rfl
  | cons e bindings ih =>
    obtain ⟨name, spec⟩ := e
    have hissues : (readBindings ((name, spec) :: bindings)).2
        = (readBinding name spec).issues ++ (readBindings bindings).2 := by
      simp [readBindings]
    rw [List.map_cons, inTurn_cons, ← ih, Limit.ofBindings?, hissues, ofBinding, ofIssues]
    cases Limit.ofIssues? (readBinding name spec).issues with
    | some breach => rfl
    | none => exact ofBreach_map_after _ _ _ _

end Verdict

def ProfileError.limit? : ProfileError → Option Limit
  | limit l _ => some l
  | _ => none

namespace Profile

variable {entries : Entries Value}

def verdict (document : Value) : Verdict :=
  match (loadData document).result with
  | .ok _ => .clean
  | .error e => ⟨e.issues, e.limit?⟩

theorem verdict_eq (document : Value) :
    verdict document = .ofBreach (Limit.ofDocument? document) (issues document) := by
  unfold verdict loadData
  cases Limit.ofDocument? document with
  | some breach => rfl
  | none =>
    unfold ofValue
    dsimp only
    cases issues document with
    | nil => cases (registration document).result <;> rfl
    | cons i is => rfl

def MapsBindings (entries : Entries Value) : Prop :=
  ∀ v, entries.get? "bindings" = some v → v = .null ∨ ∃ bindings, v = .map bindings

/-- What is said of a document is said of its version, its fields, its names and its bindings, in
this order. -/
theorem verdict_map (h : MapsBindings entries) :
    verdict (.map entries) = .inTurn [⟨versionIssues (entries.get? "version"), none⟩,
      .ofIssues (fieldIssues entries), ⟨(readVoidNames entries).2, none⟩,
      .inTurn ((bindingsOf (.map entries)).map fun e => .ofBinding e.1 e.2)] := by
  rw [verdict_eq, Limit.ofDocument?, issues, Verdict.ofIssues, Verdict.inTurn_cons,
    Verdict.inTurn_cons, Verdict.inTurn_cons, Verdict.inTurn_singleton]
  cases Limit.ofIssues? (fieldIssues entries) with
  | some breach => rfl
  | none =>
    simp only [bindingsOf]
    cases hfield : Entries.get? entries "bindings" with
    | none => simp [readBindingsField, Verdict.ofBreach, Verdict.andThen, Verdict.inTurn,
        Verdict.clean]
    | some v =>
      rcases h v hfield with rfl | ⟨bindings, rfl⟩
      · simp [readBindingsField, Verdict.ofBreach, Verdict.andThen, Verdict.inTurn, Verdict.clean]
      · rw [← Verdict.ofBreach_bindings, readBindingsField, Verdict.ofBreach_map_after]
        simp [Verdict.ofBreach, Verdict.andThen]

end Profile

/-! ### Parts -/

namespace Schema

def alone (key v : Value) : Entries Value :=
  [(.str "version", .str "1"), (key, v)]

def unknownFields (entries : Entries Value) : Entries Value :=
  entries.filter fun e => e.1.text?.all fun key => !knownFields.contains key

def fieldAlone (entries : Entries Value) (field : String) : List Value :=
  (entries.get? field).toList.map fun v => .map (alone (.str field) v)

def parts (entries : Entries Value) : List Value :=
  .map ((entries.get? "version").toList.map fun v => (.str "version", v)) ::
    ((unknownFields entries).map fun e => .map (alone e.1 e.2)) ++
    fieldAlone entries "void_names" ++ fieldAlone entries "extra_void_names" ++
    (bindingsOf (.map entries)).map fun e => .map (alone (.str "bindings") (.map [e]))

theorem unknownKeys_eq (entries : Entries Value) :
    unknownKeys knownFields entries = (unknownFields entries).map (·.1) := by
  rw [unknownKeys, unknownFields, List.filter_map]
  congr 1
  refine List.filter_congr fun e _ => ?_
  cases h : e.1 <;> simp [Function.comp, Value.text?, h]

end Schema

namespace Profile

theorem mapsBindings_of_none {entries : Entries Value} (h : entries.get? "bindings" = none) :
    MapsBindings entries := by
  intro v hv
  rw [h] at hv
  cases hv

theorem bindingsOf_of_none {entries : Entries Value} (h : entries.get? "bindings" = none) :
    bindingsOf (.map entries) = [] := by
  rw [bindingsOf, h]

theorem readVoidNames_of_none {entries : Entries Value} (hnames : entries.get? "void_names" = none)
    (hextra : entries.get? "extra_void_names" = none) : (readVoidNames entries).2 = [] := by
  rw [readVoidNames_eq, hnames, hextra]
  rfl

theorem verdict_version (field : Option Value) :
    verdict (.map (field.toList.map fun v => (.str "version", v)))
      = ⟨versionIssues field, none⟩ := by
  cases field with
  | none =>
    rw [Option.toList_none, List.map_nil, verdict_map (mapsBindings_of_none rfl)]
    rfl
  | some v =>
    have hother : ∀ key : String, key ≠ "version" →
        Entries.get? [(Value.str "version", v)] key = none := fun key hkey =>
      Entries.get?_cons_of_ne (fun heq => hkey (Value.str.inj heq).symm) v []
    rw [Option.toList_some, List.map_singleton,
      verdict_map (mapsBindings_of_none (hother _ (by decide))), Entries.get?_cons_self,
      readVoidNames_of_none (hother _ (by decide)) (hother _ (by decide)),
      bindingsOf_of_none (hother _ (by decide))]
    exact Verdict.andThen_clean ⟨versionIssues (some v), none⟩

variable {key v : Value}

theorem get?_alone_self {field : String} (hversion : "version" ≠ field) :
    (alone (.str field) v).get? field = some v := by
  rw [alone, Entries.get?_cons_of_ne fun heq => hversion (Value.str.inj heq),
    Entries.get?_cons_self]

theorem get?_alone_of_ne {other : String} (h : key ≠ .str other) (hversion : "version" ≠ other) :
    (alone key v).get? other = none := by
  rw [alone, Entries.get?_cons_of_ne fun heq => hversion (Value.str.inj heq),
    Entries.get?_cons_of_ne h]
  rfl

theorem verdict_alone (h : MapsBindings (alone key v)) :
    verdict (.map (alone key v)) = .inTurn [.ofIssues (fieldIssues [(key, v)]),
      ⟨(readVoidNames (alone key v)).2, none⟩,
      .inTurn ((bindingsOf (.map (alone key v))).map fun e => .ofBinding e.1 e.2)] :=
  verdict_map h

theorem verdict_unknownField (h : ∀ known ∈ knownFields, key ≠ .str known) :
    verdict (.map (alone key v)) = .ofIssues [⟨.unknownField key, key.plainText⟩] := by
  have hget : ∀ known ∈ knownFields, "version" ≠ known → (alone key v).get? known = none :=
    fun known hknown hversion => get?_alone_of_ne (h known hknown) hversion
  have hbindings := hget "bindings" (by decide) (by decide)
  have hfields : fieldIssues [(key, v)] = [⟨.unknownField key, key.plainText⟩] := by
    have hkeys : unknownKeys knownFields [(key, v)] = [key] := by
      cases key with
      | str s =>
        have hs : s ∉ knownFields := fun hmem => h s hmem rfl
        simp [unknownKeys, hs]
      | _ => rfl
    rw [fieldIssues, hkeys, List.map_singleton]
  rw [verdict_alone (mapsBindings_of_none hbindings), hfields,
    readVoidNames_of_none (hget _ (by decide) (by decide)) (hget _ (by decide) (by decide)),
    bindingsOf_of_none hbindings]
  exact Verdict.andThen_clean _

theorem verdict_knownField {field : String} (hknown : field ∈ knownFields)
    (h : MapsBindings (alone (.str field) v)) :
    verdict (.map (alone (.str field) v)) =
      .inTurn [⟨(readVoidNames (alone (.str field) v)).2, none⟩,
        .inTurn ((bindingsOf (.map (alone (.str field) v))).map fun e => .ofBinding e.1 e.2)] := by
  have hfields : fieldIssues [(.str field, v)] = [] := by
    simp [fieldIssues, unknownKeys, hknown]
  rw [verdict_alone h, hfields]
  rfl

/-- Names are read alike whichever of the two fields gives them. -/
theorem verdict_names {field : String} (h : field = "void_names" ∨ field = "extra_void_names") :
    verdict (.map (alone (.str field) v)) = ⟨(readNames field v).2, none⟩ := by
  have hother : ∀ other, other ≠ field → "version" ≠ other →
      (alone (.str field) v).get? other = none :=
    fun other hne hversion => get?_alone_of_ne (fun heq => hne (Value.str.inj heq).symm) hversion
  have hbindings : (alone (.str field) v).get? "bindings" = none :=
    hother "bindings" (by rcases h with rfl | rfl <;> decide) (by decide)
  have hnames : (readVoidNames (alone (.str field) v)).2 = (readNames field v).2 := by
    rw [readVoidNames_eq]
    rcases h with rfl | rfl
    · rw [get?_alone_self (by decide), hother _ (by decide) (by decide)]
      exact List.append_nil _
    · rw [get?_alone_self (by decide), hother _ (by decide) (by decide)]
      exact List.nil_append _
  rw [verdict_knownField (by rcases h with rfl | rfl <;> decide) (mapsBindings_of_none hbindings),
    bindingsOf_of_none hbindings, hnames]
  exact Verdict.andThen_clean ⟨(readNames field v).2, none⟩

theorem verdict_binding (name spec : Value) :
    verdict (.map (alone (.str "bindings") (.map [(name, spec)]))) = .ofBinding name spec := by
  have hget : (alone (.str "bindings") (.map [(name, spec)])).get? "bindings"
      = some (.map [(name, spec)]) := get?_alone_self (by decide)
  have hmaps : MapsBindings (alone (.str "bindings") (.map [(name, spec)])) :=
    fun v hv => Or.inr ⟨_, Option.some.inj (hv.symm.trans hget)⟩
  rw [verdict_knownField (by decide) hmaps, bindingsOf, hget,
    readVoidNames_of_none (get?_alone_of_ne (by simp) (by decide))
      (get?_alone_of_ne (by simp) (by decide))]
  exact (Verdict.inTurn_singleton _).trans (Verdict.inTurn_singleton (.ofBinding name spec))

theorem inTurn_fieldAlone {field : String} (h : field = "void_names" ∨ field = "extra_void_names")
    (usual : List String) (entries : Entries Value) :
    Verdict.inTurn ((fieldAlone entries field).map verdict)
      = ⟨(namesField field usual (entries.get? field)).2, none⟩ := by
  rw [fieldAlone, List.map_map]
  cases entries.get? field with
  | none => rfl
  | some v =>
    rw [Option.toList_some, List.map_singleton, Verdict.inTurn_singleton, Function.comp_apply,
      verdict_names h, namesField]

theorem verdict_of_mem_unknownFields {entries : Entries Value} {e : Value × Value}
    (he : e ∈ unknownFields entries) :
    verdict (.map (alone e.1 e.2)) = .ofIssues [⟨.unknownField e.1, e.1.plainText⟩] := by
  refine verdict_unknownField fun known hknown heq => ?_
  have hunknown := (List.mem_filter.mp he).2
  simp [heq, Value.text?, hknown] at hunknown

theorem inTurn_unknownFields (entries : Entries Value) :
    Verdict.inTurn (((unknownFields entries).map fun e => .map (alone e.1 e.2)).map verdict)
      = .ofIssues (fieldIssues entries) := by
  rw [fieldIssues, unknownKeys_eq, Verdict.ofIssues_eq_inTurn, List.map_map, List.map_map,
    List.map_map]
  exact congrArg _ (List.map_congr_left fun e he => verdict_of_mem_unknownFields he)

theorem inTurn_parts (entries : Entries Value) :
    Verdict.inTurn ((parts entries).map verdict) =
      .inTurn [⟨versionIssues (entries.get? "version"), none⟩, .ofIssues (fieldIssues entries),
        ⟨(readVoidNames entries).2, none⟩,
        .inTurn ((bindingsOf (.map entries)).map fun e => .ofBinding e.1 e.2)] := by
  have hbindings : ((bindingsOf (.map entries)).map fun e =>
      Value.map (alone (.str "bindings") (.map [e]))).map verdict
        = (bindingsOf (.map entries)).map fun e => .ofBinding e.1 e.2 := by
    rw [List.map_map]
    exact List.map_congr_left fun e _ => verdict_binding e.1 e.2
  -- both fields of names are read whatever is wrong with the first
  have hnames : Verdict.mk (readVoidNames entries).2 none
      = .andThen ⟨(namesField "void_names" defaultVoidNames (entries.get? "void_names")).2, none⟩
        ⟨(namesField "extra_void_names" [] (entries.get? "extra_void_names")).2, none⟩ := by
    rw [readVoidNames_eq]
    rfl
  rw [parts, List.map_append, List.map_append, List.map_append, List.map_cons, verdict_version,
    hbindings, Verdict.inTurn_append, Verdict.inTurn_append, Verdict.inTurn_append,
    Verdict.inTurn_cons, inTurn_unknownFields, inTurn_fieldAlone (Or.inl rfl) defaultVoidNames,
    inTurn_fieldAlone (Or.inr rfl) [], hnames]
  simp only [Verdict.inTurn_cons _ (_ :: _), Verdict.inTurn_singleton, Verdict.andThen_assoc]

end Profile

/-! ### What has been read is registered

A binding that has issues may still be read. Whatever is read can be registered, so no registration
is refused while issues are found. -/

section Readings

variable {α β : Type} {r : Reading α}

theorem Reading.value?_after (issues : List Issue) : (r.after issues).value? = r.value? := rfl

theorem Reading.value?_andThen (f : α → Reading β) :
    (r.andThen f).value? = r.value?.bind fun a => (f a).value? := by
  rw [andThen]
  cases r.value? <;> rfl

theorem Reading.value?_reject (fault : Fault) (path : String) :
    (reject fault path : Reading α).value? = none := rfl

end Readings

namespace Schema

variable {name path n : String} {spec : Value} {entries : Entries Value} {b : Binding}

theorem isNull_of_readChildrenField {tag : String} {props : Entries Value} {field : Option Value}
    {node : Value} (h : (readChildrenField path tag props field).value? = some node) :
    node.isNull = false := by
  unfold readChildrenField at h
  split at h
  next =>
    obtain rfl := Option.some.inj h
    rfl
  next =>
    rw [Reading.value?_andThen, Option.bind_eq_some_iff] at h
    obtain ⟨built, -, hnode⟩ := h
    obtain rfl := Option.some.inj hnode
    rfl
  next => cases h

theorem isNull_of_readElement {node : Value} (h : (readElement path spec).value? = some node) :
    node.isNull = false := by
  cases spec with
  | map entries =>
    rw [readElement_map, Reading.value?_after] at h
    cases htag : filledText? (Entries.get? entries "tag") with
    | none =>
      rw [htag] at h
      cases h
    | some tag =>
      rw [htag, readTagged, Reading.value?_andThen, Option.bind_eq_some_iff] at h
      obtain ⟨props, -, hfield⟩ := h
      exact isNull_of_readChildrenField hfield
  | _ => simp [readElement, Reading.value?_reject] at h

theorem problems_of_readWrap (h : (readWrap n path entries).value? = some b) : b.problems = [] := by
  rw [readWrap, Reading.value?_after] at h
  split at h
  next => cases h
  next =>
    rw [Reading.value?_andThen, Option.bind_eq_some_iff] at h
    obtain ⟨props, -, hb⟩ := h
    obtain rfl := Option.some.inj hb
    rfl

theorem problems_of_readNode {element : Value}
    (h : (readNode n path entries element).value? = some b) : b.problems = [] := by
  rw [readNode, Reading.value?_after, Reading.value?_andThen, Option.bind_eq_some_iff] at h
  obtain ⟨node, hnode, hb⟩ := h
  obtain rfl := Option.some.inj hb
  simp [Binding.value, Binding.problems, Callee.isAbsent, isNull_of_readElement hnode]

theorem registrable_of_readBinding {name : Value} (h : (readBinding name spec).value? = some b) :
    Registrable (name, .binding b) := by
  cases name with
  | str n =>
    rw [readBinding] at h
    split at h
    next hword =>
      refine ⟨n, b, rfl, hword, ?_⟩
      unfold readSpec at h
      split at h
      next =>
        split at h
        next => cases h
        next => exact problems_of_readWrap h
        next => exact problems_of_readNode h
        next => cases h
      next => cases h
    next => cases h
  | _ => cases h

theorem registrable_of_readBindingsField {field : Option Value} :
    ∀ x ∈ Profile.entriesOf (readBindingsField field).1, Registrable x := by
  intro x hx
  obtain ⟨⟨name, b⟩, hb, rfl⟩ := List.mem_map.mp hx
  unfold readBindingsField at hb
  split at hb
  next => exact absurd hb List.not_mem_nil
  next => exact absurd hb List.not_mem_nil
  next entries =>
    obtain ⟨⟨_, reading⟩, hreading, hvalue⟩ := List.mem_filterMap.mp hb
    obtain ⟨⟨name, spec⟩, -, heq⟩ := List.mem_map.mp hreading
    obtain ⟨rfl, rfl⟩ := Prod.mk.inj heq
    obtain ⟨b', hb', heq⟩ := Option.map_eq_some_iff.mp hvalue
    obtain ⟨rfl, rfl⟩ := Prod.mk.inj heq
    exact registrable_of_readBinding hb'
  next => exact absurd hb List.not_mem_nil

end Schema

/-- A document's bindings are registered, as far as they have been read. -/
theorem Profile.registration_result (document : Value) :
    ∃ registry, (registration document).result = .ok registry := by
  cases document with
  | map entries => exact Registry.exists_ofEntries registrable_of_readBindingsField
  | _ => exact ⟨.empty, rfl⟩

namespace Profile

def errors (document : Value) : List ValidationError :=
  match (loadData document).result with
  | .ok _ => []
  | .error e => e.issues.map Issue.toError

theorem errors_eq (document : Value) :
    errors document = (verdict document).issues.map Issue.toError := by
  unfold errors verdict
  cases (loadData document).result <;> rfl

theorem loads_iff {document : Value} :
    (∃ profile, (loadData document).result = .ok profile) ↔
      (verdict document).issues = [] ∧ (verdict document).limit? = none := by
  obtain ⟨registry, hregistry⟩ := registration_result document
  unfold verdict loadData
  cases Limit.ofDocument? document with
  | some breach => exact iff_of_false (fun ⟨_, h⟩ => by cases h) fun h => Option.some_ne_none _ h.2
  | none =>
    unfold ofValue
    dsimp only
    rw [hregistry]
    cases issues document with
    | nil => exact iff_of_true ⟨_, rfl⟩ ⟨rfl, rfl⟩
    | cons i is => exact iff_of_false (fun ⟨_, h⟩ => by cases h) fun h => List.cons_ne_nil i is h.1

end Profile

open Profile in
/-- **Parts that are wrong do not hide one another.** Loading a document finds what loading each of
its parts alone finds, in the order of the parts: the version, each field that no rule knows, the
names, the names besides and each binding. Where no limit stands in the way of reading it, none does
in that of a part, and its errors are those of its parts, one behind the other. It makes a profile
exactly if every part does. -/
theorem errors_eq_errors_of_parts (entries : Entries Value) (h : MapsBindings entries) :
    verdict (.map entries) = .inTurn ((parts entries).map verdict) ∧
    ((verdict (.map entries)).limit? = none ↔
      ∀ part ∈ parts entries, (verdict part).limit? = none) ∧
    ((verdict (.map entries)).limit? = none →
      errors (.map entries) = (parts entries).flatMap errors) ∧
    ((∃ profile, (loadData (.map entries)).result = .ok profile) ↔
      ∀ part ∈ parts entries, ∃ profile, (loadData part).result = .ok profile) := by
  have hverdict : verdict (.map entries) = .inTurn ((parts entries).map verdict) := by
    rw [verdict_map h, inTurn_parts]
  have hlimit : (verdict (.map entries)).limit? = none ↔
      ∀ part ∈ parts entries, (verdict part).limit? = none := by
    rw [hverdict, Verdict.limit?_inTurn_eq_none_iff, List.forall_mem_map]
  have hissues : (verdict (.map entries)).limit? = none →
      (verdict (.map entries)).issues
        = (parts entries).flatMap fun part => (verdict part).issues := by
    intro hnone
    rw [hverdict, Verdict.issues_inTurn (List.forall_mem_map.mpr (hlimit.mp hnone)),
      List.flatMap_map]
  refine ⟨hverdict, hlimit, fun hnone => ?_, ?_⟩
  · rw [errors_eq, hissues hnone, List.map_flatMap]
    exact congrArg (List.flatMap · _) (funext fun part => (errors_eq part).symm)
  · simp only [loads_iff]
    rw [forall₂_and, ← hlimit]
    refine and_congr_left fun hnone => ?_
    rw [hissues hnone, List.flatMap_eq_nil_iff]

namespace Sample

def faulty : Entries Value :=
  [(.str "version", .str "2"), (.str "colour", .null),
    (.str "void_names", .list [.str "br", .int 1]), (.int 7, .null),
    (.str "extra_void_names", .str "icon"),
    (.str "bindings", .map [(.str "b", .null), (.str "i", .map [(.str "wrap", .str "em")]),
      (.str "no word", .null), (.str "u", .map [(.str "wrap", .str ""), (.str "x", .null)])])]

end Sample

theorem errors_eq_errors_of_parts_of_faulty :
    Profile.MapsBindings Sample.faulty ∧ (Profile.verdict (.map Sample.faulty)).limit? = none ∧
    ((parts Sample.faulty).flatMap Profile.errors).map (fun e => (e.path, e.message)) =
      [("version", "Unsupported version '2'. Supported: ['1']"),
        ("colour", "Unknown field 'colour'"), ("7", "Unknown field '7'"),
        ("void_names[1]", "'void_names[1]' must be a string, got int"),
        ("extra_void_names", "'extra_void_names' must be a list of tag names"),
        ("bindings.b", "Binding 'b' must be a dictionary"),
        ("bindings.no word", "Invalid binding name 'no word'"),
        ("bindings.u", "Binding 'u': unknown fields ['x']"),
        ("bindings.u.wrap", "Binding 'u': 'wrap' must be a non-empty tag name")] := by
  have hmaps : Profile.MapsBindings Sample.faulty :=
    fun v hv => Or.inr ⟨_, (Option.some.inj hv).symm⟩
  obtain ⟨-, -, herrors, -⟩ := errors_eq_errors_of_parts Sample.faulty hmaps
  have hnone : (Profile.verdict (.map Sample.faulty)).limit? = none := by decide +kernel
  refine ⟨hmaps, hnone, ?_⟩
  rw [← herrors hnone]
  decide +kernel

end RichTemplate
