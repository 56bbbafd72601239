import RichTemplate.Proofs.Limits
import RichTemplate.Proofs.Registering

/-!
# Which documents make a profile

A document makes the profile it denotes, and one that denotes none is refused with the issues found
in it, unless one of them is met at a limit of reading.
-/

namespace RichTemplate

open Schema

def Schema.bindingsOf : Value → Entries Value
  | .map entries =>
    match Entries.get? entries "bindings" with
    | some (.map bindings) => bindings
    | _ => []
  | _ => []

section Registration

variable {spec node : Value} {b : Binding} {entries : Entries Value}
  {bindings : List (String × Binding)}

theorem Schema.DenotesElement.isNull_eq (h : DenotesElement spec node) : node.isNull = false := by
  cases h <;> rfl

theorem Schema.DenotesBinding.problems_eq_nil (h : DenotesBinding spec b) : b.problems = [] := by
  cases h with
  | wrap => rfl
  | element _ _ helement =>
    simp [Binding.value, Binding.problems, Callee.isAbsent, helement.isNull_eq]

theorem Schema.keys_eq_of_denotesEntry (h : List.Forall₂ DenotesEntry entries bindings) :
    entries.map (·.1) = bindings.map fun b => .str b.1 := by
  induction h with
  | nil => rfl
  | cons hentry _ ih =>
    cases hentry
    rw [List.map_cons, List.map_cons, ih]

theorem Schema.nodup_of_denotesEntry (h : List.Forall₂ DenotesEntry entries bindings)
    (hdistinct : entries.Distinct) : (bindings.map (·.1)).Nodup := by
  have hkeys : (entries.map (·.1)).Pairwise fun k k' => k.sameKey k' = false :=
    List.pairwise_map.mpr hdistinct
  rw [keys_eq_of_denotesEntry h, List.pairwise_map] at hkeys
  refine List.pairwise_map.mpr (hkeys.imp fun hsame heq => ?_)
  rw [heq, Value.sameKey_str_iff.mpr rfl] at hsame
  cases hsame

theorem exists_of_mem_forall₂ {α β : Type} {R : α → β → Prop} {as : List α} {bs : List β}
    (h : List.Forall₂ R as bs) {a : α} (ha : a ∈ as) : ∃ b ∈ bs, R a b := by
  induction h with
  | nil => exact absurd ha List.not_mem_nil
  | cons hfirst _ ih =>
    rcases List.mem_cons.mp ha with rfl | ha
    · exact ⟨_, List.mem_cons_self, hfirst⟩
    · obtain ⟨b, hb, hab⟩ := ih ha
      exact ⟨b, List.mem_cons_of_mem _ hb, hab⟩

theorem Schema.exists_denotesEntry_of_mem (h : List.Forall₂ DenotesEntry entries bindings)
    {b : String × Binding} (hb : b ∈ bindings) : ∃ e ∈ entries, DenotesEntry e b :=
  exists_of_mem_forall₂ h.flip hb

theorem Schema.sound_of_denotesEntry (h : List.Forall₂ DenotesEntry entries bindings) :
    ∀ b ∈ bindings, isWord b.1 = true ∧ b.2.problems = [] := by
  intro b hb
  obtain ⟨e, -, hentry⟩ := exists_denotesEntry_of_mem h hb
  cases hentry with
  | mk hword hbinding => exact ⟨hword, hbinding.problems_eq_nil⟩

theorem Schema.DenotesBindings.exists_forall₂ {field : Option Value}
    (h : DenotesBindings field bindings) :
    ∃ entries, List.Forall₂ DenotesEntry entries bindings := by
  cases h with
  | absent => exact ⟨[], .nil⟩
  | null => exact ⟨[], .nil⟩
  | map heach => exact ⟨_, heach⟩

namespace Registry

variable {r : Registry} {name : String}

theorem put_of_notMem (h : name ∉ r.order) (entry : Entry) :
    r.put name entry = ⟨r.entries ++ [(name, entry)]⟩ := by
  have hhas : r.has name = false := by
    rw [has, List.any_eq_false]
    intro e he heq
    exact h (List.mem_map.mpr ⟨e, he, by simpa using heq⟩)
  rw [put, hhas, if_neg Bool.false_ne_true]

/-- Sound bindings under new names are taken up in their order. -/
theorem registerAll_result (hsound : ∀ b ∈ bindings, isWord b.1 = true ∧ b.2.problems = [])
    (hnodup : (bindings.map (·.1)).Nodup) (hnew : ∀ b ∈ bindings, b.1 ∉ r.order) :
    (r.registerAll (bindings.map fun b => (.str b.1, .binding b.2))).result
      = .ok ⟨r.entries ++ bindings.map fun b => (b.1, .binding b.2)⟩ := by
  induction bindings generalizing r with
  | nil => simp [registerAll]
  | cons b bindings ih =>
    obtain ⟨⟨hword, hproblems⟩, hsound⟩ := List.forall_mem_cons.mp hsound
    obtain ⟨hb, hnodup⟩ := List.nodup_cons.mp hnodup
    obtain ⟨hfresh, hnew⟩ := List.forall_mem_cons.mp hnew
    have hnext : ∀ b' ∈ bindings, b'.1 ∉ (r.put b.1 (.binding b.2)).order := by
      intro b' hb' hmem
      rw [put_of_notMem hfresh, order, List.map_append, List.mem_append] at hmem
      rcases hmem with hmem | hmem
      · exact hnew b' hb' hmem
      · have heq : b'.1 = b.1 := by simpa using hmem
        exact hb (List.mem_map.mpr ⟨b', hb', heq⟩)
    rw [List.map_cons, registerAll, Traced.bind_of_ok (register_result hword hproblems)]
    change (registerAll (r.put b.1 (.binding b.2)) _).result = _
    rw [ih hsound hnodup hnext, put_of_notMem hfresh]
    simp

end Registry

end Registration

namespace Profile

variable {document : Value} {profile : Profile}

theorem entriesOf_of_denotes {field : Option Value} {bindings : List (String × Binding)}
    (h : DenotesBindings field bindings) :
    entriesOf (readBindingsField field).1 = bindings.map fun b => (.str b.1, .binding b.2) := by
  rw [readBindingsField_eq_iff.mpr ⟨bindings, h, rfl⟩, entriesOf, List.map_map]
  rfl

theorem registrationOf_result {field : Option Value} {bindings : List (String × Binding)}
    (h : DenotesBindings field bindings)
    (hdistinct : ∀ entries, field = some (.map entries) → Entries.Distinct entries) :
    (registrationOf field).result = .ok ⟨bindings.map fun b => (b.1, .binding b.2)⟩ := by
  rw [registrationOf, entriesOf_of_denotes h, Registry.ofEntries]
  cases h with
  | absent => rfl
  | null => rfl
  | map heach =>
    exact Registry.registerAll_result (sound_of_denotesEntry heach)
      (nodup_of_denotesEntry heach (hdistinct _ rfl)) fun b _ => List.not_mem_nil

theorem issues_eq_nil_iff : issues document = [] ↔ ∃ profile, DenotesProfile document profile := by
  cases document with
  | map entries =>
    rw [issues_map_eq_nil_iff]
    simp only [readVoidNames_eq_iff, readBindingsField_eq_iff]
    constructor
    · rintro ⟨hversion, hknown, ⟨_, names, extra, hnames, hextra, -⟩, _, bs, hbindings, -⟩
      exact ⟨_, .map hversion hknown hnames hextra hbindings⟩
    · rintro ⟨_, hversion, hknown, hnames, hextra, hbindings⟩
      exact ⟨hversion, hknown, ⟨_, _, _, hnames, hextra, rfl⟩, _, _, hbindings, rfl⟩
  | _ =>
    exact iff_of_false (List.cons_ne_nil _ _) fun h => by
      obtain ⟨_, h⟩ := h
      cases h

theorem ofValue_of_issues_ne_nil (h : issues document ≠ []) :
    (ofValue document).result = .error (issues document) := by
  unfold ofValue
  dsimp only
  split
  next hnil _ => exact absurd hnil h
  next => rfl

theorem ofValue_of_denotes (hdistinct : (bindingsOf document).Distinct)
    (h : DenotesProfile document profile) : (ofValue document).result = .ok profile := by
  have hissues : issues document = [] := issues_eq_nil_iff.mpr ⟨profile, h⟩
  cases h with
  | @map entries names extra bindings hversion hknown hnames hextra hbindings =>
    have hregistered : (registration (.map entries)).result
        = .ok ⟨bindings.map fun b => (b.1, .binding b.2)⟩ := by
      refine registrationOf_result hbindings fun bs hbs => ?_
      rw [bindingsOf] at hdistinct
      rw [hbs] at hdistinct
      exact hdistinct
    have hnames : voidNamesOf (.map entries) = (names ++ extra).eraseDups := by
      rw [voidNamesOf, readVoidNames_eq_iff.mpr ⟨names, extra, hnames, hextra, rfl⟩]
    unfold ofValue
    dsimp only
    rw [hissues, hregistered, hnames]

theorem ofValue_eq_ok_iff (hdistinct : (bindingsOf document).Distinct) :
    (ofValue document).result = .ok profile ↔ DenotesProfile document profile := by
  refine ⟨fun h => ?_, ofValue_of_denotes hdistinct⟩
  have hnil : issues document = [] := by
    by_contra hne
    rw [ofValue_of_issues_ne_nil hne] at h
    cases h
  obtain ⟨profile', h'⟩ := issues_eq_nil_iff.mp hnil
  rw [ofValue_of_denotes hdistinct h'] at h
  exact Except.ok.inj h ▸ h'

end Profile

section Loading

variable {document : Value} {profile : Profile}

theorem Profile.loadData_of_spared (h : Limit.Spares document) :
    loadData document = (ofValue document).mapResultError .invalid := by
  rw [loadData, Limit.ofDocument?_eq_none_iff.mpr h]

theorem Profile.loadData_of_not_spared (h : ¬ Limit.Spares document) :
    ∃ limit found, (loadData document).result = .error (.limit limit found) := by
  obtain ⟨breach, hbreach⟩ := Option.ne_none_iff_exists'.mp fun hnone =>
    h (Limit.ofDocument?_eq_none_iff.mp hnone)
  exact ⟨breach.limit, breach.issues, by rw [loadData, hbreach]⟩

theorem Profile.loadData_of_issues_ne_nil (hspared : Limit.Spares document)
    (hissues : issues document ≠ []) :
    (loadData document).result = .error (.invalid (issues document)) := by
  rw [loadData_of_spared hspared]
  change (ofValue document).result.mapError ProfileError.invalid = _
  rw [ofValue_of_issues_ne_nil hissues]
  rfl

theorem Profile.loadData_of_not_denotes (hspared : Limit.Spares document)
    (hnone : ¬ ∃ profile, DenotesProfile document profile) :
    ∃ issues, issues ≠ [] ∧ (loadData document).result = .error (.invalid issues) := by
  have hissues : issues document ≠ [] := fun hnil => hnone (issues_eq_nil_iff.mp hnil)
  exact ⟨issues document, hissues, loadData_of_issues_ne_nil hspared hissues⟩

/-- What denotes a profile has no issue, so nothing in it is met at a limit. -/
theorem Schema.DenotesProfile.spares (h : DenotesProfile document profile) :
    Limit.Spares document := by
  rw [Limit.Spares, Profile.issues_eq_nil_iff.mpr ⟨profile, h⟩]
  exact fun i hi => absurd hi List.not_mem_nil

theorem Profile.exists_denotes_of_loadData (h : (loadData document).result = .ok profile) :
    ∃ profile', DenotesProfile document profile' := by
  by_contra hnone
  by_cases hspared : Limit.Spares document
  · obtain ⟨issues, -, herror⟩ := loadData_of_not_denotes hspared hnone
    rw [herror] at h
    cases h
  · obtain ⟨limit, found, herror⟩ := loadData_of_not_spared hspared
    rw [herror] at h
    cases h

theorem Profile.loadData_eq_ok_iff (hdistinct : (bindingsOf document).Distinct) :
    (loadData document).result = .ok profile ↔ DenotesProfile document profile := by
  have hok : Limit.Spares document →
      ((loadData document).result = .ok profile ↔ DenotesProfile document profile) := by
    intro hspared
    rw [loadData_of_spared hspared, ← ofValue_eq_ok_iff hdistinct]
    change (ofValue document).result.mapError ProfileError.invalid = .ok profile ↔ _
    cases (ofValue document).result <;> simp [Except.mapError]
  constructor
  · intro h
    obtain ⟨profile', h'⟩ := exists_denotes_of_loadData h
    exact (hok h'.spares).mp h
  · exact fun h => (hok h.spares).mpr h

theorem Schema.DenotesProfile.forall₂ (h : DenotesProfile document profile) :
    ∃ bindings, List.Forall₂ DenotesEntry (bindingsOf document) bindings ∧
      profile.registry.entries = bindings.map fun b => (b.1, .binding b.2) := by
  cases h with
  | @map entries names extra bindings _ _ _ _ hbindings =>
    refine ⟨bindings, ?_, rfl⟩
    rw [bindingsOf]
    generalize Entries.get? entries "bindings" = field at hbindings
    cases hbindings with
    | absent => exact .nil
    | null => exact .nil
    | map heach => exact heach

theorem Schema.DenotesProfile.isWord_of_mem (h : DenotesProfile document profile) {name : String}
    {spec : Value} (hmem : (.str name, spec) ∈ bindingsOf document) : isWord name = true := by
  obtain ⟨bindings, heach, -⟩ := h.forall₂
  obtain ⟨b, -, hentry⟩ := exists_of_mem_forall₂ heach hmem
  cases hentry
  assumption

end Loading

/-! ### Documents with one binding -/

section Declaration

variable {name : String} {spec : Value} {b : Binding}

def Schema.declaration (name : String) (spec : Value) : Value :=
  .map [(.str "version", .str "1"), (.str "bindings", .map [(.str name, spec)])]

theorem Schema.distinct_bindingsOf_declaration : (bindingsOf (declaration name spec)).Distinct :=
  List.pairwise_singleton _ _

theorem Schema.DenotesBinding.denotesProfile (h : DenotesBinding spec b)
    (hword : isWord name = true) :
    DenotesProfile (declaration name spec) ⟨⟨[(name, .binding b)]⟩, defaultVoidNames⟩ := by
  have hentries : DenotesProfile (declaration name spec)
      ⟨⟨[(name, b)].map fun b => (b.1, .binding b.2)⟩, (defaultVoidNames ++ []).eraseDups⟩ :=
    .map rfl (by simp [Entries.OnlyKeys]) .absent .absent (.map (.cons (.mk hword h) .nil))
  -- no void names are given, so the usual ones are all there are
  have husual : (defaultVoidNames ++ []).eraseDups = defaultVoidNames := by decide
  rw [husual] at hentries
  exact hentries

theorem Schema.DenotesBinding.loadData_declaration (h : DenotesBinding spec b)
    (hword : isWord name = true) :
    (Profile.loadData (declaration name spec)).result
      = .ok ⟨⟨[(name, .binding b)]⟩, defaultVoidNames⟩ :=
  (Profile.loadData_eq_ok_iff distinct_bindingsOf_declaration).mpr (h.denotesProfile hword)

end Declaration

/-- **A document makes a profile exactly if it denotes one.** A document makes the profile it
denotes, however deep its elements nest, and no other. One that denotes none is refused with an
issue at least, unless an issue is met at a limit of reading; then the limit is what is told. None
is in a document that has an end and holds no integer that is too long. The names of the profile are
the keys of the declared bindings, in their order. -/
theorem loadData_makes_what_is_denoted (document : Value)
    (hdistinct : (bindingsOf document).Distinct) :
    (∀ profile, (Profile.loadData document).result = .ok profile ↔
      DenotesProfile document profile) ∧
    ((¬ ∃ profile, DenotesProfile document profile) →
      (Limit.Spares document →
        ∃ issues, issues ≠ [] ∧ (Profile.loadData document).result = .error (.invalid issues)) ∧
      (¬ Limit.Spares document →
        ∃ limit found, (Profile.loadData document).result = .error (.limit limit found))) ∧
    (document.Moderate → Limit.Spares document) ∧
    ∀ profile, (Profile.loadData document).result = .ok profile →
      profile.registry.order.map Value.str = (bindingsOf document).map (·.1) := by
  refine ⟨fun profile => Profile.loadData_eq_ok_iff hdistinct, fun hnone => ⟨fun hspared => ?_,
    Profile.loadData_of_not_spared⟩, Value.Moderate.spares, fun profile hprofile => ?_⟩
  · exact Profile.loadData_of_not_denotes hspared hnone
  · have hdenotes := (Profile.loadData_eq_ok_iff hdistinct).mp hprofile
    obtain ⟨bindings, heach, hentries⟩ := hdenotes.forall₂
    rw [keys_eq_of_denotesEntry heach, Registry.order, hentries, List.map_map, List.map_map]
    rfl

namespace Sample

def userSpec : Value :=
  .map [(.str "tag", .str "span"), (.str "children", .list [.str "Ann ",
    .map [(.str "tag", .str "b"), (.str "children", .list [.str "B."])]])]

def user : Value :=
  .element "span" (.map []) (.list [.str "Ann ", .element "b" (.map []) (.list [.str "B."])])

def document : Value :=
  .map [(.str "version", .str "1"), (.str "extra_void_names", .list [.str "icon"]),
    (.str "bindings", .map [
      (.str "b", .map [(.str "wrap", .str "strong"), (.str "props", .null)]),
      (.str "icon", .map [(.str "wrap", .str "i")]),
      (.str "user", .map [(.str "element", userSpec)])])]

def bindings : List (String × Binding) :=
  [("b", .wrapper (.wrapper (wrapIn "strong" []))), ("icon", .wrapper (.wrapper (wrapIn "i" []))),
    ("user", .value user)]

def profile : Profile :=
  ⟨⟨bindings.map fun b => (b.1, .binding b.2)⟩, (defaultVoidNames ++ ["icon"]).eraseDups⟩

theorem distinct : (bindingsOf document).Distinct := by
  decide

theorem denotesElement_user : DenotesElement userSpec user := by
  refine .node ⟨by simp [Entries.OnlyKeys], rfl, by decide, .absent⟩ rfl (.text _ ?_)
  refine .element (.node ⟨by simp [Entries.OnlyKeys], rfl, by decide, .absent⟩ rfl ?_) .nil
  exact .text _ .nil

theorem denotesProfile : DenotesProfile document profile := by
  have hnames : DenotesNames [] (some (.list [.str "icon"])) ["icon"] :=
    @DenotesNames.list [] ["icon"] (by decide)
  have hb : DenotesBinding (.map [(.str "wrap", .str "strong"), (.str "props", .null)])
      (.wrapper (.wrapper (wrapIn "strong" []))) :=
    .wrap (by simp [Entries.OnlyKeys]) rfl (by decide) .null
  have hicon : DenotesBinding (.map [(.str "wrap", .str "i")])
      (.wrapper (.wrapper (wrapIn "i" []))) :=
    .wrap (by simp [Entries.OnlyKeys]) rfl (by decide) .absent
  have huser : DenotesBinding (.map [(.str "element", userSpec)]) (.value user) :=
    .element (by simp [Entries.OnlyKeys]) rfl denotesElement_user
  exact .map rfl (by simp [Entries.OnlyKeys]) .absent hnames
    (.map (.cons (.mk (by decide) hb) (.cons (.mk (by decide) hicon)
      (.cons (.mk (by decide) huser) .nil))))

theorem loadData_document : (Profile.loadData document).result = .ok profile :=
  (Profile.loadData_eq_ok_iff distinct).mpr denotesProfile

def refused : Value :=
  .map [(.str "version", .str "2"), (.str "bindings", .map [(.str "b", .null)])]

theorem not_denotes_refused : ¬ ∃ profile, DenotesProfile refused profile := by
  rintro ⟨profile, h⟩
  cases h with
  | map hversion =>
    have hother : some (Value.str "2") = some (Value.str "1") := hversion
    simp at hother

theorem moderate_refused : refused.Moderate :=
  ⟨by decide, by decide⟩

end Sample

theorem loadData_makes_what_is_denoted_of_sample :
    ((bindingsOf Sample.document).Distinct ∧ DenotesProfile Sample.document Sample.profile ∧
      (Profile.loadData Sample.document).result = .ok Sample.profile ∧
      Sample.profile.registry.order.map Value.str = (bindingsOf Sample.document).map (·.1)) ∧
    (bindingsOf Sample.refused).Distinct ∧ (¬ ∃ profile, DenotesProfile Sample.refused profile) ∧
      Sample.refused.Moderate ∧ Limit.Spares Sample.refused ∧
      ∃ issues, issues ≠ [] ∧
        (Profile.loadData Sample.refused).result = .error (.invalid issues) := by
  constructor
  · obtain ⟨hmakes, -, -, hnames⟩ := loadData_makes_what_is_denoted Sample.document Sample.distinct
    have hok := (hmakes Sample.profile).mpr Sample.denotesProfile
    exact ⟨Sample.distinct, Sample.denotesProfile, hok, hnames Sample.profile hok⟩
  · have hdistinct : (bindingsOf Sample.refused).Distinct := by decide
    obtain ⟨-, hrefuses, hspares, -⟩ := loadData_makes_what_is_denoted Sample.refused hdistinct
    have hspared := hspares Sample.moderate_refused
    exact ⟨hdistinct, Sample.not_denotes_refused, Sample.moderate_refused, hspared,
      (hrefuses Sample.not_denotes_refused).1 hspared⟩

/-! ### Documents that reading gives up on -/

def overlongDocument : Value :=
  .map [(.str "version", .str "1"), (.int (Nat.pow 10 4300), .null)]

/-- An element that is its own child, unfolded so often. -/
def selfChild : Nat → Value
  | 0 => .endless
  | n + 1 => .map [(.str "tag", .str "a"), (.str "children", .list [selfChild n])]

def endlessDocument : Value :=
  declaration "x" (.map [(.str "element", selfChild 3)])

theorem Schema.exists_issues_selfChild (path : String) (n : Nat) :
    ∃ place, readElement path (selfChild n) = .reject .endless place := by
  induction n generalizing path with
  | zero =>
    refine ⟨path, ?_⟩
    rw [selfChild, readElement]
    · rfl
    · exact fun _ => Value.noConfusion
  | succ n ih =>
    obtain ⟨place, hchild⟩ := ih (childPath path 0)
    have htext : ∀ s, selfChild n ≠ .str s := by
      intro s heq
      cases n <;> cases heq
    refine ⟨place, ?_⟩
    rw [selfChild, readElement_map]
    change (readChildren path 0 [selfChild n]).andThen _ = _
    rw [readChildren, hchild]
    · rfl
    · exact htext

theorem not_spares_overlongDocument : ¬ Limit.Spares overlongDocument := by
  intro h
  have hmem : ⟨.unknownField (.int (Nat.pow 10 4300)), (Value.int (Nat.pow 10 4300)).plainText⟩
      ∈ Profile.issues overlongDocument :=
    List.mem_cons_self
  have hlong : (Value.int (Nat.pow 10 4300)).isOverlong = true := by decide +kernel
  have hlimit : (Fault.unknownField (.int (Nat.pow 10 4300))).limit? = some .overlong :=
    Fault.limit?_of_overlong (by rw [Fault.spelled, List.any_cons, hlong, Bool.true_or])
  rw [h _ hmem] at hlimit
  cases hlimit

theorem not_spares_endlessDocument : ¬ Limit.Spares endlessDocument := by
  intro h
  obtain ⟨place, hread⟩ := exists_issues_selfChild "bindings.x.element" 3
  have hmem : ⟨.endless, place⟩ ∈ Profile.issues endlessDocument := by
    have hissues : Profile.issues endlessDocument
        = ((readElement "bindings.x.element" (selfChild 3)).andThen fun node =>
            .ok (Binding.value node)).issues ++ [] := rfl
    rw [hissues, hread]
    exact List.mem_cons_self
  exact Option.some_ne_none _ (h _ hmem)

/-- A document with a name that may not be written and one without an end make no profile, and no
issue is told of either. -/
theorem reading_gives_up :
    (¬ (∃ profile, (Profile.loadData overlongDocument).result = .ok profile) ∧
      ¬ ∃ issues, (Profile.loadData overlongDocument).result = .error (.invalid issues)) ∧
    ¬ (∃ profile, (Profile.loadData endlessDocument).result = .ok profile) ∧
      ¬ ∃ issues, (Profile.loadData endlessDocument).result = .error (.invalid issues) := by
  obtain ⟨_, _, hoverlong⟩ := Profile.loadData_of_not_spared not_spares_overlongDocument
  obtain ⟨_, _, hendless⟩ := Profile.loadData_of_not_spared not_spares_endlessDocument
  rw [hoverlong, hendless]
  simp

end RichTemplate
