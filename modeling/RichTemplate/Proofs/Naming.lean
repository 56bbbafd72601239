import RichTemplate.Proofs.Acceptance
import RichTemplate.Proofs.Replacing
import Mathlib.Tactic.TFAE

/-!
# Names

A name that a template can spell is a name that can be bound, and the other way around. Scanning,
registering and loading each decide about names where they meet them, and all of them let through
the words and nothing else.
-/

namespace RichTemplate

open Schema

/-! ### Names that templates spell -/

namespace Markup

variable {m : Markup} {text name content : String}

/-- A scan of the text finds the markup and nothing else, and no character is left over. -/
def Spans (m : Markup) (text : String) : Prop :=
  scan text = [⟨m, 0⟩] ∧ (Match.mk m 0).stop = text.toList.length

theorem WellFormed.spans (h : m.WellFormed) (htext : text.toList = m.source) : m.Spans text := by
  refine ⟨(isScan_iff_eq_scan.mp ?_).symm, ?_⟩
  · rw [htext]
    exact isScan_source h
  · rw [htext, Match.stop, Nat.zero_add]

theorem Spans.mem_scan (h : m.Spans text) : ⟨m, 0⟩ ∈ scan text := by
  rw [h.1]
  exact List.mem_cons_self

theorem toList_placeholder (name : String) :
    ("\x7b\x7b" ++ name ++ "\x7d\x7d").toList = (placeholder name).source := by
  simp [source, String.toList_append]

theorem toList_closeTag (name : String) :
    ("</" ++ name ++ ">").toList = closeTag name.toList := by
  simp [closeTag, String.toList_append]

theorem toList_tag (name content : String) :
    ("<" ++ name ++ ">" ++ content ++ "</" ++ name ++ ">").toList
      = (tag name content).source := by
  simp [source, closeTag, String.toList_append]

end Markup

/-! ### Names that registries hold -/

theorem Registry.isWord_of_register {r r' : Registry} {name : String} {entry : Entry}
    (h : (r.register (.str name) entry).result = .ok r') : isWord name = true := by
  obtain ⟨n, b, heq, hword, -⟩ := registrable_of_register (x := (.str name, entry)) h
  obtain rfl := Value.str.inj (Prod.mk.inj heq).1
  exact hword

/-! ### Names that documents give -/

section Documents

variable {document : Value} {profile : Profile} {name field : String}

theorem isWord_of_declared (h : (Profile.loadData document).result = .ok profile) {spec : Value}
    (hmem : (.str name, spec) ∈ bindingsOf document) : isWord name = true := by
  obtain ⟨profile', hdenotes⟩ := Profile.exists_denotes_of_loadData h
  exact hdenotes.isWord_of_mem hmem

def Schema.namesFields : List String := ["void_names", "extra_void_names"]

def Schema.listing (field : String) (names : List String) : Value :=
  .map [(.str "version", .str "1"), (.str field, .list (names.map .str))]

def Schema.Lists (document : Value) (field name : String) : Prop :=
  ∃ entries items, document = .map entries ∧ Entries.get? entries field = some (.list items) ∧
    .str name ∈ items

theorem isWord_of_listed (h : (Profile.loadData document).result = .ok profile)
    (hfield : field ∈ namesFields) (hlists : Lists document field name) :
    isWord name = true := by
  obtain ⟨profile', hdenotes⟩ := Profile.exists_denotes_of_loadData h
  obtain ⟨entries, items, rfl, hget, hmem⟩ := hlists
  have hnames : ∃ usual names, DenotesNames usual (some (.list items)) names := by
    cases hdenotes with
    | map _ _ hvoid hextra =>
      rcases List.mem_pair.mp hfield with rfl | rfl
      · exact ⟨_, _, hget ▸ hvoid⟩
      · exact ⟨_, _, hget ▸ hextra⟩
  obtain ⟨usual, names, hdenotesNames⟩ := hnames
  cases hdenotesNames with
  | list hwords =>
    obtain ⟨n, hn, heq⟩ := List.mem_map.mp hmem
    exact Value.str.inj heq ▸ hwords n hn

theorem exists_loaded_listing (hfield : field ∈ namesFields) {names : List String}
    (hwords : ∀ n ∈ names, isWord n = true) (hname : name ∈ names) :
    ∃ profile, (Profile.loadData (listing field names)).result = .ok profile ∧
      name ∈ profile.voidNames := by
  have hnone : bindingsOf (listing field names) = [] := by
    rcases List.mem_pair.mp hfield with rfl | rfl <;> rfl
  have hdenotes : ∃ profile, DenotesProfile (listing field names) profile ∧
      name ∈ profile.voidNames := by
    rcases List.mem_pair.mp hfield with rfl | rfl
    · refine ⟨_, .map rfl ?_ (.list hwords) .absent .absent, ?_⟩
      · simp [Entries.OnlyKeys]
      · exact List.mem_eraseDups.mpr (List.mem_append_left _ hname)
    · refine ⟨_, .map rfl ?_ .absent (.list hwords) .absent, ?_⟩
      · simp [Entries.OnlyKeys]
      · exact List.mem_eraseDups.mpr (List.mem_append_right _ hname)
  obtain ⟨profile, hprofile, hmem⟩ := hdenotes
  have hdistinct : (bindingsOf (listing field names)).Distinct := hnone ▸ List.Pairwise.nil
  exact ⟨profile, (Profile.loadData_eq_ok_iff hdistinct).mpr hprofile, hmem⟩

/-- The plainest binding: a pair of tags around the text. -/
theorem Schema.denotesBinding_wrap :
    DenotesBinding (.map [(.str "wrap", .str "b")]) (.wrapper (.wrapper (wrapIn "b" []))) :=
  .wrap (by simp [Entries.OnlyKeys]) rfl (by decide) .absent

end Documents

/-- **A name can be bound exactly if a template can spell it.** A word is found in some template; it
is found in its placeholder alone and in each pair of its tags alone, whatever stands between them
on one line without the close tag; every registry takes every binding without problems under it;
every document that gives it a binding makes the profile with that binding, and every one that lists
it among words makes a profile for which it is void. A name that is no word fails in all of these
places: no scan finds it, no registry takes anything under it, and no document that makes a profile
binds it or lists it. -/
theorem names_are_words (name : String) : List.TFAE [
    isWord name = true,
    ∃ template, ∃ m ∈ scan template, m.markup.name = name,
    (Markup.placeholder name).Spans ("\x7b\x7b" ++ name ++ "\x7d\x7d"),
    ∀ content : String, '\n' ∉ content.toList →
      ¬ ("</" ++ name ++ ">").toList <:+: content.toList →
        (Markup.tag name content).Spans
          ("<" ++ name ++ ">" ++ content ++ "</" ++ name ++ ">"),
    ∀ (r : Registry) (b : Binding), b.problems = [] →
      ∃ r', (r.register (.str name) (.binding b)).result = .ok r',
    ∃ (r : Registry) (entry : Entry) (r' : Registry),
      (r.register (.str name) entry).result = .ok r',
    ∀ spec b, DenotesBinding spec b →
      (Profile.loadData (declaration name spec)).result
        = .ok ⟨⟨[(name, .binding b)]⟩, defaultVoidNames⟩,
    ∃ document profile spec, (Profile.loadData document).result = .ok profile ∧
      (.str name, spec) ∈ bindingsOf document,
    ∀ field ∈ namesFields, ∀ names, (∀ n ∈ names, n ≠ name → isWord n = true) → name ∈ names →
      ∃ profile, (Profile.loadData (listing field names)).result = .ok profile ∧
        name ∈ profile.voidNames,
    ∃ document profile, ∃ field ∈ namesFields,
      (Profile.loadData document).result = .ok profile ∧ Lists document field name] := by
  -- each place lets words through, and what one place lets through is a word
  tfae_have 1 → 3 := fun hword =>
    Markup.WellFormed.spans (m := .placeholder name) hword (Markup.toList_placeholder name)
  tfae_have 3 → 2 := fun hspans => ⟨_, _, hspans.mem_scan, rfl⟩
  tfae_have 1 → 4 := by
    intro hword content hline hfree
    rw [Markup.toList_closeTag] at hfree
    exact Markup.WellFormed.spans (m := .tag name content) ⟨hword, hline, hfree⟩
      (Markup.toList_tag name content)
  tfae_have 4 → 2 := by
    intro hspans
    have hfree : ¬ ("</" ++ name ++ ">").toList <:+: ("" : String).toList := by
      rw [Markup.toList_closeTag]
      simp [Markup.closeTag]
    exact ⟨_, _, (hspans "" List.not_mem_nil hfree).mem_scan, rfl⟩
  tfae_have 2 → 1 := by
    rintro ⟨template, m, hm, rfl⟩
    exact isWord_of_mem_scan hm
  tfae_have 1 → 5 := fun hword r b hproblems => ⟨_, Registry.register_result hword hproblems⟩
  tfae_have 5 → 6 := fun hregisters =>
    ⟨.empty, _, hregisters .empty _ denotesBinding_wrap.problems_eq_nil⟩
  tfae_have 6 → 1 := by
    rintro ⟨r, entry, r', hregistered⟩
    exact Registry.isWord_of_register hregistered
  tfae_have 1 → 7 := fun hword spec b hdenotes => hdenotes.loadData_declaration hword
  tfae_have 7 → 8 := fun hloads =>
    ⟨_, _, _, hloads _ _ denotesBinding_wrap, List.mem_cons_self⟩
  tfae_have 8 → 1 := by
    rintro ⟨document, profile, spec, hloaded, hmem⟩
    exact isWord_of_declared hloaded hmem
  tfae_have 1 → 9 := by
    intro hword field hfield names hothers hname
    refine exists_loaded_listing hfield (fun n hn => ?_) hname
    by_cases heq : n = name
    · exact heq ▸ hword
    · exact hothers n hn heq
  tfae_have 9 → 10 := by
    intro hloads
    have hothers : ∀ n ∈ [name], n ≠ name → isWord n = true := fun n hn hne =>
      absurd (List.mem_singleton.mp hn) hne
    obtain ⟨profile, hloaded, -⟩ :=
      hloads "void_names" List.mem_cons_self [name] hothers List.mem_cons_self
    exact ⟨_, profile, "void_names", List.mem_cons_self, hloaded, _, _, rfl, rfl,
      List.mem_cons_self⟩
  tfae_have 10 → 1 := by
    rintro ⟨document, profile, field, hfield, hloaded, hlists⟩
    exact isWord_of_listed hloaded hfield hlists
  tfae_finish

end RichTemplate
