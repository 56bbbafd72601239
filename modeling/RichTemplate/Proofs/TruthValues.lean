import Mathlib.Data.List.Basic
import RichTemplate.Yaml.Node
import RichTemplate.Yaml.ScalarText

/-!
# Truth values among plain scalars

The kinds of plain scalars are listed by first character. Profiles take the truth values out of the
lists of all characters but those that `true` and `false` start with. The other kinds stay where
they are in their lists, and no word that is no truth value any more has the form of another kind:
such a word becomes a text, and every other plain scalar keeps its tag.
-/

namespace RichTemplate.Yaml

/-! ### Kinds listed by first characters -/

structure Candidate where
  kind : Kind
  form : List Char → Bool

namespace Candidate

/-- Whether a text has the form, but for a line feed at its end. -/
def fits (cs : List Char) (e : Candidate) : Bool :=
  e.form cs || e.form (withoutFinalBreak cs)

def staysAt (first : Option Char) (e : Candidate) : Bool :=
  e.kind ≠ .bool || first.all "tTfF".toList.contains

end Candidate

namespace Resolver

def candidate (r : Resolver) : Candidate :=
  ⟨r.kind, r.fits⟩

def isSelectedBy (first : Option Char) (r : Resolver) : Bool :=
  match first with
  | some c => r.firsts.contains c
  | none => r.kind = .null

def narrowed (r : Resolver) : Resolver :=
  if r.kind = .bool then { r with firsts := r.firsts.filter "tTfF".toList.contains } else r

theorem candidate_narrowed (r : Resolver) : r.narrowed.candidate = r.candidate := by
  unfold narrowed
  split <;> rfl

theorem isSelectedBy_narrowed (first : Option Char) (r : Resolver) :
    r.narrowed.isSelectedBy first = (r.candidate.staysAt first && r.isSelectedBy first) := by
  unfold narrowed
  split
  next hkind =>
    cases first with
    | none => simp [isSelectedBy, hkind]
    | some c =>
      simp [isSelectedBy, Candidate.staysAt, candidate, hkind, List.contains_eq_mem, Bool.and_comm]
  next hkind => simp [Candidate.staysAt, candidate, hkind]

end Resolver

/-- For each first character, and for the scalar without any, the kinds that it may be, in the order
in which they are tried. -/
abbrev Listing : Type :=
  Option Char → List Candidate

namespace Listing

def ofResolvers (table : List Resolver) : Listing :=
  fun first => (table.filter (Resolver.isSelectedBy first)).map Resolver.candidate

def standard : Listing :=
  ofResolvers standardResolvers

def narrowed (l : Listing) : Listing :=
  fun first => (l first).filter (Candidate.staysAt first)

def kind? (l : Listing) (cs : List Char) : Option Kind :=
  ((l cs.head?).find? (Candidate.fits cs)).map Candidate.kind

def tag (l : Listing) (text : String) : String :=
  match l.kind? text.toList with
  | some kind => kind.tag
  | none => languageTag "str"

section Tables

variable {table : List Resolver}

theorem kind?_ofResolvers (table : List Resolver) (cs : List Char) :
    (ofResolvers table).kind? cs = (table.find? fun r =>
      r.isSelectedBy cs.head? && r.candidate.fits cs).map Resolver.kind := by
  rw [kind?, ofResolvers, List.find?_map, List.find?_filter, Option.map_map]
  simp only [Bool.decide_and, Bool.decide_eq_true]
  rfl

/-- Trying the kinds of a table is trying those that it lists for the first character. -/
theorem resolve_eq_kind? (hnull : ∀ r ∈ table, r.kind = .null → r.fits [] = true)
    (cs : List Char) : resolve table cs = (ofResolvers table).kind? cs := by
  rw [kind?_ofResolvers]
  cases cs with
  | cons c cs => rfl
  | nil =>
    have hfits : ∀ r ∈ table, (r.isSelectedBy none && r.candidate.fits []) = true
        ↔ r.kind = .null := by
      intro r hr
      have hnull := hnull r hr
      simp only [Resolver.isSelectedBy, Candidate.fits, Resolver.candidate, Bool.and_eq_true,
        Bool.or_eq_true, decide_eq_true_eq, and_iff_left_iff_imp]
      exact fun hkind => Or.inl (hnull hkind)
    rw [resolve, List.head?_nil]
    cases hfind : table.find? fun r => r.isSelectedBy none && r.candidate.fits [] with
    | none =>
      have hnone : ∀ r ∈ table, r.kind ≠ .null := fun r hr hkind =>
        List.find?_eq_none.mp hfind r hr ((hfits r hr).mpr hkind)
      rw [if_neg (by simpa using hnone)]
      rfl
    | some r =>
      have hr : r ∈ table := List.mem_of_find?_eq_some hfind
      have hselected := List.find?_some hfind
      have hkind : r.kind = .null := (hfits r hr).mp hselected
      rw [if_pos (List.any_eq_true.mpr ⟨r, hr, decide_eq_true hkind⟩), Option.map_some, hkind]

/-- Narrowing the resolvers of a table takes the truth values out of its lists and leaves all else
where it is. -/
theorem ofResolvers_map_narrowed (table : List Resolver) :
    ofResolvers (table.map Resolver.narrowed) = (ofResolvers table).narrowed := by
  funext first
  have hselected : Resolver.isSelectedBy first ∘ Resolver.narrowed
      = fun r => r.candidate.staysAt first && r.isSelectedBy first :=
    funext fun r => Resolver.isSelectedBy_narrowed first r
  have hcandidate : Resolver.candidate ∘ Resolver.narrowed = Resolver.candidate :=
    funext Resolver.candidate_narrowed
  rw [ofResolvers, narrowed, ofResolvers, List.filter_map, List.map_map, hselected, hcandidate,
    List.filter_map, List.filter_filter]
  rfl

theorem fits_nil_of_null : ∀ r ∈ profileResolvers, r.kind = .null → r.fits [] = true := by
  decide +kernel

/-- Profiles go by the narrowed listing. -/
theorem plainTag_eq (text : String) : plainTag text = standard.narrowed.tag text := by
  have hlisting : ofResolvers profileResolvers = standard.narrowed :=
    ofResolvers_map_narrowed standardResolvers
  rw [plainTag, resolve_eq_kind? fits_nil_of_null, hlisting]
  rfl

example : (standard (some 'n')).map Candidate.kind = [.bool, .null] ∧
    (standard.narrowed (some 'n')).map Candidate.kind = [.null] := by
  decide

end Tables

/-! ### What narrowing leaves alone -/

section Narrowed

variable {l : Listing} {cs : List Char}

theorem find?_filter_eq {α : Type} {p q : α → Bool} {as : List α}
    (h : ∀ a, as.find? p = some a → q a = true) : (as.filter q).find? p = as.find? p := by
  induction as with
  | nil => rfl
  | cons a as ih =>
    by_cases hp : p a = true
    · have hq : q a = true := h a (List.find?_cons_of_pos hp)
      rw [List.filter_cons_of_pos hq, List.find?_cons_of_pos hp, List.find?_cons_of_pos hp]
    · rw [List.find?_cons_of_neg hp] at h ⊢
      by_cases hq : q a = true
      · rw [List.filter_cons_of_pos hq, List.find?_cons_of_neg hp, ih h]
      · rw [List.filter_cons_of_neg hq, ih h]

/-- A text that is no truth value keeps its kind, whatever the lists hold. -/
theorem kind?_narrowed_of_ne (h : l.kind? cs ≠ some .bool) : l.narrowed.kind? cs = l.kind? cs := by
  rw [kind?, narrowed, find?_filter_eq, kind?]
  intro e hfind
  have hkind : e.kind ≠ .bool := by
    intro hbool
    rw [kind?, hfind, Option.map_some, hbool] at h
    exact h rfl
  simp [Candidate.staysAt, hkind]

end Narrowed

/-! ### Words -/

section Words

variable {cs : List Char}

def boolWords : List String :=
  ["yes", "Yes", "YES", "no", "No", "NO", "true", "True", "TRUE", "false", "False", "FALSE",
    "on", "On", "ON", "off", "Off", "OFF"]

def truthWords : List String :=
  ["true", "True", "TRUE", "false", "False", "FALSE"]

/-- What no form looks at behind a text. -/
def endings : List (List Char) :=
  [[], ['\n']]

theorem exists_eq_withoutFinalBreak_append (cs : List Char) :
    ∃ ending ∈ endings, cs = withoutFinalBreak cs ++ ending := by
  unfold withoutFinalBreak
  split
  next hlast =>
    obtain ⟨front, rfl⟩ := List.getLast?_eq_some_iff.mp hlast
    rw [List.dropLast_concat]
    exact ⟨['\n'], by decide, rfl⟩
  next => exact ⟨[], by decide, (List.append_nil cs).symm⟩

theorem withoutFinalBreak_word_append : ∀ word ∈ boolWords, ∀ ending ∈ endings,
    withoutFinalBreak (word.toList ++ ending) = word.toList := by
  decide +kernel

theorem mem_boolWords_of_mem_truthWords : ∀ word ∈ truthWords, word ∈ boolWords := by
  decide

theorem form_of_bool : ∀ r ∈ standardResolvers, r.kind = .bool → r.fits = Form.isBool := by
  simp [standardResolvers]

theorem exists_word_of_kind? (h : standard.kind? cs = some .bool) :
    ∃ word ∈ boolWords, ∃ ending ∈ endings, cs = word.toList ++ ending := by
  obtain ⟨e, hfind, hkind⟩ := Option.map_eq_some_iff.mp h
  obtain ⟨r, hr, rfl⟩ := List.mem_map.mp (List.mem_of_find?_eq_some hfind)
  have hform : r.fits = Form.isBool := form_of_bool r (List.mem_filter.mp hr).1 hkind
  have hword : ∀ cs', Form.isBool cs' = true → ∃ word ∈ boolWords, cs' = word.toList :=
    fun cs' hbool => ⟨String.ofList cs', List.contains_iff_mem.mp hbool, String.toList_ofList.symm⟩
  have hfits := List.find?_some hfind
  rw [Candidate.fits, Resolver.candidate, hform, Bool.or_eq_true] at hfits
  rcases hfits with hbool | hbool
  · obtain ⟨word, hmem, rfl⟩ := hword cs hbool
    exact ⟨word, hmem, [], by decide, (List.append_nil _).symm⟩
  · obtain ⟨word, hmem, heq⟩ := hword _ hbool
    obtain ⟨ending, hending, hcs⟩ := exists_eq_withoutFinalBreak_append cs
    exact ⟨word, hmem, ending, hending, heq ▸ hcs⟩

/-- A word that is no truth value any more has the form of no other kind that is listed for its
first character. -/
theorem kind?_narrowed_word_append : ∀ word ∈ boolWords, ∀ ending ∈ endings,
    standard.narrowed.kind? (word.toList ++ ending)
      = if word ∈ truthWords then some .bool else none := by
  decide +kernel

theorem kind?_narrowed_eq_bool_iff : standard.narrowed.kind? cs = some .bool
    ↔ String.ofList (withoutFinalBreak cs) ∈ truthWords := by
  constructor
  · intro h
    have hstandard : standard.kind? cs = some .bool := by
      by_contra hne
      exact hne ((kind?_narrowed_of_ne hne).symm.trans h)
    obtain ⟨word, hword, ending, hending, rfl⟩ := exists_word_of_kind? hstandard
    rw [kind?_narrowed_word_append word hword ending hending] at h
    rw [withoutFinalBreak_word_append word hword ending hending, String.ofList_toList]
    by_contra htruth
    rw [if_neg htruth] at h
    cases h
  · intro htruth
    obtain ⟨ending, hending, hcs⟩ := exists_eq_withoutFinalBreak_append cs
    have hkind := kind?_narrowed_word_append _ (mem_boolWords_of_mem_truthWords _ htruth) ending
      hending
    rwa [String.toList_ofList, ← hcs, if_pos htruth] at hkind

theorem kind?_narrowed_of_bool (h : standard.kind? cs = some .bool)
    (hne : standard.narrowed.kind? cs ≠ some .bool) : standard.narrowed.kind? cs = none := by
  obtain ⟨word, hword, ending, hending, rfl⟩ := exists_word_of_kind? h
  rw [kind?_narrowed_word_append word hword ending hending] at hne ⊢
  by_cases htruth : word ∈ truthWords
  · exact absurd (if_pos htruth) hne
  · exact if_neg htruth

end Words

section Tags

variable {l l' : Listing} {text : String}

theorem tag_eq_bool_iff : l.tag text = languageTag "bool" ↔ l.kind? text.toList = some .bool := by
  unfold tag
  cases l.kind? text.toList with
  | none => decide
  | some kind => cases kind <;> decide

theorem tag_congr (h : l.kind? text.toList = l'.kind? text.toList) : l.tag text = l'.tag text := by
  rw [tag, tag, h]

end Tags

end Listing

/-! ### The texts of plain scalars -/

/-- The texts that plain scalars have: what is read of one anywhere in a document, and the text of a
scalar that is not written at all. -/
inductive IsPlain : String → Prop
  | unwritten : IsPlain ""
  | written (inFlow : Bool) (indent : Int) (c : Cursor) :
    IsPlain (String.ofList (readPlain inFlow indent c).text)

section Plain

variable {inFlow : Bool} {indent : Int} {ch : Char}

theorem not_endsWord_of_mem_plainRun {cs : List Char} (h : ch ∈ plainRun inFlow cs) :
    endsWord (some ch) = false := by
  induction cs with
  | nil => exact absurd h List.not_mem_nil
  | cons c cs ih =>
    rw [plainRun] at h
    split at h
    next => exact absurd h List.not_mem_nil
    next hgoesOn =>
      rcases List.mem_cons.mp h with rfl | hmem
      · simp only [stopsPlain, Bool.or_eq_true, not_or, Bool.not_eq_true] at hgoesOn
        exact hgoesOn.1.1
      · exact ih hmem

/-- A plain scalar ends inside a word, since a gap is only read together with a word behind it. -/
theorem not_endsWord_of_getLast?_plainParts (fuel : Nat) (gap : List Char) (keyAllowed : Bool)
    (c : Cursor) (h : (plainParts inFlow indent fuel gap keyAllowed c).text.getLast? = some ch) :
    endsWord (some ch) = false := by
  induction fuel generalizing gap keyAllowed c with
  | zero => cases h
  | succ fuel ih =>
    rw [plainParts] at h
    dsimp only at h
    generalize hrun : (if c.first? == some '#' then [] else plainRun inFlow c.rest) = run at h
    have hword : ∀ ch ∈ run, endsWord (some ch) = false := by
      intro ch hmem
      rw [← hrun] at hmem
      split at hmem
      next => exact absurd hmem List.not_mem_nil
      next => exact not_endsWord_of_mem_plainRun hmem
    split at h
    next => cases h
    next hsome =>
      have hlast : (gap ++ run).getLast? = run.getLast? :=
        List.getLast?_append_of_ne_nil gap (by simpa using hsome)
      split at h
      next => exact hword ch (List.mem_of_getLast? (hlast ▸ h))
      next =>
        rw [List.getLast?_append, Option.or_eq_some_iff] at h
        rcases h with hmore | ⟨-, hend⟩
        · exact ih _ _ _ hmore
        · exact hword ch (List.mem_of_getLast? (hlast ▸ hend))

theorem IsPlain.withoutFinalBreak_eq {text : String} (h : IsPlain text) :
    withoutFinalBreak text.toList = text.toList := by
  cases h with
  | unwritten => rfl
  | written inFlow indent c =>
    rw [String.toList_ofList]
    refine if_neg fun hlast => ?_
    have hend : endsWord (some '\n') = false := not_endsWord_of_getLast?_plainParts _ _ _ _ hlast
    exact absurd hend (by decide)

end Plain

open Listing

/-- **Profiles take truth values out and change nothing else.** The tag of a text that is looked at
as a plain scalar comes from the standard listing, narrowed. It is that of truth values exactly for
six words, with or without a line feed behind them, and no plain scalar has a line feed there. Where
the standard listing gives that tag and the narrowed one does not, the text is a text; everywhere
else the tag is the standard one. -/
theorem profiles_narrow_truth_values_only (text : String) :
    plainTag text = standard.narrowed.tag text ∧
    (IsPlain text → (plainTag text = languageTag "bool" ↔ text ∈ truthWords)) ∧
    (plainTag text = languageTag "bool" ↔
      String.ofList (withoutFinalBreak text.toList) ∈ truthWords) ∧
    (standard.tag text = languageTag "bool" → plainTag text ≠ languageTag "bool" →
      plainTag text = languageTag "str") ∧
    (standard.tag text ≠ languageTag "bool" → plainTag text = standard.tag text) := by
  have hbool : plainTag text = languageTag "bool" ↔
      String.ofList (withoutFinalBreak text.toList) ∈ truthWords := by
    rw [plainTag_eq, tag_eq_bool_iff, kind?_narrowed_eq_bool_iff]
  refine ⟨plainTag_eq text, fun hplain => ?_, hbool, fun hstandard hne => ?_, fun hne => ?_⟩
  · rw [hbool, hplain.withoutFinalBreak_eq, String.ofList_toList]
  · rw [plainTag_eq, Ne, tag_eq_bool_iff] at hne
    rw [plainTag_eq, tag, kind?_narrowed_of_bool (tag_eq_bool_iff.mp hstandard) hne]
  · rw [plainTag_eq]
    exact tag_congr (kind?_narrowed_of_ne fun hkind => hne (tag_eq_bool_iff.mpr hkind))

theorem profiles_narrow_truth_values_only_of_no :
    IsPlain "no" ∧ plainTag "no" ≠ languageTag "bool" ∧
      standard.tag "no" = languageTag "bool" ∧ plainTag "no" = languageTag "str" ∧
      standard.tag "null" ≠ languageTag "bool" ∧ plainTag "null" = standard.tag "null" := by
  have hplain : IsPlain "no" := by
    have hread : String.ofList (readPlain false 0 (Cursor.ofText "no: x".toList)).text = "no" := by
      decide +kernel
    exact hread ▸ .written false 0 _
  have hstandard : standard.tag "no" = languageTag "bool" := by decide +kernel
  have hnull : standard.tag "null" ≠ languageTag "bool" := by decide +kernel
  obtain ⟨-, hbool, -, hstr, -⟩ := profiles_narrow_truth_values_only "no"
  obtain ⟨-, -, -, -, hsame⟩ := profiles_narrow_truth_values_only "null"
  have hne : plainTag "no" ≠ languageTag "bool" := fun h =>
    absurd ((hbool hplain).mp h) (by decide)
  exact ⟨hplain, hne, hstandard, hstr hstandard hne, hnull, hsame hnull⟩

end RichTemplate.Yaml
