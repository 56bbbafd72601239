import RichTemplate.Markup.Basic
import Mathlib.Data.List.Infix

/-!
# Reading exactly what is spelled

Markup is read off the front of a text if and only if the text begins with its spelling. A close tag
opens with the only angle bracket that faces right in it, so it cannot overlap itself, and the first
close tag on the line is the one that a spelling ends with.
-/

namespace RichTemplate

theorem isPrefix_of_notMem {front text rest : List Char} {d : Char} (hd : d ∉ front)
    (h : front <+: text ++ d :: rest) : front <+: text := by
  induction front generalizing text with
  | nil => exact List.nil_prefix
  | cons c cs ih =>
    cases text with
    | nil =>
      have hcd : c = d := (List.cons_prefix_cons.mp h).1
      exact absurd (hcd ▸ List.mem_cons_self) hd
    | cons t ts =>
      obtain ⟨hct, hcs⟩ := List.cons_prefix_cons.mp h
      rw [hct]
      exact (List.prefix_cons_inj t).mpr (ih (fun hmem => hd (List.mem_cons_of_mem c hmem)) hcs)

section Words

variable {name cs : List Char} {d : Char}

theorem wordRun_append (hname : ∀ c ∈ name, isWordChar c = true) (hd : isWordChar d = false) :
    wordRun (name ++ d :: cs) = name := by
  rw [wordRun, List.takeWhile_append_of_pos hname]
  simp [hd]

theorem afterWord_append (hname : ∀ c ∈ name, isWordChar c = true) (hd : isWordChar d = false) :
    afterWord (name ++ d :: cs) = d :: cs := by
  rw [afterWord, List.dropWhile_append_of_pos hname]
  simp [hd]

theorem isWord_ofList (hne : name ≠ []) (hname : ∀ c ∈ name, isWordChar c = true) :
    isWord (String.ofList name) = true := by
  simpa [isWord, hne] using hname

theorem isWordChar_of_isWord {name : String} (h : isWord name = true) :
    ∀ c ∈ name.toList, isWordChar c = true := by
  have hall : name.toList.all isWordChar = true := (Bool.and_eq_true_iff.mp h).2
  exact List.all_eq_true.mp hall

theorem toList_ne_nil_of_isWord {name : String} (h : isWord name = true) : name.toList ≠ [] := by
  have hsome : (!name.toList.isEmpty) = true := (Bool.and_eq_true_iff.mp h).1
  simpa using hsome

theorem exists_toList_eq_cons_of_isWord {name : String} (h : isWord name = true) :
    ∃ c cs, name.toList = c :: cs ∧ String.ofList (c :: cs) = name := by
  obtain ⟨c, cs, hcs⟩ := List.exists_cons_of_ne_nil (toList_ne_nil_of_isWord h)
  exact ⟨c, cs, hcs, by rw [← hcs, String.ofList_toList]⟩

theorem notMem_of_isWord {name : String} (h : isWord name = true) (hd : isWordChar d = false) :
    d ∉ name.toList := by
  intro hmem
  have := isWordChar_of_isWord h d hmem
  rw [hd] at this
  exact Bool.noConfusion this

end Words

namespace Markup

/-- Markup that a template can spell: the name is a word, and a text between tags stays on one line
and does not hold the close tag. -/
def WellFormed : Markup → Prop
  | tag name content =>
    isWord name = true ∧ '\n' ∉ content.toList ∧ ¬ closeTag name.toList <:+: content.toList
  | placeholder name => isWord name = true

theorem afterFront?_append (front rest : List Char) :
    afterFront? front (front ++ rest) = some rest := by
  induction front with
  | nil => rfl
  | cons p ps ih => simpa [afterFront?] using ih

theorem afterFront?_eq_none {front cs : List Char} (h : ¬ front <+: cs) :
    afterFront? front cs = none := by
  cases hfront : afterFront? front cs with
  | none => rfl
  | some rest => exact absurd ⟨rest, (eq_append_of_afterFront? hfront).symm⟩ h

section CloseTag

variable {name text rest : List Char}

theorem lt_notMem_tail_closeTag (hname : '<' ∉ name) : '<' ∉ (closeTag name).tail := by
  simpa [closeTag] using hname

/-- A close tag does not overlap what begins with an angle bracket. -/
theorem closeTag_isPrefix_of_append (hname : '<' ∉ name) (htext : text ≠ [])
    (h : closeTag name <+: text ++ '<' :: rest) : closeTag name <+: text := by
  cases text with
  | nil => exact absurd rfl htext
  | cons t ts =>
    obtain ⟨ht, htail⟩ := List.cons_prefix_cons.mp h
    have hts : '/' :: name ++ ['>'] <+: ts :=
      isPrefix_of_notMem (lt_notMem_tail_closeTag hname) htail
    rw [← ht]
    exact (List.prefix_cons_inj '<').mpr hts

theorem before?_append (hname : '<' ∉ name) (hline : '\n' ∉ text)
    (hfree : ¬ closeTag name <:+: text) :
    before? (closeTag name) (text ++ closeTag name ++ rest) = some (text, rest) := by
  induction text with
  | nil =>
    have hfront := afterFront?_append (closeTag name) rest
    simp only [closeTag, List.cons_append, List.nil_append] at hfront ⊢
    simp only [before?, hfront]
  | cons t ts ih =>
    have hnone : afterFront? (closeTag name) (t :: ts ++ closeTag name ++ rest) = none := by
      refine afterFront?_eq_none fun hfront => hfree ?_
      rw [List.append_assoc] at hfront
      exact (closeTag_isPrefix_of_append hname (List.cons_ne_nil t ts) hfront).isInfix
    have hrest : before? (closeTag name) (ts ++ closeTag name ++ rest) = some (ts, rest) := by
      refine ih (fun hmem => hline (List.mem_cons_of_mem t hmem)) fun hinfix => hfree ?_
      exact List.infix_cons hinfix
    have ht : t ≠ '\n' := fun heq => hline (heq ▸ List.mem_cons_self)
    simp only [List.cons_append] at hnone ⊢
    simp only [before?, hnone, ht, if_false, hrest, Option.map_some]

theorem newline_notMem_and_not_infix_of_before? {stop cs : List Char} (hstop : stop ≠ [])
    (h : before? stop cs = some (text, rest)) : '\n' ∉ text ∧ ¬ stop <:+: text := by
  induction cs generalizing text rest with
  | nil => simp [before?] at h
  | cons c cs ih =>
    simp only [before?] at h
    split at h
    next found hfound =>
      obtain ⟨rfl, rfl⟩ : [] = text ∧ found = rest := by simpa using h
      exact ⟨List.not_mem_nil, by simpa using hstop⟩
    next hnone =>
      split at h
      · simp at h
      next hc =>
        obtain ⟨⟨t, r⟩, hrest, heq⟩ := Option.map_eq_some_iff.mp h
        obtain ⟨rfl, rfl⟩ : c :: t = text ∧ r = rest := by simpa using heq
        obtain ⟨hline, hfree⟩ := ih hrest
        refine ⟨by simp [Ne.symm hc, hline], fun hinfix => ?_⟩
        rcases List.infix_cons_iff.mp hinfix with hfront | hinfix
        · obtain ⟨more, hmore⟩ := hfront
          have hcs : c :: cs = stop ++ (more ++ (stop ++ r)) := by
            rw [eq_append_of_before? hrest, ← List.append_assoc, hmore]
            simp
          rw [hcs, afterFront?_append] at hnone
          exact Option.some_ne_none _ hnone
        · exact hfree hinfix

/-- A text whose first line holds the close tag of a name. -/
def ClosedBy (name cs : List Char) : Prop :=
  ∃ text rest, cs = text ++ closeTag name ++ rest ∧ '\n' ∉ text

theorem ClosedBy.exists_first {cs : List Char} (h : ClosedBy name cs) :
    ∃ text rest, cs = text ++ closeTag name ++ rest ∧ '\n' ∉ text ∧
      ¬ closeTag name <:+: text := by
  obtain ⟨text, rest, rfl, hline⟩ := h
  induction text with
  | nil => exact ⟨[], rest, rfl, hline, by simp [closeTag]⟩
  | cons t ts ih =>
    by_cases hfront : closeTag name <+: t :: ts ++ closeTag name ++ rest
    · obtain ⟨more, hmore⟩ := hfront
      exact ⟨[], more, by simpa using hmore.symm, List.not_mem_nil, by simp [closeTag]⟩
    · obtain ⟨ht, hts⟩ := List.ne_and_not_mem_of_not_mem_cons hline
      obtain ⟨text, more, heq, hclean, hfree⟩ := ih hts
      refine ⟨t :: text, more, by simp [← heq], by simp [ht, hclean], fun hinfix => ?_⟩
      rcases List.infix_cons_iff.mp hinfix with hopen | hinfix
      · apply hfront
        have : t :: text <+: t :: ts ++ closeTag name ++ rest := by
          refine ⟨closeTag name ++ more, ?_⟩
          simpa using heq.symm
        exact hopen.trans this
      · exact hfree hinfix

end CloseTag

theorem wellFormed_of_readTag? {cs rest : List Char} {m : Markup}
    (h : readTag? cs = some (m, rest)) : m.WellFormed := by
  unfold readTag? at h
  split at h
  · simp at h
  next body hbody hne =>
    obtain ⟨⟨content, r⟩, hrest, heq⟩ := Option.map_eq_some_iff.mp h
    obtain ⟨rfl, rfl⟩ := Prod.mk.inj heq
    have hname : wordRun cs ≠ [] := fun hnil => hne hnil
    obtain ⟨hline, hfree⟩ :=
      newline_notMem_and_not_infix_of_before? (List.cons_ne_nil _ _) hrest
    refine ⟨isWord_ofList hname fun c => isWordChar_of_mem_wordRun, ?_, ?_⟩
    · rwa [String.toList_ofList]
    · rwa [String.toList_ofList, String.toList_ofList]
  · simp at h

theorem wellFormed_of_readPlaceholder? {cs rest : List Char} {m : Markup}
    (h : readPlaceholder? cs = some (m, rest)) : m.WellFormed := by
  unfold readPlaceholder? at h
  split at h
  · simp at h
  next r hbody hne =>
    obtain ⟨rfl, rfl⟩ := Prod.mk.inj (Option.some.inj h)
    have hname : wordRun cs ≠ [] := fun hnil => hne hnil
    exact isWord_ofList hname fun c => isWordChar_of_mem_wordRun
  · simp at h

theorem wellFormed_of_read? {cs rest : List Char} {m : Markup} (h : read? cs = some (m, rest)) :
    m.WellFormed := by
  unfold read? at h
  split at h
  · exact wellFormed_of_readTag? h
  · exact wellFormed_of_readPlaceholder? h
  · simp at h

theorem readTag?_append {name : String} (hname : isWord name = true) (body : List Char) :
    readTag? (name.toList ++ '>' :: body)
      = (before? (closeTag name.toList) body).map fun (content, rest) =>
          (tag name (String.ofList content), rest) := by
  have hrun : wordRun (name.toList ++ '>' :: body) = name.toList :=
    wordRun_append (isWordChar_of_isWord hname) (by decide)
  have hafter : afterWord (name.toList ++ '>' :: body) = '>' :: body :=
    afterWord_append (isWordChar_of_isWord hname) (by decide)
  obtain ⟨c, cs, hcs, hback⟩ := exists_toList_eq_cons_of_isWord hname
  rw [readTag?, hrun, hafter, hcs]
  simp only [hback]

theorem readPlaceholder?_append {name : String} (hname : isWord name = true) (rest : List Char) :
    readPlaceholder? (name.toList ++ '}' :: '}' :: rest) = some (placeholder name, rest) := by
  have hrun : wordRun (name.toList ++ '}' :: '}' :: rest) = name.toList :=
    wordRun_append (isWordChar_of_isWord hname) (by decide)
  have hafter : afterWord (name.toList ++ '}' :: '}' :: rest) = '}' :: '}' :: rest :=
    afterWord_append (isWordChar_of_isWord hname) (by decide)
  obtain ⟨c, cs, hcs, hback⟩ := exists_toList_eq_cons_of_isWord hname
  rw [readPlaceholder?, hrun, hafter, hcs]
  simp only [hback]

theorem read?_source_append {m : Markup} (h : m.WellFormed) (rest : List Char) :
    read? (m.source ++ rest) = some (m, rest) := by
  cases m with
  | tag name content =>
    obtain ⟨hname, hline, hfree⟩ := h
    have hclose : before? (closeTag name.toList) (content.toList ++ closeTag name.toList ++ rest)
        = some (content.toList, rest) :=
      before?_append (notMem_of_isWord hname (by decide)) hline hfree
    have hsource : (tag name content).source ++ rest
        = '<' :: (name.toList ++ '>' :: (content.toList ++ closeTag name.toList ++ rest)) := by
      simp [source]
    rw [hsource, read?, readTag?_append hname, hclose]
    simp
  | placeholder name =>
    have hsource : (placeholder name).source ++ rest
        = '{' :: '{' :: (name.toList ++ '}' :: '}' :: rest) := by
      simp [source]
    rw [hsource, read?, readPlaceholder?_append h]

/-- **Reading is exact.** Markup is read off a text if and only if it is well formed and the text
begins with its spelling. -/
theorem read?_eq_some_iff {cs rest : List Char} {m : Markup} :
    read? cs = some (m, rest) ↔ m.WellFormed ∧ cs = m.source ++ rest := by
  constructor
  · intro h
    exact ⟨wellFormed_of_read? h, eq_source_append_of_read? h⟩
  · rintro ⟨hm, rfl⟩
    exact read?_source_append hm rest

end Markup

end RichTemplate
