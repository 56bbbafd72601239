import RichTemplate.Proofs.Cutting

/-!
# Replacing what tags enclose

The text between a pair of matched tags can be replaced by any that holds no line break and no
opening of a close tag, and the scan stays as it was but for that text. A tag left open in front
cannot be closed in the new text, and behind it it would have been closed before. The only angle
bracket at which a close tag could begin anew is that of the pair's own, which was there all along.
-/

namespace RichTemplate

namespace Markup

def openTag (name : List Char) : List Char :=
  '<' :: name ++ ['>']

theorem source_tag (name content : String) :
    (tag name content).source
      = openTag name.toList ++ content.toList ++ closeTag name.toList := by
  simp [source, openTag]

section Closing

variable {y u v : List Char}

/-- An angle bracket divides a text: a close tag ends before it, or begins there or behind. -/
theorem closedBy_append_iff (hy : '<' ∉ y) :
    ClosedBy y (u ++ '<' :: v) ↔ ClosedBy y u ∨ '\n' ∉ u ∧ ClosedBy y ('<' :: v) := by
  constructor
  · rintro ⟨text, rest, heq, hline⟩
    rw [List.append_assoc] at heq
    rcases List.append_eq_append_iff.mp heq with ⟨more, hmore, htail⟩ | ⟨more, hmore, htail⟩
    · rw [hmore, List.mem_append, not_or] at hline
      exact Or.inr ⟨hline.1, more, rest, by rw [htail, List.append_assoc], hline.2⟩
    · by_cases hnil : more = []
      · subst hnil
        rw [List.append_nil] at hmore
        exact Or.inr ⟨hmore ▸ hline, [], rest, htail.symm, List.not_mem_nil⟩
      · obtain ⟨x, hx⟩ := closeTag_isPrefix_of_append hy hnil ⟨rest, htail⟩
        exact Or.inl ⟨text, x, by rw [hmore, ← hx, List.append_assoc], hline⟩
  · rintro (⟨text, rest, rfl, hline⟩ | ⟨hu, text, rest, heq, hline⟩)
    · exact ⟨text, rest ++ '<' :: v, by simp, hline⟩
    · refine ⟨u ++ text, rest, by rw [heq]; simp, ?_⟩
      rw [List.mem_append, not_or]
      exact ⟨hu, hline⟩

theorem ClosedBy.opening_isInfix (h : ClosedBy y u) : ['<', '/'] <:+: u := by
  obtain ⟨text, rest, rfl, -⟩ := h
  exact ⟨text, y ++ ['>'] ++ rest, by simp [closeTag]⟩

theorem infix_of_infix_append {w : List Char} (hw : '<' ∉ w) (h : ['<', '/'] <:+: w ++ u) :
    ['<', '/'] <:+: u := by
  induction w with
  | nil => exact h
  | cons c cs ih =>
    obtain ⟨hc, hcs⟩ := List.ne_and_not_mem_of_not_mem_cons hw
    rcases List.infix_cons_iff.mp h with hfront | hinfix
    · exact absurd (List.cons_prefix_cons.mp hfront).1 hc
    · exact ih hcs hinfix

theorem not_closedBy_openTag_append {name : String} (hname : isWord name = true)
    (hu : ¬ ['<', '/'] <:+: u) : ¬ ClosedBy y (openTag name.toList ++ u) := by
  intro hclosed
  have hlt : '<' ∉ name.toList ++ ['>'] := by
    simpa using notMem_of_isWord hname (by decide)
  rcases List.infix_cons_iff.mp hclosed.opening_isInfix with hfront | hinfix
  · obtain ⟨c, cs, hcs, -⟩ := exists_toList_eq_cons_of_isWord hname
    have hslash : '/' = c := by
      have hrest := (List.cons_prefix_cons.mp hfront).2
      simp only [hcs] at hrest
      exact (List.cons_prefix_cons.mp hrest).1
    have hword := isWordChar_of_isWord hname c (hcs ▸ List.mem_cons_self)
    rw [← hslash] at hword
    exact absurd hword (by decide)
  · exact hu (infix_of_infix_append hlt hinfix)

theorem ClosedBy.replace {name content content' : String} (hy : '<' ∉ y)
    (hm : (tag name content).WellFormed) (hfree : ¬ ['<', '/'] <:+: content'.toList)
    (h : ClosedBy y (u ++ (tag name content').source ++ v)) :
    ClosedBy y (u ++ (tag name content).source ++ v) := by
  -- a pair of tags between `u` and `v`, cut at its two angle brackets
  have hcut : ∀ text : String, u ++ (tag name text).source ++ v
      = u ++ '<' :: (name.toList ++ ['>'] ++ text.toList ++ closeTag name.toList ++ v) := by
    simp [source]
  have hinner : ∀ text : String,
      '<' :: (name.toList ++ ['>'] ++ text.toList ++ closeTag name.toList ++ v)
        = openTag name.toList ++ text.toList ++ '<' :: ('/' :: name.toList ++ ['>'] ++ v) := by
    simp [openTag, closeTag]
  rw [hcut, closedBy_append_iff hy, hinner, closedBy_append_iff hy] at h ⊢
  rcases h with hfront | ⟨hu, hopen | ⟨-, hbehind⟩⟩
  · exact Or.inl hfront
  · exact absurd hopen (not_closedBy_openTag_append hm.1 hfree)
  · refine Or.inr ⟨hu, Or.inr ⟨?_, hbehind⟩⟩
    have hword : '\n' ∉ name.toList := notMem_of_isWord hm.1 (by decide)
    simp [openTag, hword, hm.2.1]

end Closing

theorem lt_notMem_source_placeholder {name : String} (hname : isWord name = true) :
    '<' ∉ (placeholder name).source := by
  have hword : '<' ∉ name.toList := notMem_of_isWord hname (by decide)
  simp [source, hword]

theorem exists_openTag_append {y u v : List Char} (hy : '<' ∉ y) (hu : u ≠ [])
    (h : openTag y <+: u ++ '<' :: v) : ∃ rest, u = openTag y ++ rest := by
  cases u with
  | nil => exact absurd rfl hu
  | cons c cs =>
    obtain ⟨hc, htail⟩ := List.cons_prefix_cons.mp h
    have hlt : '<' ∉ y ++ ['>'] := by simpa using hy
    obtain ⟨rest, hrest⟩ := isPrefix_of_notMem hlt htail
    exact ⟨rest, by rw [openTag, List.cons_append, List.cons_append, hrest, hc]⟩

end Markup

section Replaced

open Markup

variable {pre post : List Char} {name content content' : String}

/-- What begins in front of a pair of tags with new content begins something with the old. -/
theorem Match.OccursIn.exists_of_replace {x : Match} (hm : (tag name content).WellFormed)
    (hfree : ¬ ['<', '/'] <:+: content'.toList)
    (hx : x.OccursIn (pre ++ (tag name content').source ++ post)) (hstart : x.start < pre.length) :
    ∃ x' : Match, x'.OccursIn (pre ++ (tag name content).source ++ post) ∧
      x'.start = x.start := by
  obtain ⟨⟨y, c⟩ | y, start⟩ := x
  · obtain ⟨⟨hy, hline, -⟩, hsource⟩ := hx
    have hlt : '<' ∉ y.toList := notMem_of_isWord hy (by decide)
    have hle : start ≤ pre.length := Nat.le_of_lt hstart
    have hne : pre.drop start ≠ [] := by simpa using hstart
    rw [List.append_assoc, List.drop_append_of_le_length hle, source_tag] at hsource
    obtain ⟨q, hq⟩ : ∃ q, pre.drop start = openTag y.toList ++ q := by
      refine exists_openTag_append hlt hne (List.IsPrefix.trans ?_ hsource)
      rw [List.append_assoc]
      exact List.prefix_append _ _
    -- behind the open tag the name is closed with the new content, hence with the old
    have hclosed : ClosedBy y.toList (q ++ (tag name content').source ++ post) := by
      rw [hq] at hsource
      simp only [List.append_assoc, List.prefix_append_right_inj] at hsource
      obtain ⟨rest, hrest⟩ := hsource
      exact ⟨c.toList, rest, by simpa using hrest.symm, hline⟩
    obtain ⟨text, rest, heq, hclean, hfirst⟩ := (hclosed.replace hlt hm hfree).exists_first
    refine ⟨⟨tag y (String.ofList text), start⟩, ⟨⟨hy, ?_, ?_⟩, rest, ?_⟩, rfl⟩
    · rwa [String.toList_ofList]
    · rwa [String.toList_ofList]
    · rw [List.append_assoc, List.drop_append_of_le_length hle, hq, source_tag,
        String.toList_ofList]
      simp only [List.append_assoc] at heq ⊢
      rw [heq]
  · obtain ⟨hy, hsource⟩ := hx
    have hle : start ≤ pre.length := Nat.le_of_lt hstart
    rw [List.append_assoc, List.drop_append_of_le_length hle] at hsource
    have hpre : Match.OccursIn ⟨placeholder y, start⟩ pre :=
      ⟨hy, isPrefix_of_notMem (lt_notMem_source_placeholder hy) hsource⟩
    rw [List.append_assoc]
    exact ⟨_, hpre.append _, rfl⟩

end Replaced

def Match.around (pre : List Char) (before after : List Match) (m : Markup) : List Match :=
  before ++ ⟨m, pre.length⟩ :: after.map (shift (pre.length + m.source.length))

section Around

open Markup

variable {pre post : List Char} {before after ms : List Match} {m : Markup}

theorem around_eq_append_map_shift :
    Match.around pre before after m
      = before ++ (⟨m, 0⟩ :: after.map (Match.shift m.source.length)).map
          (Match.shift pre.length) := by
  rw [Match.around, List.map_cons, List.map_map]
  congr 2
  refine List.map_congr_left fun x _ => ?_
  simp [Match.shift, Nat.add_assoc]

theorem isScan_source (hm : m.WellFormed) : IsScan m.source [⟨m, 0⟩] := by
  refine ⟨?_, List.pairwise_singleton _ _, fun x hx => ?_⟩
  · simpa [Match.OccursIn] using hm
  · refine ⟨_, List.mem_cons_self, Nat.zero_le _, ?_⟩
    rw [Match.stop, Nat.zero_add]
    exact x.start_lt_stop.trans_le hx.stop_le

theorem IsScan.source_append (hm : m.WellFormed) (h : IsScan post after) :
    IsScan (m.source ++ post) (⟨m, 0⟩ :: after.map (Match.shift m.source.length)) := by
  refine (isScan_source hm).append h fun x _ hx => ?_
  refine ⟨_, List.mem_cons_self, Nat.zero_le _, ?_⟩
  rwa [Match.stop, Nat.zero_add]

theorem IsScan.exists_around (h : IsScan (pre ++ m.source ++ post) ms)
    (hmem : ⟨m, pre.length⟩ ∈ ms) :
    ∃ before after, IsScan pre before ∧ IsScan post after ∧
      ms = Match.around pre before after m := by
  rw [List.append_assoc] at h
  obtain ⟨before, second, hbefore, hsecond, rfl⟩ := h.cut (h.noneOver_start hmem)
  have hpost : IsScan post (scan (String.ofList post)) := by
    simpa using isScan_scan (String.ofList post)
  refine ⟨before, _, hbefore, hpost, ?_⟩
  rw [around_eq_append_map_shift, hsecond.eq (hpost.source_append (h.occurs _ hmem).1)]

theorem IsScan.replace {name content content' : String} (hbefore : IsScan pre before)
    (hafter : IsScan post after) (hm : (tag name content).WellFormed)
    (h : IsScan (pre ++ (tag name content).source ++ post)
      (Match.around pre before after (tag name content)))
    (hline : '\n' ∉ content'.toList) (hfree : ¬ ['<', '/'] <:+: content'.toList) :
    IsScan (pre ++ (tag name content').source ++ post)
      (Match.around pre before after (tag name content')) := by
  have hm' : (tag name content').WellFormed :=
    ⟨hm.1, hline, fun hinfix => hfree (List.IsInfix.trans ⟨[], name.toList ++ ['>'], rfl⟩ hinfix)⟩
  rw [List.append_assoc, around_eq_append_map_shift]
  refine hbefore.append (hafter.source_append hm') fun x hx hstart => ?_
  rw [← List.append_assoc] at hx
  obtain ⟨x', hx', heq⟩ := hx.exists_of_replace hm hfree hstart
  obtain ⟨y, hy, hle, hlt⟩ := h.covers x' hx'
  rw [heq] at hle hlt
  rcases List.mem_append.mp hy with hy | hy
  · exact ⟨y, hy, hle, hlt⟩
  · rcases List.mem_cons.mp hy with rfl | hy
    · exact absurd hstart (Nat.not_lt.mpr hle)
    · obtain ⟨z, -, rfl⟩ := List.mem_map.mp hy
      rw [Match.shift_start] at hle
      omega

end Around

end RichTemplate
