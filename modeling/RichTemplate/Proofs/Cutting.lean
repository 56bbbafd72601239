import RichTemplate.Proofs.Scanning

/-!
# Cutting templates

A template may be cut in two and the parts scanned apart, as long as the cut goes through no match.
The matches on either side are then all that each part holds: an occurrence in a part is one in the
whole, so some match of the whole begins no later, and it cannot reach over the cut.
-/

namespace RichTemplate

section Parts

variable {u v cs : List Char} {ms ms' : List Match}

def NoneOver (offset : Nat) (ms : List Match) : Prop :=
  ∀ m ∈ ms, m.stop ≤ offset ∨ offset ≤ m.start

theorem noneOver_iff {offset : Nat} :
    NoneOver offset ms ↔ ¬ ∃ m ∈ ms, m.start < offset ∧ offset < m.stop := by
  rw [not_exists]
  refine forall_congr' fun m => ?_
  rw [not_and]
  exact imp_congr_right fun _ => by omega

theorem IsScan.noneOver_start (h : IsScan cs ms) {m : Match} (hm : m ∈ ms) :
    NoneOver m.start ms := by
  obtain ⟨before, after, rfl⟩ := List.append_of_mem hm
  obtain ⟨-, hafter, hacross⟩ := List.pairwise_append.mp h.apart
  intro x hx
  rcases List.mem_append.mp hx with hx | hx
  · exact Or.inl (hacross x hx m List.mem_cons_self)
  · rcases List.mem_cons.mp hx with rfl | hx
    · exact Or.inr le_rfl
    · have hle := (List.pairwise_cons.mp hafter).1 x hx
      exact Or.inr ((Nat.le_of_lt m.start_lt_stop).trans hle)

theorem IsScan.before_cut (h : IsScan (u ++ v) ms) (hcut : NoneOver u.length ms) :
    IsScan u (ms.filter fun m => m.stop ≤ u.length) where
  occurs m hm := by
    obtain ⟨hmem, hstop⟩ := List.mem_filter.mp hm
    exact (h.occurs m hmem).of_append (of_decide_eq_true hstop)
  apart := h.apart.filter _
  covers m hm := by
    obtain ⟨x, hx, hle, hlt⟩ := h.covers m (hm.append v)
    have hstart : m.start < u.length := m.start_lt_stop.trans_le hm.stop_le
    have hstop : x.stop ≤ u.length := (hcut x hx).resolve_right (by omega)
    exact ⟨x, List.mem_filter.mpr ⟨hx, decide_eq_true hstop⟩, hle, hlt⟩

theorem exists_map_shift {n : Nat} (h : ∀ m ∈ ms, n ≤ m.start) :
    ∃ ms' : List Match, ms = ms'.map (Match.shift n) := by
  induction ms with
  | nil => exact ⟨[], rfl⟩
  | cons m ms ih =>
    obtain ⟨m', hm'⟩ := Match.exists_shift_of_le_start (h m List.mem_cons_self)
    obtain ⟨ms', hms'⟩ := ih fun x hx => h x (List.mem_cons_of_mem m hx)
    exact ⟨m' :: ms', by rw [List.map_cons, ← hm', ← hms']⟩

theorem IsScan.after_cut (h : IsScan (u ++ v) ms) (hcut : NoneOver u.length ms)
    (hms' : ms.filter (fun m => u.length ≤ m.start) = ms'.map (Match.shift u.length)) :
    IsScan v ms' where
  occurs m hm := by
    have hshift : m.shift u.length ∈ ms.filter fun m => u.length ≤ m.start :=
      hms' ▸ List.mem_map_of_mem hm
    exact Match.shift_occursIn_append.mp (h.occurs _ (List.mem_of_mem_filter hshift))
  apart := by
    have hapart := h.apart.filter fun m => decide (u.length ≤ m.start)
    rw [hms', List.pairwise_map] at hapart
    refine hapart.imp fun hle => ?_
    simpa using hle
  covers m hm := by
    obtain ⟨x, hx, hle, hlt⟩ := h.covers _ (Match.shift_occursIn_append.mpr hm)
    rw [Match.shift_start] at hle hlt
    have hstart : u.length ≤ x.start := (hcut x hx).resolve_left (by omega)
    have hmem : x ∈ ms'.map (Match.shift u.length) :=
      hms' ▸ List.mem_filter.mpr ⟨hx, decide_eq_true hstart⟩
    obtain ⟨y, hy, rfl⟩ := List.mem_map.mp hmem
    rw [Match.shift_start] at hle
    rw [Match.shift_stop] at hlt
    exact ⟨y, hy, by omega, by omega⟩

theorem IsScan.filter_append_filter (h : IsScan cs ms) {offset : Nat}
    (hcut : NoneOver offset ms) :
    ms = ms.filter (fun m => m.stop ≤ offset) ++ ms.filter fun m => offset ≤ m.start := by
  refine h.eq ⟨?_, ?_, ?_⟩
  · intro m hm
    rcases List.mem_append.mp hm with hm | hm
    · exact h.occurs m (List.mem_of_mem_filter hm)
    · exact h.occurs m (List.mem_of_mem_filter hm)
  · refine List.pairwise_append.mpr ⟨h.apart.filter _, h.apart.filter _, ?_⟩
    intro m hm m' hm'
    have hstop := of_decide_eq_true (List.mem_filter.mp hm).2
    have hstart := of_decide_eq_true (List.mem_filter.mp hm').2
    exact hstop.trans hstart
  · intro m hm
    obtain ⟨x, hx, hcover⟩ := h.covers m hm
    refine ⟨x, List.mem_append.mpr ?_, hcover⟩
    rcases hcut x hx with hstop | hstart
    · exact Or.inl (List.mem_filter.mpr ⟨hx, decide_eq_true hstop⟩)
    · exact Or.inr (List.mem_filter.mpr ⟨hx, decide_eq_true hstart⟩)

/-- A scan that a cut does not go through is the scans of the two parts. -/
theorem IsScan.cut (h : IsScan (u ++ v) ms) (hcut : NoneOver u.length ms) :
    ∃ first second, IsScan u first ∧ IsScan v second ∧
      ms = first ++ second.map (Match.shift u.length) := by
  have hstart : ∀ m ∈ ms.filter (fun m => u.length ≤ m.start), u.length ≤ m.start :=
    fun m hm => of_decide_eq_true (List.mem_filter.mp hm).2
  obtain ⟨second, hsecond⟩ := exists_map_shift hstart
  refine ⟨_, second, h.before_cut hcut, h.after_cut hcut hsecond, ?_⟩
  rw [← hsecond]
  exact h.filter_append_filter hcut

/-- Scans of two parts are a scan of the whole if no more begins in the first part than its matches
cover: what begins there may still end behind the cut. -/
theorem IsScan.append (hu : IsScan u ms) (hv : IsScan v ms')
    (hcovers : ∀ m : Match, m.OccursIn (u ++ v) → m.start < u.length →
      ∃ m' ∈ ms, m'.start ≤ m.start ∧ m.start < m'.stop) :
    IsScan (u ++ v) (ms ++ ms'.map (Match.shift u.length)) := by
  refine ⟨?_, ?_, ?_⟩
  · intro m hm
    rcases List.mem_append.mp hm with hm | hm
    · exact (hu.occurs m hm).append v
    · obtain ⟨x, hx, rfl⟩ := List.mem_map.mp hm
      exact Match.shift_occursIn_append.mpr (hv.occurs x hx)
  · refine List.pairwise_append.mpr ⟨hu.apart, ?_, ?_⟩
    · refine List.pairwise_map.mpr (hv.apart.imp fun hle => ?_)
      simpa using hle
    · intro m hm m' hm'
      obtain ⟨x, -, rfl⟩ := List.mem_map.mp hm'
      exact (hu.occurs m hm).stop_le.trans (Nat.le_add_right _ _)
  · intro m hm
    by_cases hstart : m.start < u.length
    · obtain ⟨x, hx, hcover⟩ := hcovers m hm hstart
      exact ⟨x, List.mem_append_left _ hx, hcover⟩
    · obtain ⟨m, rfl⟩ := Match.exists_shift_of_le_start (Nat.le_of_not_lt hstart)
      obtain ⟨x, hx, hle, hlt⟩ := hv.covers m (Match.shift_occursIn_append.mp hm)
      refine ⟨x.shift u.length, List.mem_append_right _ (List.mem_map_of_mem hx), ?_, ?_⟩
      · simpa using hle
      · simpa using hlt

theorem IsScan.noneOver_append (hu : IsScan u ms) :
    NoneOver u.length (ms ++ ms'.map (Match.shift u.length)) := by
  intro m hm
  rcases List.mem_append.mp hm with hm | hm
  · exact Or.inl (hu.occurs m hm).stop_le
  · obtain ⟨x, -, rfl⟩ := List.mem_map.mp hm
    exact Or.inr (Nat.le_add_right _ _)

end Parts

theorem Markup.newline_notMem_source {m : Markup} (h : m.WellFormed) : '\n' ∉ m.source := by
  cases m with
  | tag name content =>
    obtain ⟨hname, hline, -⟩ := h
    have hword : '\n' ∉ name.toList := notMem_of_isWord hname (by decide)
    simp [source, closeTag, hword, hline]
  | placeholder name =>
    have hword : '\n' ∉ name.toList := notMem_of_isWord h (by decide)
    simp [source, hword]

theorem Match.OccursIn.ne_newline {m : Match} {cs : List Char} (h : m.OccursIn cs) {i : Nat}
    (hstart : m.start ≤ i) (hstop : i < m.stop) : cs[i]? ≠ some '\n' := by
  intro hnewline
  obtain ⟨hm, rest, hrest⟩ := h
  have hlt : i - m.start < m.markup.source.length := by
    rw [stop] at hstop
    omega
  have hi : m.markup.source[i - m.start]? = some '\n' := by
    calc m.markup.source[i - m.start]?
        = (m.markup.source ++ rest)[i - m.start]? := (List.getElem?_append_left hlt).symm
      _ = cs[i]? := by rw [hrest, List.getElem?_drop, Nat.add_sub_cancel' hstart]
      _ = some '\n' := hnewline
  exact Markup.newline_notMem_source hm (List.mem_of_getElem? hi)

/-- **Templates may be cut wherever no match is cut.** The scan of a text in two parts is the scans
of the parts, that of the second moved behind the first, if and only if no match lies across the
cut. At a line break none does. -/
theorem scan_append_iff (u v : String) :
    (scan (u ++ v) = scan u ++ (scan v).map (Match.shift u.length) ↔
      ¬ ∃ m ∈ scan (u ++ v), m.start < u.length ∧ u.length < m.stop) ∧
    (['\n'] <:+ u.toList ∨ ['\n'] <+: v.toList →
      scan (u ++ v) = scan u ++ (scan v).map (Match.shift u.length)) := by
  have hscan : IsScan (u.toList ++ v.toList) (scan (u ++ v)) := by
    rw [← String.toList_append]
    exact isScan_scan (u ++ v)
  have hlength : u.toList.length = u.length := String.length_toList
  have hiff : scan (u ++ v) = scan u ++ (scan v).map (Match.shift u.length) ↔
      NoneOver u.length (scan (u ++ v)) := by
    rw [← hlength]
    constructor
    · intro heq
      rw [heq]
      exact (isScan_scan u).noneOver_append
    · intro hcut
      obtain ⟨first, second, hfirst, hsecond, heq⟩ := hscan.cut hcut
      rw [heq, isScan_iff_eq_scan.mp hfirst, isScan_iff_eq_scan.mp hsecond]
  refine ⟨hiff.trans noneOver_iff, fun hnewline => hiff.mpr fun m hm => ?_⟩
  by_contra hover
  obtain ⟨hstop, hstart⟩ := not_or.mp hover
  -- a match across the cut has the line break in it, whichever part that ends or begins
  obtain ⟨front, rest, heq, hle, hlt⟩ : ∃ front rest, u.toList ++ v.toList = front ++ '\n' :: rest ∧
      m.start ≤ front.length ∧ front.length < m.stop := by
    rcases hnewline with ⟨line, hline⟩ | ⟨rest, hrest⟩
    · refine ⟨line, v.toList, by rw [← hline]; simp, ?_⟩
      have hlast : line.length + 1 = u.length := by rw [← hlength, ← hline]; simp
      omega
    · exact ⟨u.toList, rest, by rw [← hrest]; simp, by omega⟩
  refine (hscan.occurs m hm).ne_newline hle hlt ?_
  rw [heq, List.getElem?_append_right le_rfl]
  simp

end RichTemplate
