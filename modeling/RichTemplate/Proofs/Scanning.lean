import RichTemplate.Markup.Pieces
import RichTemplate.Proofs.Reading

/-!
# Scanning exactly what occurs

A scan is determined by three things: each match is an occurrence, no two matches overlap, and no
occurrence begins outside of all matches. A list of matches with these is the scan, so what is said
of scans further on is said by checking the three for some list.
-/

namespace RichTemplate

def slice {α : Type} (cs : List α) (start stop : Nat) : List α :=
  (cs.drop start).take (stop - start)

namespace Match

/-- A match is an occurrence of its markup: the text has the spelling of it where it starts. -/
def OccursIn (m : Match) (cs : List Char) : Prop :=
  m.markup.WellFormed ∧ m.markup.source <+: cs.drop m.start

variable {m m' : Match} {cs u v : List Char}

theorem start_lt_stop (m : Match) : m.start < m.stop :=
  Nat.lt_add_of_pos_right m.markup.source_length_pos

theorem occursIn_iff_read? :
    m.OccursIn cs ↔ ∃ rest, Markup.read? (cs.drop m.start) = some (m.markup, rest) := by
  constructor
  · rintro ⟨hm, rest, hrest⟩
    exact ⟨rest, Markup.read?_eq_some_iff.mpr ⟨hm, hrest.symm⟩⟩
  · rintro ⟨rest, hread⟩
    obtain ⟨hm, hrest⟩ := Markup.read?_eq_some_iff.mp hread
    exact ⟨hm, rest, hrest.symm⟩

theorem OccursIn.eq_of_start_eq (h : m.OccursIn cs) (h' : m'.OccursIn cs)
    (hstart : m.start = m'.start) : m = m' := by
  obtain ⟨rest, hread⟩ := occursIn_iff_read?.mp h
  obtain ⟨rest', hread'⟩ := occursIn_iff_read?.mp h'
  rw [hstart, hread'] at hread
  have hmarkup : m'.markup = m.markup := congrArg Prod.fst (Option.some.inj hread)
  cases m
  cases m'
  simp_all

theorem OccursIn.slice_eq (h : m.OccursIn cs) : slice cs m.start m.stop = m.markup.source := by
  obtain ⟨-, rest, hrest⟩ := h
  rw [slice, ← hrest, stop, Nat.add_sub_cancel_left, List.take_left]

theorem OccursIn.stop_le (h : m.OccursIn cs) : m.stop ≤ cs.length := by
  have hlength := h.2.length_le
  have := m.markup.source_length_pos
  rw [List.length_drop] at hlength
  rw [stop]
  omega

theorem OccursIn.append (h : m.OccursIn u) (v : List Char) : m.OccursIn (u ++ v) := by
  have hstart : m.start ≤ u.length := (Nat.le_of_lt m.start_lt_stop).trans h.stop_le
  refine ⟨h.1, ?_⟩
  rw [List.drop_append_of_le_length hstart]
  exact h.2.trans (List.prefix_append _ v)

theorem OccursIn.of_append (h : m.OccursIn (u ++ v)) (hstop : m.stop ≤ u.length) :
    m.OccursIn u := by
  have hstart : m.start ≤ u.length := (Nat.le_of_lt m.start_lt_stop).trans hstop
  obtain ⟨hm, hsource⟩ := h
  refine ⟨hm, ?_⟩
  rw [List.drop_append_of_le_length hstart] at hsource
  refine List.prefix_of_prefix_length_le hsource (List.prefix_append _ v) ?_
  rw [stop] at hstop
  rw [List.length_drop]
  omega

def shift (length : Nat) (m : Match) : Match :=
  { m with start := length + m.start }

@[simp] theorem shift_markup (n : Nat) (m : Match) : (m.shift n).markup = m.markup := rfl

@[simp] theorem shift_start (n : Nat) (m : Match) : (m.shift n).start = n + m.start := rfl

@[simp] theorem shift_stop (n : Nat) (m : Match) : (m.shift n).stop = n + m.stop := by
  simp [stop, Nat.add_assoc]

theorem shift_occursIn_append : (m.shift u.length).OccursIn (u ++ v) ↔ m.OccursIn v := by
  rw [OccursIn, OccursIn, shift_start, shift_markup, ← List.drop_drop, List.drop_left]

theorem exists_shift_of_le_start {n : Nat} (h : n ≤ m.start) : ∃ m' : Match, m = m'.shift n := by
  refine ⟨{ m with start := m.start - n }, ?_⟩
  cases m
  simp only [shift, Match.mk.injEq, true_and] at h ⊢
  omega

end Match

/-- The matches are occurrences, none overlaps another, and each occurrence begins within one. -/
structure IsScan (cs : List Char) (ms : List Match) : Prop where
  occurs : ∀ m ∈ ms, m.OccursIn cs
  apart : ms.Pairwise fun m m' => m.stop ≤ m'.start
  covers : ∀ m : Match, m.OccursIn cs → ∃ m' ∈ ms, m'.start ≤ m.start ∧ m.start < m'.stop

structure IsScanFrom (cs : List Char) (offset : Nat) (ms : List Match) : Prop where
  occurs : ∀ m ∈ ms, m.OccursIn cs
  apart : ms.Pairwise fun m m' => m.stop ≤ m'.start
  bounded : ∀ m ∈ ms, offset ≤ m.start
  covers : ∀ m : Match, m.OccursIn cs → offset ≤ m.start →
    ∃ m' ∈ ms, m'.start ≤ m.start ∧ m.start < m'.stop

theorem isScanFrom_zero_iff {cs : List Char} {ms : List Match} :
    IsScanFrom cs 0 ms ↔ IsScan cs ms := by
  constructor
  · intro h
    exact ⟨h.occurs, h.apart, fun m hm => h.covers m hm (Nat.zero_le _)⟩
  · intro h
    exact ⟨h.occurs, h.apart, fun m _ => Nat.zero_le _, fun m hm _ => h.covers m hm⟩

section Steps

variable {cs : List Char} {offset : Nat} {ms : List Match}

theorem isScanFrom_iff_of_drop_eq_nil (hend : cs.drop offset = []) :
    IsScanFrom cs offset ms ↔ ms = [] := by
  have hnone : ∀ m : Match, m.OccursIn cs → ¬ offset ≤ m.start := by
    intro m hm hle
    have := hm.stop_le
    have := m.start_lt_stop
    have := List.drop_eq_nil_iff.mp hend
    omega
  constructor
  · intro h
    exact List.eq_nil_iff_forall_not_mem.mpr fun m hm => hnone m (h.occurs m hm) (h.bounded m hm)
  · rintro rfl
    exact ⟨by simp, List.Pairwise.nil, by simp, fun m hm hle => absurd hle (hnone m hm)⟩

theorem isScanFrom_iff_of_not_occurs (hnone : ∀ m : Match, m.OccursIn cs → m.start ≠ offset) :
    IsScanFrom cs offset ms ↔ IsScanFrom cs (offset + 1) ms := by
  have hnext : ∀ m : Match, m.OccursIn cs → (offset ≤ m.start ↔ offset + 1 ≤ m.start) := by
    intro m hm
    have := hnone m hm
    omega
  constructor
  · intro h
    exact ⟨h.occurs, h.apart, fun m hm => (hnext m (h.occurs m hm)).mp (h.bounded m hm),
      fun m hm hle => h.covers m hm ((hnext m hm).mpr hle)⟩
  · intro h
    exact ⟨h.occurs, h.apart, fun m hm => (hnext m (h.occurs m hm)).mpr (h.bounded m hm),
      fun m hm hle => h.covers m hm ((hnext m hm).mp hle)⟩

/-- Where markup occurs the scan takes it and goes on behind it. -/
theorem isScanFrom_iff_of_occurs {m : Match} (hm : m.OccursIn cs) :
    IsScanFrom cs m.start ms ↔ ∃ rest, ms = m :: rest ∧ IsScanFrom cs m.stop rest := by
  constructor
  · intro h
    obtain ⟨m', hmem, hle, hlt⟩ := h.covers m hm le_rfl
    have heq : m' = m :=
      (h.occurs m' hmem).eq_of_start_eq hm (Nat.le_antisymm hle (h.bounded m' hmem))
    subst heq
    cases ms with
    | nil => simp at hmem
    | cons a rest =>
      obtain ⟨hapart, hrest⟩ := List.pairwise_cons.mp h.apart
      -- what comes before `m'` would have to start before it
      have hhead : a = m' := by
        rcases List.mem_cons.mp hmem with heq | htail
        · exact heq.symm
        · have := h.bounded a List.mem_cons_self
          have := hapart m' htail
          have := a.start_lt_stop
          omega
      subst hhead
      refine ⟨rest, rfl, fun x hx => h.occurs x (List.mem_cons_of_mem _ hx), hrest, hapart, ?_⟩
      intro x hx hstop
      have := a.start_lt_stop
      obtain ⟨y, hy, hyle, hylt⟩ := h.covers x hx (by omega)
      rcases List.mem_cons.mp hy with rfl | hy
      · omega
      · exact ⟨y, hy, hyle, hylt⟩
  · rintro ⟨rest, rfl, h⟩
    have := m.start_lt_stop
    refine ⟨?_, List.pairwise_cons.mpr ⟨h.bounded, h.apart⟩, ?_, ?_⟩
    · intro x hx
      rcases List.mem_cons.mp hx with rfl | hx
      · exact hm
      · exact h.occurs x hx
    · intro x hx
      rcases List.mem_cons.mp hx with rfl | hx
      · exact le_rfl
      · have := h.bounded x hx
        omega
    · intro x hx hle
      by_cases hlt : x.start < m.stop
      · exact ⟨m, List.mem_cons_self, hle, hlt⟩
      · obtain ⟨y, hy, hcover⟩ := h.covers x hx (by omega)
        exact ⟨y, List.mem_cons_of_mem m hy, hcover⟩

end Steps

theorem Match.ofPieces_consLiteral (offset : Nat) (c : Char) (ps : List Piece) :
    Match.ofPieces offset (Piece.consLiteral c ps) = Match.ofPieces (offset + 1) ps := by
  cases ps with
  | nil => rfl
  | cons p ps =>
    cases p with
    | literal text => simp [Piece.consLiteral, Match.ofPieces, Nat.add_assoc, Nat.add_comm 1]
    | markup m => rfl

theorem isScanFrom_iff_eq_ofPieces {t cs : List Char} {offset : Nat} {ms : List Match}
    (ht : t.drop offset = cs) :
    IsScanFrom t offset ms ↔ ms = Match.ofPieces offset (Piece.split cs) := by
  fun_induction Piece.split cs generalizing offset ms with
  | case1 => exact isScanFrom_iff_of_drop_eq_nil ht
  | case2 c cs m rest hread ih =>
    have hm : Match.OccursIn ⟨m, offset⟩ t := Match.occursIn_iff_read?.mpr ⟨rest, ht ▸ hread⟩
    have hrest : t.drop (offset + m.source.length) = rest := by
      rw [← List.drop_drop, ht, Markup.eq_source_append_of_read? hread, List.drop_left]
    rw [isScanFrom_iff_of_occurs (m := ⟨m, offset⟩) hm, Match.ofPieces]
    constructor
    · rintro ⟨rest', rfl, h⟩
      rw [(ih hrest).mp h]
    · rintro rfl
      exact ⟨_, rfl, (ih hrest).mpr rfl⟩
  | case3 c cs hread ih =>
    have hnone : ∀ m : Match, m.OccursIn t → m.start ≠ offset := by
      intro m hm hstart
      obtain ⟨rest, hsome⟩ := Match.occursIn_iff_read?.mp hm
      rw [hstart, ht, hread] at hsome
      exact Option.some_ne_none _ hsome.symm
    have hrest : t.drop (offset + 1) = cs := by
      rw [← List.drop_drop, ht, List.drop_one, List.tail_cons]
    rw [isScanFrom_iff_of_not_occurs hnone, ih hrest, Match.ofPieces_consLiteral]

theorem isScan_iff_eq_ofPieces {cs : List Char} {ms : List Match} :
    IsScan cs ms ↔ ms = Match.ofPieces 0 (Piece.split cs) := by
  rw [← isScanFrom_zero_iff]
  exact isScanFrom_iff_eq_ofPieces rfl

theorem IsScan.eq {cs : List Char} {ms ms' : List Match} (h : IsScan cs ms) (h' : IsScan cs ms') :
    ms = ms' := by
  rw [isScan_iff_eq_ofPieces.mp h, isScan_iff_eq_ofPieces.mp h']

theorem isScan_iff_eq_scan {template : String} {ms : List Match} :
    IsScan template.toList ms ↔ ms = scan template :=
  isScan_iff_eq_ofPieces

theorem isScan_scan (template : String) : IsScan template.toList (scan template) :=
  isScan_iff_eq_scan.mpr rfl

example : scan "<a><b></a></b>{{x}}" = [⟨.tag "a" "<b>", 0⟩, ⟨.placeholder "x", 14⟩] := by
  decide +kernel

theorem isWord_of_mem_scan {template : String} {m : Match} (hm : m ∈ scan template) :
    isWord m.markup.name = true := by
  have hwell := ((isScan_scan template).occurs m hm).1
  cases hmarkup : m.markup with
  | tag name content =>
    rw [hmarkup] at hwell
    exact hwell.1
  | placeholder name =>
    rw [hmarkup] at hwell
    exact hwell

/-- **A scan is exact.** Each match has the spelling of its markup between its offsets, only a
placeholder encloses nothing, and the scan is the one list of occurrences of which none overlaps
another and none is missed that begins in a gap. -/
theorem scan_is_exact (template : String) :
    (∀ m ∈ scan template, slice template.toList m.start m.stop = m.markup.source ∧
      (m.markup.content? = none ↔ m.markup.form = .placeholder)) ∧
    ∀ ms, IsScan template.toList ms ↔ ms = scan template := by
  refine ⟨fun m hm => ⟨((isScan_scan template).occurs m hm).slice_eq, ?_⟩, fun ms =>
    isScan_iff_eq_scan⟩
  cases m.markup <;> simp [Markup.content?, Markup.form]

end RichTemplate
