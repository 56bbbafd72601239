import RichTemplate.Proofs.Scanning

/-!
# Gaps

The matches of a template leave gaps before, between and behind them. Gaps and matches taken in turn
are the template, with nothing lost and nothing twice, and no gap has markup in it: cutting a
template where matches begin and end makes no new markup.
-/

namespace RichTemplate

def weave {α : Type} : List (List α) → List (List α) → List α
  | g :: gs, r :: rs => g ++ r ++ weave gs rs
  | gs, [] => gs.flatten
  | [], _ :: _ => []

section Weave

variable {α β : Type}

@[simp] theorem weave_cons (g r : List α) (gs rs : List (List α)) :
    weave (g :: gs) (r :: rs) = g ++ r ++ weave gs rs := rfl

@[simp] theorem weave_nil (gs : List (List α)) : weave gs [] = gs.flatten := by
  cases gs <;> rfl

theorem flatMap_weave (f : α → List β) (gs rs : List (List α)) :
    (weave gs rs).flatMap f = weave (gs.map (List.flatMap f)) (rs.map (List.flatMap f)) := by
  induction gs generalizing rs with
  | nil => cases rs <;> rfl
  | cons g gs ih =>
    cases rs with
    | nil =>
      have hrest := ih []
      simp only [List.map_nil, weave_nil] at hrest
      simp only [List.map_cons, List.map_nil, weave_nil, List.flatten_cons, List.flatMap_append,
        hrest]
    | cons r rs => simp only [List.map_cons, weave_cons, List.flatMap_append, ih]

theorem map_weave (f : α → β) (gs rs : List (List α)) :
    (weave gs rs).map f = weave (gs.map (List.map f)) (rs.map (List.map f)) := by
  simpa only [List.map_eq_flatMap] using flatMap_weave (fun a => [f a]) gs rs

theorem mem_of_mem_weave {a : α} {gs rs : List (List α)} (h : a ∈ weave gs rs) :
    (∃ g ∈ gs, a ∈ g) ∨ ∃ r ∈ rs, a ∈ r := by
  induction gs generalizing rs with
  | nil => cases rs <;> simp [weave] at h
  | cons g gs ih =>
    cases rs with
    | nil => exact Or.inl (List.mem_flatten.mp (weave_nil (g :: gs) ▸ h))
    | cons r rs =>
      rw [weave_cons, List.mem_append, List.mem_append] at h
      rcases h with (hg | hr) | hrest
      · exact Or.inl ⟨g, List.mem_cons_self, hg⟩
      · exact Or.inr ⟨r, List.mem_cons_self, hr⟩
      · rcases ih hrest with ⟨x, hx, ha⟩ | ⟨x, hx, ha⟩
        · exact Or.inl ⟨x, List.mem_cons_of_mem g hx, ha⟩
        · exact Or.inr ⟨x, List.mem_cons_of_mem r hx, ha⟩

/-- Where as many of the first kind come before a list as of the second and one, it stands alone. -/
theorem weave_append (gs gs' rs rs' : List (List α)) (r : List α)
    (hlength : gs.length = rs.length + 1) :
    weave (gs ++ gs') (rs ++ r :: rs') = weave gs rs ++ r ++ weave gs' rs' := by
  induction rs generalizing gs with
  | nil =>
    obtain ⟨g, rfl⟩ := List.length_eq_one_iff.mp hlength
    simp
  | cons r' rs ih =>
    cases gs with
    | nil => simp at hlength
    | cons g gs =>
      have hrest := ih gs (by simpa using hlength)
      simp only [List.cons_append, weave_cons, hrest, List.append_assoc]

end Weave

theorem slice_append_slice {α : Type} {cs : List α} {i j k : Nat} (hij : i ≤ j) (hjk : j ≤ k) :
    slice cs i j ++ slice cs j k = slice cs i k := by
  rw [slice, slice, slice, show k - i = (j - i) + (k - j) by omega, List.take_add, List.drop_drop,
    Nat.add_sub_cancel' hij]

theorem slice_append_drop {α : Type} {cs : List α} {i j : Nat} (hij : i ≤ j) :
    slice cs i j ++ cs.drop j = cs.drop i := by
  have hdrop : (cs.drop i).drop (j - i) = cs.drop j := by
    rw [List.drop_drop, Nat.add_sub_cancel' hij]
  rw [slice, ← hdrop, List.take_append_drop]

namespace Match

/-- The texts before, between and behind matches, from an offset on. -/
def gapsFrom (cs : List Char) : Nat → List Match → List (List Char)
  | offset, [] => [cs.drop offset]
  | offset, m :: ms => slice cs offset m.start :: gapsFrom cs m.stop ms

end Match

def gaps (template : String) : List (List Char) :=
  Match.gapsFrom template.toList 0 (scan template)

section Gaps

variable {cs : List Char} {offset : Nat} {ms : List Match}

theorem length_gapsFrom : (Match.gapsFrom cs offset ms).length = ms.length + 1 := by
  induction ms generalizing offset with
  | nil => rfl
  | cons m ms ih => simp [Match.gapsFrom, ih]

theorem weave_gapsFrom (hms : ms.Pairwise fun m m' => m.stop ≤ m'.start)
    (hoffset : ∀ m ∈ ms, offset ≤ m.start) :
    weave (Match.gapsFrom cs offset ms) (ms.map fun m => slice cs m.start m.stop)
      = cs.drop offset := by
  induction ms generalizing offset with
  | nil => simp [Match.gapsFrom]
  | cons m ms ih =>
    obtain ⟨hm, hms⟩ := List.pairwise_cons.mp hms
    have hle : offset ≤ m.start := hoffset m List.mem_cons_self
    rw [Match.gapsFrom, List.map_cons, weave_cons, ih hms hm,
      slice_append_slice hle (Nat.le_of_lt m.start_lt_stop),
      slice_append_drop (hle.trans (Nat.le_of_lt m.start_lt_stop))]

/-- The gaps of a text are those of a first part up to a match that begins behind it. -/
theorem gapsFrom_append {u v : List Char} {m : Match} {ms' : List Match}
    (hoffset : offset ≤ u.length) (hms : ∀ x ∈ ms, x.stop ≤ u.length) (hm : m.start = u.length) :
    Match.gapsFrom (u ++ v) offset (ms ++ m :: ms')
      = Match.gapsFrom u offset ms ++ Match.gapsFrom (u ++ v) m.stop ms' := by
  induction ms generalizing offset with
  | nil =>
    have hgap : slice (u ++ v) offset m.start = u.drop offset := by
      rw [slice, hm, List.drop_append_of_le_length hoffset, ← List.length_drop, List.take_left]
    simp only [List.nil_append, Match.gapsFrom, hgap, List.singleton_append]
  | cons x ms ih =>
    have hx : x.stop ≤ u.length := hms x List.mem_cons_self
    have hgap : slice (u ++ v) offset x.start = slice u offset x.start := by
      have hlength : x.start - offset ≤ (u.drop offset).length := by
        have := x.start_lt_stop
        rw [List.length_drop]
        omega
      rw [slice, slice, List.drop_append_of_le_length hoffset,
        List.take_append_of_le_length hlength]
    rw [List.cons_append, Match.gapsFrom, Match.gapsFrom, hgap,
      ih hx fun y hy => hms y (List.mem_cons_of_mem x hy), List.cons_append]

theorem gapsFrom_map_shift (u v : List Char) (offset : Nat) (ms : List Match) :
    Match.gapsFrom (u ++ v) (u.length + offset) (ms.map (Match.shift u.length))
      = Match.gapsFrom v offset ms := by
  have hdrop : ∀ i, (u ++ v).drop (u.length + i) = v.drop i := fun i => by
    rw [← List.drop_drop, List.drop_left]
  induction ms generalizing offset with
  | nil => simp [Match.gapsFrom, hdrop]
  | cons m ms ih =>
    have hgap : slice (u ++ v) (u.length + offset) (u.length + m.start)
        = slice v offset m.start := by
      rw [slice, slice, hdrop, Nat.add_sub_add_left]
    rw [List.map_cons, Match.gapsFrom, Match.gapsFrom, Match.shift_start, Match.shift_stop, hgap,
      ih]

theorem exists_slice_of_mem_gapsFrom {g : List Char} (hg : g ∈ Match.gapsFrom cs offset ms)
    (hms : ms.Pairwise fun m m' => m.stop ≤ m'.start) (hoffset : ∀ m ∈ ms, offset ≤ m.start) :
    ∃ start stop, offset ≤ start ∧ g = slice cs start stop ∧
      ∀ m ∈ ms, m.stop ≤ start ∨ stop ≤ m.start := by
  induction ms generalizing offset with
  | nil =>
    obtain rfl : g = cs.drop offset := by simpa [Match.gapsFrom] using hg
    refine ⟨offset, offset + (cs.drop offset).length, le_rfl, ?_, by simp⟩
    rw [slice, Nat.add_sub_cancel_left, List.take_length]
  | cons m ms ih =>
    obtain ⟨hm, hms⟩ := List.pairwise_cons.mp hms
    have hle : offset ≤ m.start := hoffset m List.mem_cons_self
    have hlt := m.start_lt_stop
    rcases List.mem_cons.mp hg with rfl | hg
    · refine ⟨offset, m.start, le_rfl, rfl, fun x hx => Or.inr ?_⟩
      rcases List.mem_cons.mp hx with rfl | hx
      · exact le_rfl
      · have := hm x hx
        omega
    · obtain ⟨start, stop, hstart, rfl, hclear⟩ := ih hg hms hm
      refine ⟨start, stop, by omega, rfl, fun x hx => ?_⟩
      rcases List.mem_cons.mp hx with rfl | hx
      · exact Or.inl hstart
      · exact hclear x hx

theorem IsScan.isScan_nil_of_slice (h : IsScan cs ms) {start stop : Nat}
    (hclear : ∀ m ∈ ms, m.stop ≤ start ∨ stop ≤ m.start) : IsScan (slice cs start stop) [] := by
  refine ⟨by simp, List.Pairwise.nil, fun m hm => ?_⟩
  have hlt : start + m.start < stop := by
    have hlength : (slice cs start stop).length ≤ stop - start := List.length_take_le _ _
    have := hm.stop_le
    have := m.start_lt_stop
    omega
  have hwhole : (m.shift start).OccursIn cs := by
    obtain ⟨hmarkup, hsource⟩ := hm
    refine ⟨hmarkup, hsource.trans ?_⟩
    rw [slice, List.drop_take, List.drop_drop]
    exact List.take_prefix _ _
  obtain ⟨x, hx, hle, hxlt⟩ := h.covers _ hwhole
  rw [Match.shift_start] at hle hxlt
  rcases hclear x hx with hbefore | hbehind <;> omega

end Gaps

theorem weave_gaps (template : String) :
    weave (gaps template) ((scan template).map fun m => slice template.toList m.start m.stop)
      = template.toList := by
  have h := isScan_scan template
  rw [gaps, weave_gapsFrom h.apart fun m _ => Nat.zero_le _, List.drop_zero]

theorem scan_of_mem_gaps {template : String} {g : List Char} (hg : g ∈ gaps template) :
    scan (String.ofList g) = [] := by
  have h := isScan_scan template
  obtain ⟨start, stop, -, rfl, hclear⟩ :=
    exists_slice_of_mem_gapsFrom hg h.apart fun m _ => Nat.zero_le _
  refine (isScan_iff_eq_scan.mp ?_).symm
  rw [String.toList_ofList]
  exact h.isScan_nil_of_slice hclear

namespace Piece

def ofGap : List Char → List Piece
  | [] => []
  | c :: cs => [literal (c :: cs)]

def ofMatch (m : Match) : List Piece :=
  [markup m.markup]

theorem consLiteral_ofGap_append (c : Char) (g : List Char) (m : Match) (ps : List Piece) :
    consLiteral c (ofGap g ++ ofMatch m ++ ps) = ofGap (c :: g) ++ ofMatch m ++ ps := by
  cases g <;> rfl

theorem consLiteral_weave {t cs : List Char} {offset : Nat} {c : Char} {ms : List Match}
    (ht : t.drop offset = c :: cs) (hms : ∀ m ∈ ms, offset + 1 ≤ m.start) :
    consLiteral c (weave ((Match.gapsFrom t (offset + 1) ms).map ofGap) (ms.map ofMatch))
      = weave ((Match.gapsFrom t offset ms).map ofGap) (ms.map ofMatch) := by
  have hnext : t.drop (offset + 1) = cs := by
    rw [← List.drop_drop, ht, List.drop_one, List.tail_cons]
  cases ms with
  | nil =>
    simp only [Match.gapsFrom, ht, hnext]
    cases cs <;> rfl
  | cons m ms =>
    have hstart : offset + 1 ≤ m.start := hms m List.mem_cons_self
    have hslice : slice t offset m.start = c :: slice t (offset + 1) m.start := by
      rw [slice, slice, ht, hnext, show m.start - offset = m.start - (offset + 1) + 1 by omega,
        List.take_succ_cons]
    simp only [Match.gapsFrom, List.map_cons, weave_cons, hslice, consLiteral_ofGap_append]

theorem split_eq_weave_from {t cs : List Char} {offset : Nat} (ht : t.drop offset = cs) :
    split cs = weave ((Match.gapsFrom t offset (Match.ofPieces offset (split cs))).map ofGap)
      ((Match.ofPieces offset (split cs)).map ofMatch) := by
  fun_induction split cs generalizing offset with
  | case1 => simp [Match.ofPieces, Match.gapsFrom, ht, ofGap]
  | case2 c cs m rest hread ih =>
    have hrest : t.drop (offset + m.source.length) = rest := by
      rw [← List.drop_drop, ht, Markup.eq_source_append_of_read? hread, List.drop_left]
    have hgap : slice t offset offset = [] := by simp [slice]
    rw [Match.ofPieces, Match.gapsFrom, List.map_cons, List.map_cons, weave_cons, Match.stop, hgap,
      ← ih hrest]
    rfl
  | case3 c cs hread ih =>
    have hrest : t.drop (offset + 1) = cs := by
      rw [← List.drop_drop, ht, List.drop_one, List.tail_cons]
    have hbounded := (isScanFrom_iff_eq_ofPieces hrest).mpr rfl |>.bounded
    rw [Match.ofPieces_consLiteral, ← consLiteral_weave ht hbounded, ← ih hrest]

theorem split_eq_weave {cs : List Char} {ms : List Match} (h : IsScan cs ms) :
    split cs = weave ((Match.gapsFrom cs 0 ms).map ofGap) (ms.map ofMatch) := by
  obtain rfl := isScan_iff_eq_ofPieces.mp h
  exact split_eq_weave_from rfl

/-- The pieces of a template: the template itself if nothing in it is markup. -/
theorem ofTemplate_eq (template : String) :
    ofTemplate template =
      if scan template = [] then [literal template.toList]
      else weave ((gaps template).map ofGap) ((scan template).map ofMatch) := by
  have hsplit := split_eq_weave (isScan_scan template)
  split
  next hnone =>
    rw [hnone] at hsplit
    simp only [Match.gapsFrom, List.drop_zero, List.map_cons, List.map_nil, weave_nil,
      List.flatten_cons, List.flatten_nil, List.append_nil] at hsplit
    rw [ofTemplate, hsplit]
    cases template.toList <;> rfl
  next hsome =>
    rw [gaps, ← hsplit, ofTemplate]
    cases hpieces : split template.toList with
    | nil => exact absurd (by rw [scan, hpieces, Match.ofPieces]) hsome
    | cons p ps => rfl

end Piece

end RichTemplate
