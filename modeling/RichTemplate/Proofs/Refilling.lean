import RichTemplate.Proofs.Filling
import RichTemplate.Proofs.Scanning

/-!
# Texts that are filled again

A wrapper may have its text filled again, and nothing but the text bounds how deep that goes. A text
stands between tags, whose names are words, so it is shorter than its template by seven characters,
and runs lie within one another at most a seventh of the template deep. The spans of a scan do not
overlap, so all that is resolved at any depth is paid for with characters of the template.
-/

namespace RichTemplate

namespace Interpolation

variable (bindings : Entries Entry) (voidNames : List String)

/-! ### Filling to a depth

The runs within a run are given by what is asked for them, which may have no answer. -/

section Within

variable (refill : String → Option (Run (List Value)))

def callWithin (w : Wrapper) (text : String) : Option (Run Value) :=
  match w.wrap text with
  | .done outcome => some (Traced.ofExcept outcome)
  | .reenter finish => (refill text).map fun run => (run.mapTrace .within).mapResult finish

def settleWithin (m : Markup) : Option (Run (Option Value)) :=
  match resolve bindings voidNames m with
  | .dropped d => some ⟨.ok none, [.resolved m, .reported d]⟩
  | .node v => some ⟨.ok (some v), [.resolved m]⟩
  | .failed e => some ⟨.error e, [.resolved m]⟩
  | .call w text => (callWithin refill w text).map fun run =>
      ⟨run.result.map some, .resolved m :: .called ⟨m.name, w.label, text⟩ :: run.trace⟩

def fillWithin : List Piece → Option (Run (List Value))
  | [] => some (pure [])
  | .literal text :: rest =>
    (fillWithin rest).map fun run => (.str (String.ofList text) :: ·) <$> run
  | .markup m :: rest => do
    let first ← settleWithin bindings voidNames refill m
    match first.result with
    | .error e => return ⟨.error e, first.trace⟩
    | .ok node =>
      let run ← fillWithin rest
      return ⟨run.result.map (node.toList ++ ·), first.trace ++ run.trace⟩

end Within

end Interpolation

open Interpolation

/-- Fills a template by at most so many runs one within another; a run that needs one more has no
outcome. Nothing is said of the texts that are filled again. -/
def interpolateWithin (bindings : Entries Entry) (voidNames : List String) :
    Nat → String → Option (Run (List Value))
  | 0, _ => none
  | levels + 1, template =>
    match firstForeign? bindings with
    | some (name, entry) => some (Traced.fail (.notBinding name entry))
    | none =>
      fillWithin bindings voidNames (interpolateWithin bindings voidNames levels)
        (Piece.ofTemplate template)

/-- What runs take of their templates at least: seven characters for a pair of tags and five for a
placeholder. -/
def toll (ms : List Markup) : Nat :=
  7 * (ms.map Markup.form).count .tag + 5 * (ms.map Markup.form).count .placeholder

theorem toll_append (ms ms' : List Markup) : toll (ms ++ ms') = toll ms + toll ms' := by
  simp only [toll, List.map_append, List.count_append]
  omega

theorem toll_cons (m : Markup) (ms : List Markup) : toll (m :: ms) = toll [m] + toll ms :=
  toll_append [m] ms

namespace Markup

variable {m : Markup}

theorem length_pos_of_isWord {name : String} (h : isWord name = true) : 0 < name.toList.length :=
  List.length_pos_of_ne_nil (toList_ne_nil_of_isWord h)

/-- Markup is longer than what it encloses by its toll. -/
theorem WellFormed.toll_add_le (h : m.WellFormed) :
    toll [m] + (m.content?.map fun c => c.toList.length).getD 0 ≤ m.source.length := by
  cases m with
  | tag name content =>
    have hname := length_pos_of_isWord h.1
    have htoll : toll [tag name content] = 7 := rfl
    rw [length_source_tag, htoll]
    change 7 + content.toList.length ≤ _
    omega
  | placeholder name =>
    have hname := length_pos_of_isWord h
    have htoll : toll [placeholder name] = 5 := rfl
    rw [htoll]
    simp only [content?, source, List.length_cons, List.length_append, List.length_nil,
      Option.map_none, Option.getD_none]
    omega

end Markup

theorem Piece.wellFormed_of_mem_ofTemplate {m : Markup} {template : String}
    (h : Piece.markup m ∈ Piece.ofTemplate template) : m.WellFormed := by
  obtain ⟨x, hx, rfl⟩ := mem_ofPieces_of_markup_mem 0 h
  rw [ofPieces_ofTemplate] at hx
  exact ((isScan_scan template).occurs x hx).1

namespace Interpolation

variable {bindings : Entries Entry} {voidNames : List String} {m : Markup} {w : Wrapper}
  {text : String}

/-- A text that is called for is shorter than its markup by what the tags take. -/
theorem length_add_seven_le_of_resolve (hm : m.WellFormed)
    (h : resolve bindings voidNames m = .call w text) :
    text.toList.length + 7 ≤ m.source.length := by
  have hresolves := resolves bindings voidNames m
  rw [h] at hresolves
  cases hresolves with
  | @call name content b _ _ _ _ =>
    have htoll := hm.toll_add_le
    have hhanded := length_handedOn_le voidNames name content
    change 7 + content.toList.length ≤ _ at htoll
    omega

/-! ### Every run ends -/

section Ends

variable {refill : String → Option (Run (List Value))} {ps : List Piece}

theorem settleWithin_eq (hrefill : ∀ w text, resolve bindings voidNames m = .call w text →
      refill text = some (fill bindings voidNames (Piece.ofTemplate text))) :
    settleWithin bindings voidNames refill m = some (settle bindings voidNames m) := by
  rw [settleWithin, settle_eq]
  cases hresolve : resolve bindings voidNames m with
  | dropped d => rfl
  | node v => rfl
  | failed e => rfl
  | call w text =>
    dsimp only
    rw [callWithin, callRun]
    cases w.wrap text with
    | done outcome => rfl
    | reenter finish =>
      dsimp only
      rw [hrefill w text hresolve]
      rfl

theorem fillWithin_eq (hrefill : ∀ m, Piece.markup m ∈ ps → ∀ w text,
      resolve bindings voidNames m = .call w text →
        refill text = some (fill bindings voidNames (Piece.ofTemplate text))) :
    fillWithin bindings voidNames refill ps = some (fill bindings voidNames ps) := by
  induction ps with
  | nil => rw [fillWithin, fill_nil]
  | cons p ps ih =>
    have hrest := ih fun m hm => hrefill m (List.mem_cons_of_mem p hm)
    cases p with
    | literal text =>
      rw [fillWithin, hrest, fill]
      rfl
    | markup m =>
      rw [fillWithin, settleWithin_eq (hrefill m List.mem_cons_self), fill, hrest]
      change (match (settle bindings voidNames m).result with | .error e => _ | .ok node => _) = _
      cases hresult : (settle bindings voidNames m).result with
      | error e =>
        rw [Traced.bind_of_error hresult]
        rfl
      | ok node =>
        rw [Traced.bind_of_ok hresult, bind_pure_comp, Traced.map_eq]
        rfl

/-- A run goes one level deeper for seven characters of its template at least. -/
theorem interpolateWithin_eq {levels : Nat} {template : String}
    (h : template.toList.length / 7 < levels) :
    interpolateWithin bindings voidNames levels template
      = some (interpolate bindings voidNames template) := by
  induction levels generalizing template with
  | zero => exact absurd h (Nat.not_lt_zero _)
  | succ levels ih =>
    rw [interpolateWithin, interpolate]
    cases hforeign : firstForeign? bindings with
    | some found => rfl
    | none =>
      dsimp only
      refine fillWithin_eq fun m hm w text hresolve => ?_
      have hshorter :=
        length_add_seven_le_of_resolve (Piece.wellFormed_of_mem_ofTemplate hm) hresolve
      have hsource := Piece.length_source_le hm
      rw [Piece.totalLength_ofTemplate, Piece.source] at hsource
      rw [ih (by omega), interpolate, hforeign]

end Ends

/-! ### What runs take -/

section Toll

theorem toll_resolved_bind_le {α β : Type} {x : Run α} {f : α → Run β} {n : Nat}
    (h : ∀ a, toll (f a).resolved ≤ n) : toll (x >>= f).resolved ≤ toll x.resolved + n := by
  cases hx : x.result with
  | ok a =>
    rw [Traced.bind_of_ok hx, Run.resolved, List.filterMap_append, toll_append]
    exact Nat.add_le_add_left (h a) _
  | error e =>
    rw [Traced.bind_of_error hx]
    exact Nat.le_add_right _ _

theorem resolved_callRun (bindings : Entries Entry) (voidNames : List String) (w : Wrapper)
    (text : String) :
    (callRun bindings voidNames w text).resolved = [] ∨
      (callRun bindings voidNames w text).resolved
        = (fill bindings voidNames (Piece.ofTemplate text)).resolved := by
  rw [callRun]
  cases w.wrap text with
  | done outcome => exact Or.inl rfl
  | reenter finish =>
    refine Or.inr ?_
    change List.filterMap _ (List.map _ _) = _
    rw [List.filterMap_map]
    rfl

/-- Markup takes no more than its spelling, if the text it hands on takes no more than its own. -/
theorem toll_settle_le (hm : m.WellFormed)
    (hwithin : ∀ name content, m = .tag name content →
      toll (fill bindings voidNames (Piece.ofTemplate (handedOn voidNames name content))).resolved
        ≤ (handedOn voidNames name content).toList.length) :
    toll (settle bindings voidNames m).resolved ≤ m.source.length := by
  have htoll := hm.toll_add_le
  have hresolves := resolves bindings voidNames m
  rw [settle_eq]
  generalize resolve bindings voidNames m = r at hresolves
  have halone : toll [m] ≤ m.source.length := Nat.le_of_add_right_le htoll
  cases hresolves with
  | unbound hget => exact halone
  | value hget hkind => exact halone
  | placeholder hget hkind => exact halone
  | uncallable hget hkind hfn => exact halone
  | @call name content b w hget hkind hfn =>
    have hhanded := length_handedOn_le voidNames name content
    have hcall : toll (callRun bindings voidNames w (handedOn voidNames name content)).resolved
        ≤ content.toList.length := by
      rcases resolved_callRun bindings voidNames w (handedOn voidNames name content) with
        hnone | hfill
      · rw [hnone]
        exact Nat.zero_le _
      · rw [hfill]
        exact Nat.le_trans (hwithin name content rfl) hhanded
    change toll (_ :: Run.resolved (callRun _ _ w _)) ≤ _
    rw [toll_cons]
    exact Nat.le_trans (Nat.add_le_add_left hcall _) htoll

theorem toll_fill_le {ps : List Piece}
    (h : ∀ m, Piece.markup m ∈ ps →
      toll (settle bindings voidNames m).resolved ≤ m.source.length) :
    toll (fill bindings voidNames ps).resolved ≤ Piece.totalLength ps := by
  induction ps with
  | nil =>
    rw [fill_nil]
    exact Nat.zero_le _
  | cons p ps ih =>
    have hrest := ih fun m hm => h m (List.mem_cons_of_mem p hm)
    have hfirst : toll (fillPiece bindings voidNames p).resolved ≤ p.source.length := by
      cases p with
      | literal text => exact Nat.zero_le _
      | markup m =>
        rw [fillPiece, Traced.map_eq]
        exact h m List.mem_cons_self
    rw [fill_cons, Piece.totalLength_cons]
    refine Nat.le_trans (toll_resolved_bind_le fun first => ?_) (Nat.add_le_add_right hfirst _)
    rw [bind_pure_comp, Traced.map_eq]
    exact hrest

/-- All that is resolved at any depth takes no more characters than the template has. -/
theorem toll_fill_ofTemplate_le (bindings : Entries Entry) (voidNames : List String)
    (template : String) :
    toll (fill bindings voidNames (Piece.ofTemplate template)).resolved
      ≤ template.toList.length := by
  induction template using handedOn_induction voidNames with
  | step text ih =>
    rw [← Piece.totalLength_ofTemplate]
    refine toll_fill_le fun m hm => toll_settle_le (Piece.wellFormed_of_mem_ofTemplate hm) ?_
    rintro name content rfl
    exact ih name content hm

end Toll

/-! ### Which texts are filled again -/

section Resolved

variable {x : Markup}

theorem resolved_notMem_callRun (w : Wrapper) (text : String) :
    Event.resolved x ∉ (callRun bindings voidNames w text).trace := by
  intro h
  have hown : Event.resolved x ∈ (callRun bindings voidNames w text).trace.filterMap Event.own? :=
    List.mem_filterMap.mpr ⟨_, h, rfl⟩
  rw [filterMap_own?_callRun] at hown
  exact absurd hown List.not_mem_nil

theorem eq_of_resolved_mem_settle
    (h : Event.resolved x ∈ (settle bindings voidNames m).trace) : x = m := by
  rw [settle_eq] at h
  cases hresolve : resolve bindings voidNames m with
  | dropped d => simpa [hresolve] using h
  | node v => simpa [hresolve] using h
  | failed e => simpa [hresolve] using h
  | call w text => simpa [hresolve, resolved_notMem_callRun] using h

/-- What a run resolves itself is markup of its pieces. -/
theorem mem_of_resolved_mem_fill {ps : List Piece}
    (h : Event.resolved x ∈ (fill bindings voidNames ps).trace) : Piece.markup x ∈ ps := by
  induction ps with
  | nil =>
    rw [fill_nil] at h
    exact absurd h List.not_mem_nil
  | cons p ps ih =>
    have hfirst : Event.resolved x ∈ (fillPiece bindings voidNames p).trace →
        Piece.markup x = p := by
      cases p with
      | literal text => exact fun h => absurd h List.not_mem_nil
      | markup m =>
        rw [fillPiece, Traced.map_eq]
        exact fun h => congrArg _ (eq_of_resolved_mem_settle h)
    rw [fill_cons] at h
    cases hp : (fillPiece bindings voidNames p).result with
    | error e =>
      rw [Traced.bind_of_error hp] at h
      exact hfirst h ▸ List.mem_cons_self
    | ok first =>
      rw [Traced.bind_of_ok hp, bind_pure_comp, Traced.map_eq] at h
      rcases List.mem_append.mp h with h | h
      · exact hfirst h ▸ List.mem_cons_self
      · exact List.mem_cons_of_mem p (ih h)

end Resolved

/-- In the run on a template markup is resolved whose wrapper has the text filled again. What is
resolved in a run within does not count. -/
def Refills (bindings : Entries Entry) (voidNames : List String) (template text : String) : Prop :=
  ∃ m, Event.resolved m ∈ (interpolate bindings voidNames template).trace ∧ ∃ w finish,
    resolve bindings voidNames m = .call w text ∧ w.wrap text = .reenter finish

theorem Refills.length_add_seven_le {template text : String}
    (h : Refills bindings voidNames template text) :
    text.toList.length + 7 ≤ template.toList.length := by
  obtain ⟨m, hm, w, finish, hresolve, -⟩ := h
  rw [interpolate] at hm
  split at hm
  next => exact absurd hm List.not_mem_nil
  next =>
    have hpiece := mem_of_resolved_mem_fill hm
    have hsource := Piece.length_source_le hpiece
    rw [Piece.totalLength_ofTemplate, Piece.source] at hsource
    exact Nat.le_trans
      (length_add_seven_le_of_resolve (Piece.wellFormed_of_mem_ofTemplate hpiece) hresolve) hsource

end Interpolation

/-- **Filling ends, whatever wrappers have filled again, and what it resolves is linear in the
template.** Runs within one another as deep as a seventh of the template and one more are enough for
every run to come to its outcome. A text that is filled again is shorter than the template it comes
from by seven characters at least. Each pair of tags that is resolved at any depth takes seven
characters of the template at least, and each placeholder five. -/
theorem refilling_is_linear (bindings : Entries Entry) (voidNames : List String)
    (template : String) :
    (∀ levels, template.toList.length / 7 < levels →
      interpolateWithin bindings voidNames levels template
        = some (interpolate bindings voidNames template)) ∧
    (∀ outer text, Refills bindings voidNames outer text →
      text.toList.length + 7 ≤ outer.toList.length) ∧
    let forms := (interpolate bindings voidNames template).resolved.map Markup.form
    7 * forms.count .tag + 5 * forms.count .placeholder ≤ template.toList.length := by
  refine ⟨fun levels => interpolateWithin_eq, fun outer text => Refills.length_add_seven_le, ?_⟩
  change toll (interpolate bindings voidNames template).resolved ≤ _
  rw [interpolate]
  split
  next => exact Nat.zero_le _
  next => exact toll_fill_ofTemplate_le bindings voidNames template

def refilling : Entries Entry :=
  [(.str "a", .binding (.wrapper (.wrapper ⟨"nested", fun _ => .reenter (·.map .list)⟩))),
    (.str "b", .binding (.wrapper (.wrapper ⟨"nested", fun _ => .reenter (·.map .list)⟩))),
    (.str "user", .binding (.value (.opaqueNode "Ann")))]

theorem refilling_is_linear_of_refilling :
    let template := "<a><b>{{user}}</b></a>"
    let run := interpolate refilling [] template
    template.toList.length / 7 < 4 ∧ interpolateWithin refilling [] 4 template = some run ∧
    Refills refilling [] template "<b>{{user}}</b>" ∧
    "<b>{{user}}</b>".toList.length + 7 ≤ template.toList.length ∧
    run.resolved = [.tag "a" "<b>{{user}}</b>", .tag "b" "{{user}}", .placeholder "user"] := by
  intro template run
  obtain ⟨hends, hshorter, -⟩ := refilling_is_linear refilling [] template
  have hlevels : template.toList.length / 7 < 4 := by decide +kernel
  have hrun := hends 4 hlevels
  -- runs to a depth can be evaluated, and this one is the run itself
  have htrace : run.trace
      = [.resolved (.tag "a" "<b>{{user}}</b>"), .called ⟨"a", "nested", "<b>{{user}}</b>"⟩,
          .within (.resolved (.tag "b" "{{user}}")),
          .within (.called ⟨"b", "nested", "{{user}}"⟩),
          .within (.within (.resolved (.placeholder "user")))] := by
    refine Option.some.inj ?_
    change (some run).map Traced.trace = _
    rw [← hrun]
    decide +kernel
  have hrefills : Refills refilling [] template "<b>{{user}}</b>" :=
    ⟨.tag "a" "<b>{{user}}</b>", htrace ▸ List.mem_cons_self, _, _, rfl, rfl⟩
  exact ⟨hlevels, hrun, hrefills, hshorter _ _ hrefills, by rw [Run.resolved, htrace]; rfl⟩

end RichTemplate
