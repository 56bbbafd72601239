import Mathlib.Data.List.Basic
import RichTemplate.Proofs.Filling

/-!
# Runs that fail

A run fails before it looks at the template, where an entry is no binding, or at the first tag whose
function cannot be called or refuses the text. What it did till then is what it would have done
anyway: the events of the matches in front, one after the other, and those of the match that fails.
-/

namespace RichTemplate

open Interpolation

namespace Callee

def wrapper? : Callee → Option Wrapper
  | wrapper w => some w
  | _ => none

theorem wrapper?_eq_none {fn : Callee} (h : fn.isCallable = false) : fn.wrapper? = none := by
  cases fn with
  | wrapper w => exact Bool.noConfusion h
  | _ => rfl

end Callee

/-- A wrapper that refuses nothing: it has a node for every text, or for all that its text may be
filled with. -/
def Wrapper.Obliging (w : Wrapper) : Prop :=
  ∀ text, match w.wrap text with
    | .done outcome => ∃ v, outcome = .ok v
    | .reenter finish => ∀ segments, ∃ v, finish (.ok segments) = .ok v

def Binding.Obliging (b : Binding) : Prop :=
  b.kind.isValue = true ∨ ∃ w, b.fn = .wrapper w ∧ w.Obliging

namespace Interpolation

variable {bindings : Entries Entry} {voidNames : List String} {m : Markup} {e : InterpolationError}

/-- A tag fails if its binding is no value and has nothing to call, or a function that refuses the
text it is given, which is none for void names. -/
inductive Fails (bindings : Entries Entry) (voidNames : List String) :
    Markup → InterpolationError → Prop
  | notCallable {name content : String} {b : Binding}
    (hget : bindings.get? name = some (.binding b)) (hkind : b.kind.isValue = false)
    (hfn : b.fn.isCallable = false) :
    Fails bindings voidNames (.tag name content) (.notCallable b.fn.given)
  | refuses {name content : String} {b : Binding} {w : Wrapper} {e : InterpolationError}
    (hget : bindings.get? name = some (.binding b)) (hkind : b.kind.isValue = false)
    (hfn : b.fn = .wrapper w)
    (hrun : (callRun bindings voidNames w
      (if voidNames.contains name then "" else content)).result = .error e) :
    Fails bindings voidNames (.tag name content) e

def diagnosticOf? (bindings : Entries Entry) (m : Markup) : Option Diagnostic :=
  match bindings.get? m.name with
  | some (.binding b) =>
    match m with
    | .placeholder name => if b.kind.isValue then none else some (.wrapperInPlaceholder name)
    | .tag _ _ => none
  | _ => some (.unbound m.name)

def callOf? (bindings : Entries Entry) (voidNames : List String) : Markup → Option Call
  | .placeholder _ => none
  | .tag name content =>
    match bindings.get? name with
    | some (.binding b) =>
      if b.kind.isValue then none
      else b.fn.wrapper?.map fun w =>
        ⟨name, w.label, if voidNames.contains name then "" else content⟩
    | _ => none

theorem callOf?_of_unbound (hget : ∀ b, bindings.get? m.name ≠ some (.binding b)) :
    callOf? bindings voidNames m = none := by
  cases m with
  | placeholder name => rfl
  | tag name content =>
    rw [callOf?]
    split
    next b hb => exact absurd hb (hget b)
    next => rfl

theorem diagnosticOf?_of_unbound (hget : ∀ b, bindings.get? m.name ≠ some (.binding b)) :
    diagnosticOf? bindings m = some (.unbound m.name) := by
  rw [diagnosticOf?]
  split
  next b hb => exact absurd hb (hget b)
  next => rfl

/-- Of its own, markup is resolved, and it is called for or reported. -/
theorem filterMap_own?_settle (m : Markup) :
    (settle bindings voidNames m).trace.filterMap Event.own?
      = .resolved m :: ((callOf? bindings voidNames m).map Event.called).toList
          ++ ((diagnosticOf? bindings m).map Event.reported).toList := by
  have hresolves := resolves bindings voidNames m
  rw [settle_eq]
  generalize resolve bindings voidNames m = r at hresolves
  cases hresolves with
  | unbound hget =>
    rw [callOf?_of_unbound hget, diagnosticOf?_of_unbound hget]
    rfl
  | value hget hkind =>
    cases m <;> simp_all [callOf?, diagnosticOf?, Event.own?, Markup.name]
  | placeholder hget hkind =>
    simp [callOf?, diagnosticOf?, Event.own?, Markup.name, hget, hkind]
  | uncallable hget hkind hfn =>
    simp [callOf?, diagnosticOf?, Event.own?, Markup.name, hget, hkind, Callee.wrapper?_eq_none hfn]
  | call hget hkind hfn =>
    simp [callOf?, diagnosticOf?, Event.own?, Markup.name, hget, hkind, hfn, Callee.wrapper?,
      handedOn, filterMap_own?_callRun]

theorem settle_eq_error_iff :
    (settle bindings voidNames m).result = .error e ↔ Fails bindings voidNames m e := by
  constructor
  · intro h
    have hresolves := resolves bindings voidNames m
    rw [settle_eq] at h
    generalize resolve bindings voidNames m = r at hresolves h
    cases hresolves with
    | unbound hget => simp at h
    | value hget hkind => simp at h
    | placeholder hget hkind => simp at h
    | uncallable hget hkind hfn =>
      obtain rfl := Except.error.inj h
      exact .notCallable hget hkind hfn
    | @call name content b w hget hkind hfn =>
      refine .refuses hget hkind hfn ?_
      change (callRun bindings voidNames w (handedOn voidNames name content)).result = .error e
      cases hrun : (callRun bindings voidNames w (handedOn voidNames name content)).result with
      | ok v => simp [hrun, Except.map] at h
      | error e' => simpa [hrun, Except.map] using h
  · rintro (⟨hget, hkind, hfn⟩ | ⟨hget, hkind, hfn, hrun⟩)
    · rw [settle_eq, resolve_tag hget hkind, callWith_eq_failed hfn]
    · rw [settle_eq, resolve_tag hget hkind, hfn]
      exact congrArg (Except.map some) hrun

theorem settle_eq_ok (h : ∀ e, ¬ Fails bindings voidNames m e) :
    (settle bindings voidNames m).result = .ok (nodeOf bindings voidNames m) := by
  cases hresult : (settle bindings voidNames m).result with
  | ok r => rw [nodeOf, hresult]; rfl
  | error e => exact absurd (settle_eq_error_iff.mp hresult) (h e)

/-- What a run does of its own is listed by the matches it has come to. -/
theorem own_of_trace_eq {r : Run (List Value)} {ms : List Match}
    (h : r.trace = ms.flatMap fun m => (settle bindings voidNames m.markup).trace) :
    r.own.resolved = ms.map Match.markup ∧
      r.own.calls = ms.filterMap (fun m => callOf? bindings voidNames m.markup) ∧
      r.own.diagnostics = ms.filterMap fun m => diagnosticOf? bindings m.markup := by
  have hown : r.own.trace = ms.flatMap fun m =>
      .resolved m.markup :: ((callOf? bindings voidNames m.markup).map Event.called).toList
        ++ ((diagnosticOf? bindings m.markup).map Event.reported).toList := by
    rw [Run.own, h, List.filterMap_flatMap]
    simp only [filterMap_own?_settle]
  refine ⟨?_, ?_, ?_⟩
  · rw [Run.resolved, hown, List.filterMap_flatMap, List.map_eq_flatMap]
    congr 1
    funext m
    cases callOf? bindings voidNames m.markup <;> cases diagnosticOf? bindings m.markup <;> rfl
  · rw [Run.calls, hown, List.filterMap_flatMap, List.filterMap_eq_flatMap_toList]
    congr 1
    funext m
    cases callOf? bindings voidNames m.markup <;> cases diagnosticOf? bindings m.markup <;> rfl
  · rw [Run.diagnostics, hown, List.filterMap_flatMap, List.filterMap_eq_flatMap_toList]
    congr 1
    funext m
    cases callOf? bindings voidNames m.markup <;> cases diagnosticOf? bindings m.markup <;> rfl

/-- A run none of whose matches fails does what each of them does. -/
theorem interpolate_of_not_fails {template : String} (hbindings : AllBindings bindings)
    (h : ∀ m ∈ scan template, ∀ e, ¬ Fails bindings voidNames m.markup e) :
    interpolate bindings voidNames template
      = ⟨.ok ((Piece.ofTemplate template).flatMap (segmentsOf bindings voidNames)),
          (scan template).flatMap fun m => (settle bindings voidNames m.markup).trace⟩ := by
  have hsettles : ∀ x, Piece.markup x ∈ Piece.ofTemplate template →
      (settle bindings voidNames x).result = .ok (nodeOf bindings voidNames x) := by
    intro x hx
    obtain ⟨x', hx', rfl⟩ := mem_ofPieces_of_markup_mem 0 hx
    exact settle_eq_ok (h x' (ofPieces_ofTemplate template ▸ hx'))
  rw [hbindings.interpolate_eq, fill_eq_of_settles hsettles, flatMap_eventsOf 0,
    ofPieces_ofTemplate]

theorem Returning.not_fails (h : Returning bindings voidNames) (m : Markup)
    (e : InterpolationError) : ¬ Fails bindings voidNames m e := by
  intro hfails
  have hresult := settle_eq_error_iff.mpr hfails
  rw [h.settle_result m] at hresult
  exact absurd hresult (by simp)

theorem exists_obliging (h : ∀ x ∈ bindings, ∃ b, x.2 = .binding b ∧ b.Obliging) {name : String}
    {b : Binding} (hget : bindings.get? name = some (.binding b)) (hkind : b.kind.isValue = false) :
    ∃ w, b.fn = .wrapper w ∧ w.Obliging := by
  obtain ⟨x, hx, hentry⟩ := exists_mem_of_get? hget
  obtain ⟨b', hb', hobliging⟩ := h x hx
  obtain rfl : b' = b := Entry.binding.inj (hb'.symm.trans hentry)
  exact hobliging.resolve_left (by simp [hkind])

/-- Wrappers that refuse nothing return, also where they fill the texts they are given. -/
theorem callRun_returns (h : ∀ x ∈ bindings, ∃ b, x.2 = .binding b ∧ b.Obliging) (text : String) :
    ∀ w : Wrapper, w.Obliging → ∃ v, (callRun bindings voidNames w text).result = .ok v := by
  -- Texts are nested, not wrappers: a wrapper may well be called within itself.
  induction text using handedOn_induction voidNames with
  | step text ih =>
    intro w hw
    have hmarkup : ∀ m, Piece.markup m ∈ Piece.ofTemplate text →
        ∀ e, ¬ Fails bindings voidNames m e := by
      intro m hm e hfails
      cases hfails with
      | notCallable hget hkind hfn =>
        obtain ⟨w', hw', -⟩ := exists_obliging h hget hkind
        rw [hw'] at hfn
        exact Bool.noConfusion hfn
      | @refuses name content b w' e hget hkind hfn hrun =>
        obtain ⟨w'', hw'', hobliging⟩ := exists_obliging h hget hkind
        obtain rfl := Callee.wrapper.inj (hfn.symm.trans hw'')
        obtain ⟨v, hv⟩ := ih name content hm w' hobliging
        exact absurd (hv.symm.trans hrun) (by simp)
    have hfill := fill_eq_of_settles fun m hm => settle_eq_ok (hmarkup m hm)
    have hobliging := hw text
    rw [callRun]
    cases hwrap : w.wrap text with
    | done outcome =>
      rw [hwrap] at hobliging
      obtain ⟨v, rfl⟩ := hobliging
      exact ⟨v, rfl⟩
    | reenter finish =>
      rw [hwrap] at hobliging
      rw [Wrapping.run, hfill]
      exact hobliging _

theorem returning_of_obliging (h : ∀ x ∈ bindings, ∃ b, x.2 = .binding b ∧ b.Obliging) :
    Returning bindings voidNames := by
  intro x hx
  obtain ⟨b, hb, hobliging⟩ := h x hx
  refine ⟨b, hb, ?_⟩
  rcases hobliging with hvalue | ⟨w, hw, hwraps⟩
  · exact Or.inl hvalue
  · exact Or.inr ⟨w, hw, fun text => callRun_returns h text w hwraps⟩

end Interpolation

def grudging : Entries Entry :=
  (.str "i", .binding (.wrapper (.wrapper ⟨"picky", fun _ => .done (.error (.refused "no"))⟩)))
    :: greeting

theorem allBindings_grudging : AllBindings grudging := by
  intro x hx
  rcases List.mem_cons.mp hx with rfl | hx
  · exact ⟨_, rfl⟩
  · exact (returning_greeting.allBindings) x hx

end RichTemplate
