import RichTemplate.Interpolation

/-!
# Filling piece by piece

A list of pieces is filled one piece after the other, so what a whole run does is what it does for
each piece, in order, up to the first that fails.
-/

namespace RichTemplate

namespace Traced

variable {ε τ α β : Type}

theorem ext {x y : Traced ε τ α} (hresult : x.result = y.result) (htrace : x.trace = y.trace) :
    x = y := by
  cases x
  cases y
  simp_all

theorem bind_of_ok {x : Traced ε τ α} {a : α} (h : x.result = .ok a) (f : α → Traced ε τ β) :
    x >>= f = ⟨(f a).result, x.trace ++ (f a).trace⟩ := by
  change andThen x f = _
  rw [andThen, h]

theorem bind_of_error {x : Traced ε τ α} {e : ε} (h : x.result = .error e)
    (f : α → Traced ε τ β) : x >>= f = ⟨.error e, x.trace⟩ := by
  change andThen x f = _
  rw [andThen, h]

@[simp] theorem result_pure (a : α) : (pure a : Traced ε τ α).result = .ok a := rfl

@[simp] theorem trace_pure (a : α) : (pure a : Traced ε τ α).trace = [] := rfl

theorem map_id_eq (x : Traced ε τ α) : id <$> x = x := by
  change x >>= (fun a => pure a) = x
  cases hx : x.result with
  | ok a =>
    rw [bind_of_ok hx]
    exact ext hx.symm (List.append_nil _)
  | error e =>
    rw [bind_of_error hx]
    exact ext hx.symm rfl

theorem pure_bind_eq (a : α) (f : α → Traced ε τ β) : pure a >>= f = f a := by
  rw [bind_of_ok (result_pure a)]
  exact ext rfl (List.nil_append _)

theorem bind_bind_eq {γ : Type} (x : Traced ε τ α) (f : α → Traced ε τ β)
    (g : β → Traced ε τ γ) : x >>= f >>= g = x >>= fun a => f a >>= g := by
  cases hx : x.result with
  | ok a =>
    rw [bind_of_ok hx f, bind_of_ok hx]
    cases hf : (f a).result with
    | ok b =>
      rw [bind_of_ok hf, bind_of_ok (a := b) rfl]
      exact ext rfl (List.append_assoc _ _ _)
    | error e =>
      rw [bind_of_error hf, bind_of_error (e := e) rfl]
  | error e =>
    rw [bind_of_error hx f, bind_of_error hx, bind_of_error (e := e) rfl]

instance : LawfulMonad (Traced ε τ) :=
  LawfulMonad.mk' _ map_id_eq pure_bind_eq bind_bind_eq

theorem mark_bind (t : τ) (f : Unit → Traced ε τ β) :
    mark t >>= f = ⟨(f ()).result, t :: (f ()).trace⟩ := rfl

theorem map_eq (f : α → β) (x : Traced ε τ α) : f <$> x = ⟨x.result.map f, x.trace⟩ := by
  change x >>= (fun a => pure (f a)) = _
  cases hx : x.result with
  | ok a =>
    rw [bind_of_ok hx]
    exact ext rfl (List.append_nil _)
  | error e => exact bind_of_error hx _

end Traced

theorem Callee.isCallable_iff {fn : Callee} : fn.isCallable = true ↔ ∃ w, fn = .wrapper w := by
  cases fn <;> simp [Callee.isCallable]

theorem Piece.length_source_le {p : Piece} {ps : List Piece} (h : p ∈ ps) :
    p.source.length ≤ Piece.totalLength ps := by
  induction ps with
  | nil => exact absurd h List.not_mem_nil
  | cons q ps ih =>
    rw [Piece.totalLength_cons]
    rcases List.mem_cons.mp h with rfl | h
    · exact Nat.le_add_right _ _
    · exact Nat.le_trans (ih h) (Nat.le_add_left _ _)

namespace Interpolation

variable (bindings : Entries Entry) (voidNames : List String)

def callRun (w : Wrapper) (text : String) : Run Value :=
  (w.wrap text).run fun _ => fill bindings voidNames (Piece.ofTemplate text)

variable {bindings voidNames}

/-- All that settling markup does: the outcome of resolving it decides. -/
theorem settle_eq (m : Markup) :
    settle bindings voidNames m =
      match resolve bindings voidNames m with
      | .dropped d => ⟨.ok none, [.resolved m, .reported d]⟩
      | .node v => ⟨.ok (some v), [.resolved m]⟩
      | .failed e => ⟨.error e, [.resolved m]⟩
      | .call w text =>
        ⟨(callRun bindings voidNames w text).result.map some,
          .resolved m :: .called ⟨m.name, w.label, text⟩ ::
            (callRun bindings voidNames w text).trace⟩ := by
  rw [settle]
  split
  next d h => rw [h]; rfl
  next v h => rw [h]; rfl
  next e h => rw [h]; rfl
  next w text h =>
    rw [h]
    change _ >>= (fun _ => _ >>= fun _ => _ >>= fun node => pure (some node)) = _
    rw [Traced.mark_bind, Traced.mark_bind, bind_pure_comp, Traced.map_eq]
    rfl

inductive Resolves (bindings : Entries Entry) (voidNames : List String) :
    Markup → Resolution → Prop
  | unbound {m : Markup} (hget : ∀ b, bindings.get? m.name ≠ some (.binding b)) :
    Resolves bindings voidNames m (.dropped (.unbound m.name))
  | value {m : Markup} {b : Binding} (hget : bindings.get? m.name = some (.binding b))
    (hkind : b.kind.isValue = true) : Resolves bindings voidNames m (.node b.node)
  | placeholder {name : String} {b : Binding} (hget : bindings.get? name = some (.binding b))
    (hkind : b.kind.isValue = false) :
    Resolves bindings voidNames (.placeholder name) (.dropped (.wrapperInPlaceholder name))
  | uncallable {name content : String} {b : Binding}
    (hget : bindings.get? name = some (.binding b)) (hkind : b.kind.isValue = false)
    (hfn : b.fn.isCallable = false) :
    Resolves bindings voidNames (.tag name content) (.failed (.notCallable b.fn.given))
  | call {name content : String} {b : Binding} {w : Wrapper}
    (hget : bindings.get? name = some (.binding b)) (hkind : b.kind.isValue = false)
    (hfn : b.fn = .wrapper w) :
    Resolves bindings voidNames (.tag name content) (.call w (handedOn voidNames name content))

theorem callWith_eq_failed {fn : Callee} (h : fn.isCallable = false) (text : String) :
    callWith text fn = .failed (.notCallable fn.given) := by
  cases fn with
  | absent => rfl
  | wrapper w => exact absurd h (Bool.noConfusion)
  | other given => rfl

theorem resolve_tag {name : String} {b : Binding} (hget : bindings.get? name = some (.binding b))
    (hkind : b.kind.isValue = false) (content : String) :
    resolve bindings voidNames (.tag name content)
      = callWith (handedOn voidNames name content) b.fn := by
  simp only [resolve, Markup.name, hget, resolveWith, hkind, Bool.false_eq_true, if_false]

theorem resolves (bindings : Entries Entry) (voidNames : List String) (m : Markup) :
    Resolves bindings voidNames m (resolve bindings voidNames m) := by
  unfold resolve
  split
  next b hget =>
    unfold resolveWith
    split
    next hkind => exact .value hget hkind
    next hkind =>
      have hkind : b.kind.isValue = false := by simpa using hkind
      cases m with
      | placeholder name => exact .placeholder hget hkind
      | tag name content =>
        change Resolves bindings voidNames _ (callWith (handedOn voidNames name content) b.fn)
        cases hcall : b.fn.isCallable with
        | false =>
          rw [callWith_eq_failed hcall]
          exact .uncallable hget hkind hcall
        | true =>
          obtain ⟨w, hw⟩ := Callee.isCallable_iff.mp hcall
          rw [hw]
          exact .call hget hkind hw
  next hget => exact .unbound fun b hb => hget b hb

/-- Nothing that a wrapper does is the run's own doing. -/
theorem filterMap_own?_callRun (w : Wrapper) (text : String) :
    (callRun bindings voidNames w text).trace.filterMap Event.own? = [] := by
  rw [callRun]
  cases w.wrap text with
  | done outcome => rfl
  | reenter finish =>
    refine List.filterMap_eq_nil_iff.mpr fun e he => ?_
    obtain ⟨e', -, rfl⟩ := List.mem_map.mp he
    rfl

section Fill

variable {ps qs : List Piece}

def fillPiece (bindings : Entries Entry) (voidNames : List String) : Piece → Run (List Value)
  | .literal text => pure [.str (String.ofList text)]
  | .markup m => Option.toList <$> settle bindings voidNames m

theorem fill_nil : fill bindings voidNames [] = pure [] := by
  rw [fill]

theorem fill_cons (p : Piece) (ps : List Piece) :
    fill bindings voidNames (p :: ps) = do
      let first ← fillPiece bindings voidNames p
      let rest ← fill bindings voidNames ps
      return first ++ rest := by
  cases p with
  | literal text =>
    rw [fill, fillPiece, pure_bind]
    rfl
  | markup m =>
    rw [fill, fillPiece, bind_map_left]

theorem fill_append (ps qs : List Piece) :
    fill bindings voidNames (ps ++ qs) = do
      let first ← fill bindings voidNames ps
      let rest ← fill bindings voidNames qs
      return first ++ rest := by
  induction ps with
  | nil => simp [fill_nil]
  | cons p ps ih =>
    simp only [List.cons_append, fill_cons, ih, bind_assoc, pure_bind, List.append_assoc]

end Fill

/-- The text that markup hands on is shorter than a text that the markup is read in. -/
theorem length_handedOn_lt {name content text : String} (voidNames : List String)
    (h : Piece.markup (.tag name content) ∈ Piece.ofTemplate text) :
    (handedOn voidNames name content).toList.length < text.toList.length := by
  have hsource := Piece.length_source_le h
  rw [Piece.totalLength_ofTemplate, Piece.source, Markup.length_source_tag] at hsource
  have hhanded := length_handedOn_le voidNames name content
  omega

/-- What holds of a text if it holds of the texts that its markup hands on holds of all texts. -/
theorem handedOn_induction {P : String → Prop} (voidNames : List String)
    (step : ∀ text, (∀ name content, Piece.markup (.tag name content) ∈ Piece.ofTemplate text →
      P (handedOn voidNames name content)) → P text) (text : String) : P text := by
  induction hlength : text.toList.length using Nat.strongRecOn generalizing text with
  | _ n ih =>
    refine step text fun name content hmem => ?_
    exact ih _ (hlength ▸ length_handedOn_lt voidNames hmem) _ rfl

/-! ### Runs that return

Where every entry is a binding and every wrapper gives a node for every text, no markup fails, and a
run is read off its pieces one by one. -/

/-- A binding that gives a node under either form of markup: a value does, and a wrapper does if it
returns for every text. -/
def Returns (bindings : Entries Entry) (voidNames : List String) (b : Binding) : Prop :=
  b.kind.isValue = true ∨
    ∃ w, b.fn = .wrapper w ∧ ∀ text, ∃ v, (callRun bindings voidNames w text).result = .ok v

def Returning (bindings : Entries Entry) (voidNames : List String) : Prop :=
  ∀ e ∈ bindings, ∃ b, e.2 = .binding b ∧ Returns bindings voidNames b

def greeting : Entries Entry :=
  [(.str "b", .binding (.wrapper (.wrapper ⟨"plain", fun text => .done (.ok (.str text))⟩))),
    (.str "user", .binding (.value (.opaqueNode "Ann")))]

theorem returning_greeting : Returning greeting ["br"] := by
  intro e he
  simp only [greeting, List.mem_cons, List.not_mem_nil, or_false] at he
  rcases he with rfl | rfl
  · exact ⟨_, rfl, Or.inr ⟨_, rfl, fun text => ⟨.str text, rfl⟩⟩⟩
  · exact ⟨_, rfl, Or.inl rfl⟩

def nodeOf (bindings : Entries Entry) (voidNames : List String) (m : Markup) : Option Value :=
  (settle bindings voidNames m).result.toOption.join

def segmentsOf (bindings : Entries Entry) (voidNames : List String) : Piece → List Value
  | .literal text => [.str (String.ofList text)]
  | .markup m => (nodeOf bindings voidNames m).toList

def eventsOf (bindings : Entries Entry) (voidNames : List String) : Piece → List Event
  | .literal _ => []
  | .markup m => (settle bindings voidNames m).trace

theorem exists_mem_of_get? {name : String} {entry : Entry} (h : bindings.get? name = some entry) :
    ∃ e ∈ bindings, e.2 = entry := by
  obtain ⟨e, hfind, hentry⟩ := Option.map_eq_some_iff.mp h
  exact ⟨e, List.mem_of_find?_eq_some hfind, hentry⟩

theorem Returning.returns_of_get? (h : Returning bindings voidNames) {name : String} {b : Binding}
    (hget : bindings.get? name = some (.binding b)) : Returns bindings voidNames b := by
  obtain ⟨e, he, hentry⟩ := exists_mem_of_get? hget
  obtain ⟨b', hb', hreturns⟩ := h e he
  obtain rfl : b' = b := Entry.binding.inj (hb'.symm.trans hentry)
  exact hreturns

theorem Returning.exists_wrapper (h : Returning bindings voidNames) {name : String} {b : Binding}
    (hget : bindings.get? name = some (.binding b)) (hkind : b.kind.isValue = false) :
    ∃ w, b.fn = .wrapper w ∧ ∀ text, ∃ v, (callRun bindings voidNames w text).result = .ok v := by
  rcases h.returns_of_get? hget with hval | hwrapper
  · rw [hkind] at hval
    exact absurd hval Bool.false_ne_true
  · exact hwrapper

theorem Returning.settle_result (h : Returning bindings voidNames) (m : Markup) :
    (settle bindings voidNames m).result = .ok (nodeOf bindings voidNames m) := by
  obtain ⟨r, hr⟩ : ∃ r, (settle bindings voidNames m).result = .ok r := by
    have hresolves := resolves bindings voidNames m
    rw [settle_eq]
    generalize resolve bindings voidNames m = r at hresolves
    cases hresolves with
    | unbound hget => exact ⟨none, rfl⟩
    | value hget hkind => exact ⟨some _, rfl⟩
    | placeholder hget hkind => exact ⟨none, rfl⟩
    | uncallable hget hkind hfn =>
      obtain ⟨w, hw, -⟩ := h.exists_wrapper hget hkind
      rw [hw] at hfn
      exact Bool.noConfusion hfn
    | @call name content b w hget hkind hfn =>
      obtain ⟨w', hw', hreturns⟩ := h.exists_wrapper hget hkind
      obtain rfl := Callee.wrapper.inj (hfn.symm.trans hw')
      obtain ⟨v, hv⟩ := hreturns (handedOn voidNames name content)
      exact ⟨some v, congrArg (Except.map some) hv⟩
  rw [nodeOf, hr]
  rfl

/-- Pieces whose markup all settles are filled one by one. -/
theorem fill_eq_of_settles {ps : List Piece} (h : ∀ m, Piece.markup m ∈ ps →
      (settle bindings voidNames m).result = .ok (nodeOf bindings voidNames m)) :
    fill bindings voidNames ps
      = ⟨.ok (ps.flatMap (segmentsOf bindings voidNames)),
          ps.flatMap (eventsOf bindings voidNames)⟩ := by
  induction ps with
  | nil => rw [fill_nil]; rfl
  | cons p ps ih =>
    have hpiece : fillPiece bindings voidNames p
        = ⟨.ok (segmentsOf bindings voidNames p), eventsOf bindings voidNames p⟩ := by
      cases p with
      | literal text => rfl
      | markup m => rw [fillPiece, Traced.map_eq, h m List.mem_cons_self]; rfl
    rw [fill_cons, hpiece, ih fun m hm => h m (List.mem_cons_of_mem p hm), Traced.bind_of_ok rfl,
      Traced.bind_of_ok rfl]
    exact Traced.ext rfl (by simp)

theorem Returning.fill_eq (h : Returning bindings voidNames) (ps : List Piece) :
    fill bindings voidNames ps
      = ⟨.ok (ps.flatMap (segmentsOf bindings voidNames)),
          ps.flatMap (eventsOf bindings voidNames)⟩ :=
  fill_eq_of_settles fun m _ => h.settle_result m

def AllBindings (bindings : Entries Entry) : Prop :=
  ∀ e ∈ bindings, ∃ b, e.2 = .binding b

theorem AllBindings.firstForeign?_eq_none (h : AllBindings bindings) :
    firstForeign? bindings = none := by
  refine List.findSome?_eq_none_iff.mpr fun e he => ?_
  obtain ⟨b, hb⟩ := h e he
  rw [hb]

theorem AllBindings.interpolate_eq (h : AllBindings bindings) (template : String) :
    interpolate bindings voidNames template
      = fill bindings voidNames (Piece.ofTemplate template) := by
  rw [interpolate, h.firstForeign?_eq_none]

theorem AllBindings.get?_cases (h : AllBindings bindings) (name : String) :
    bindings.get? name = none ∨ ∃ b, bindings.get? name = some (.binding b) := by
  cases hget : bindings.get? name with
  | none => exact Or.inl rfl
  | some entry =>
    obtain ⟨e, he, rfl⟩ := exists_mem_of_get? hget
    obtain ⟨b, hb⟩ := h e he
    exact Or.inr ⟨b, congrArg some hb⟩

theorem Returning.allBindings (h : Returning bindings voidNames) : AllBindings bindings := by
  intro e he
  obtain ⟨b, hb, -⟩ := h e he
  exact ⟨b, hb⟩

theorem Returning.interpolate_eq (h : Returning bindings voidNames) (template : String) :
    interpolate bindings voidNames template
      = fill bindings voidNames (Piece.ofTemplate template) :=
  h.allBindings.interpolate_eq template

/-! ### Runs by matches

The events of a run come from its markup alone, so they are listed by matches. -/

theorem ofPieces_ofTemplate (template : String) :
    Match.ofPieces 0 (Piece.ofTemplate template) = scan template := by
  rw [scan, Piece.ofTemplate]
  split
  next hnil => rw [hnil]; rfl
  next => rfl

theorem mem_ofPieces_of_markup_mem {m : Markup} {ps : List Piece} (offset : Nat)
    (h : Piece.markup m ∈ ps) : ∃ m' ∈ Match.ofPieces offset ps, m'.markup = m := by
  induction ps generalizing offset with
  | nil => exact absurd h List.not_mem_nil
  | cons p ps ih =>
    cases p with
    | literal text =>
      exact ih _ ((List.mem_cons.mp h).resolve_left fun heq => Piece.noConfusion heq)
    | markup m' =>
      rcases List.mem_cons.mp h with heq | h
      · exact ⟨_, List.mem_cons_self, (Piece.markup.inj heq).symm⟩
      · obtain ⟨x, hx, hmarkup⟩ := ih (offset + m'.source.length) h
        exact ⟨x, List.mem_cons_of_mem _ hx, hmarkup⟩

theorem flatMap_eventsOf (offset : Nat) (ps : List Piece) :
    ps.flatMap (eventsOf bindings voidNames)
      = (Match.ofPieces offset ps).flatMap fun m => (settle bindings voidNames m.markup).trace := by
  induction ps generalizing offset with
  | nil => rfl
  | cons p ps ih =>
    cases p with
    | literal text => exact ih (offset + text.length)
    | markup m =>
      rw [List.flatMap_cons, ih (offset + m.source.length), Match.ofPieces, List.flatMap_cons]
      rfl

theorem Returning.trace_interpolate (h : Returning bindings voidNames) (template : String) :
    (interpolate bindings voidNames template).trace
      = (scan template).flatMap fun m => (settle bindings voidNames m.markup).trace := by
  rw [h.interpolate_eq, h.fill_eq, flatMap_eventsOf 0, ofPieces_ofTemplate]

end Interpolation

end RichTemplate
