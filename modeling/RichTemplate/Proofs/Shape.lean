import RichTemplate.Proofs.Accounting
import RichTemplate.Proofs.Failing

/-!
# The shape of the outcome

What a run calls for, what it reports and where its outcome holds literal text is settled by the
template and by the role of each name in it: whether it is bound, and whether to a value. What the
nodes are has no bearing on it, and neither has a name that the template does not hold.
-/

namespace RichTemplate

open Interpolation

namespace Part

def literal? : Part → Option String
  | literal text => some text
  | node _ => none

theorem getElem?_eq_literal_iff {parts : List Part} {i : Nat} {text : String} :
    parts[i]? = some (literal text) ↔ (parts.map literal?)[i]? = some (some text) := by
  rw [List.getElem?_map]
  cases parts[i]? with
  | none => simp
  | some p => cases p <;> simp [literal?]

/-- Where the literals of a template come to lie depends on which of its matches have a node. -/
theorem map_literal?_ofTemplate {nodes nodes' : List (Option Value)} (template : String)
    (h : nodes.map Option.isSome = nodes'.map Option.isSome) :
    (ofTemplate template nodes).map literal? = (ofTemplate template nodes').map literal? := by
  have hnode : ∀ node : Option Value,
      (ofNode node).map literal? = if node.isSome then [none] else [] := by
    intro node
    cases node <;> rfl
  have hnodes : ∀ nodes : List (Option Value),
      (nodes.map ofNode).map (List.map literal?)
        = (nodes.map Option.isSome).map fun b => if b then [none] else [] := by
    intro nodes
    simp only [List.map_map]
    exact List.map_congr_left fun node _ => hnode node
  unfold ofTemplate
  split
  · rfl
  · rw [map_weave, map_weave, hnodes, hnodes, h]

end Part

namespace Interpolation

variable {bindings bindings' : Entries Entry} {voidNames : List String} {m : Markup}

/-- Whether a name is bound to a value, if it is bound. -/
def role? (bindings : Entries Entry) (name : String) : Option Bool :=
  match bindings.get? name with
  | some (.binding b) => some b.kind.isValue
  | _ => none

/-- What markup does besides what its node is: the name and the text of its call, its report, and
whether it has a node. -/
structure Effect where
  call? : Option (String × String)
  diagnostic? : Option Diagnostic
  hasNode : Bool

def effect (voidNames : List String) (role : Option Bool) (m : Markup) : Effect :=
  match role, m with
  | none, m => ⟨none, some (.unbound m.name), false⟩
  | some true, _ => ⟨none, none, true⟩
  | some false, .placeholder name => ⟨none, some (.wrapperInPlaceholder name), false⟩
  | some false, .tag name content =>
    ⟨some (name, if voidNames.contains name then "" else content), none, true⟩

theorem role?_of_unbound {name : String} (hget : ∀ b, bindings.get? name ≠ some (.binding b)) :
    role? bindings name = none := by
  rw [role?]
  split
  next b hb => exact absurd hb (hget b)
  next => rfl

theorem role?_of_get? {name : String} {b : Binding}
    (hget : bindings.get? name = some (.binding b)) :
    role? bindings name = some b.kind.isValue := by
  rw [role?, hget]

theorem nodeOf_eq (m : Markup) :
    nodeOf bindings voidNames m =
      match resolve bindings voidNames m with
      | .dropped _ => none
      | .node v => some v
      | .failed _ => none
      | .call w text => (callRun bindings voidNames w text).result.toOption := by
  rw [nodeOf, settle_eq]
  cases resolve bindings voidNames m with
  | dropped d => rfl
  | node v => rfl
  | failed e => rfl
  | call w text =>
    change ((callRun bindings voidNames w text).result.map some).toOption.join
      = (callRun bindings voidNames w text).result.toOption
    cases (callRun bindings voidNames w text).result <;> rfl

/-- Markup that does not fail does what the role of its name says. -/
theorem effect_eq (h : ∀ e, ¬ Fails bindings voidNames m e) :
    effect voidNames (role? bindings m.name) m
      = ⟨(callOf? bindings voidNames m).map fun c => (c.name, c.text),
          diagnosticOf? bindings m, (nodeOf bindings voidNames m).isSome⟩ := by
  have hresolves := resolves bindings voidNames m
  rw [nodeOf_eq]
  generalize resolve bindings voidNames m = r at hresolves
  cases hresolves with
  | unbound hget =>
    rw [role?_of_unbound hget, callOf?_of_unbound hget, diagnosticOf?_of_unbound hget]
    rfl
  | value hget hkind =>
    rw [role?_of_get? hget, hkind]
    cases m <;> simp_all [effect, callOf?, diagnosticOf?, Markup.name]
  | @placeholder name b hget hkind =>
    rw [Markup.name, role?_of_get? hget, hkind]
    simp [effect, callOf?, diagnosticOf?, Markup.name, hget, hkind]
  | uncallable hget hkind hfn => exact absurd (.notCallable hget hkind hfn) (h _)
  | @call name content b w hget hkind hfn =>
    have hrun : ∃ v, (callRun bindings voidNames w (handedOn voidNames name content)).result
        = .ok v := by
      cases hresult : (callRun bindings voidNames w (handedOn voidNames name content)).result with
      | ok v => exact ⟨v, rfl⟩
      | error e => exact absurd (.refuses hget hkind hfn hresult) (h e)
    obtain ⟨v, hv⟩ := hrun
    rw [Markup.name, role?_of_get? hget, hkind]
    simp [effect, callOf?, diagnosticOf?, Markup.name, hget, hkind, hfn, Callee.wrapper?, hv,
      Except.toOption]

theorem effect_congr (h : ∀ e, ¬ Fails bindings voidNames m e)
    (h' : ∀ e, ¬ Fails bindings' voidNames m e)
    (hrole : role? bindings m.name = role? bindings' m.name) :
    ((callOf? bindings voidNames m).map fun c => (c.name, c.text))
        = ((callOf? bindings' voidNames m).map fun c => (c.name, c.text)) ∧
      diagnosticOf? bindings m = diagnosticOf? bindings' m ∧
      (nodeOf bindings voidNames m).isSome = (nodeOf bindings' voidNames m).isSome := by
  have heffect := effect_eq h
  rw [hrole, effect_eq h'] at heffect
  obtain ⟨hcall, hdiagnostic, hnode⟩ := Effect.mk.inj heffect
  exact ⟨hcall.symm, hdiagnostic.symm, hnode.symm⟩

def SameRole (bindings bindings' : Entries Entry) (name : String) : Prop :=
  (bindings.get? name).isSome = (bindings'.get? name).isSome ∧
    ∀ b b', bindings.get? name = some (.binding b) → bindings'.get? name = some (.binding b') →
      b.kind.isValue = b'.kind.isValue

theorem sameRole_iff {name : String} (h : AllBindings bindings) (h' : AllBindings bindings') :
    SameRole bindings bindings' name ↔ role? bindings name = role? bindings' name := by
  rcases h.get?_cases name with hget | ⟨b, hget⟩ <;>
    rcases h'.get?_cases name with hget' | ⟨b', hget'⟩ <;>
    simp [SameRole, role?, hget, hget']

/-- A name has the same binding in two lists, and its wrapper, if it has one, is the same function:
one that has its text filled anew gives the same with either list. -/
structure SameBinding (bindings bindings' : Entries Entry) (voidNames : List String)
    (name : String) : Prop where
  get?_eq : bindings.get? name = bindings'.get? name
  outcome_eq : ∀ b w, bindings.get? name = some (.binding b) → b.fn = .wrapper w → ∀ text,
    (callRun bindings voidNames w text).result = (callRun bindings' voidNames w text).result

/-- A wrapper that does not have its text filled is the same function with any list. -/
theorem sameBinding_of_done {name : String} (hget : bindings.get? name = bindings'.get? name)
    (hdone : ∀ b w, bindings.get? name = some (.binding b) → b.fn = .wrapper w →
      ∀ text, ∃ outcome, w.wrap text = .done outcome) :
    SameBinding bindings bindings' voidNames name := by
  refine ⟨hget, fun b w hb hw text => ?_⟩
  obtain ⟨outcome, houtcome⟩ := hdone b w hb hw text
  rw [callRun, callRun, houtcome]
  rfl

theorem SameBinding.nodeOf_eq (h : SameBinding bindings bindings' voidNames m.name) :
    nodeOf bindings voidNames m = nodeOf bindings' voidNames m := by
  have hresolve : resolve bindings voidNames m = resolve bindings' voidNames m := by
    rw [resolve, resolve, h.get?_eq]
  have hresolves := resolves bindings voidNames m
  rw [Interpolation.nodeOf_eq, Interpolation.nodeOf_eq, ← hresolve]
  generalize resolve bindings voidNames m = r at hresolves
  cases hresolves with
  | @call name content b w hget hkind hfn =>
    exact congrArg Except.toOption (h.outcome_eq b w hget hfn (handedOn voidNames name content))
  | _ => rfl

def partsOf (bindings : Entries Entry) (voidNames : List String) (template : String) : List Part :=
  Part.ofTemplate template ((scan template).map fun m => nodeOf bindings voidNames m.markup)

variable {template : String}

theorem interpolate_eq_partsOf (hbindings : AllBindings bindings)
    (h : ∀ m ∈ scan template, ∀ e, ¬ Fails bindings voidNames m.markup e) :
    (interpolate bindings voidNames template).result
      = .ok ((partsOf bindings voidNames template).map Part.segment) := by
  rw [interpolate_of_not_fails hbindings h, flatMap_segmentsOf_ofTemplate, partsOf]

end Interpolation

/-- **The shape of the outcome does not depend on what the nodes are.** Of two runs that do not
fail, where each name of the template has the same role in both, each resolves the matches of the template
and nothing else, both call for the same names with the same texts and report the same, and the
literals of the template come to lie at the same places of outcomes of the same length. If each name
has the same binding, the outcomes are the same, whatever else the lists hold. -/
theorem interpolate_shape_eq {bindings bindings' : Entries Entry} {voidNames : List String}
    {template : String} (hbindings : AllBindings bindings) (hbindings' : AllBindings bindings')
    (h : ∀ m ∈ scan template, ∀ e, ¬ Fails bindings voidNames m.markup e)
    (h' : ∀ m ∈ scan template, ∀ e, ¬ Fails bindings' voidNames m.markup e)
    (hrole : ∀ m ∈ scan template, SameRole bindings bindings' m.markup.name) :
    let run := interpolate bindings voidNames template
    let run' := interpolate bindings' voidNames template
    let parts := partsOf bindings voidNames template
    let parts' := partsOf bindings' voidNames template
    run.own.resolved = (scan template).map Match.markup ∧
    run'.own.resolved = (scan template).map Match.markup ∧
    run.own.calls.map (fun c => (c.name, c.text)) = run'.own.calls.map (fun c => (c.name, c.text)) ∧
    run.own.diagnostics = run'.own.diagnostics ∧
    run.result = .ok (parts.map Part.segment) ∧ run'.result = .ok (parts'.map Part.segment) ∧
    parts.length = parts'.length ∧
    (∀ (i : Nat) (text : String),
      parts[i]? = some (Part.literal text) ↔ parts'[i]? = some (Part.literal text)) ∧
    ((∀ m ∈ scan template, SameBinding bindings bindings' voidNames m.markup.name) →
      run.result = run'.result) := by
  have heffects := fun m hm =>
    effect_congr (h m hm) (h' m hm) ((sameRole_iff hbindings hbindings').mp (hrole m hm))
  obtain ⟨hresolved, hcalls, hdiagnostics⟩ :=
    own_of_trace_eq (congrArg Traced.trace (interpolate_of_not_fails hbindings h))
  obtain ⟨hresolved', hcalls', hdiagnostics'⟩ :=
    own_of_trace_eq (congrArg Traced.trace (interpolate_of_not_fails hbindings' h'))
  have hliterals : (partsOf bindings voidNames template).map Part.literal?
      = (partsOf bindings' voidNames template).map Part.literal? := by
    apply Part.map_literal?_ofTemplate
    rw [List.map_map, List.map_map]
    exact List.map_congr_left fun m hm => (heffects m hm).2.2
  have hresult := interpolate_eq_partsOf hbindings h
  have hresult' := interpolate_eq_partsOf hbindings' h'
  intro run run' parts parts'
  refine ⟨hresolved, hresolved', ?_, ?_, hresult, hresult', ?_, ?_, ?_⟩
  · rw [hcalls, hcalls', List.map_filterMap, List.map_filterMap]
    exact List.filterMap_congr fun m hm => (heffects m hm).1
  · rw [hdiagnostics, hdiagnostics']
    exact List.filterMap_congr fun m hm => (heffects m hm).2.1
  · simpa using congrArg List.length hliterals
  · intro i text
    rw [Part.getElem?_eq_literal_iff, Part.getElem?_eq_literal_iff, hliterals]
  · intro hsame
    have hnodes : partsOf bindings voidNames template = partsOf bindings' voidNames template := by
      rw [partsOf, partsOf]
      exact congrArg _ (List.map_congr_left fun m hm => (hsame m hm).nodeOf_eq)
    exact hresult.trans (hnodes ▸ hresult'.symm)

/-- Names in the roles they have in `greeting`: the value reads as markup, and the wrapper drops its
text. -/
def parting : Entries Entry :=
  [(.str "user", .binding (.value (.str "<b>{{x}}</b>"))),
    (.str "b", .binding (.wrapper (.wrapper ⟨"drop", fun _ => .done (.ok .null)⟩)))]

def crowded : Entries Entry :=
  (.str "z", .binding (.value (.int 1))) :: parting.reverse

theorem obliging_parting : ∀ x ∈ parting, ∃ b, x.2 = .binding b ∧ b.Obliging := by
  intro x hx
  simp only [parting, List.mem_cons, List.not_mem_nil, or_false] at hx
  rcases hx with rfl | rfl
  · exact ⟨_, rfl, Or.inl rfl⟩
  · exact ⟨_, rfl, Or.inr ⟨_, rfl, fun _ => ⟨.null, rfl⟩⟩⟩

theorem obliging_crowded : ∀ x ∈ crowded, ∃ b, x.2 = .binding b ∧ b.Obliging := by
  intro x hx
  rcases List.mem_cons.mp hx with rfl | hx
  · exact ⟨_, rfl, Or.inl rfl⟩
  · exact obliging_parting x (List.mem_reverse.mp hx)

theorem interpolate_shape_eq_of_parting :
    (∀ m ∈ scan "Hi <b>{{user}}</b>{{user}}{{x}}", SameRole greeting parting m.markup.name) ∧
    (interpolate greeting ["br"] "Hi <b>{{user}}</b>{{user}}{{x}}").own.diagnostics
      = (interpolate parting ["br"] "Hi <b>{{user}}</b>{{user}}{{x}}").own.diagnostics ∧
    (partsOf greeting ["br"] "Hi <b>{{user}}</b>{{user}}{{x}}").length
      = (partsOf parting ["br"] "Hi <b>{{user}}</b>{{user}}{{x}}").length ∧
    (∀ m ∈ scan "Hi <b>{{user}}</b>{{user}}{{x}}",
      SameBinding parting crowded ["br"] m.markup.name) ∧
    (interpolate parting ["br"] "Hi <b>{{user}}</b>{{user}}{{x}}").result
      = (interpolate crowded ["br"] "Hi <b>{{user}}</b>{{user}}{{x}}").result := by
  have hparting : Returning parting ["br"] := returning_of_obliging obliging_parting
  have hcrowded : Returning crowded ["br"] := returning_of_obliging obliging_crowded
  have hnames : ∀ m ∈ scan "Hi <b>{{user}}</b>{{user}}{{x}}",
      m.markup.name ∈ ["b", "user", "x"] := by decide +kernel
  have hrole : ∀ name ∈ ["b", "user", "x"], role? greeting name = role? parting name := by
    decide +kernel
  have hrole' : ∀ name ∈ ["b", "user", "x"], role? parting name = role? crowded name := by
    decide +kernel
  have hsame : ∀ name ∈ ["b", "user", "x"], SameBinding parting crowded ["br"] name := by
    intro name hname
    refine sameBinding_of_done ?_ fun b w hget hfn text => ?_
    · simp only [List.mem_cons, List.not_mem_nil, or_false] at hname
      rcases hname with rfl | rfl | rfl <;> rfl
    · obtain ⟨x, hx, hentry⟩ := exists_mem_of_get? hget
      simp only [parting, List.mem_cons, List.not_mem_nil, or_false] at hx
      rcases hx with rfl | rfl
      · obtain rfl := Entry.binding.inj hentry
        exact Callee.noConfusion hfn
      · obtain rfl := Entry.binding.inj hentry
        obtain rfl := Callee.wrapper.inj hfn
        exact ⟨_, rfl⟩
  have hroles := fun m hm => (sameRole_iff returning_greeting.allBindings hparting.allBindings).mpr
    (hrole _ (hnames m hm))
  have hroles' := fun m hm => (sameRole_iff hparting.allBindings hcrowded.allBindings).mpr
    (hrole' _ (hnames m hm))
  obtain ⟨-, -, -, hdiagnostics, -, -, hlength, -⟩ := interpolate_shape_eq
    returning_greeting.allBindings hparting.allBindings
    (fun m _ => returning_greeting.not_fails m.markup) (fun m _ => hparting.not_fails m.markup)
    hroles
  obtain ⟨-, -, -, -, -, -, -, -, hresult⟩ := interpolate_shape_eq
    hparting.allBindings hcrowded.allBindings
    (fun m _ => hparting.not_fails m.markup) (fun m _ => hcrowded.not_fails m.markup) hroles'
  have hbindings := fun m hm => hsame _ (hnames m hm)
  exact ⟨hroles, hdiagnostics, hlength, hbindings, hresult hbindings⟩

end RichTemplate
