import RichTemplate.Proofs.Failing
import RichTemplate.Proofs.Rendering

/-!
# Profiles that have been loaded

Every name of a profile that has been loaded is bound to what a specification of the document
denotes. So no run against such a profile fails, what it reports is told match by match, and its
segments have a text. Loading logs nothing that anybody needs to see.
-/

namespace RichTemplate

open Schema Interpolation

namespace Registry

variable {r : Registry} {h : List (String × Binding)} {name : String} {entry : Entry}

theorem get?_bindings (r : Registry) (name : String) : r.bindings.get? name = r.get? name := by
  have hkey : (fun e : Value × Entry => e.1.sameKey (.str name)) ∘
      (fun e : String × Entry => (Value.str e.1, e.2)) = fun e => e.1 == name := by
    funext e
    exact Bool.eq_iff_iff.mpr (Value.sameKey_str_iff.trans (by simp))
  rw [Entries.get?, Entries.find?, bindings, List.find?_map, hkey, Option.map_map]
  rfl

theorem ToldBy.exists_of_get? (hr : r.ToldBy h) (hget : r.get? name = some entry) :
    ∃ b, entry = .binding b ∧ (name, b) ∈ h := by
  rw [hr.get?_eq] at hget
  obtain ⟨b, hb, rfl⟩ := Option.map_eq_some_iff.mp hget
  obtain ⟨front, rest, hreverse, -⟩ := List.lookup_eq_some_iff.mp hb
  exact ⟨b, rfl, List.mem_reverse.mp (hreverse ▸ List.mem_append_right front List.mem_cons_self)⟩

theorem ToldBy.allBindings (hr : r.ToldBy h) : AllBindings r.bindings := by
  intro x hx
  obtain ⟨n, b, heq, -, -⟩ := hr.registrable_bindings x hx
  exact ⟨b, congrArg Prod.snd heq⟩

end Registry

structure Profile.Denoted (p : Profile) : Prop where
  allBindings : AllBindings p.registry.bindings
  denotes : ∀ {name b}, p.registry.get? name = some (.binding b) → ∃ spec, DenotesBinding spec b

namespace Profile

variable {document : Value} {p : Profile}

theorem denoted_of_registration {registry : Registry} {voidNames : List String}
    (hissues : issues document = []) (hregistry : (registration document).result = .ok registry) :
    Denoted ⟨registry, voidNames⟩ := by
  obtain ⟨p', hdenotes⟩ := issues_eq_nil_iff.mp hissues
  cases hdenotes with
  | @map entries names extra bindings _ _ _ _ hbindings =>
    have htold : registry.ToldBy bindings := by
      rw [registration, registrationOf, entriesOf_of_denotes hbindings] at hregistry
      rw [← recorded_map bindings]
      exact Registry.toldBy_empty.registerAll hregistry
    refine ⟨htold.allBindings, fun {name b} hget => ?_⟩
    obtain ⟨b', heq, hmem⟩ := htold.exists_of_get? hget
    obtain rfl := Entry.binding.inj heq
    obtain ⟨specs, heach⟩ := hbindings.exists_forall₂
    obtain ⟨e, -, hentry⟩ := exists_denotesEntry_of_mem heach hmem
    cases hentry with
    | @mk _ spec _ _ hbinding => exact ⟨spec, hbinding⟩

theorem denoted_of_loadData (h : (loadData document).result = .ok p) : p.Denoted := by
  unfold loadData at h
  split at h
  next => cases h
  next =>
    unfold ofValue at h
    dsimp only at h
    split at h
    next hissues hregistry =>
      obtain rfl := Except.ok.inj h
      exact denoted_of_registration hissues hregistry
    next => cases h

theorem denoted_of_load {content : FileContent} (h : (load content).result = .ok p) :
    p.Denoted := by
  rw [load] at h
  split at h
  next => exact denoted_of_loadData h
  next => cases h

inductive Stands (p : Profile) (name : String) : String → Prop
  | unbound (hget : p.registry.get? name = none) : Stands p name "unbound"
  | wrapper {tag : String} {props : Entries Value}
    (hget : p.registry.get? name = some (.binding (.wrapper (.wrapper (wrapIn tag props))))) :
    Stands p name "wrapper"
  | value {spec node : Value} (hget : p.registry.get? name = some (.binding (.value node)))
    (hnode : DenotesElement spec node) : Stands p name "value"

namespace Denoted

theorem exists_stands (hp : p.Denoted) (name : String) : ∃ word, p.Stands name word := by
  have hget := Registry.get?_bindings p.registry name
  rcases hp.allBindings.get?_cases name with hnone | ⟨b, hsome⟩
  · exact ⟨_, .unbound (hget.symm.trans hnone)⟩
  · obtain ⟨spec, hbinding⟩ := hp.denotes (hget.symm.trans hsome)
    cases hbinding with
    | wrap => exact ⟨_, .wrapper (hget.symm.trans hsome)⟩
    | element _ _ hnode => exact ⟨_, .value (hget.symm.trans hsome) hnode⟩

/-- Markup settles to a node that has a text, if to any, and reports what its name stands for. -/
theorem settle_eq (hp : p.Denoted) (m : Markup) :
    let run := settle p.registry.bindings p.voidNames m
    (∃ node, run.result = .ok node ∧ ∃ text, Segment.textOf node.toList = .ok text) ∧
      run.diagnostics = (diagnosticOf? p.registry.bindings m).toList := by
  intro run
  simp only [run, Interpolation.settle_eq, resolve, diagnosticOf?, Registry.get?_bindings]
  obtain ⟨word, hstands⟩ := hp.exists_stands m.name
  cases hstands with
  | unbound hget =>
    rw [hget]
    exact ⟨⟨none, rfl, "", rfl⟩, rfl⟩
  | wrapper hget =>
    rw [hget]
    cases m with
    | placeholder name => exact ⟨⟨none, rfl, "", rfl⟩, rfl⟩
    | tag name content =>
      exact ⟨⟨some _, rfl, _, Segment.textOf_singleton.trans (text_wrapIn _ _ _)⟩, rfl⟩
  | value hget hnode =>
    rw [hget]
    refine ⟨⟨some _, rfl, _, Segment.textOf_singleton.trans hnode.text_eq⟩, ?_⟩
    cases m <;> rfl

theorem not_fails (hp : p.Denoted) (m : Markup) (e : InterpolationError) :
    ¬ Fails p.registry.bindings p.voidNames m e := by
  intro hfails
  obtain ⟨⟨node, hok, -⟩, -⟩ := hp.settle_eq m
  rw [settle_eq_error_iff.mpr hfails] at hok
  cases hok

theorem exists_textOf_segmentsOf (hp : p.Denoted) (piece : Piece) :
    ∃ text, Segment.textOf (segmentsOf p.registry.bindings p.voidNames piece) = .ok text := by
  cases piece with
  | literal text => exact ⟨_, Segment.textOf_singleton⟩
  | markup m =>
    obtain ⟨⟨node, hnode, htext⟩, -⟩ := hp.settle_eq m
    rw [segmentsOf, nodeOf, hnode]
    exact htext

/-- A run returns, its segments have a text, and it reports what each match does. -/
theorem interpolate_eq (hp : p.Denoted) (template : String) :
    let run := p.interpolate template
    (∃ segments, run.result = .ok segments ∧ ∃ text, Segment.textOf segments = .ok text) ∧
      run.diagnostics
        = (scan template).filterMap fun m => diagnosticOf? p.registry.bindings m.markup := by
  intro run
  have hrun : run = _ := interpolate_of_not_fails hp.allBindings fun m _ => hp.not_fails m.markup
  rw [hrun]
  refine ⟨⟨_, rfl, ?_⟩, ?_⟩
  · choose texts htexts using hp.exists_textOf_segmentsOf
    refine ⟨_, Segment.textOf_flatMap (g := fun piece => (texts piece).toList) (fun piece => ?_) _⟩
    rw [String.ofList_toList]
    exact htexts piece
  · rw [Run.diagnostics, List.filterMap_flatMap, List.filterMap_eq_flatMap_toList]
    exact congrArg (List.flatMap · _) (funext fun m => (hp.settle_eq m.markup).2)

end Denoted

/-! ### What loading logs -/

end Profile

end RichTemplate
