import RichTemplate.Proofs.Tokenizing
import RichTemplate.Yaml.Document

/-!
# How documents fail to be read

Composing the tokens of a text fails for what a token says is wrong, for what cannot stand where it
does, or for its depth. Building the values of the nodes fails for what cannot stand where it does,
or for a scalar that stands for nothing.
-/

namespace RichTemplate.Yaml

/-- A step keeps what holds of the state, and fails in no other way than in one of a kind. -/
def Keeps {σ ε α : Type} (I : σ → Prop) (P : ε → Prop) (x : StateT σ (Except ε) α) : Prop :=
  ∀ s, I s → FailsBy P (x s) ∧ ∀ a s', x s = .ok (a, s') → I s'

namespace Keeps

variable {σ ε α β : Type} {I : σ → Prop} {P : ε → Prop} {x y : StateT σ (Except ε) α}

theorem pure (a : α) : Keeps I P (Pure.pure a) := by
  refine fun s hs => ⟨.ok _, ?_⟩
  rintro _ _ ⟨⟩
  exact hs

theorem throw {e : ε} (h : P e) : Keeps I P (throw e : StateT σ (Except ε) α) :=
  fun s hs => ⟨.error h, by rintro _ _ ⟨⟩⟩

theorem bind {f : α → StateT σ (Except ε) β} (hx : Keeps I P x) (hf : ∀ a, Keeps I P (f a)) :
    Keeps I P (x >>= f) := by
  intro s hs
  obtain ⟨hfails, hkeeps⟩ := hx s hs
  have hrun : (x >>= f) s = x s >>= fun r => f r.1 r.2 := rfl
  rw [hrun]
  cases hresult : x s with
  | error e => exact ⟨.error (hfails e hresult), by rintro _ _ ⟨⟩⟩
  | ok r => exact hf r.1 r.2 (hkeeps r.1 r.2 hresult)

/-- What is done with the state is done with one that has what is kept. -/
theorem get_bind {f : σ → StateT σ (Except ε) β} (hf : ∀ s, I s → Keeps I P (f s)) :
    Keeps I P (get >>= f) :=
  fun s hs => hf s hs s hs

theorem lift_bind {a : Except ε α} {f : α → StateT σ (Except ε) β} (ha : FailsBy P a)
    (hf : ∀ v, a = .ok v → Keeps I P (f v)) :
    Keeps I P ((liftM a : StateT σ (Except ε) α) >>= f) := by
  intro s hs
  cases a with
  | error e => exact ⟨.error (ha e rfl), by rintro _ _ ⟨⟩⟩
  | ok v => exact hf v rfl s hs

theorem set {s' : σ} (h : I s') : Keeps I P (set s' : StateT σ (Except ε) PUnit) := by
  refine fun s hs => ⟨.ok _, ?_⟩
  rintro _ _ ⟨⟩
  exact h

theorem modify {f : σ → σ} (h : ∀ s, I s → I (f s)) :
    Keeps I P (modify f : StateT σ (Except ε) PUnit) := by
  refine fun s hs => ⟨.ok _, ?_⟩
  rintro _ _ ⟨⟩
  exact h s hs

theorem ite {c : Prop} [Decidable c] (hx : Keeps I P x) (hy : Keeps I P y) :
    Keeps I P (if c then x else y) := by
  split
  · exact hx
  · exact hy

theorem forM {f : α → StateT σ (Except ε) PUnit} (hf : ∀ a, Keeps I P (f a)) (as : List α) :
    Keeps I P (as.forM f) := by
  induction as with
  | nil => exact pure _
  | cons a as ih => exact bind (hf a) fun _ => ih

end Keeps

/-! ### Composing -/

namespace Compose

variable {α β : Type} {tokens : List Token}

inductive Faulty (tokens : List Token) : Error → Prop
  | malformed : Faulty tokens .malformed
  | tooDeep : Faulty tokens .tooDeep
  | token {e : Error} (h : .invalid e ∈ tokens) : Faulty tokens e

/-- What tokens say is wrong is not lost. -/
def Within (tokens : List Token) (d : Draft) : Prop :=
  ∀ e, .invalid e ∈ d.tokens → .invalid e ∈ tokens

abbrev Steps (tokens : List Token) (x : Compose α) : Prop :=
  Keeps (Within tokens) (Faulty tokens) x

theorem steps_malformed : Steps tokens (malformed : Compose α) :=
  .throw .malformed

theorem steps_peek : Steps tokens peek := by
  refine .get_bind fun _ hd => ?_
  split
  · exact steps_malformed
  next heq => exact .throw (.token (hd _ (heq ▸ List.mem_cons_self)))
  · exact .pure _

theorem steps_advance : Steps tokens advance :=
  .modify fun _ hd e he => hd e (List.mem_of_mem_drop he)

theorem steps_accept (p : Token → Bool) : Steps tokens (accept p) :=
  steps_peek.bind fun _ => .ite (steps_advance.bind fun _ => .pure _) (.pure _)

theorem steps_acceptAnchor : Steps tokens acceptAnchor := by
  refine steps_peek.bind fun t => ?_
  split
  · exact steps_advance.bind fun _ => .pure _
  · exact .pure _

theorem steps_acceptTag : Steps tokens acceptTag := by
  refine steps_peek.bind fun t => ?_
  split
  · exact steps_advance.bind fun _ => .pure _
  · exact .pure _

theorem steps_expandTag (name : TagName) : Steps tokens (expandTag name) := by
  unfold expandTag
  split
  · exact .pure _
  · refine .get_bind fun _ _ => ?_
    split
    · exact .pure _
    · exact steps_malformed

theorem steps_properties : Steps tokens properties := by
  refine steps_acceptAnchor.bind fun before => steps_acceptTag.bind fun name => ?_
  have hrest (anchor : Option String) : Steps tokens (do
      let tag ← name.mapM expandTag
      return (⟨anchor, tag⟩ : Properties)) := by
    cases name with
    | none => exact .pure _
    | some name => exact (Keeps.bind (steps_expandTag name) fun _ => .pure _).bind fun _ => .pure _
  exact .ite ((Keeps.pure before).bind hrest) (steps_acceptAnchor.bind hrest)

theorem steps_checkAnchor (anchor : Option String) : Steps tokens (checkAnchor anchor) := by
  unfold checkAnchor
  split
  · exact .pure _
  · exact .get_bind fun _ _ => .ite steps_malformed (.pure _)

theorem steps_addNode (anchor : Option String) (n : Node) : Steps tokens (addNode anchor n) :=
  .get_bind fun _ hd => .bind (.set hd) fun _ => .pure _

theorem steps_complete (id : NodeId) : Steps tokens (complete id) :=
  .bind (.modify fun _ hd => hd) fun _ => .pure _

theorem steps_scalar (anchor : Option String) (tag text : String) :
    Steps tokens (scalar anchor tag text) :=
  (steps_addNode _ _).bind fun id => steps_complete id

theorem steps_emptyNode : Steps tokens emptyNode :=
  steps_scalar _ _ _

theorem steps_collection (anchor : Option String) (ofParts : List α → Node)
    {parts : Compose (List α)} (hparts : Steps tokens parts) :
    Steps tokens (collection anchor ofParts parts) := by
  refine (steps_addNode _ _).bind fun id => .get_bind fun d hd => ?_
  have hrest : Steps tokens (do
      set { d with begun := id :: d.begun }
      let found ← parts
      modify fun s =>
        { s with graph := s.graph.replace id (ofParts found), begun := s.begun.drop 1 }
      complete id) :=
    .bind (.set hd) fun _ => hparts.bind fun _ => .bind (.modify fun _ hd => hd) fun _ =>
      steps_complete id
  exact .ite ((Keeps.throw .tooDeep).bind fun _ => hrest) hrest

theorem steps_aliased (name : String) : Steps tokens (aliased name) := by
  refine .get_bind fun _ hd => ?_
  split
  · exact .bind (.set hd) fun _ => .pure _
  · exact steps_malformed

structure StepsAt (tokens : List Token) (fuel : Nat) : Prop where
  nodeUnless : ∀ ends setting, Steps tokens (nodeUnless fuel ends setting)
  node : ∀ setting, Steps tokens (node fuel setting)
  blockItems : Steps tokens (blockItems fuel)
  indentlessItems : Steps tokens (indentlessItems fuel)
  blockEntries : Steps tokens (blockEntries fuel)
  flowItems : ∀ first, Steps tokens (flowItems fuel first)
  flowEntries : ∀ first, Steps tokens (flowEntries fuel first)

namespace StepsAt

variable {fuel : Nat}

theorem zero : StepsAt tokens 0 where
  nodeUnless _ _ := steps_malformed
  node _ := steps_malformed
  blockItems := steps_malformed
  indentlessItems := steps_malformed
  blockEntries := steps_malformed
  flowItems _ := steps_malformed
  flowEntries _ := steps_malformed

/-- Behind a mark there is a node, without it the empty node. -/
theorem marked (h : StepsAt tokens fuel) {p ends : Token → Bool} {setting : Setting}
    {rest : NodeId → Compose β} (hrest : ∀ id, Steps tokens (rest id)) : Steps tokens (do
      if ← accept p then
        let id ← Compose.nodeUnless fuel ends setting
        rest id
      else
        let id ← emptyNode
        rest id) :=
  (steps_accept p).bind fun _ =>
    .ite ((h.nodeUnless ends setting).bind hrest) (steps_emptyNode.bind hrest)

theorem node_succ (h : StepsAt tokens fuel) (setting : Setting) :
    Steps tokens (Compose.node (fuel + 1) setting) := by
  rw [Compose.node]
  refine steps_peek.bind fun t => ?_
  split
  · exact steps_advance.bind fun _ => steps_aliased _
  refine steps_properties.bind fun props => steps_peek.bind fun t => ?_
  dsimp only
  refine (steps_checkAnchor _).bind fun _ => ?_
  have hsequence {parts : Compose (List NodeId)} (hparts : Steps tokens parts) :
      Steps tokens (collection props.anchor (.sequence (collectionTag props.tag "seq")) parts) :=
    steps_collection _ _ hparts
  split
  · exact hsequence h.indentlessItems
  · exact steps_advance.bind fun _ => steps_scalar _ _ _
  · exact steps_advance.bind fun _ => steps_collection _ _ (h.flowItems true)
  · exact steps_advance.bind fun _ => steps_collection _ _ (h.flowEntries true)
  · exact steps_advance.bind fun _ => steps_collection _ _ h.blockItems
  · exact steps_advance.bind fun _ => steps_collection _ _ h.blockItems
  · exact steps_advance.bind fun _ => steps_collection _ _ h.blockEntries
  · exact steps_advance.bind fun _ => steps_collection _ _ h.blockEntries
  · exact .ite (steps_scalar _ _ _) steps_malformed

theorem blockItems_succ (h : StepsAt tokens fuel) :
    Steps tokens (Compose.blockItems (fuel + 1)) := by
  rw [Compose.blockItems]
  refine (steps_accept _).bind fun _ => .ite ?_ ?_
  · exact (h.nodeUnless _ _).bind fun _ => h.blockItems.bind fun _ => .pure _
  · exact (steps_accept _).bind fun _ => .ite (.pure _) steps_malformed

theorem indentlessItems_succ (h : StepsAt tokens fuel) :
    Steps tokens (Compose.indentlessItems (fuel + 1)) := by
  rw [Compose.indentlessItems]
  refine (steps_accept _).bind fun _ => .ite ?_ (.pure _)
  exact (h.nodeUnless _ _).bind fun _ => h.indentlessItems.bind fun _ => .pure _

theorem blockEntries_succ (h : StepsAt tokens fuel) :
    Steps tokens (Compose.blockEntries (fuel + 1)) := by
  rw [Compose.blockEntries]
  refine (steps_accept _).bind fun _ => .ite ?_ ?_
  · exact (h.nodeUnless _ _).bind fun _ => h.marked fun _ => h.blockEntries.bind fun _ => .pure _
  · exact (steps_accept _).bind fun _ => .ite (.pure _) steps_malformed

/-- Inside brackets a comma must stand in front of all but the first. -/
theorem separated {first : Bool} {rest : PUnit → Compose β} (hrest : ∀ u, Steps tokens (rest u)) :
    Steps tokens (do
      if !first then
        if !(← accept isFlowEntry) then
          let u ← malformed
          rest u
        else rest ()
      else rest ()) :=
  .ite ((steps_accept _).bind fun _ => .ite (steps_malformed.bind hrest) (hrest ())) (hrest ())

theorem flowItems_succ (h : StepsAt tokens fuel) (first : Bool) :
    Steps tokens (Compose.flowItems (fuel + 1) first) := by
  rw [Compose.flowItems]
  refine (steps_accept _).bind fun _ => .ite (.pure _) ?_
  refine separated fun _ => (steps_accept _).bind fun _ => .ite ?_ ?_
  · refine (steps_collection _ _ ?_).bind fun _ => (h.flowItems false).bind fun _ => .pure _
    exact (h.nodeUnless _ _).bind fun _ => h.marked fun _ => .pure _
  · refine (steps_accept _).bind fun _ => .ite (.pure _) ?_
    exact (h.node _).bind fun _ => (h.flowItems false).bind fun _ => .pure _

theorem flowEntries_succ (h : StepsAt tokens fuel) (first : Bool) :
    Steps tokens (Compose.flowEntries (fuel + 1) first) := by
  rw [Compose.flowEntries]
  refine (steps_accept _).bind fun _ => .ite (.pure _) ?_
  refine separated fun _ => (steps_accept _).bind fun _ => .ite ?_ ?_
  · exact (h.nodeUnless _ _).bind fun _ => h.marked fun _ =>
      (h.flowEntries false).bind fun _ => .pure _
  · refine (steps_accept _).bind fun _ => .ite (.pure _) ?_
    exact (h.node _).bind fun _ => steps_emptyNode.bind fun _ =>
      (h.flowEntries false).bind fun _ => .pure _

end StepsAt

theorem stepsAt (tokens : List Token) (fuel : Nat) : StepsAt tokens fuel := by
  induction fuel with
  | zero => exact .zero
  | succ fuel h =>
    refine ⟨fun ends setting => ?_, h.node_succ, h.blockItems_succ, h.indentlessItems_succ,
      h.blockEntries_succ, h.flowItems_succ, h.flowEntries_succ⟩
    rw [nodeUnless]
    exact steps_peek.bind fun _ => .ite steps_emptyNode (h.node _)

theorem steps_directives (fuel : Nat) (versioned : Bool) (handles : List (String × String)) :
    Steps tokens (directives fuel versioned handles) := by
  induction fuel generalizing versioned handles with
  | zero => exact steps_malformed
  | succ fuel ih =>
    refine steps_peek.bind fun t => ?_
    split
    · exact steps_advance.bind fun _ => .ite steps_malformed (ih _ _)
    · exact steps_advance.bind fun _ => .ite steps_malformed (ih _ _)
    · exact steps_advance.bind fun _ => ih _ _
    · exact .pure _

theorem steps_skipDocumentEnds (fuel : Nat) : Steps tokens (skipDocumentEnds fuel) := by
  induction fuel with
  | zero => exact steps_malformed
  | succ fuel ih =>
    refine steps_peek.bind fun t => ?_
    split
    · exact steps_advance.bind fun _ => ih
    · exact .pure _

theorem steps_document (fuel : Nat) : Steps tokens (document fuel) := by
  have hexplicit : Steps tokens (document.explicit fuel) := by
    refine (steps_directives _ _ _).bind fun handles => .bind (.modify fun _ hd => hd) fun _ =>
      steps_peek.bind fun t => ?_
    split
    · exact steps_advance.bind fun _ => ((stepsAt tokens fuel).nodeUnless _ _).bind fun _ => .pure _
    · exact steps_malformed
  refine steps_peek.bind fun t => ?_
  split
  · exact .pure _
  · exact hexplicit
  · exact hexplicit
  · exact ((stepsAt tokens fuel).node _).bind fun _ => .pure _

theorem steps_onlyDocument (fuel : Nat) : Steps tokens (onlyDocument fuel) := by
  refine (steps_document fuel).bind fun n => ?_
  split
  · exact .pure _
  refine (steps_skipDocumentEnds fuel).bind fun _ => steps_peek.bind fun t => ?_
  split
  · exact .pure _
  · exact (steps_directives _ _ _).bind fun _ => steps_malformed

end Compose

theorem Composition.faulty_of_ofTokens? {tokens : List Token} {e : Error}
    (h : ofTokens? tokens = .error e) : Compose.Faulty tokens e := by
  have hsteps : Compose.Steps tokens (Compose.onlyDocument (4 * tokens.length + 8)) :=
    Compose.steps_onlyDocument _
  obtain ⟨hfails, -⟩ :=
    hsteps ⟨tokens, ⟨#[]⟩, [], [], false, [], Compose.usualHandles⟩ fun _ he => he
  exact (hfails.bind fun _ => .ok _) e h

/-! ### Merging -/

inductive Graph.Tangled : Error → Prop
  | malformed : Tangled .malformed
  | tooDeep : Tangled .tooDeep

namespace Graph

theorem failsBy_flatten_and_merged (fuel : Nat) :
    (∀ id g, FailsBy Tangled (flatten fuel id g)) ∧
      (∀ id g, FailsBy Tangled (takeMerges fuel id g)) ∧
      (∀ id g, FailsBy Tangled (merged fuel id g)) ∧
      ∀ items g, FailsBy Tangled (mergedAll fuel items g) := by
  induction fuel with
  | zero =>
    refine ⟨fun id g => ?_, fun id g => ?_, fun id g => ?_, fun items g => ?_⟩
    · exact .error .tooDeep
    · exact .error .tooDeep
    · exact .error .tooDeep
    · exact .error .tooDeep
  | succ fuel ih =>
    obtain ⟨hflatten, htake, hmerged, hall⟩ := ih
    refine ⟨fun id g => ?_, fun id g => ?_, fun id g => ?_, fun items g => ?_⟩
    · rw [flatten]
      exact (htake id g).bind fun _ => .ok _
    · rw [takeMerges]
      dsimp only
      split
      · exact .ok _
      · exact (hmerged _ _).bind fun _ => (htake _ _).bind fun _ => .ok _
    · rw [merged]
      split
      · exact (hflatten id g).bind fun _ => .ok _
      · exact hall _ g
      · exact .error .malformed
    · cases items with
      | nil =>
        rw [mergedAll]
        exact .ok _
      | cons id rest =>
        rw [mergedAll]
        exact .ite ((hflatten id g).bind fun _ => (hall rest _).bind fun _ => .ok _)
          (.error .malformed)

theorem failsBy_flattened (g : Graph) (id : NodeId) : FailsBy Tangled (g.flattened id) :=
  (failsBy_flatten_and_merged _).1 id g

theorem failsBy_text (g : Graph) (fuel : Nat) (id : NodeId) : FailsBy Tangled (g.text fuel id) := by
  induction fuel generalizing id with
  | zero => exact .error .tooDeep
  | succ fuel ih =>
    unfold text
    split
    · exact .ok _
    · exact .error .malformed
    · split
      · exact ih _
      · exact .error .malformed

end Graph

/-! ### Building -/

/-- What is made of a graph by flattening mappings in it, one after the other. -/
inductive Graph.Flattens : Graph → Graph → Prop
  | refl (g : Graph) : Flattens g g
  | step {g g' g'' : Graph} {id : NodeId} (h : Flattens g g')
      (hflattened : g'.flattened id = .ok g'') : Flattens g g''

namespace Build

/-- A scalar stands for nothing: the reader for its tag fails on its text, or what is tagged as a
timestamp is a mapping. -/
inductive Unread (g : Graph) : Error → Prop
  | scalar {g' : Graph} {id : NodeId} {name text : String} {read : List Char → Except Error Value}
    {e : Error} (hflattens : g.Flattens g') (hname : languageName? (g'.tag id) = some name)
    (hreader : scalarReader? name = some read) (htext : g'.text (g'.size + 1) id = .ok text)
    (hread : read text.toList = .error e) : Unread g e
  | timestamp {g' : Graph} {id : NodeId} (hflattens : g.Flattens g')
    (hname : languageName? (g'.tag id) = some "timestamp") (hmapping : g'.isMapping id = true) :
    Unread g .timestampNotText

inductive Faulty (g : Graph) : Error → Prop
  | malformed : Faulty g .malformed
  | tooDeep : Faulty g .tooDeep
  | unread {e : Error} (h : Unread g e) : Faulty g e

abbrev Steps {α : Type} (g : Graph) (x : Build α) : Prop :=
  Keeps (fun b => g.Flattens b.graph) (Faulty g) x

variable {α : Type} {g : Graph}

theorem Faulty.of_tangled {e : Error} (h : Graph.Tangled e) : Faulty g e := by
  cases h with
  | malformed => exact .malformed
  | tooDeep => exact .tooDeep

theorem steps_malformed : Steps g (malformed : Build α) :=
  .throw .malformed

theorem failsBy_scalar {g' : Graph} {id : NodeId} {name : String} (hflattens : g.Flattens g')
    (hname : languageName? (g'.tag id) = some name) : FailsBy (Faulty g) (g'.scalar name id) := by
  unfold Graph.scalar
  cases hreader : scalarReader? name with
  | none => exact .error .malformed
  | some read =>
    dsimp only
    cases htext : g'.text (g'.size + 1) id with
    | error e => exact .error (.of_tangled (Graph.failsBy_text _ _ _ e htext))
    | ok text =>
      change FailsBy (Faulty g) (if (name == "timestamp" && g'.isMapping id) = true then _ else _)
      split
      next hmapping =>
        rw [Bool.and_eq_true, beq_iff_eq] at hmapping
        obtain ⟨rfl, hmapping⟩ := hmapping
        exact .error (.unread (.timestamp hflattens hname hmapping))
      next =>
        refine .bind ?_ fun _ => .ok _
        exact fun e hread => .unread (.scalar hflattens hname hreader htext hread)

theorem begin_eq (id : NodeId) (b : Builder) : begin id b =
    if (b.shapes.getD id none).isSome then .ok ((), b)
    else
      match languageName? (b.graph.tag id) with
      | none => .error .malformed
      | some name =>
        if collectionNames.contains name then
          .ok ((), { b with
            shapes := b.shapes.setIfInBounds id (some .begun), begun := b.begun.push id })
        else
          (b.graph.scalar name id).map fun shape =>
            ((), { b with shapes := b.shapes.setIfInBounds id (some shape) }) := by
  change (if (b.shapes.getD id none).isSome then (pure () : Build Unit) else _) b = _
  split
  next => rfl
  next =>
    have htag : tagName? id b = .ok (languageName? (b.graph.tag id), b) := rfl
    simp only [bind, StateT.bind, htag, Except.bind]
    cases languageName? (b.graph.tag id) with
    | none => rfl
    | some name =>
      dsimp only
      split
      next => rfl
      next =>
        generalize b.graph.scalar name id = shape
        cases shape <;> rfl

theorem steps_begin (id : NodeId) : Steps g (begin id) := by
  intro b hb
  have hkept (shapes : Array (Option Shape)) (begun : Array NodeId) :
      FailsBy (Faulty g) (.ok ((), ⟨b.graph, shapes, begun⟩) : Except Error (Unit × Builder)) ∧
        ∀ a b', (.ok ((), ⟨b.graph, shapes, begun⟩) : Except Error (Unit × Builder)) = .ok (a, b') →
          g.Flattens b'.graph := by
    refine ⟨.ok _, ?_⟩
    rintro _ _ ⟨⟩
    exact hb
  rw [begin_eq]
  split
  next => exact hkept b.shapes b.begun
  next =>
    cases hname : languageName? (b.graph.tag id) with
    | none => exact ⟨.error .malformed, by rintro _ _ ⟨⟩⟩
    | some name =>
      dsimp only
      split
      next => exact hkept _ _
      next =>
        cases hscalar : b.graph.scalar name id with
        | error e => exact ⟨.error (failsBy_scalar hb hname e hscalar), by rintro _ _ ⟨⟩⟩
        | ok shape => exact hkept _ _

theorem steps_setShape (id : NodeId) (shape : Shape) : Steps g (setShape id shape) :=
  .modify fun _ hb => hb

theorem steps_key (id : NodeId) : Steps g (key id) := by
  refine (steps_begin id).bind fun _ => .get_bind fun _ _ => ?_
  split
  · exact .pure _
  · exact steps_malformed

theorem steps_entries (pairs : List (NodeId × NodeId)) (found : List ((Value × Nat) × NodeId)) :
    Steps g (entries pairs found) := by
  induction pairs generalizing found with
  | nil => exact .pure _
  | cons pair rest ih =>
    exact (steps_key pair.1).bind fun _ => (steps_begin pair.2).bind fun _ => ih _

theorem steps_mappingEntries (id : NodeId) : Steps g (mappingEntries id) := by
  refine .get_bind fun b hb => .ite (.lift_bind ?_ fun graph hgraph => ?_) steps_malformed
  · exact (Graph.failsBy_flattened b.graph id).mono fun _ => .of_tangled
  · exact .bind (.set (.step hb hgraph)) fun _ => (steps_entries _ _).bind fun _ => .pure _

theorem steps_items (id : NodeId) : Steps g (items id) := by
  refine .get_bind fun _ _ => ?_
  split
  · exact .pure _
  · exact steps_malformed

theorem steps_singleEntries (ids : List NodeId) : Steps g (singleEntries ids) := by
  induction ids with
  | nil => exact .pure _
  | cons id rest ih =>
    refine .get_bind fun _ _ => ?_
    split
    · exact (steps_begin _).bind fun _ => (steps_begin _).bind fun _ => ih.bind fun _ => .pure _
    · exact steps_malformed

theorem steps_fill (id : NodeId) : Steps g (fill id) := by
  refine Keeps.bind (.get_bind fun _ _ => .pure _) fun name => ?_
  split
  · exact (steps_items id).bind fun _ => (Keeps.forM steps_begin _).bind fun _ => steps_setShape _ _
  · exact (steps_mappingEntries id).bind fun _ => steps_setShape _ _
  · exact (steps_mappingEntries id).bind fun _ => steps_setShape _ _
  · exact (steps_items id).bind fun _ => (steps_singleEntries _).bind fun _ => steps_setShape _ _

theorem steps_fillFrom (fuel place : Nat) : Steps g (fillFrom fuel place) := by
  induction fuel generalizing place with
  | zero => exact .pure _
  | succ fuel ih =>
    refine .get_bind fun _ _ => ?_
    split
    · exact (steps_fill _).bind fun _ => ih _
    · exact .pure _

end Build

theorem Composition.faulty_of_value {c : Composition} {e : Error} (h : c.value = .error e) :
    Build.Faulty c.graph e := by
  have hsteps : Build.Steps c.graph (do
      Build.begin c.root
      Build.fillFrom (c.graph.size + 1) 0) :=
    (Build.steps_begin _).bind fun _ => Build.steps_fillFrom _ _
  obtain ⟨hfails, -⟩ := hsteps ⟨c.graph, .replicate c.graph.size none, #[]⟩ (.refl c.graph)
  exact (hfails.bind fun _ => .ok _) e h

end RichTemplate.Yaml
