import RichTemplate.Proofs.Filling
import RichTemplate.Proofs.Gaps
import RichTemplate.Proofs.Replacing

/-!
# What tags enclose is opaque

Nothing in the text between a pair of matched tags bears on anything but the call it is handed to.
Where it is replaced the pieces of the template stay what they were, but for the one, so two runs
differ at most in what they do for that piece.
-/

namespace RichTemplate

open Markup

section Pieces

variable {pre post : List Char} {before after : List Match} {m : Markup}

theorem Piece.split_eq_of_around (hbefore : IsScan pre before) (hafter : IsScan post after)
    (h : IsScan (pre ++ m.source ++ post) (Match.around pre before after m)) :
    split (pre ++ m.source ++ post) = split pre ++ markup m :: split post := by
  have hgaps : Match.gapsFrom (pre ++ m.source ++ post) 0 (Match.around pre before after m)
      = Match.gapsFrom pre 0 before ++ Match.gapsFrom post 0 after := by
    have hlength : pre.length + m.source.length = (pre ++ m.source).length :=
      List.length_append.symm
    have hbehind := gapsFrom_map_shift (pre ++ m.source) post 0 after
    rw [Nat.add_zero] at hbehind
    rw [Match.around, hlength, List.append_assoc, gapsFrom_append (Nat.zero_le _)
      (fun x hx => (hbefore.occurs x hx).stop_le) rfl, Match.stop, hlength, ← List.append_assoc,
      hbehind]
  have hafterMap : (after.map (Match.shift (pre.length + m.source.length))).map ofMatch
      = after.map ofMatch := by
    rw [List.map_map]
    exact List.map_congr_left fun x _ => rfl
  have hcount :
      ((Match.gapsFrom pre 0 before).map ofGap).length = (before.map ofMatch).length + 1 := by
    rw [List.length_map, List.length_map, length_gapsFrom]
  rw [split_eq_weave h, hgaps, Match.around, List.map_append, List.map_append, List.map_cons,
    weave_append _ _ _ _ _ hcount, hafterMap, ← split_eq_weave hbefore, ← split_eq_weave hafter,
    List.append_assoc]
  rfl

end Pieces

namespace Match

def contentStart (m : Match) : Nat :=
  m.start + (openTag m.markup.name.toList).length

def contentStop (m : Match) : Nat :=
  m.stop - (closeTag m.markup.name.toList).length

def move (removed added : Nat) (m : Match) : Match :=
  { m with start := m.start - removed + added }

end Match

def replaceContent (template : String) (m : Match) (content : String) : String :=
  String.ofList (template.toList.take m.contentStart ++ content.toList ++
    template.toList.drop m.contentStop)

theorem toList_replaceContent {template name content : String} {pre post : List Char}
    (ht : template.toList = pre ++ (tag name content).source ++ post) (content' : String) :
    (replaceContent template ⟨tag name content, pre.length⟩ content').toList
      = pre ++ (tag name content').source ++ post := by
  have hfront : template.toList.take (pre.length + (openTag name.toList).length)
      = pre ++ openTag name.toList := by
    rw [ht, source_tag, ← List.length_append]
    simp only [← List.append_assoc]
    rw [List.append_assoc, List.append_assoc, List.take_left]
  have hback : template.toList.drop (pre.length + (tag name content).source.length
      - (closeTag name.toList).length) = closeTag name.toList ++ post := by
    have hlength : pre.length + (tag name content).source.length - (closeTag name.toList).length
        = (pre ++ openTag name.toList ++ content.toList).length := by
      rw [source_tag]
      simp only [List.length_append]
      omega
    rw [hlength, ht, source_tag]
    simp only [← List.append_assoc]
    rw [List.append_assoc (pre ++ openTag name.toList ++ content.toList), List.drop_left]
  rw [replaceContent, Match.contentStart, Match.contentStop, Match.stop, Markup.name,
    String.toList_ofList, hfront, hback, source_tag]
  simp only [List.append_assoc]

theorem exists_append_of_mem_scan {template : String} {m : Match} (hm : m ∈ scan template) :
    ∃ pre post, template.toList = pre ++ m.markup.source ++ post ∧ pre.length = m.start := by
  have hoccurs := (isScan_scan template).occurs m hm
  have hstart : m.start ≤ template.toList.length :=
    (Nat.le_of_lt m.start_lt_stop).trans hoccurs.stop_le
  obtain ⟨-, post, hpost⟩ := hoccurs
  refine ⟨template.toList.take m.start, post, ?_, List.length_take_of_le hstart⟩
  rw [List.append_assoc, hpost, List.take_append_drop]

namespace Interpolation

variable {bindings : Entries Entry} {voidNames : List String}

def runAround (bindings : Entries Entry) (voidNames : List String) (pre post : List Char)
    (m : Markup) : Run (List Value) :=
  ⟨.ok ((Piece.split pre).flatMap (segmentsOf bindings voidNames)
      ++ (nodeOf bindings voidNames m).toList
      ++ (Piece.split post).flatMap (segmentsOf bindings voidNames)),
    (Piece.split pre).flatMap (eventsOf bindings voidNames)
      ++ (settle bindings voidNames m).trace
      ++ (Piece.split post).flatMap (eventsOf bindings voidNames)⟩

theorem Returning.interpolate_eq_runAround (h : Returning bindings voidNames) {template : String}
    {pre post : List Char} {before after : List Match} {m : Markup}
    (ht : template.toList = pre ++ m.source ++ post) (hbefore : IsScan pre before)
    (hafter : IsScan post after) (hscan : scan template = Match.around pre before after m) :
    interpolate bindings voidNames template = runAround bindings voidNames pre post m := by
  have haround : IsScan (pre ++ m.source ++ post) (Match.around pre before after m) :=
    ht ▸ isScan_iff_eq_scan.mpr hscan.symm
  have hsplit := Piece.split_eq_of_around hbefore hafter haround
  have hpieces : Piece.ofTemplate template = Piece.split pre ++ .markup m :: Piece.split post := by
    rw [Piece.ofTemplate, ht, hsplit]
    cases Piece.split pre <;> rfl
  rw [h.interpolate_eq, hpieces, h.fill_eq, runAround]
  simp [segmentsOf, eventsOf]

/-- A name whose tags hand on nothing of what they enclose: it is unbound, bound to a value, or
void. -/
def HandsNothingOn (bindings : Entries Entry) (voidNames : List String) (name : String) : Prop :=
  bindings.get? name = none ∨
    (∃ b, bindings.get? name = some (.binding b) ∧ b.kind.isValue = true) ∨
    voidNames.contains name = true

theorem HandsNothingOn.resolve_eq {name : String} (h : HandsNothingOn bindings voidNames name)
    (content content' : String) :
    resolve bindings voidNames (tag name content)
      = resolve bindings voidNames (tag name content') := by
  rcases h with hnone | ⟨b, hget, hvalue⟩ | hvoid
  · simp only [resolve, Markup.name, hnone]
  · simp only [resolve, Markup.name, hget, resolveWith, hvalue, if_true]
  · simp only [resolve, Markup.name, resolveWith, handedOn, hvoid, if_true]

theorem HandsNothingOn.settle_eq {name : String} (h : HandsNothingOn bindings voidNames name)
    (content content' : String) :
    ∃ outcome rest,
      settle bindings voidNames (tag name content)
        = ⟨outcome, .resolved (tag name content) :: rest⟩ ∧
      settle bindings voidNames (tag name content')
        = ⟨outcome, .resolved (tag name content') :: rest⟩ := by
  rw [Interpolation.settle_eq, Interpolation.settle_eq, h.resolve_eq content' content]
  cases resolve bindings voidNames (tag name content) with
  | dropped d => exact ⟨_, _, rfl, rfl⟩
  | node v => exact ⟨_, _, rfl, rfl⟩
  | failed e => exact ⟨_, _, rfl, rfl⟩
  | call w text => exact ⟨_, _, rfl, rfl⟩

theorem Returning.exists_resolve_eq_call (h : Returning bindings voidNames) {name : String}
    (hname : ¬ HandsNothingOn bindings voidNames name) :
    ∃ w, ∀ content, resolve bindings voidNames (tag name content) = .call w content := by
  obtain ⟨hbound, hvalue, hvoid⟩ : bindings.get? name ≠ none ∧
      (∀ b, bindings.get? name = some (.binding b) → b.kind.isValue = false) ∧
      voidNames.contains name = false := by
    simpa [HandsNothingOn] using hname
  obtain ⟨b, hget⟩ := (h.allBindings.get?_cases name).resolve_left hbound
  have hkind := hvalue b hget
  obtain ⟨w, hw, -⟩ := h.exists_wrapper hget hkind
  refine ⟨w, fun content => ?_⟩
  rw [resolve_tag hget hkind, hw, handedOn, hvoid]
  rfl

end Interpolation

namespace Run

variable {α : Type}

def SameEffects (r r' : Run α) : Prop :=
  r.calls = r'.calls ∧ r.diagnostics = r'.diagnostics

theorem sameEffects_resolved (outcome : Except InterpolationError α) (before after : List Event)
    (m m' : Markup) :
    SameEffects ⟨outcome, before ++ .resolved m :: after⟩
      ⟨outcome, before ++ .resolved m' :: after⟩ := by
  constructor
  · simp [calls, Event.call?, List.filterMap_cons]
  · simp [diagnostics, Event.diagnostic?, List.filterMap_cons]

end Run

namespace Interpolation

variable {bindings : Entries Entry} {voidNames : List String} {pre post : List Char} {name : String}

theorem HandsNothingOn.runAround_eq (h : HandsNothingOn bindings voidNames name)
    (content content' : String) :
    let run := runAround bindings voidNames pre post (tag name content)
    let run' := runAround bindings voidNames pre post (tag name content')
    run.result = run'.result ∧ run.SameEffects run' ∧ run.own.SameEffects run'.own := by
  obtain ⟨outcome, rest, hsettle, hsettle'⟩ := h.settle_eq content content'
  have hnode : nodeOf bindings voidNames (tag name content)
      = nodeOf bindings voidNames (tag name content') := by
    rw [nodeOf, nodeOf, hsettle, hsettle']
  intro run run'
  simp only [run, run', runAround, hnode, hsettle, hsettle', List.append_assoc, List.cons_append]
  refine ⟨trivial, Run.sameEffects_resolved _ _ _ _ _, ?_⟩
  simp only [Run.own, List.filterMap_append, List.filterMap_cons, Event.own?]
  exact Run.sameEffects_resolved _ _ _ _ _

theorem Returning.exists_runAround_eq (h : Returning bindings voidNames)
    (hname : ¬ HandsNothingOn bindings voidNames name) :
    ∃ w first last reported before after, ∀ text,
      (runAround bindings voidNames pre post (tag name text)).own.calls
        = first ++ ⟨name, w.label, text⟩ :: last ∧
      (runAround bindings voidNames pre post (tag name text)).own.diagnostics = reported ∧
      (runAround bindings voidNames pre post (tag name text)).trace
        = before ++ .resolved (tag name text) :: .called ⟨name, w.label, text⟩ ::
            (callRun bindings voidNames w text).trace ++ after := by
  obtain ⟨w, hw⟩ := h.exists_resolve_eq_call hname
  have hsettle : ∀ text, (settle bindings voidNames (tag name text)).trace
      = .resolved (tag name text) :: .called ⟨name, w.label, text⟩ ::
          (callRun bindings voidNames w text).trace := by
    intro text
    rw [Interpolation.settle_eq, hw]
    rfl
  let before := (Piece.split pre).flatMap (eventsOf bindings voidNames)
  let after := (Piece.split post).flatMap (eventsOf bindings voidNames)
  have htrace : ∀ text, (runAround bindings voidNames pre post (tag name text)).trace
      = before ++ .resolved (tag name text) :: .called ⟨name, w.label, text⟩ ::
          (callRun bindings voidNames w text).trace ++ after := by
    intro text
    rw [← hsettle]
    rfl
  have hown : ∀ text, (runAround bindings voidNames pre post (tag name text)).own.trace
      = before.filterMap Event.own? ++ .resolved (tag name text) ::
          .called ⟨name, w.label, text⟩ :: after.filterMap Event.own? := by
    intro text
    rw [Run.own, htrace]
    simp [Event.own?, filterMap_own?_callRun]
  refine ⟨w, (before.filterMap Event.own?).filterMap Event.call?,
    (after.filterMap Event.own?).filterMap Event.call?,
    (before.filterMap Event.own? ++ after.filterMap Event.own?).filterMap Event.diagnostic?,
    before, after, fun text => ⟨?_, ?_, htrace text⟩⟩
  · rw [Run.calls, hown]
    simp only [List.filterMap_append, List.filterMap_cons, Event.call?]
  · rw [Run.diagnostics, hown]
    simp only [List.filterMap_append, List.filterMap_cons, Event.diagnostic?]

end Interpolation

open Interpolation

/-- **What tags enclose is opaque.** Where the text between a pair of matched tags is replaced by
one without line break and opening of a close tag, the scan is what it was with that text in the
place of the old and all that follows moved. If the name hands nothing on, the outcome, the calls and the
diagnostics of a run stay the same. If it does, the run does the same but for the one call that is
handed the text, and what its wrapper does within it. -/
theorem replaceContent_is_opaque {template name content content' : String} {start : Nat}
    (hm : ⟨tag name content, start⟩ ∈ scan template) (hline : '\n' ∉ content'.toList)
    (hfree : ¬ ['<', '/'] <:+: content'.toList) :
    let m : Match := ⟨tag name content, start⟩
    let m' : Match := ⟨tag name content', start⟩
    let template' := replaceContent template m content'
    (∃ before after, scan template = before ++ m :: after ∧
      (∀ x ∈ after, content.length ≤ x.start) ∧
      scan template' = before ++ m' :: after.map (Match.move content.length content'.length)) ∧
    m'.stop + content.length = m.stop + content'.length ∧
    ∀ bindings voidNames, Returning bindings voidNames →
      let run := interpolate bindings voidNames template
      let run' := interpolate bindings voidNames template'
      (HandsNothingOn bindings voidNames name →
        run.result = run'.result ∧ run.SameEffects run' ∧ run.own.SameEffects run'.own) ∧
      (¬ HandsNothingOn bindings voidNames name → ∃ w,
        (∃ first last, run.own.calls = first ++ ⟨name, w.label, content⟩ :: last ∧
          run'.own.calls = first ++ ⟨name, w.label, content'⟩ :: last) ∧
        run.own.diagnostics = run'.own.diagnostics ∧
        ∃ before after,
          run.trace = before ++ .resolved m.markup :: .called ⟨name, w.label, content⟩ ::
            (callRun bindings voidNames w content).trace ++ after ∧
          run'.trace = before ++ .resolved m'.markup :: .called ⟨name, w.label, content'⟩ ::
            (callRun bindings voidNames w content').trace ++ after) := by
  obtain ⟨pre, post, ht, rfl⟩ := exists_append_of_mem_scan hm
  have hscan : IsScan (pre ++ (tag name content).source ++ post) (scan template) :=
    ht ▸ isScan_scan template
  obtain ⟨before, after, hbefore, hafter, haround⟩ := hscan.exists_around hm
  have hwf : (tag name content).WellFormed := (hscan.occurs _ hm).1
  have ht' := toList_replaceContent ht content'
  have hscan' := hbefore.replace hafter hwf (haround ▸ hscan) hline hfree
  have haround' : scan (replaceContent template ⟨tag name content, pre.length⟩ content')
      = Match.around pre before after (tag name content') := by
    rw [← ht'] at hscan'
    exact (isScan_iff_eq_scan.mp hscan').symm
  have hlength := length_source_tag name content
  have hlength' := length_source_tag name content'
  rw [String.length_toList] at hlength hlength'
  intro m m' template'
  refine ⟨⟨before, _, haround, ?_, ?_⟩, ?_, ?_⟩
  · intro x hx
    obtain ⟨y, -, rfl⟩ := List.mem_map.mp hx
    rw [Match.shift_start]
    omega
  · refine haround'.trans ?_
    rw [Match.around, List.map_map]
    congr 2
    refine List.map_congr_left fun x _ => ?_
    simp only [Function.comp, Match.shift, Match.move, Match.mk.injEq, true_and]
    omega
  · simp only [m, m', Match.stop]
    omega
  · intro bindings voidNames h run run'
    have hrun : run = runAround bindings voidNames pre post (tag name content) :=
      h.interpolate_eq_runAround ht hbefore hafter haround
    have hrun' : run' = runAround bindings voidNames pre post (tag name content') :=
      h.interpolate_eq_runAround ht' hbefore hafter haround'
    rw [hrun, hrun']
    refine ⟨fun hname => hname.runAround_eq content content', fun hname => ?_⟩
    obtain ⟨w, first, last, reported, front, back, heq⟩ := h.exists_runAround_eq hname
    obtain ⟨hcalls, hreported, htrace⟩ := heq content
    obtain ⟨hcalls', hreported', htrace'⟩ := heq content'
    exact ⟨w, ⟨first, last, hcalls, hcalls'⟩, hreported.trans hreported'.symm, front, back, htrace,
      htrace'⟩

theorem replaceContent_is_opaque_behind_open_tag :
    ⟨tag "b" "x", 3⟩ ∈ scan "<i><b>x</b>{{user}}" ∧ '\n' ∉ "<i>{{b}}".toList ∧
    ¬ ['<', '/'] <:+: "<i>{{b}}".toList ∧ Returning greeting ["br"] ∧
    (interpolate greeting ["br"] "<i><b>x</b>{{user}}").own.diagnostics
      = (interpolate greeting ["br"] (replaceContent "<i><b>x</b>{{user}}" ⟨tag "b" "x", 3⟩
          "<i>{{b}}")).own.diagnostics := by
  have hm : ⟨tag "b" "x", 3⟩ ∈ scan "<i><b>x</b>{{user}}" := by decide +kernel
  have hline : '\n' ∉ "<i>{{b}}".toList := by decide
  have hfree : ¬ ['<', '/'] <:+: "<i>{{b}}".toList := by decide
  have hname : ¬ HandsNothingOn greeting ["br"] "b" := by
    have hget : greeting.get? "b" = some (.binding (.wrapper (.wrapper
        ⟨"plain", fun text => .done (.ok (.str text))⟩))) := by rfl
    rintro (hnone | ⟨b, hb, hvalue⟩ | hvoid)
    · exact absurd (hget.symm.trans hnone) (by simp)
    · obtain rfl := Entry.binding.inj (Option.some.inj (hget.symm.trans hb))
      exact absurd hvalue (by decide)
    · exact absurd hvoid (by decide)
  obtain ⟨-, -, hruns⟩ := replaceContent_is_opaque hm hline hfree
  obtain ⟨w, -, hreported, -⟩ := (hruns greeting ["br"] returning_greeting).2 hname
  exact ⟨hm, hline, hfree, returning_greeting, hreported⟩

end RichTemplate
