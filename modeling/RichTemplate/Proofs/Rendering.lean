import RichTemplate.Element
import RichTemplate.Proofs.Acceptance

/-!
# The text that a profile renders

What a reader sees of a filled template is the template itself with the span of each match replaced
by a text that the document gives: what a tag encloses, the text of an element, or nothing. The
replacements are independent of one another, so they can be made from right to left, where each
leaves the spans still to be replaced where they are.
-/

namespace RichTemplate

open Schema Interpolation

namespace Schema

mutual

def specText : Value → String
  | .map entries =>
    match _h : Entries.get? entries "children" with
    | some (.list items) => itemsText items
    | _ => ""
  | _ => ""
termination_by spec => sizeOf spec
decreasing_by
  have := sizeOf_lt_of_get? _h
  simp only [Value.list.sizeOf_spec, Value.map.sizeOf_spec] at this ⊢
  omega

def itemsText : List Value → String
  | [] => ""
  | .str s :: rest => s ++ itemsText rest
  | item :: rest => specText item ++ itemsText rest
termination_by items => sizeOf items

end

def elementSpec? (document : Value) (name : String) : Option Value :=
  ((bindingsOf document).get? name).bind fun spec => Entries.get? (spec.map?.getD []) "element"

def wraps (document : Value) (name : String) : Bool :=
  ((bindingsOf document).get? name).any fun spec => Entries.has (spec.map?.getD []) "wrap"

def replacement (document : Value) (voidNames : List String) (m : Markup) : String :=
  match elementSpec? document m.name, m with
  | some spec, _ => specText spec
  | none, .tag name content =>
    if wraps document name && !voidNames.contains name then content else ""
  | none, .placeholder _ => ""

def isReported (document : Value) (m : Markup) : Bool :=
  ((bindingsOf document).get? m.name).isNone || (wraps document m.name && m.form == .placeholder)

end Schema

/-- A text with the spans of matches replaced, from right to left. -/
def replaceSpans (text : Markup → String) (ms : List Match) (cs : List Char) : List Char :=
  ms.foldr (fun m cs => cs.take m.start ++ (text m.markup).toList ++ cs.drop m.stop) cs

section Spans

variable (text : Markup → String)

def Piece.replaced : Piece → List Char
  | .literal cs => cs
  | .markup m => (text m).toList

/-- Replacing the spans of the markup among pieces replaces the pieces one by one. -/
theorem replaceSpans_ofPieces (front : List Char) (ps : List Piece) :
    replaceSpans text (Match.ofPieces front.length ps) (front ++ ps.flatMap Piece.source)
      = front ++ ps.flatMap (Piece.replaced text) := by
  induction ps generalizing front with
  | nil => rfl
  | cons p ps ih =>
    cases p with
    | literal cs =>
      have hnext := ih (front ++ cs)
      rw [List.length_append, List.append_assoc, List.append_assoc] at hnext
      exact hnext
    | markup m =>
      let rest := ps.flatMap (Piece.replaced text)
      have hnext : replaceSpans text (Match.ofPieces (front.length + m.source.length) ps)
          (front ++ (m.source ++ ps.flatMap Piece.source)) = front ++ m.source ++ rest := by
        rw [← List.length_append, ← List.append_assoc]
        exact ih (front ++ m.source)
      have htake : (front ++ m.source ++ rest).take front.length = front := by
        rw [List.append_assoc, List.take_left]
      have hdrop : (front ++ m.source ++ rest).drop (front.length + m.source.length) = rest := by
        rw [← List.length_append, List.drop_left]
      calc replaceSpans text (Match.ofPieces front.length (.markup m :: ps))
            (front ++ (m.source ++ ps.flatMap Piece.source))
          = (front ++ m.source ++ rest).take front.length ++ (text m).toList
              ++ (front ++ m.source ++ rest).drop (front.length + m.source.length) := by
            rw [← hnext]
            rfl
        _ = front ++ ((text m).toList ++ rest) := by
            rw [htake, hdrop, List.append_assoc]

theorem Piece.flatMap_source_ofTemplate (template : String) :
    (ofTemplate template).flatMap source = template.toList := by
  have hsplit := flatMap_source_split template.toList
  rw [ofTemplate]
  split
  next hnil => rw [← hsplit, hnil]; rfl
  next => exact hsplit

theorem replaceSpans_scan (template : String) :
    replaceSpans text (scan template) template.toList
      = (Piece.ofTemplate template).flatMap (Piece.replaced text) := by
  have hpieces := replaceSpans_ofPieces text [] (Piece.ofTemplate template)
  rw [List.length_nil, List.nil_append, List.nil_append, ofPieces_ofTemplate] at hpieces
  rw [← hpieces, Piece.flatMap_source_ofTemplate]

end Spans

/-! ### The text of segments -/

namespace Segment

theorem textOf_append (vs ws : List Value) :
    textOf (vs ++ ws) = do
      let first ← textOf vs
      let rest ← textOf ws
      return first ++ rest := by
  induction vs with
  | nil =>
    change textOf ws = textOf ws >>= fun rest => pure ("" ++ rest)
    simp only [String.empty_append, bind_pure]
  | cons v vs ih =>
    simp only [List.cons_append, textOf, ih, bind_assoc, pure_bind, String.append_assoc]

theorem textOf_singleton {v : Value} : textOf [v] = text v := by
  rw [textOf, textOf]
  cases text v <;> simp [bind, Except.bind, pure, Except.pure]

theorem textOf_flatMap {α : Type} {f : α → List Value} {g : α → List Char}
    (h : ∀ a, textOf (f a) = .ok (String.ofList (g a))) (as : List α) :
    textOf (as.flatMap f) = .ok (String.ofList (as.flatMap g)) := by
  induction as with
  | nil => rfl
  | cons a as ih =>
    rw [List.flatMap_cons, List.flatMap_cons, String.ofList_append]
    rw [textOf_append, h a, ih]
    rfl

end Segment

/-- An element around a text has the text. -/
theorem Schema.text_wrapIn (tag : String) (props : Entries Value) (text : String) :
    Segment.text (.element tag (.map props) (.list (if text = "" then [] else [.str text])))
      = .ok text := by
  rw [Segment.text]
  split
  next hempty => rw [hempty]; rfl
  next =>
    rw [Element.contentText, Element.childrenText, Element.childrenText]
    exact congrArg Except.ok String.append_empty

namespace Schema

theorem specText_map (entries : Entries Value) :
    specText (.map entries) =
      match entries.get? "children" with
      | some (.list items) => itemsText items
      | _ => "" := by
  rw [specText]
  split <;> simp_all

mutual

/-- The element that a specification denotes has the text of the specification. -/
theorem DenotesElement.childText_eq {spec node : Value} (h : DenotesElement spec node) :
    Element.childText node = .ok (specText spec) := by
  cases h with
  | leaf _ hnone =>
    rw [specText_map, hnone]
    rfl
  | node _ hitems hchildren =>
    rw [specText_map, hitems]
    exact hchildren.childrenText_eq

theorem DenotesChildren.childrenText_eq {items children : List Value}
    (h : DenotesChildren items children) :
    Element.childrenText children = .ok (itemsText items) := by
  cases h with
  | nil =>
    rw [itemsText]
    rfl
  | text s hrest =>
    rw [itemsText, Element.childrenText, hrest.childrenText_eq]
    rfl
  | element hfirst hrest =>
    rw [itemsText, Element.childrenText, hfirst.childText_eq, hrest.childrenText_eq]
    · rfl
    · rintro s rfl
      cases hfirst

end

theorem DenotesElement.text_eq {spec node : Value} (h : DenotesElement spec node) :
    Segment.text node = .ok (specText spec) := by
  have htext := h.childText_eq
  cases h <;> exact htext

end Schema

/-! ### What a profile makes of markup -/

section Markup

variable {document : Value} {profile : Profile} {name : String}

/-- The bindings that entries denote are found under the names of the entries. -/
theorem Schema.get?_of_denotesEntry {entries : Entries Value} {bindings : List (String × Binding)}
    (h : List.Forall₂ DenotesEntry entries bindings) (name : String) :
    let found := Entries.get? (bindings.map fun b => (Value.str b.1, Entry.binding b.2)) name
    (entries.get? name = none ∧ found = none) ∨
      ∃ spec b, entries.get? name = some spec ∧ found = some (.binding b) ∧
        DenotesBinding spec b := by
  induction h with
  | nil => exact Or.inl ⟨rfl, rfl⟩
  | cons hentry _ ih =>
    cases hentry with
    | @mk key spec b _ hbinding =>
      simp only [List.map_cons, Entries.get?_cons]
      by_cases hkey : (Value.str key).sameKey (.str name) = true
      · rw [if_pos hkey, if_pos hkey]
        exact Or.inr ⟨spec, b, rfl, rfl, hbinding⟩
      · rw [if_neg hkey, if_neg hkey]
        exact ih

inductive Schema.Declares (document : Value) (profile : Profile) (name : String) : Prop
  | nothing (hget : profile.registry.bindings.get? name = none)
    (hnone : (bindingsOf document).get? name = none)
  | wrapper (tag : String) (props : Entries Value)
    (hget : profile.registry.bindings.get? name
      = some (.binding (.wrapper (.wrapper (wrapIn tag props)))))
    (hsome : ((bindingsOf document).get? name).isSome = true)
    (hwraps : wraps document name = true) (hspec : elementSpec? document name = none)
  | element (spec node : Value) (hget : profile.registry.bindings.get? name
      = some (.binding (.value node)))
    (hsome : ((bindingsOf document).get? name).isSome = true)
    (hwraps : wraps document name = false) (hspec : elementSpec? document name = some spec)
    (hnode : DenotesElement spec node)

theorem Schema.DenotesProfile.declares (h : DenotesProfile document profile) (name : String) :
    Declares document profile name := by
  obtain ⟨bindings, heach, hentries⟩ := h.forall₂
  have hbindings : profile.registry.bindings
      = bindings.map fun b => (Value.str b.1, Entry.binding b.2) := by
    rw [Registry.bindings, hentries, List.map_map]
    rfl
  have hfound := get?_of_denotesEntry heach name
  rw [← hbindings] at hfound
  rcases hfound with ⟨hnone, hget⟩ | ⟨spec, b, hsome, hget, hbinding⟩
  · exact .nothing hget hnone
  · cases hbinding with
    | @wrap entries _ _ hknown htag _ _ =>
      have hnone : entries.get? "element" = none := hknown.get?_eq_none (by decide)
      refine .wrapper _ _ hget (by rw [hsome]; rfl) ?_ ?_
      · rw [wraps, hsome, Option.any_some, Value.map?, Option.getD_some, Entries.has_eq_isSome,
          htag]
        rfl
      · rw [elementSpec?, hsome, Option.bind_some, Value.map?, Option.getD_some, hnone]
    | @element entries _ _ hknown hspec hnode =>
      have hnone : entries.get? "wrap" = none := hknown.get?_eq_none (by decide)
      refine .element _ _ hget (by rw [hsome]; rfl) ?_ ?_ hnode
      · rw [wraps, hsome, Option.any_some, Value.map?, Option.getD_some, Entries.has_eq_isSome,
          hnone]
        rfl
      · rw [elementSpec?, hsome, Option.bind_some, Value.map?, Option.getD_some, hspec]

theorem Schema.DenotesProfile.returning (h : DenotesProfile document profile)
    (voidNames : List String) : Returning profile.registry.bindings voidNames := by
  obtain ⟨bindings, heach, hentries⟩ := h.forall₂
  intro e he
  rw [Registry.bindings, hentries, List.map_map] at he
  obtain ⟨b, hb, rfl⟩ := List.mem_map.mp he
  obtain ⟨_, -, hentry⟩ := exists_denotesEntry_of_mem heach hb
  refine ⟨b.2, rfl, ?_⟩
  cases hentry with
  | mk _ hbinding =>
    cases hbinding with
    | wrap => exact Or.inr ⟨_, rfl, fun text => ⟨_, rfl⟩⟩
    | element => exact Or.inl rfl

/-- What markup comes to has the text that the document puts in its place, and it is reported if the
document says so. -/
theorem Schema.Declares.settle_eq {m : Markup} (h : Declares document profile m.name)
    (voidNames : List String) :
    let run := settle profile.registry.bindings voidNames m
    (∃ node, run.result = .ok node ∧
        Segment.textOf node.toList = .ok (replacement document voidNames m)) ∧
      run.diagnostics.length = if isReported document m then 1 else 0 := by
  intro run
  simp only [run, Interpolation.settle_eq, resolve]
  cases h with
  | nothing hget hnone =>
    have hspec : elementSpec? document m.name = none := by rw [elementSpec?, hnone]; rfl
    have hwraps : wraps document m.name = false := by rw [wraps, hnone]; rfl
    have hreplacement : replacement document voidNames m = "" := by
      cases m <;> simp_all [replacement, Markup.name]
    rw [hget, isReported, hnone, hreplacement]
    exact ⟨⟨none, rfl, rfl⟩, rfl⟩
  | wrapper tag props hget hsome hwraps hspec =>
    rw [hget, isReported, hwraps, Option.isNone_eq_false_iff.mpr hsome]
    cases m with
    | placeholder name =>
      have hreplacement : replacement document voidNames (.placeholder name) = "" := by
        unfold replacement
        rw [hspec]
      rw [hreplacement]
      exact ⟨⟨none, rfl, rfl⟩, rfl⟩
    | tag name content =>
      have hreplacement : replacement document voidNames (.tag name content)
          = handedOn voidNames name content := by
        unfold replacement
        rw [hspec]
        simp only [Markup.name] at hwraps
        simp only [hwraps, handedOn, Bool.true_and, Bool.not_eq_true']
        cases voidNames.contains name <;> rfl
      rw [hreplacement]
      exact ⟨⟨some _, rfl, Segment.textOf_singleton.trans (text_wrapIn tag props _)⟩, rfl⟩
  | element spec node hget hsome hwraps hspec hnode =>
    have hreplacement : replacement document voidNames m = specText spec := by
      unfold replacement
      rw [hspec]
    have hreported : isReported document m = false := by
      rw [isReported, hwraps, Option.isNone_eq_false_iff.mpr hsome]
      rfl
    rw [hget, hreported, hreplacement]
    exact ⟨⟨some node, rfl, Segment.textOf_singleton.trans hnode.text_eq⟩, rfl⟩

end Markup

/-- **Rendering is replacement.** Where a document makes a profile, the text of a template that the
profile fills is the template with the span of each match replaced by the text that the document
puts there, and as many diagnostics are reported as there are matches that the document gives no
text for. -/
theorem text_interpolate_eq_replaceSpans {document : Value} {profile : Profile}
    (hdistinct : (bindingsOf document).Distinct)
    (hprofile : (Profile.loadData document).result = .ok profile) (template : String) :
    let run := profile.interpolate template
    (∃ segments, run.result = .ok segments ∧ Segment.textOf segments
      = .ok (String.ofList (replaceSpans (replacement document profile.voidNames) (scan template)
          template.toList))) ∧
      run.diagnostics.length = (scan template).countP fun m => isReported document m.markup := by
  intro run
  have hdenotes := (Profile.loadData_eq_ok_iff hdistinct).mp hprofile
  have hreturning := hdenotes.returning profile.voidNames
  have hsettle := fun m : Markup => (hdenotes.declares m.name).settle_eq profile.voidNames
  have hrun : run = interpolate profile.registry.bindings profile.voidNames template := rfl
  constructor
  · refine ⟨(Piece.ofTemplate template).flatMap
      (segmentsOf profile.registry.bindings profile.voidNames), ?_, ?_⟩
    · rw [hrun, hreturning.interpolate_eq, hreturning.fill_eq]
    · rw [replaceSpans_scan]
      apply Segment.textOf_flatMap
      intro p
      cases p with
      | literal text => exact Segment.textOf_singleton
      | markup m =>
        obtain ⟨⟨node, hnode, htext⟩, -⟩ := hsettle m
        rw [segmentsOf, nodeOf, hnode, Piece.replaced, String.ofList_toList]
        exact htext
  · rw [hrun, Run.diagnostics, hreturning.trace_interpolate]
    induction scan template with
    | nil => rfl
    | cons m ms ih =>
      rw [List.flatMap_cons, List.filterMap_append, List.length_append, ih, List.countP_cons,
        Nat.add_comm]
      exact congrArg _ (hsettle m.markup).2

theorem text_interpolate_eq_replaceSpans_of_sample :
    (bindingsOf Sample.document).Distinct ∧
      (Profile.loadData Sample.document).result = .ok Sample.profile ∧
      ∃ segments, (Sample.profile.interpolate
          "<b>{{x}}</b>{{b}}{{user}}").result = .ok segments ∧
        Segment.textOf segments = .ok "{{x}}Ann B." := by
  obtain ⟨⟨segments, hresult, htext⟩, -⟩ := text_interpolate_eq_replaceSpans Sample.distinct
    Sample.loadData_document "<b>{{x}}</b>{{b}}{{user}}"
  refine ⟨Sample.distinct, Sample.loadData_document, segments, hresult,
    htext.trans (congrArg Except.ok ?_)⟩
  decide +kernel

end RichTemplate
