import RichTemplate.Proofs.Elements
import RichTemplate.Proofs.Verdict

/-!
# Where issues lie

An issue of an element is told with a path. The path leads down through children to a part of the
specification, and that part breaks the rule that the issue names. Fields that no rule knows are
passed over; any other fault is the last that is found, since nothing is read behind it.
-/

namespace RichTemplate

open Schema

/-! ### Readings that end at a fault -/

/-- Fields that no rule knows are passed over; every other fault ends the reading of its part. -/
def Fault.isPassedOver : Fault → Bool
  | unknownBindingFields _ _ => true
  | unknownElementFields _ => true
  | _ => false

namespace Reading

variable {α β : Type} {r : Reading α} {f : α → Reading β} {issues : List Issue}

/-- Only fields that no rule knows are passed over: any other fault is the last, and nothing is read
then. -/
inductive EndsAtFault : Reading α → Prop
  | used (a : α) {issues : List Issue} (hissues : ∀ i ∈ issues, i.fault.isPassedOver = true) :
    EndsAtFault ⟨some a, issues⟩
  | ended {front : List Issue} {last : Issue} (hfront : ∀ i ∈ front, i.fault.isPassedOver = true)
    (hlast : last.fault.isPassedOver = false) : EndsAtFault ⟨none, front ++ [last]⟩

theorem endsAtFault_ok (a : α) : (ok a).EndsAtFault :=
  .used a fun _ hi => absurd hi List.not_mem_nil

theorem endsAtFault_reject {fault : Fault} (h : fault.isPassedOver = false) (path : String) :
    (reject fault path : Reading α).EndsAtFault :=
  @EndsAtFault.ended α [] ⟨fault, path⟩ (fun _ hi => absurd hi List.not_mem_nil) h

namespace EndsAtFault

theorem after (h : r.EndsAtFault) (hissues : ∀ i ∈ issues, i.fault.isPassedOver = true) :
    (r.after issues).EndsAtFault := by
  cases h with
  | used a hfront => exact .used a (List.forall_mem_append.mpr ⟨hissues, hfront⟩)
  | @ended front last hfront hlast =>
    have heq : (Reading.mk none (front ++ [last]) : Reading α).after issues
        = ⟨none, (issues ++ front) ++ [last]⟩ :=
      congrArg (Reading.mk none) (List.append_assoc issues front [last]).symm
    rw [heq]
    exact .ended (List.forall_mem_append.mpr ⟨hissues, hfront⟩) hlast

theorem andThen (h : r.EndsAtFault) (hf : ∀ a, (f a).EndsAtFault) :
    (r.andThen f).EndsAtFault := by
  cases h with
  | used a hissues => exact (hf a).after hissues
  | ended hfront hlast => exact .ended hfront hlast

theorem value?_eq_none_iff (h : r.EndsAtFault) :
    r.value? = none ↔ ∃ i ∈ r.issues, i.fault.isPassedOver = false := by
  cases h with
  | used a hissues =>
    refine iff_of_false (Option.some_ne_none a) fun ⟨i, hi, hfault⟩ => ?_
    rw [hissues i hi] at hfault
    cases hfault
  | ended hfront hlast => exact iff_of_true rfl ⟨_, by simp, hlast⟩

/-- What is found in front of an issue has been passed over. -/
theorem isPassedOver_of_eq_append (h : r.EndsAtFault) {front rest : List Issue}
    (hissues : r.issues = front ++ rest) (hrest : rest ≠ []) :
    ∀ i ∈ front, i.fault.isPassedOver = true := by
  intro i hi
  cases h with
  | @used a issues hall =>
    have heq : issues = front ++ rest := hissues
    exact hall i (heq ▸ List.mem_append_left rest hi)
  | @ended passed last hpassed hlast =>
    have hdrop : passed = front ++ rest.dropLast := by
      rw [← List.dropLast_append_of_ne_nil hrest, ← hissues, List.dropLast_concat]
    exact hpassed i (hdrop ▸ List.mem_append_left _ hi)

end EndsAtFault

end Reading

namespace Schema

/-! ### Parts of a specification -/

/-- The child at a place, if it is to be an element. -/
def childAt? (items : List Value) (index : Nat) : Option Value :=
  items[index]?.filter fun child => !child.isText

def partAt? : Value → List Nat → Option Value
  | spec, [] => some spec
  | .map entries, index :: rest =>
    match Entries.get? entries "children" with
    | some (.list items) => (childAt? items index).bind fun child => partAt? child rest
    | _ => none
  | _, _ :: _ => none

def pathAt (path : String) (indices : List Nat) : String :=
  indices.foldl childPath path

/-- A part breaks a rule: the fault names the rule, and the text is the field that the rule is
about, if it is about one. -/
inductive Breaks : Value → Fault → String → Prop
  | notMap {part : Value} (hpart : ∀ entries, part ≠ .map entries) : Breaks part .elementNotMap ""
  | unknown {entries : Entries Value} {keys : List Value} (hsome : keys ≠ [])
    (hkeys : ∀ key, key ∈ keys ↔
      key ∈ entries.map (·.1) ∧ ∀ known ∈ ["tag", "props", "children"], key ≠ .str known) :
    Breaks (.map entries) (.unknownElementFields keys) ""
  | tag {entries : Entries Value} (htag : ∀ tag, entries.get? "tag" = some (.str tag) → tag = "") :
    Breaks (.map entries) .tagEmpty ".tag"
  | props {entries : Entries Value} {props : Value} (hprops : entries.get? "props" = some props)
    (hnull : props ≠ .null) (hmap : ∀ entries, props ≠ .map entries) :
    Breaks (.map entries) .propsNotMap ".props"
  | propsKeys {entries props : Entries Value} {keys : List Value}
    (hprops : entries.get? "props" = some (.map props)) (hsome : keys ≠ [])
    (hkeys : ∀ key, key ∈ keys ↔ key ∈ props.map (·.1) ∧ ∀ text, key ≠ .str text) :
    Breaks (.map entries) (.propsKeysNotText keys) ".props"
  | children {entries : Entries Value} {children : Value}
    (hchildren : entries.get? "children" = some children)
    (hlist : ∀ items, children ≠ .list items) : Breaks (.map entries) .childrenNotList ".children"
  | endless : Breaks .endless .endless ""
  | endlessProps {entries : Entries Value} (hprops : entries.get? "props" = some .endless) :
    Breaks (.map entries) .endless ".props"
  | endlessChildren {entries : Entries Value}
    (hchildren : entries.get? "children" = some .endless) :
    Breaks (.map entries) .endless ".children"

/-- An issue is truthful: its path leads to a part of the specification that breaks the rule that
the issue names. -/
def Locates (path : String) (spec : Value) (i : Issue) : Prop :=
  ∃ indices part field, partAt? spec indices = some part ∧ Breaks part i.fault field ∧
    i.path = pathAt path indices ++ field

variable {path : String} {entries : Entries Value} {i : Issue}

theorem Breaks.locates {spec : Value} {fault : Fault} {field : String} (h : Breaks spec fault field)
    (path : String) : Locates path spec ⟨fault, path ++ field⟩ :=
  ⟨[], spec, field, rfl, h, rfl⟩

theorem Breaks.refusal {part v : Value} {fault : Fault} {field : String}
    (h : Breaks part fault field) (hendless : v = .endless → Breaks part .endless field) :
    Breaks part (Schema.refusal fault v) field := by
  cases v with
  | endless => exact hendless rfl
  | _ => exact h

theorem childAt?_eq_some_iff {items : List Value} {index : Nat} {child : Value} :
    childAt? items index = some child ↔ items[index]? = some child ∧ child.isText = false := by
  simp [childAt?, Option.filter_eq_some_iff]

theorem childAt?_cons_zero {child : Value} (htext : ∀ s, child ≠ .str s) (rest : List Value) :
    childAt? (child :: rest) 0 = some child := by
  refine childAt?_eq_some_iff.mpr ⟨rfl, ?_⟩
  cases child with
  | str s => exact absurd rfl (htext s)
  | _ => rfl

theorem Locates.of_child {items : List Value} {child : Value} {index : Nat}
    (hitems : entries.get? "children" = some (.list items))
    (hchild : childAt? items index = some child)
    (h : Locates (childPath path index) child i) : Locates path (.map entries) i := by
  obtain ⟨indices, part, field, hpart, hbreaks, hpath⟩ := h
  refine ⟨index :: indices, part, field, ?_, hbreaks, hpath⟩
  rw [partAt?, hitems]
  dsimp only
  rw [hchild, Option.bind_some, hpart]

theorem mem_unknownKeys_iff {known : List String} {key : Value} :
    key ∈ unknownKeys known entries ↔
      key ∈ entries.map (·.1) ∧ ∀ field ∈ known, key ≠ .str field := by
  rw [unknownKeys, List.mem_filter]
  refine and_congr_right fun _ => ?_
  cases key with
  | str s => simp [List.forall_mem_ne]
  | _ => simp

theorem mem_unknownIssues_iff {fault : List Value → Fault} {keys : List Value} :
    i ∈ unknownIssues fault path keys ↔ keys ≠ [] ∧ i = ⟨fault keys, path⟩ := by
  cases keys <;> simp [unknownIssues]

theorem locates_of_mem_unknownIssues (hi : i ∈ unknownIssues .unknownElementFields path
    (unknownKeys ["tag", "props", "children"] entries)) : Locates path (.map entries) i := by
  obtain ⟨hsome, rfl⟩ := mem_unknownIssues_iff.mp hi
  have hlocates := (Breaks.unknown hsome fun _ => mem_unknownKeys_iff).locates path
  rw [String.append_empty] at hlocates
  exact hlocates

theorem locates_tagEmpty (htag : filledText? (entries.get? "tag") = none) :
    Locates path (.map entries) ⟨.tagEmpty, path ++ ".tag"⟩ := by
  refine (Breaks.tag fun tag hget => ?_).locates path
  by_contra hfilled
  rw [filledText?_eq_some_iff.mpr ⟨hget, hfilled⟩] at htag
  cases htag

theorem locates_of_mem_readProps
    (hi : i ∈ (readProps (path ++ ".props") ((entries.get? "props").getD .null)).issues) :
    Locates path (.map entries) i := by
  cases hprops : entries.get? "props" with
  | none =>
    rw [hprops] at hi
    cases hi
  | some v =>
    rw [hprops, Option.getD_some] at hi
    unfold readProps at hi
    split at hi
    next => cases hi
    next props =>
      dsimp only at hi
      split at hi
      next => cases hi
      next hsome =>
        obtain rfl := List.mem_singleton.mp hi
        refine (Breaks.propsKeys hprops (fun hnil => hsome (List.isEmpty_iff.mpr hnil))
          fun key => ?_).locates path
        rw [List.mem_filter]
        exact and_congr_right fun _ => by cases key <;> simp [Value.isText]
    next hnull hmap =>
      obtain rfl := List.mem_singleton.mp hi
      have hbreaks := Breaks.props hprops hnull hmap
      exact (hbreaks.refusal fun heq => .endlessProps (heq ▸ hprops)).locates path

theorem locates_of_mem_readChildrenField {tag : String} {props : Entries Value}
    (hitems : ∀ items, entries.get? "children" = some (.list items) →
      ∀ i ∈ (readChildren path 0 items).issues, Locates path (.map entries) i)
    (hi : i ∈ (readChildrenField path tag props (entries.get? "children")).issues) :
    Locates path (.map entries) i := by
  unfold readChildrenField at hi
  split at hi
  next => cases hi
  next items hget =>
    rw [Reading.issues_andThen_ok] at hi
    exact hitems items hget i hi
  next v hlist hget =>
    obtain rfl := List.mem_singleton.mp hi
    have hbreaks := Breaks.children hget fun items heq => hlist items (heq ▸ rfl)
    exact (hbreaks.refusal fun heq => .endlessChildren (heq ▸ hget)).locates path

theorem locates_of_mem_readElement_and_readChildren :
    (∀ path spec, ∀ i ∈ (readElement path spec).issues, Locates path spec i) ∧
      ∀ path index items, ∀ i ∈ (readChildren path index items).issues,
        ∃ k child, childAt? items k = some child ∧
          Locates (childPath path (index + k)) child i := by
  apply readElement.mutual_induct
  case case1 =>
    intro path entries ih i hi
    rw [readElement_map, Reading.mem_issues_after] at hi
    obtain hi | hi := hi
    · exact locates_of_mem_unknownIssues hi
    cases htag : filledText? (Entries.get? entries "tag") with
    | none =>
      rw [htag] at hi
      obtain rfl := List.mem_singleton.mp hi
      exact locates_tagEmpty htag
    | some tag =>
      rw [htag, readTagged] at hi
      obtain hi | ⟨props, -, hi⟩ := Reading.mem_issues_andThen.mp hi
      · exact locates_of_mem_readProps hi
      refine locates_of_mem_readChildrenField (fun items hitems i hi => ?_) hi
      obtain ⟨k, child, hchild, hlocates⟩ := ih items hitems i hi
      rw [Nat.zero_add] at hlocates
      exact hlocates.of_child hitems hchild
  case case2 =>
    intro path spec hspec i hi
    rw [readElement] at hi
    · obtain rfl := List.mem_singleton.mp hi
      have hbreaks : Breaks spec (refusal .elementNotMap spec) "" :=
        (Breaks.notMap hspec).refusal fun heq => heq ▸ .endless
      have hlocates := hbreaks.locates path
      rw [String.append_empty] at hlocates
      exact hlocates
    · exact hspec
  case case3 =>
    intro path index i hi
    rw [readChildren] at hi
    cases hi
  case case4 =>
    intro path index s rest ih i hi
    rw [readChildren, Reading.issues_andThen_ok] at hi
    -- what follows is read from the next place on, so the places found in it move up by one
    obtain ⟨k, child, hchild, hlocates⟩ := ih i hi
    rw [Nat.add_right_comm, Nat.add_assoc] at hlocates
    exact ⟨k + 1, child, hchild, hlocates⟩
  case case5 =>
    intro path index child rest htext ihchild ihrest i hi
    rw [readChildren] at hi
    · obtain hi | ⟨node, -, hi⟩ := Reading.mem_issues_andThen.mp hi
      · exact ⟨0, child, childAt?_cons_zero htext rest, ihchild i hi⟩
      · rw [Reading.issues_andThen_ok] at hi
        obtain ⟨k, child', hchild, hlocates⟩ := ihrest i hi
        rw [Nat.add_right_comm, Nat.add_assoc] at hlocates
        exact ⟨k + 1, child', hchild, hlocates⟩
    · exact htext

/-! ### Readings of elements end at their fault -/

theorem isPassedOver_refusal {fault : Fault} (h : fault.isPassedOver = false) (v : Value) :
    (refusal fault v).isPassedOver = false := by
  cases v <;> first | rfl | exact h

/-- Properties are what they are, or they are refused. -/
theorem readProps_eq_ok_or_reject (path : String) (v : Value) :
    (∃ props, readProps path v = .ok props) ∨
      ∃ fault, fault.isPassedOver = false ∧ readProps path v = .reject fault path := by
  unfold readProps
  split
  next => exact Or.inl ⟨_, rfl⟩
  next =>
    dsimp only
    split
    next => exact Or.inl ⟨_, rfl⟩
    next => exact Or.inr ⟨_, rfl, rfl⟩
  next => exact Or.inr ⟨_, isPassedOver_refusal rfl _, rfl⟩

theorem endsAtFault_readProps (path : String) (v : Value) : (readProps path v).EndsAtFault := by
  obtain ⟨props, hok⟩ | ⟨fault, hfault, hreject⟩ := readProps_eq_ok_or_reject path v
  · exact hok ▸ Reading.endsAtFault_ok props
  · exact hreject ▸ Reading.endsAtFault_reject hfault path

theorem endsAtFault_readElement_and_readChildren :
    (∀ path spec, (readElement path spec).EndsAtFault) ∧
      ∀ path index items, (readChildren path index items).EndsAtFault := by
  apply readElement.mutual_induct
  case case1 =>
    intro path entries ih
    rw [readElement_map]
    have hpassed : ∀ i ∈ unknownIssues .unknownElementFields path
        (unknownKeys ["tag", "props", "children"] entries), i.fault.isPassedOver = true := by
      intro i hi
      obtain ⟨-, rfl⟩ := mem_unknownIssues_iff.mp hi
      rfl
    refine Reading.EndsAtFault.after ?_ hpassed
    cases filledText? (Entries.get? entries "tag") with
    | none => exact Reading.endsAtFault_reject rfl _
    | some tag =>
      rw [readTagged]
      refine (endsAtFault_readProps _ _).andThen fun props => ?_
      unfold readChildrenField
      split
      next => exact Reading.endsAtFault_ok _
      next items hitems => exact (ih items hitems).andThen fun built => Reading.endsAtFault_ok _
      next => exact Reading.endsAtFault_reject (isPassedOver_refusal rfl _) _
  case case2 =>
    intro path spec hspec
    rw [readElement]
    · exact Reading.endsAtFault_reject (isPassedOver_refusal rfl _) _
    · exact hspec
  case case3 =>
    intro path index
    rw [readChildren]
    exact Reading.endsAtFault_ok _
  case case4 =>
    intro path index s rest ih
    rw [readChildren]
    exact ih.andThen fun built => Reading.endsAtFault_ok _
  case case5 =>
    intro path index child rest htext ihchild ihrest
    rw [readChildren]
    · exact ihchild.andThen fun node => ihrest.andThen fun built => Reading.endsAtFault_ok _
    · exact htext

theorem endsAtFault_readElement (path : String) (spec : Value) :
    (readElement path spec).EndsAtFault :=
  endsAtFault_readElement_and_readChildren.1 path spec

theorem Locates.isPassedOver_iff {spec : Value} (h : Locates path spec i) :
    i.fault.isPassedOver = true ↔ ∃ keys, i.fault = .unknownElementFields keys := by
  obtain ⟨fault, place⟩ := i
  obtain ⟨indices, part, field, -, hbreaks, -⟩ := h
  change Breaks part fault field at hbreaks
  cases hbreaks <;> simp [Fault.isPassedOver]

theorem locates_of_mem_readElement {spec : Value} (hi : i ∈ (readElement path spec).issues) :
    Locates path spec i :=
  locates_of_mem_readElement_and_readChildren.1 path spec i hi

theorem value?_readElement_eq_none_iff {spec : Value} :
    (readElement path spec).value? = none ↔
      ∃ i ∈ (readElement path spec).issues, ∀ keys, i.fault ≠ .unknownElementFields keys := by
  rw [(endsAtFault_readElement path spec).value?_eq_none_iff]
  refine exists_congr fun i => and_congr_right fun hi => ?_
  rw [← Bool.not_eq_true, (locates_of_mem_readElement hi).isPassedOver_iff, not_exists]

theorem issues_readElement_eq_nil_iff {spec : Value} :
    (readElement path spec).issues = [] ↔ ∃ node, DenotesElement spec node := by
  have hmeets := readElement_meets path spec
  constructor
  · intro hnil
    obtain ⟨node, -, hnode⟩ := hmeets.eq_ok hnil
    exact ⟨node, hnode⟩
  · rintro ⟨node, hnode⟩
    rw [(hmeets.eq_ok_iff node).mpr hnode]
    rfl

/-- An element with a tag and properties is read by its children. -/
theorem readElement_of_head {tag : String} {props : Entries Value}
    (htag : entries.get? "tag" = some (.str tag)) (hfilled : tag ≠ "")
    (hprops : DenotesProps (entries.get? "props") props) :
    readElement path (.map entries) =
      (readChildrenField path tag props (entries.get? "children")).after
        (unknownIssues .unknownElementFields path
          (unknownKeys ["tag", "props", "children"] entries)) := by
  have hread := ((readProps_meets (path ++ ".props") _).eq_ok_iff props).mpr hprops
  rw [readElement_map, filledText?_eq_some_iff.mpr ⟨htag, hfilled⟩, readTagged, hread]
  rfl

theorem readElement_of_items {tag : String} {props : Entries Value} {items : List Value}
    (htag : entries.get? "tag" = some (.str tag)) (hfilled : tag ≠ "")
    (hprops : DenotesProps (entries.get? "props") props)
    (hitems : entries.get? "children" = some (.list items)) :
    readElement path (.map entries) =
      ((readChildren path 0 items).andThen fun built =>
        .ok (.element tag (.map props) (.list built))).after
          (unknownIssues .unknownElementFields path
            (unknownKeys ["tag", "props", "children"] entries)) := by
  rw [readElement_of_head htag hfilled hprops, hitems]
  rfl

end Schema

/-! ### Elements that documents declare -/

section Declared

variable {name : String} {spec : Value} {breach : Limit.Breach}

def Schema.elementPath (name : String) : String :=
  "bindings." ++ name ++ ".element"

theorem Schema.readBinding_element (hword : isWord name = true) (spec : Value) :
    readBinding (.str name) (.map [(.str "element", spec)])
      = (readElement (elementPath name) spec).andThen fun node => .ok (.value node) := by
  rw [readBinding, if_pos hword]
  rfl

theorem Profile.limit?_verdict_eq_none_iff {document : Value} :
    (verdict document).limit? = none ↔ Limit.Spares document := by
  rw [verdict_eq, ← Limit.ofDocument?_eq_none_iff]
  cases Limit.ofDocument? document <;> simp [Verdict.ofBreach]

theorem Profile.verdict_of_spared {document : Value} (h : Limit.Spares document) :
    verdict document = ⟨issues document, none⟩ := by
  rw [verdict_eq, Limit.ofDocument?_eq_none_iff.mpr h]
  rfl

theorem Profile.verdict_declaring (hword : isWord name = true) (spec : Value) :
    verdict (declaring name spec) = .ofIssues (readElement (elementPath name) spec).issues := by
  have hbinding := verdict_binding (.str name) (.map [(.str "element", spec)])
  rw [Verdict.ofBinding, readBinding_element hword, Reading.issues_andThen_ok] at hbinding
  exact hbinding

theorem Schema.spares_declaring_iff (hword : isWord name = true) :
    Limit.Spares (declaring name spec) ↔
      ∀ i ∈ (readElement (elementPath name) spec).issues, i.fault.limit? = none := by
  rw [← Profile.limit?_verdict_eq_none_iff, Profile.verdict_declaring hword,
    Verdict.limit?_ofIssues_eq_none_iff]

/-- What is said of a document with one element, if it is read to its end, is what is found in the
element. -/
theorem Profile.verdict_of_spared_element (hword : isWord name = true)
    (hspares : Limit.Spares (declaring name spec)) :
    verdict (declaring name spec) = ⟨(readElement (elementPath name) spec).issues, none⟩ := by
  rw [verdict_declaring hword]
  exact Verdict.ofIssues_of_spared ((spares_declaring_iff hword).mp hspares)

/-- If it is not, it is what is found in front of the issue that is met at a limit. -/
theorem Profile.exists_verdict_of_not_spared (hword : isWord name = true)
    (hspares : ¬ Limit.Spares (declaring name spec)) :
    ∃ front last rest limit,
      (readElement (elementPath name) spec).issues = front ++ last :: rest ∧
      last.fault.limit? = some limit ∧ verdict (declaring name spec) = ⟨front, some limit⟩ ∧
      ∀ i ∈ front, i.fault.isPassedOver = true := by
  rw [spares_declaring_iff hword, ← Limit.ofIssues?_eq_none_iff] at hspares
  obtain ⟨breach, hbreach⟩ := Option.ne_none_iff_exists'.mp hspares
  obtain ⟨last, rest, hissues, hlast⟩ := Limit.exists_of_ofIssues? hbreach
  refine ⟨breach.issues, last, rest, breach.limit, hissues, hlast, ?_, ?_⟩
  · rw [verdict_declaring hword, Verdict.ofIssues, hbreach]
    rfl
  · exact (endsAtFault_readElement _ spec).isPassedOver_of_eq_append hissues (List.cons_ne_nil _ _)

theorem Schema.moderate_declaring (h : spec.Moderate) (name : String) :
    (declaring name spec).Moderate := by
  have htext : ∀ s : String, (Value.str s).Moderate := fun s => ⟨rfl, rfl⟩
  simp only [declaring, Value.Moderate.map_iff, List.forall_mem_cons, List.not_mem_nil,
    IsEmpty.forall_iff, implies_true, and_true]
  exact ⟨⟨htext _, htext _⟩, htext _, htext _, htext _, h⟩

end Declared

/-- **The paths of issues are truthful.** Reading an element finds issues only at paths that lead,
down through children, to a part that breaks the rule that the issue names. The element is read
unless there is an issue besides fields that no rule knows, and no issue is found exactly in what
denotes an element. A document that declares the element is told of these issues, unless one of them
is met at a limit: then reading is given up, and those in front of it are about fields that no rule
knows. No limit is met where the element has an end and holds no integer that is too long. -/
theorem issues_of_elements_are_truthful (spec : Value) :
    (∀ path, (∀ i ∈ (readElement path spec).issues, Locates path spec i) ∧
      ((readElement path spec).value? = none ↔
        ∃ i ∈ (readElement path spec).issues, ∀ keys, i.fault ≠ .unknownElementFields keys) ∧
      ((readElement path spec).issues = [] ↔ ∃ node, DenotesElement spec node)) ∧
    ∀ name, isWord name = true →
      let found := (readElement (elementPath name) spec).issues
      (Limit.Spares (declaring name spec) →
        Profile.verdict (declaring name spec) = ⟨found, none⟩) ∧
      (¬ Limit.Spares (declaring name spec) → ∃ front last rest limit,
        found = front ++ last :: rest ∧ last.fault.limit? = some limit ∧
        Profile.verdict (declaring name spec) = ⟨front, some limit⟩ ∧
        ∀ i ∈ front, ∃ keys, i.fault = .unknownElementFields keys) ∧
      (spec.Moderate → Limit.Spares (declaring name spec)) := by
  refine ⟨fun path => ⟨fun i => locates_of_mem_readElement, value?_readElement_eq_none_iff,
    issues_readElement_eq_nil_iff⟩, fun name hword => ⟨Profile.verdict_of_spared_element hword,
      fun hgivenUp => ?_, fun hmoderate => (moderate_declaring hmoderate name).spares⟩⟩
  obtain ⟨front, last, rest, limit, hissues, hlast, hverdict, hpassed⟩ :=
    Profile.exists_verdict_of_not_spared hword hgivenUp
  refine ⟨front, last, rest, limit, hissues, hlast, hverdict, fun i hi => ?_⟩
  have hfound : i ∈ (readElement (elementPath name) spec).issues :=
    hissues ▸ List.mem_append_left _ hi
  exact (locates_of_mem_readElement hfound).isPassedOver_iff.mp (hpassed i hi)

namespace Sample

def menuSpec : Value :=
  .map [(.str "tag", .str "ul"), (.str "x", .null), (.str "children", .list [.str "Menu",
    .map [(.str "tag", .str "li"), (.str "children", .list [.int 1])]])]

theorem readElement_menuSpec (path : String) : readElement path menuSpec =
    ⟨none, [⟨.unknownElementFields [.str "x"], path⟩,
      ⟨.elementNotMap, childPath (childPath path 1) 0⟩]⟩ := by
  have hitem : readElement (childPath path 1)
      (.map [(.str "tag", .str "li"), (.str "children", .list [.int 1])])
        = .reject .elementNotMap (childPath (childPath path 1) 0) := by
    refine Eq.trans (readElement_of_items rfl (by decide) .absent rfl) ?_
    rw [readChildren, readElement]
    · rfl
    all_goals simp
  refine Eq.trans (readElement_of_items rfl (by decide) .absent rfl) ?_
  rw [readChildren, readChildren, hitem]
  · rfl
  · simp

theorem moderate_menuSpec : menuSpec.Moderate :=
  ⟨by decide, by decide⟩

def keyed (key : Value) : Value :=
  .map [(key, .null), (.str "tag", .str "a")]

theorem issues_readElement_keyed {key : Value} (h : key.isOverlong = true) (path : String) :
    (readElement path (keyed key)).issues = [⟨.unknownElementFields [key], path⟩] := by
  rw [keyed, readElement_map]
  cases key with
  | str s => cases h
  | _ => rfl

theorem limit?_unknownElementFields {key : Value} (h : key.isOverlong = true) :
    (Fault.unknownElementFields [key]).limit? = some .overlong :=
  Fault.limit?_of_overlong (by rw [Fault.spelled, List.any_cons, h, Bool.true_or])

theorem verdict_keyed {key : Value} (h : key.isOverlong = true) :
    Profile.verdict (declaring "x" (keyed key)) = ⟨[], some .overlong⟩ := by
  rw [Profile.verdict_declaring (by decide), issues_readElement_keyed h, Verdict.ofIssues,
    Limit.ofIssues?, limit?_unknownElementFields h]
  rfl

theorem not_spares_keyed {key : Value} (h : key.isOverlong = true) :
    ¬ Limit.Spares (declaring "x" (keyed key)) := by
  rw [← Profile.limit?_verdict_eq_none_iff, verdict_keyed h]
  exact Option.some_ne_none _

end Sample

theorem issues_of_elements_are_truthful_of_menu :
    (isWord "menu" = true ∧ Sample.menuSpec.Moderate ∧
      Limit.Spares (declaring "menu" Sample.menuSpec) ∧
      Profile.verdict (declaring "menu" Sample.menuSpec) =
        ⟨[⟨.unknownElementFields [.str "x"], "bindings.menu.element"⟩,
          ⟨.elementNotMap, "bindings.menu.element.children[1].children[0]"⟩], none⟩ ∧
      (readElement "" Sample.menuSpec).value? = none) ∧
    let overlong := Sample.keyed (.tuple [.int (Nat.pow 10 4300)])
    isWord "x" = true ∧ ¬ Limit.Spares (declaring "x" overlong) ∧
      ∃ front limit, Profile.verdict (declaring "x" overlong) = ⟨front, some limit⟩ ∧
        ∀ i ∈ front, ∃ keys, i.fault = .unknownElementFields keys := by
  constructor
  · obtain ⟨hread, hdeclared⟩ := issues_of_elements_are_truthful Sample.menuSpec
    obtain ⟨htold, -, hspares⟩ := hdeclared "menu" (by decide)
    have hspared := hspares Sample.moderate_menuSpec
    have hverdict := htold hspared
    have hpath : childPath (childPath (elementPath "menu") 1) 0
        = "bindings.menu.element.children[1].children[0]" := by decide
    rw [Sample.readElement_menuSpec, hpath] at hverdict
    refine ⟨by decide, Sample.moderate_menuSpec, hspared, hverdict, (hread "").2.1.mpr ?_⟩
    rw [Sample.readElement_menuSpec]
    exact ⟨_, List.mem_cons_of_mem _ List.mem_cons_self, fun _ => Fault.noConfusion⟩
  · have hlong : (Value.tuple [.int (Nat.pow 10 4300)]).isOverlong = true := by decide +kernel
    generalize Value.tuple [.int (Nat.pow 10 4300)] = key at hlong
    intro overlong
    have hnot := Sample.not_spares_keyed hlong
    obtain ⟨-, hgivenUp, -⟩ := (issues_of_elements_are_truthful overlong).2 "x" (by decide)
    obtain ⟨front, last, rest, limit, -, -, hverdict, hfields⟩ := hgivenUp hnot
    exact ⟨by decide, hnot, front, limit, hverdict, hfields⟩

/-- Reading a document is given up at a field that is too long to be written: the element denotes
nothing, and no issue is found in it till then. -/
theorem overlong_field_is_not_found :
    let spec := Sample.keyed (.int (Nat.pow 10 4300))
    (¬ ∃ node, DenotesElement spec node) ∧
      Profile.verdict (declaring "x" spec) = ⟨[], some .overlong⟩ := by
  have hlong : (Value.int (Nat.pow 10 4300)).isOverlong = true := by decide +kernel
  generalize Value.int (Nat.pow 10 4300) = key at hlong
  intro spec
  refine ⟨fun hdenotes => ?_, Sample.verdict_keyed hlong⟩
  have hnil : (readElement "" spec).issues = [] := issues_readElement_eq_nil_iff.mpr hdenotes
  rw [Sample.issues_readElement_keyed hlong] at hnil
  cases hnil

end RichTemplate
