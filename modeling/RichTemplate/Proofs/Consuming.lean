import RichTemplate.Proofs.Elements
import RichTemplate.Proofs.Rendering

/-!
# The two ways through a tree

The text of an element and its data are found on two walks through the same children. Both come to
the same end: they are refused for the same child, the first in the order of the document that is
neither a text nor an element, or the text is what the lists of children in the data hold.
-/

namespace RichTemplate

open Schema

theorem Segment.textOf_eq_childrenText {segments : List Value}
    (h : ∀ v ∈ segments, Element.isForeign v = false) :
    textOf segments = Element.childrenText segments := by
  induction segments with
  | nil => rfl
  | cons v vs ih =>
    obtain ⟨hv, hvs⟩ := List.forall_mem_cons.mp h
    rw [textOf, Element.childrenText, (eq_child hv).1, ih hvs]

/-! ### Both consumers at once -/

/-- What two consumers make of one tree: a child that is neither a text nor an element, and each
refuses it in its way, or none, and then the text is what is told in the data. -/
inductive Consumed {α : Type} (told : α → String) :
    Option Value → Except NodeError String → Except NodeError α → Prop
  | agreed (a : α) : Consumed told none (.ok (told a)) (.ok a)
  | refused (child : Value) :
    Consumed told (some child) (.error (.noText child)) (.error (.noData child))

theorem Consumed.exists_told {α : Type} {told : α → String} {foreign? : Option Value}
    {text : Except NodeError String} {data : Except NodeError α}
    (h : Consumed told foreign? text data) (hnone : foreign? = none) :
    ∃ a, data = .ok a ∧ text = .ok (told a) := by
  cases h with
  | agreed a => exact ⟨a, rfl, rfl⟩
  | refused => cases hnone

/-- Both are refused, or none is. -/
theorem Consumed.error_iff {α : Type} {told : α → String} {children : List Value}
    {p : Value → Bool} {text : Except NodeError String} {data : Except NodeError α}
    (h : Consumed told (children.find? p) text data) :
    ((∃ e, text = .error e) ↔ ∃ child ∈ children, p child = true) ∧
      ((∃ e, data = .error e) ↔ ∃ child ∈ children, p child = true) := by
  rw [← List.find?_isSome]
  generalize List.find? p children = foreign? at h ⊢
  cases h <;> simp

namespace Element

mutual

def preorder : Value → List Value
  | .element tag props (.list children) =>
    .element tag props (.list children) :: preorderAll children
  | v => [v]

def preorderAll : List Value → List Value
  | [] => []
  | v :: vs => preorder v ++ preorderAll vs

end

/-- An element with a map of properties and a list of children, and so each element among them;
what else there is among them may be anything. -/
inductive Listed : Value → Prop
  | mk {tag : String} {props : Entries Value} {children : List Value}
    (hchildren : ∀ child ∈ children, isElement child = true → Listed child) :
    Listed (.element tag (.map props) (.list children))

end Element

namespace Schema

def itemText : Value → String
  | .str s => s
  | item => specText item

theorem itemsText_cons (item : Value) (items : List Value) :
    itemsText (item :: items) = itemText item ++ itemsText items := by
  cases item with
  | str s => rw [itemsText, itemText]
  | _ =>
    rw [itemsText]
    · rfl
    · exact fun _ => Value.noConfusion

theorem itemText_data (tag : String) (props : Entries Value) (items : List Value) :
    itemText (Element.data tag props items) = itemsText items := by
  rw [Element.data, itemText, specText_map]
  · rfl
  · exact fun _ => Value.noConfusion

end Schema

namespace Consumed

variable {foreign? rest? : Option Value} {text texts : Except NodeError String}
variable {data : Except NodeError Value} {datas : Except NodeError (List Value)}

theorem cons (hfirst : Consumed itemText foreign? text data)
    (hrest : Consumed itemsText rest? texts datas) :
    Consumed itemsText (foreign?.or rest?)
      (do let first ← text; let rest ← texts; return first ++ rest)
      (do let first ← data; let rest ← datas; return first :: rest) := by
  cases hfirst with
  | refused child => exact .refused child
  | agreed d =>
    cases hrest with
    | refused child => exact .refused child
    | agreed ds =>
      have hagreed := @Consumed.agreed (List Value) itemsText (d :: ds)
      rw [itemsText_cons] at hagreed
      exact hagreed

theorem element (h : Consumed itemsText foreign? texts datas) (tag : String)
    (props : Entries Value) :
    Consumed itemText foreign? texts
      (do let inner ← datas; return Element.data tag props inner) := by
  cases h with
  | refused child => exact .refused child
  | agreed ds =>
    have hagreed := @Consumed.agreed Value itemText (Element.data tag props ds)
    rw [itemText_data] at hagreed
    exact hagreed

end Consumed

namespace Element

theorem consumed_children {children : List Value} (h : ∀ child ∈ children,
      Consumed itemText ((preorder child).find? isForeign) (childText child) (childData child)) :
    Consumed itemsText ((preorderAll children).find? isForeign) (childrenText children)
      (childrenData children) := by
  induction children with
  | nil =>
    have hagreed := @Consumed.agreed (List Value) itemsText []
    rw [itemsText] at hagreed
    exact hagreed
  | cons child children ih =>
    obtain ⟨hfirst, hrest⟩ := List.forall_mem_cons.mp h
    rw [preorderAll, List.find?_append]
    exact hfirst.cons (ih hrest)

theorem isElement_eq_false_of_isText {v : Value} (h : v.isText = true) : isElement v = false := by
  cases v with
  | element => cases h
  | _ => rfl

theorem consumed_of_not_element {child : Value} (h : isElement child = false) :
    Consumed itemText ((preorder child).find? isForeign) (childText child) (childData child) := by
  cases child with
  | str s => exact @Consumed.agreed Value itemText (.str s)
  | element => cases h
  | _ => exact .refused _

theorem Listed.consumed {node : Value} (h : Listed node) :
    Consumed itemText ((preorder node).find? isForeign) (childText node) (childData node) := by
  -- the elements among the children are given by the induction, and the others end a walk at once
  induction h with
  | @mk tag props children _ ih =>
    have hchildren : Consumed itemsText ((preorderAll children).find? isForeign)
        (childrenText children) (childrenData children) := by
      refine consumed_children fun child hchild => ?_
      cases helement : isElement child with
      | false => exact consumed_of_not_element helement
      | true => exact ih child hchild helement
    exact hchildren.element tag props

theorem Listed.not_foreign {node : Value} (h : Listed node) : isForeign node = false := by
  cases h
  rfl

mutual

/-- What profiles build from a specification is a tree of this kind. -/
theorem WellFormed.listed {node : Value} (h : WellFormed node) : Listed node := by
  cases h with
  | mk _ _ hchildren => exact .mk hchildren.listed

theorem AllWellFormed.listed {children : List Value} (h : AllWellFormed children) :
    ∀ child ∈ children, isElement child = true → Listed child := by
  cases h with
  | nil => exact fun _ hchild => absurd hchild List.not_mem_nil
  | text s hrest =>
    refine List.forall_mem_cons.mpr ⟨fun helement => ?_, hrest.listed⟩
    cases helement
  | element hfirst hrest => exact List.forall_mem_cons.mpr ⟨fun _ => hfirst.listed, hrest.listed⟩

end

theorem consumed_segments {segments : List Value}
    (h : ∀ v ∈ segments, v.isText = true ∨ Listed v) :
    Consumed itemsText ((preorderAll segments).find? isForeign) (Segment.textOf segments)
      (Segment.dataOf segments) := by
  have hknown : ∀ v ∈ segments, isForeign v = false := by
    intro v hv
    obtain htext | hlisted := h v hv
    · rw [isForeign, htext]
      rfl
    · exact hlisted.not_foreign
  rw [Segment.textOf_eq_childrenText hknown, Segment.dataOf_eq_childrenData hknown]
  refine consumed_children fun v hv => ?_
  obtain htext | hlisted := h v hv
  · exact consumed_of_not_element (isElement_eq_false_of_isText htext)
  · exact hlisted.consumed

end Element

open Element in
/-- **The two consumers agree.** The text of an element and its data are refused alike: exactly if
one of the children that it leads to is neither a text nor an element, and both for the first such
child in the order of the document. Otherwise the text is what the lists of children in the data
hold, in order. The same is so of segments that are texts and elements. -/
theorem consumers_agree :
    (∀ node, Listed node →
      Consumed itemText ((preorder node).find? isForeign) (childText node) (childData node) ∧
      ((∃ e, childText node = .error e) ↔ ∃ child ∈ preorder node, isForeign child = true) ∧
      ((∃ e, childData node = .error e) ↔ ∃ child ∈ preorder node, isForeign child = true)) ∧
    ∀ segments, (∀ v ∈ segments, v.isText = true ∨ Listed v) →
      Consumed itemsText ((preorderAll segments).find? isForeign) (Segment.textOf segments)
        (Segment.dataOf segments) ∧
      ((∃ e, Segment.textOf segments = .error e) ↔
        ∃ child ∈ preorderAll segments, isForeign child = true) ∧
      ((∃ e, Segment.dataOf segments = .error e) ↔
        ∃ child ∈ preorderAll segments, isForeign child = true) :=
  ⟨fun _ hnode => ⟨hnode.consumed, hnode.consumed.error_iff⟩,
    fun _ hsegments => ⟨consumed_segments hsegments, (consumed_segments hsegments).error_iff⟩⟩

namespace Sample

def mixed : Value :=
  .element "li" (.map []) (.list [.str "a", .element "b" (.map []) (.list [.null]), .int 1])

theorem listed_mixed : Element.Listed mixed := by
  have hinner : Element.Listed (.element "b" (.map []) (.list [.null])) := by
    refine .mk fun child hchild helement => ?_
    obtain rfl := List.mem_singleton.mp hchild
    cases helement
  refine .mk fun child hchild helement => ?_
  simp only [List.mem_cons, List.not_mem_nil, or_false] at hchild
  obtain rfl | rfl | rfl := hchild
  · cases helement
  · exact hinner
  · cases helement

end Sample

theorem consumers_agree_of_mixed :
    (Element.Listed Sample.mixed ∧
      Consumed itemText (some .null) (Element.childText Sample.mixed)
        (Element.childData Sample.mixed)) ∧
    (Element.Listed Sample.user ∧ ∃ ds, Segment.dataOf [.str "to ", Sample.user] = .ok ds ∧
      Segment.textOf [.str "to ", Sample.user] = .ok (itemsText ds) ∧
      itemsText ds = "to Ann B.") := by
  obtain ⟨hnode, hsegments⟩ := consumers_agree
  have huser : Element.Listed Sample.user := Sample.denotesElement_user.wellFormed.listed
  refine ⟨⟨Sample.listed_mixed, (hnode Sample.mixed Sample.listed_mixed).1⟩, huser, ?_⟩
  obtain ⟨ds, hdata, htold⟩ :=
    (hsegments [.str "to ", Sample.user] (by simp [huser, Value.isText])).1.exists_told rfl
  have htext : Segment.textOf [.str "to ", Sample.user] = .ok "to Ann B." := rfl
  exact ⟨ds, hdata, htold, Except.ok.inj (htold.symm.trans htext)⟩

end RichTemplate
