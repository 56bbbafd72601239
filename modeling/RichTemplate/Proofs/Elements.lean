import RichTemplate.Proofs.Loaded

/-!
# Elements and their data

The data of an element is a specification of it: what profiles read from it is the element again.
The other way round, the data of an element that was read is its specification with nothing left
out. So nothing is lost where segments are written as data.
-/

namespace RichTemplate

open Schema

namespace Element

mutual

/-- An element with a tag, with properties under texts, and with children that are texts and such
elements. -/
inductive WellFormed : Value → Prop
  | mk {tag : String} {props : Entries Value} {children : List Value} (hfilled : tag ≠ "")
    (htexts : ∀ e ∈ props, e.1.isText = true) (hchildren : AllWellFormed children) :
    WellFormed (.element tag (.map props) (.list children))

inductive AllWellFormed : List Value → Prop
  | nil : AllWellFormed []
  | text {rest : List Value} (s : String) (hrest : AllWellFormed rest) :
    AllWellFormed (.str s :: rest)
  | element {node : Value} {rest : List Value} (hfirst : WellFormed node)
    (hrest : AllWellFormed rest) : AllWellFormed (node :: rest)

end

theorem denotesHead_data {tag : String} {props : Entries Value} (hfilled : tag ≠ "")
    (htexts : ∀ e ∈ props, e.1.isText = true) (children : List Value) :
    DenotesHead [(.str "tag", .str tag), (.str "props", .map props),
      (.str "children", .list children)] tag props where
  known := by simp [Entries.OnlyKeys]
  tag_eq := rfl
  filled := hfilled
  props := .map htexts

mutual

theorem WellFormed.exists_childData {node : Value} (h : WellFormed node) :
    ∃ d, childData node = .ok d ∧ DenotesElement d node := by
  cases h with
  | mk hfilled htexts hchildren =>
    obtain ⟨ds, hdata, hdenotes⟩ := hchildren.exists_childrenData
    refine ⟨data _ _ ds, ?_, .node (denotesHead_data hfilled htexts ds) rfl hdenotes⟩
    rw [childData, contentData, hdata]
    rfl

theorem AllWellFormed.exists_childrenData {children : List Value} (h : AllWellFormed children) :
    ∃ ds, childrenData children = .ok ds ∧ DenotesChildren ds children := by
  cases h with
  | nil => exact ⟨[], rfl, .nil⟩
  | text s hrest =>
    obtain ⟨ds, hdata, hdenotes⟩ := hrest.exists_childrenData
    refine ⟨.str s :: ds, ?_, .text s hdenotes⟩
    rw [childrenData, childData, hdata]
    rfl
  | element hfirst hrest =>
    obtain ⟨d, hfirstData, hfirstDenotes⟩ := hfirst.exists_childData
    obtain ⟨ds, hdata, hdenotes⟩ := hrest.exists_childrenData
    refine ⟨d :: ds, ?_, .element hfirstDenotes hdenotes⟩
    rw [childrenData, hfirstData, hdata]
    rfl

end

end Element

namespace Schema

theorem DenotesProps.isText {field : Option Value} {props : Entries Value}
    (h : DenotesProps field props) : ∀ e ∈ props, e.1.isText = true := by
  cases h with
  | absent => exact fun _ he => absurd he List.not_mem_nil
  | null => exact fun _ he => absurd he List.not_mem_nil
  | map htexts => exact htexts

mutual

theorem DenotesElement.wellFormed {spec node : Value} (h : DenotesElement spec node) :
    Element.WellFormed node := by
  cases h with
  | leaf hhead _ => exact .mk hhead.filled hhead.props.isText .nil
  | node hhead _ hchildren => exact .mk hhead.filled hhead.props.isText hchildren.allWellFormed

theorem DenotesChildren.allWellFormed {items children : List Value}
    (h : DenotesChildren items children) : Element.AllWellFormed children := by
  cases h with
  | nil => exact .nil
  | text s hrest => exact .text s hrest.allWellFormed
  | element hfirst hrest => exact .element hfirst.wellFormed hrest.allWellFormed

end

/-! ### Specifications with nothing left out -/

def givenProps : Option Value → Value
  | none => .map []
  | some .null => .map []
  | some props => props

mutual

/-- The specification of an element with its properties and its children written out, at every
level. -/
def completed : Value → Value
  | .map entries =>
    let children :=
      match _h : Entries.get? entries "children" with
      | some (.list items) => completedItems items
      | _ => []
    .map [(.str "tag", (Entries.get? entries "tag").getD .null),
      (.str "props", givenProps (Entries.get? entries "props")), (.str "children", .list children)]
  | v => v
termination_by spec => sizeOf spec
decreasing_by
  have := sizeOf_lt_of_get? _h
  simp only [Value.list.sizeOf_spec, Value.map.sizeOf_spec] at this ⊢
  omega

def completedItems : List Value → List Value
  | [] => []
  | .str s :: rest => .str s :: completedItems rest
  | item :: rest => completed item :: completedItems rest
termination_by items => sizeOf items

end

theorem completed_map (entries : Entries Value) :
    completed (.map entries) =
      .map [(.str "tag", (entries.get? "tag").getD .null),
        (.str "props", givenProps (entries.get? "props")),
        (.str "children", .list (match entries.get? "children" with
          | some (.list items) => completedItems items
          | _ => []))] := by
  rw [completed]
  split <;> simp_all

theorem DenotesProps.givenProps_eq {field : Option Value} {props : Entries Value}
    (h : DenotesProps field props) : givenProps field = .map props := by
  cases h <;> rfl

mutual

/-- The data of an element is its specification with nothing left out. -/
theorem DenotesElement.childData_eq {spec node : Value} (h : DenotesElement spec node) :
    Element.childData node = .ok (completed spec) := by
  cases h with
  | leaf hhead hnone =>
    rw [completed_map, hnone, hhead.tag_eq, hhead.props.givenProps_eq]
    rfl
  | node hhead hitems hchildren =>
    rw [completed_map, hitems, hhead.tag_eq, hhead.props.givenProps_eq, Element.childData,
      Element.contentData, hchildren.childrenData_eq]
    rfl

theorem DenotesChildren.childrenData_eq {items children : List Value}
    (h : DenotesChildren items children) :
    Element.childrenData children = .ok (completedItems items) := by
  cases h with
  | nil =>
    rw [completedItems]
    rfl
  | text s hrest =>
    rw [completedItems, Element.childrenData, hrest.childrenData_eq]
    rfl
  | element hfirst hrest =>
    rw [completedItems, Element.childrenData, hfirst.childData_eq, hrest.childrenData_eq]
    · rfl
    · rintro s rfl
      cases hfirst

end

theorem DenotesElement.completed {spec node : Value} (h : DenotesElement spec node) :
    DenotesElement (Schema.completed spec) node := by
  obtain ⟨d, hdata, hdenotes⟩ := h.wellFormed.exists_childData
  rw [h.childData_eq] at hdata
  exact Except.ok.inj hdata ▸ hdenotes

end Schema

/-! ### Documents with one element -/

section Declaring

variable {name : String} {spec node : Value}

def Schema.declaring (name : String) (spec : Value) : Value :=
  .map [(.str "version", .str "1"),
    (.str "bindings", .map [(.str name, .map [(.str "element", spec)])])]

def Profile.sole (name : String) (node : Value) : Profile :=
  ⟨⟨[(name, .binding (.value node))]⟩, defaultVoidNames⟩

theorem Schema.DenotesElement.denotesBinding (h : DenotesElement spec node) :
    DenotesBinding (.map [(.str "element", spec)]) (.value node) :=
  .element (by simp [Entries.OnlyKeys]) rfl h

theorem Schema.DenotesElement.loadData_declaring (h : DenotesElement spec node)
    (hword : isWord name = true) :
    (Profile.loadData (declaring name spec)).result = .ok (.sole name node) :=
  h.denotesBinding.loadData_declaration hword

end Declaring

namespace Schema

variable {document : Value} {profile : Profile} {name : String} {spec : Value}

/-- What a document declares as an element under a name stands in its profile as the element
denoted. -/
theorem exists_node_of_elementSpec? (hdenotes : DenotesProfile document profile)
    (hspec : elementSpec? document name = some spec) :
    isWord name = true ∧ ∃ node, profile.registry.get? name = some (.binding (.value node)) ∧
      DenotesElement spec node := by
  obtain ⟨binding, hget, -⟩ := Option.bind_eq_some_iff.mp hspec
  refine ⟨hdenotes.isWord_of_mem (Entries.mem_of_get? hget), ?_⟩
  cases hdenotes.declares name with
  | nothing _ hnone => rw [hnone] at hget; cases hget
  | wrapper _ _ _ _ _ hnone => rw [hnone] at hspec; cases hspec
  | element spec' node hfound _ _ hspec' hnode =>
    obtain rfl := Option.some.inj (hspec.symm.trans hspec')
    exact ⟨node, (Registry.get?_bindings _ _).symm.trans hfound, hnode⟩

end Schema

/-! ### Segments -/

def Element.isElement : Value → Bool
  | .element _ _ _ => true
  | _ => false

def Element.isForeign (v : Value) : Bool :=
  !v.isText && !isElement v

/-- A segment that is a text or an element is consumed as a child. -/
theorem Segment.eq_child {v : Value} (h : Element.isForeign v = false) :
    text v = Element.childText v ∧ data v = Element.childData v := by
  cases v with
  | str s => exact ⟨rfl, rfl⟩
  | element tag props children => exact ⟨rfl, rfl⟩
  | _ => cases h

theorem Segment.dataOf_eq_childrenData {segments : List Value}
    (h : ∀ v ∈ segments, Element.isForeign v = false) :
    dataOf segments = Element.childrenData segments := by
  rw [dataOf]
  induction segments with
  | nil => rfl
  | cons v vs ih =>
    obtain ⟨hv, hvs⟩ := List.forall_mem_cons.mp h
    rw [List.mapM_cons, Element.childrenData, (eq_child hv).2, ih hvs]

theorem Element.WellFormed.not_foreign {node : Value} (h : WellFormed node) :
    isForeign node = false := by
  cases h
  rfl

theorem Element.AllWellFormed.not_foreign {segments : List Value} (h : AllWellFormed segments) :
    ∀ v ∈ segments, isForeign v = false := by
  induction segments with
  | nil => exact fun _ hv => absurd hv List.not_mem_nil
  | cons v vs ih =>
    cases h with
    | text s hrest => exact List.forall_mem_cons.mpr ⟨rfl, ih hrest⟩
    | element hfirst hrest => exact List.forall_mem_cons.mpr ⟨hfirst.not_foreign, ih hrest⟩

theorem Element.AllWellFormed.dataOf_eq {segments : List Value} (h : AllWellFormed segments) :
    Segment.dataOf segments = childrenData segments :=
  Segment.dataOf_eq_childrenData h.not_foreign

theorem Element.AllWellFormed.exists_dataOf {segments : List Value} (h : AllWellFormed segments) :
    ∃ ds, Segment.dataOf segments = .ok ds ∧ DenotesChildren ds segments := by
  obtain ⟨ds, hdata, hdenotes⟩ := h.exists_childrenData
  exact ⟨ds, h.dataOf_eq.trans hdata, hdenotes⟩

/-- **The data of elements reads back.** A well-formed element has data, and the document that
declares the data under a word makes the profile with the element under that word. What a document
declares as an element stands in its profile as a well-formed element, whose data is the
specification with nothing left out and makes the same element again. The data of texts and
well-formed elements reads back as them. -/
theorem element_data_reads_back :
    (∀ node, Element.WellFormed node → ∃ d, Element.childData node = .ok d ∧
      ∀ name, isWord name = true →
        (Profile.loadData (declaring name d)).result = .ok (.sole name node)) ∧
    (∀ document profile, (bindingsOf document).Distinct →
      (Profile.loadData document).result = .ok profile →
      ∀ name spec, elementSpec? document name = some spec →
        ∃ node, profile.registry.get? name = some (.binding (.value node)) ∧
          Element.WellFormed node ∧ Element.childData node = .ok (completed spec) ∧
          (Profile.loadData (declaring name (completed spec))).result = .ok (.sole name node)) ∧
    ∀ segments, Element.AllWellFormed segments → ∃ ds, Segment.dataOf segments = .ok ds ∧
      ∀ path index, readChildren path index ds = .ok segments := by
  refine ⟨fun node hnode => ?_, fun document profile hdistinct hok name spec hspec => ?_,
    fun segments hsegments => ?_⟩
  · obtain ⟨d, hdata, hdenotes⟩ := hnode.exists_childData
    exact ⟨d, hdata, fun name hword => hdenotes.loadData_declaring hword⟩
  · have hdenotes := (Profile.loadData_eq_ok_iff hdistinct).mp hok
    obtain ⟨hword, node, hget, hnode⟩ := exists_node_of_elementSpec? hdenotes hspec
    exact ⟨node, hget, hnode.wellFormed, hnode.childData_eq,
      hnode.completed.loadData_declaring hword⟩
  · obtain ⟨ds, hdata, hdenotes⟩ := hsegments.exists_dataOf
    refine ⟨ds, hdata, fun path index => ?_⟩
    exact ((readElement_meets_and_readChildren_meets.2 path index ds).eq_ok_iff segments).mpr
      hdenotes

theorem element_data_reads_back_of_sample :
    Element.WellFormed Sample.user ∧ isWord "user" = true ∧
      Element.childData Sample.user = .ok (completed Sample.userSpec) ∧
      (Profile.loadData (declaring "user" (completed Sample.userSpec))).result
        = .ok (.sole "user" Sample.user) ∧
      isWord "who" = true ∧ (Profile.loadData (declaring "who" (completed Sample.userSpec))).result
        = .ok (.sole "who" Sample.user) ∧
      ∃ ds, Segment.dataOf [.str "to ", Sample.user] = .ok ds ∧
        ∀ path index, readChildren path index ds = .ok [.str "to ", Sample.user] := by
  obtain ⟨hwellFormed, hdeclared, hsegments⟩ := element_data_reads_back
  obtain ⟨node, hget, hnode, hdata, hrebuilt⟩ := hdeclared Sample.document Sample.profile
    Sample.distinct Sample.loadData_document "user" Sample.userSpec rfl
  have hbound : Sample.profile.registry.get? "user" = some (.binding (.value Sample.user)) := rfl
  obtain rfl : node = Sample.user := by
    rw [hbound] at hget
    cases hget
    rfl
  obtain ⟨d, hd, hloads⟩ := hwellFormed Sample.user hnode
  obtain rfl := Except.ok.inj (hd.symm.trans hdata)
  exact ⟨hnode, by decide, hd, hrebuilt, by decide, hloads "who" (by decide),
    hsegments _ (.text "to " (.element hnode .nil))⟩

end RichTemplate
