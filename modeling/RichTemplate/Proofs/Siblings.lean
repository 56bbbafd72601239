import RichTemplate.Proofs.Locating

/-!
# Issues of children

The children of an element are read one after the other, and the first that cannot be read ends
that: nothing is found in those behind it. So a part is found to break a rule exactly if reading
comes to it, and an issue that lies under the path of a part is an issue of that part.
-/

namespace RichTemplate

open Schema

namespace Schema

variable {path : String} {entries : Entries Value} {items : List Value} {spec child first : Value}
variable {index : Nat} {i : Issue}

/-! ### Children one by one -/

def readChild (path : String) : Value → Reading Value
  | .str s => .ok (.str s)
  | child => readElement path child

theorem readChild_of_not_text (h : child.isText = false) (path : String) :
    readChild path child = readElement path child := by
  cases child with
  | str s => cases h
  | _ => rfl

theorem readChildren_cons (path : String) (index : Nat) (first : Value) (items : List Value) :
    readChildren path index (first :: items) =
      (readChild (childPath path index) first).andThen fun node =>
        (readChildren path (index + 1) items).andThen fun built => .ok (node :: built) := by
  cases first with
  | str s =>
    rw [readChildren]
    rfl
  | _ =>
    rw [readChildren]
    · rfl
    · exact fun _ => Value.noConfusion

theorem value?_readChild_eq_none_iff : (readChild path child).value? = none ↔
    child.isText = false ∧ (readElement path child).value? = none := by
  cases child <;> simp [readChild, Reading.ok, Value.isText]

theorem mem_issues_readChild_iff : i ∈ (readChild path child).issues ↔
    child.isText = false ∧ i ∈ (readElement path child).issues := by
  cases child <;> simp [readChild, Reading.ok, Value.isText]

theorem exists_childAt?_cons {P : Nat → Value → Prop} :
    (∃ k child, childAt? (first :: items) k = some child ∧ P k child) ↔
      (first.isText = false ∧ P 0 first) ∨
        ∃ k child, childAt? items k = some child ∧ P (k + 1) child := by
  constructor
  · rintro ⟨k, child, hchild, hP⟩
    cases k with
    | zero =>
      obtain ⟨hfirst, htext⟩ := childAt?_eq_some_iff.mp hchild
      obtain rfl := Option.some.inj hfirst
      exact Or.inl ⟨htext, hP⟩
    | succ k => exact Or.inr ⟨k, child, hchild, hP⟩
  · rintro (⟨htext, hP⟩ | ⟨k, child, hchild, hP⟩)
    · exact ⟨0, first, childAt?_eq_some_iff.mpr ⟨rfl, htext⟩, hP⟩
    · exact ⟨k + 1, child, hchild, hP⟩

theorem value?_readChildren_eq_none_iff :
    (readChildren path index items).value? = none ↔ ∃ k child, childAt? items k = some child ∧
      (readElement (childPath path (index + k)) child).value? = none := by
  induction items generalizing index with
  | nil =>
    rw [readChildren]
    refine iff_of_false (Option.some_ne_none _) ?_
    rintro ⟨k, child, hchild, -⟩
    cases hchild
  | cons first items ih =>
    have hrest : (readChildren path (index + 1) items).value? = none ↔
        ∃ k child, childAt? items k = some child ∧
          (readElement (childPath path (index + (k + 1))) child).value? = none :=
      ih.trans (exists_congr fun k => by rw [Nat.add_right_comm, Nat.add_assoc])
    rw [exists_childAt?_cons, Nat.add_zero, ← value?_readChild_eq_none_iff, ← hrest,
      readChildren_cons, Reading.value?_andThen]
    cases (readChild (childPath path index) first).value? with
    | none => simp
    | some node =>
      rw [Option.bind_some, Reading.value?_andThen]
      cases (readChildren path (index + 1) items).value? <;> simp [Reading.ok]

/-! ### What can be read -/

structure SoundHead (entries : Entries Value) : Prop where
  tag : ∃ tag, entries.get? "tag" = some (.str tag) ∧ tag ≠ ""
  props : ∃ props, DenotesProps (entries.get? "props") props

theorem SoundHead.exists_readElement (h : SoundHead entries) : ∃ tag props, ∀ path,
    readElement path (.map entries) =
      (readChildrenField path tag props (entries.get? "children")).after
        (unknownIssues .unknownElementFields path
          (unknownKeys ["tag", "props", "children"] entries)) := by
  obtain ⟨⟨tag, htag, hfilled⟩, props, hprops⟩ := h
  exact ⟨tag, props, fun path => readElement_of_head htag hfilled hprops⟩

/-- Without a tag and properties, the children of an element are not looked at. -/
theorem exists_readElement_of_not_soundHead (h : ¬ SoundHead entries) (path : String) :
    ∃ fault, ∃ field ∈ [".tag", ".props"], readElement path (.map entries) =
      (Reading.reject fault (path ++ field)).after (unknownIssues .unknownElementFields path
        (unknownKeys ["tag", "props", "children"] entries)) := by
  rw [readElement_map]
  cases htag : filledText? (entries.get? "tag") with
  | none => exact ⟨.tagEmpty, ".tag", by simp, rfl⟩
  | some tag =>
    obtain ⟨props, hok⟩ | ⟨fault, -, hreject⟩ :=
      readProps_eq_ok_or_reject (path ++ ".props") ((entries.get? "props").getD .null)
    · have hprops := ((readProps_meets _ _).eq_ok_iff props).mp hok
      exact absurd ⟨⟨tag, filledText?_eq_some_iff.mp htag⟩, props, hprops⟩ h
    · refine ⟨fault, ".props", by simp, ?_⟩
      rw [readTagged, hreject]
      rfl

theorem value?_readElement_ne_none_iff :
    (readElement path (.map entries)).value? ≠ none ↔ SoundHead entries ∧
      ∀ v, entries.get? "children" = some v →
        ∃ items, v = .list items ∧ (readChildren path 0 items).value? ≠ none := by
  by_cases hsound : SoundHead entries
  · obtain ⟨tag, props, hread⟩ := hsound.exists_readElement
    rw [hread, Reading.value?_after, and_iff_right hsound]
    unfold readChildrenField
    split
    next hnone => simp [hnone, Reading.ok]
    next items hitems =>
      rw [hitems, Reading.value?_andThen]
      cases hbuilt : (readChildren path 0 items).value? <;> simp [Reading.ok, hbuilt]
    next v hlist hget =>
      refine iff_of_false (fun h => h rfl) fun h => ?_
      obtain ⟨items, rfl, -⟩ := h v hget
      exact hlist items rfl
  · obtain ⟨fault, field, -, hread⟩ := exists_readElement_of_not_soundHead hsound path
    rw [hread]
    exact iff_of_false (fun h => h rfl) fun h => hsound h.1

/-- A part cannot be read: somewhere in it a rule is broken, besides that of the fields that are
known. -/
def Spoilt (spec : Value) : Prop :=
  ∃ indices part fault field, partAt? spec indices = some part ∧ Breaks part fault field ∧
    fault.isPassedOver = false

theorem Breaks.value?_eq_none {fault : Fault} {field : String} (h : Breaks spec fault field)
    (hfault : fault.isPassedOver = false) (path : String) :
    (readElement path spec).value? = none := by
  by_contra hread
  cases h with
  | notMap hmap =>
    rw [readElement] at hread
    · exact hread rfl
    · exact hmap
  | unknown => cases hfault
  | tag htag =>
    obtain ⟨⟨⟨tag, hget, hfilled⟩, -⟩, -⟩ := value?_readElement_ne_none_iff.mp hread
    exact hfilled (htag tag hget)
  | props hget hnull hmap =>
    obtain ⟨⟨-, props, hprops⟩, -⟩ := value?_readElement_ne_none_iff.mp hread
    rw [hget] at hprops
    cases hprops with
    | null => exact hnull rfl
    | map => exact hmap _ rfl
  | propsKeys hget hsome hkeys =>
    obtain ⟨⟨-, props, hprops⟩, -⟩ := value?_readElement_ne_none_iff.mp hread
    rw [hget] at hprops
    obtain ⟨key, hkey⟩ := List.exists_mem_of_ne_nil _ hsome
    obtain ⟨hmem, hnoText⟩ := (hkeys key).mp hkey
    obtain ⟨⟨key, v⟩, he, rfl⟩ := List.mem_map.mp hmem
    cases hprops with
    | map htexts =>
      have htext : key.isText = true := htexts _ he
      cases key with
      | str s => exact hnoText s rfl
      | _ => cases htext
  | children hget hlist =>
    obtain ⟨-, hchildren⟩ := value?_readElement_ne_none_iff.mp hread
    obtain ⟨items, rfl, -⟩ := hchildren _ hget
    exact hlist items rfl
  | endless =>
    rw [readElement] at hread
    · exact hread rfl
    · exact fun _ => Value.noConfusion
  | endlessProps hget =>
    obtain ⟨⟨-, props, hprops⟩, -⟩ := value?_readElement_ne_none_iff.mp hread
    rw [hget] at hprops
    cases hprops
  | endlessChildren hget =>
    obtain ⟨-, hchildren⟩ := value?_readElement_ne_none_iff.mp hread
    obtain ⟨items, heq, -⟩ := hchildren _ hget
    cases heq

theorem exists_of_partAt?_cons {k : Nat} {rest : List Nat} {part : Value}
    (h : partAt? spec (k :: rest) = some part) :
    ∃ (entries : Entries Value) (items : List Value) (child : Value), spec = .map entries ∧
      entries.get? "children" = some (.list items) ∧ childAt? items k = some child ∧
      partAt? child rest = some part := by
  cases spec with
  | map entries =>
    rw [partAt?] at h
    split at h
    next items hitems =>
      obtain ⟨child, hchild, hpart⟩ := Option.bind_eq_some_iff.mp h
      exact ⟨entries, items, child, rfl, hitems, hchild, hpart⟩
    next => cases h
  | _ => cases h

theorem value?_readElement_of_spoilt {indices : List Nat} {part : Value} {fault : Fault}
    {field : String} (hpart : partAt? spec indices = some part) (hbreaks : Breaks part fault field)
    (hfault : fault.isPassedOver = false) (path : String) :
    (readElement path spec).value? = none := by
  induction indices generalizing spec path with
  | nil =>
    obtain rfl := Option.some.inj hpart
    exact hbreaks.value?_eq_none hfault path
  | cons k rest ih =>
    obtain ⟨entries, items, child, rfl, hitems, hchild, hpart⟩ := exists_of_partAt?_cons hpart
    by_contra hread
    obtain ⟨-, hchildren⟩ := value?_readElement_ne_none_iff.mp hread
    obtain ⟨_, heq, hread⟩ := hchildren _ hitems
    obtain rfl := Value.list.inj heq
    exact hread (value?_readChildren_eq_none_iff.mpr ⟨k, child, hchild, ih hpart _⟩)

theorem value?_readElement_eq_none_iff_spoilt :
    (readElement path spec).value? = none ↔ Spoilt spec := by
  constructor
  · intro hnone
    obtain ⟨i, hi, hfault⟩ :=
      (endsAtFault_readElement path spec).value?_eq_none_iff.mp hnone
    obtain ⟨indices, part, field, hpart, hbreaks, -⟩ := locates_of_mem_readElement hi
    exact ⟨indices, part, i.fault, field, hpart, hbreaks, hfault⟩
  · rintro ⟨indices, part, fault, field, hpart, hbreaks, hfault⟩
    exact value?_readElement_of_spoilt hpart hbreaks hfault path

/-! ### Which children are looked at -/

/-- Reading children comes to a place: none in front of it is a part that cannot be read. -/
def ReadUpTo (items : List Value) (place : Nat) : Prop :=
  ∀ j < place, ∀ child, childAt? items j = some child → ¬ Spoilt child

theorem readUpTo_zero (items : List Value) : ReadUpTo items 0 :=
  fun _ hj => absurd hj (Nat.not_lt_zero _)

theorem readUpTo_succ_iff {k : Nat} : ReadUpTo (first :: items) (k + 1) ↔
    (first.isText = false → ¬ Spoilt first) ∧ ReadUpTo items k := by
  constructor
  · intro h
    refine ⟨fun htext => h 0 (Nat.succ_pos k) first ?_, fun j hj => h (j + 1) (Nat.succ_lt_succ hj)⟩
    exact childAt?_eq_some_iff.mpr ⟨rfl, htext⟩
  · rintro ⟨hfirst, hrest⟩ j hj child hchild
    cases j with
    | zero =>
      obtain ⟨heq, htext⟩ := childAt?_eq_some_iff.mp hchild
      obtain rfl := Option.some.inj heq
      exact hfirst htext
    | succ j => exact hrest j (Nat.lt_of_succ_lt_succ hj) child hchild

theorem exists_value?_readChild_iff (path : String) :
    (∃ node, (readChild path first).value? = some node) ↔
      (first.isText = false → ¬ Spoilt first) := by
  rw [← Option.ne_none_iff_exists', ne_eq, value?_readChild_eq_none_iff,
    value?_readElement_eq_none_iff_spoilt, not_and]

theorem mem_issues_readChildren_iff :
    i ∈ (readChildren path index items).issues ↔ ∃ k child, childAt? items k = some child ∧
      ReadUpTo items k ∧ i ∈ (readElement (childPath path (index + k)) child).issues := by
  induction items generalizing index with
  | nil =>
    rw [readChildren]
    refine iff_of_false List.not_mem_nil ?_
    rintro ⟨k, child, hchild, -⟩
    cases hchild
  | cons first items ih =>
    have hrest : ((first.isText = false → ¬ Spoilt first) ∧
        i ∈ (readChildren path (index + 1) items).issues) ↔
          ∃ k child, childAt? items k = some child ∧ ReadUpTo (first :: items) (k + 1) ∧
            i ∈ (readElement (childPath path (index + (k + 1))) child).issues := by
      rw [ih]
      simp only [readUpTo_succ_iff, Nat.add_right_comm index 1, ← Nat.add_assoc]
      constructor
      · rintro ⟨hfirst, k, child, hchild, hup, hi⟩
        exact ⟨k, child, hchild, ⟨hfirst, hup⟩, hi⟩
      · rintro ⟨k, child, hchild, ⟨hfirst, hup⟩, hi⟩
        exact ⟨hfirst, k, child, hchild, hup, hi⟩
    rw [exists_childAt?_cons, ← hrest, readChildren_cons, Reading.mem_issues_andThen,
      mem_issues_readChild_iff, ← exists_value?_readChild_iff (childPath path index),
      and_iff_right (readUpTo_zero _)]
    simp only [Reading.issues_andThen_ok, exists_and_right, Nat.add_zero]

/-! ### Issues under a path -/

def LiesUnder (place : String) (i : Issue) : Prop :=
  ∃ rest, i.path = place ++ rest

theorem exists_pathAt_eq (path : String) (indices : List Nat) :
    ∃ rest, pathAt path indices = path ++ rest := by
  induction indices generalizing path with
  | nil => exact ⟨"", (String.append_empty).symm⟩
  | cons k indices ih =>
    obtain ⟨rest, hrest⟩ := ih (childPath path k)
    refine ⟨".children[" ++ toString k ++ "]" ++ rest, ?_⟩
    rw [pathAt, List.foldl_cons, ← pathAt, hrest, childPath]
    simp only [String.append_assoc]

theorem LiesUnder.of_pathAt {indices : List Nat} (h : LiesUnder (pathAt path indices) i) :
    LiesUnder path i := by
  obtain ⟨rest, hpath⟩ := h
  obtain ⟨places, hplaces⟩ := exists_pathAt_eq path indices
  exact ⟨places ++ rest, by rw [hpath, hplaces, String.append_assoc]⟩

theorem Locates.liesUnder (h : Locates path spec i) : LiesUnder path i := by
  obtain ⟨indices, part, field, -, -, hpath⟩ := h
  exact LiesUnder.of_pathAt ⟨field, hpath⟩

theorem takeWhile_isDigit_toString (n : Nat) (rest : String) :
    (toString n ++ "]" ++ rest).toList.takeWhile Char.isDigit = Nat.toDigits 10 n := by
  have hdigits : (toString n).toList = Nat.toDigits 10 n := Nat.toList_repr
  rw [String.toList_append, String.toList_append, hdigits, List.append_assoc,
    List.takeWhile_append_of_pos fun _ hc => Nat.isDigit_of_mem_toDigits (by decide) (by decide) hc]
  exact List.append_nil _

/-- The paths of two children have nothing under them in common. -/
theorem LiesUnder.index_eq {j k : Nat} (hj : LiesUnder (childPath path j) i)
    (hk : LiesUnder (childPath path k) i) : j = k := by
  obtain ⟨rest, hrest⟩ := hj
  obtain ⟨rest', hrest'⟩ := hk
  have heq := hrest.symm.trans hrest'
  simp only [childPath, String.append_assoc, String.append_right_inj] at heq
  simp only [← String.append_assoc] at heq
  -- a place is written in digits, up to the bracket
  have hdigits := congrArg (fun s => s.toList.takeWhile Char.isDigit) heq
  simp only [takeWhile_isDigit_toString] at hdigits
  rw [← Nat.ofDigitChars_ten_toDigits (n := j), hdigits, Nat.ofDigitChars_ten_toDigits]

theorem not_liesUnder_child_of_field {field : String} (hfield : field ∈ ["", ".tag", ".props"])
    (hpath : i.path = path ++ field) (k : Nat) : ¬ LiesUnder (childPath path k) i := by
  rintro ⟨rest, hrest⟩
  have heq := hpath.symm.trans hrest
  simp only [childPath, String.append_assoc, String.append_right_inj] at heq
  have hchars := congrArg String.toList heq
  simp only [List.mem_cons, List.not_mem_nil, or_false] at hfield
  obtain rfl | rfl | rfl := hfield <;> simp at hchars

/-! ### Parts that reading comes to -/

/-- Reading an element comes to a part of it: each element above it has a tag and properties, and at
no level is there a part in front of it that cannot be read. -/
inductive Reached : Value → List Nat → Prop
  | here (spec : Value) : Reached spec []
  | child {entries : Entries Value} {items : List Value} {child : Value} {k : Nat}
    {rest : List Nat} (hhead : SoundHead entries)
    (hitems : entries.get? "children" = some (.list items))
    (hchild : childAt? items k = some child) (hfront : ReadUpTo items k)
    (hrest : Reached child rest) : Reached (.map entries) (k :: rest)

/-- What is found under the path of a child is found in the child, unless reading does not come to
it. -/
theorem mem_issues_under_child_iff {k : Nat}
    (hitems : entries.get? "children" = some (.list items))
    (hchild : childAt? items k = some child) :
    (i ∈ (readElement path (.map entries)).issues ∧ LiesUnder (childPath path k) i) ↔
      SoundHead entries ∧ ReadUpTo items k ∧ i ∈ (readElement (childPath path k) child).issues := by
  have hunknown : i ∈ unknownIssues .unknownElementFields path
      (unknownKeys ["tag", "props", "children"] entries) → ¬ LiesUnder (childPath path k) i := by
    intro hi
    obtain ⟨-, rfl⟩ := mem_unknownIssues_iff.mp hi
    exact not_liesUnder_child_of_field List.mem_cons_self String.append_empty.symm k
  -- without a sound head no child is looked at, and what is found lies beside the children
  by_cases hhead : SoundHead entries
  · obtain ⟨tag, props, hread⟩ := hhead.exists_readElement
    rw [hread, Reading.mem_issues_after, hitems, readChildrenField, Reading.issues_andThen_ok,
      mem_issues_readChildren_iff, and_iff_right hhead]
    simp only [Nat.zero_add]
    constructor
    · rintro ⟨hi | ⟨j, child', hchild', hfront, hi⟩, hunder⟩
      · exact absurd hunder (hunknown hi)
      · obtain rfl := LiesUnder.index_eq (locates_of_mem_readElement hi).liesUnder hunder
        obtain rfl := Option.some.inj (hchild'.symm.trans hchild)
        exact ⟨hfront, hi⟩
    · rintro ⟨hfront, hi⟩
      exact ⟨Or.inr ⟨k, child, hchild, hfront, hi⟩, (locates_of_mem_readElement hi).liesUnder⟩
  · obtain ⟨fault, field, hfield, hread⟩ := exists_readElement_of_not_soundHead hhead path
    refine iff_of_false ?_ fun h => hhead h.1
    rintro ⟨hi, hunder⟩
    rw [hread, Reading.mem_issues_after] at hi
    obtain hi | hi := hi
    · exact hunknown hi hunder
    · obtain rfl := List.mem_singleton.mp hi
      exact not_liesUnder_child_of_field (List.mem_cons_of_mem _ hfield) rfl k hunder

theorem reached_cons_iff {k : Nat} {rest : List Nat}
    (hitems : entries.get? "children" = some (.list items))
    (hchild : childAt? items k = some child) :
    Reached (.map entries) (k :: rest) ↔
      SoundHead entries ∧ ReadUpTo items k ∧ Reached child rest := by
  constructor
  · intro h
    cases h with
    | child hhead hitems' hchild' hfront hrest =>
      obtain rfl := Value.list.inj (Option.some.inj (hitems'.symm.trans hitems))
      obtain rfl := Option.some.inj (hchild'.symm.trans hchild)
      exact ⟨hhead, hfront, hrest⟩
  · rintro ⟨hhead, hfront, hrest⟩
    exact .child hhead hitems hchild hfront hrest

/-- What is found under the path of a part is found in the part, unless reading does not come to
it. -/
theorem mem_issues_under_part_iff {indices : List Nat} {part : Value}
    (hpart : partAt? spec indices = some part) :
    (i ∈ (readElement path spec).issues ∧ LiesUnder (pathAt path indices) i) ↔
      Reached spec indices ∧ i ∈ (readElement (pathAt path indices) part).issues := by
  induction indices generalizing path spec with
  | nil =>
    obtain rfl := Option.some.inj hpart
    rw [and_iff_right (Reached.here spec)]
    exact ⟨fun h => h.1, fun hi => ⟨hi, (locates_of_mem_readElement hi).liesUnder⟩⟩
  | cons k rest ih =>
    obtain ⟨entries, items, child, rfl, hitems, hchild, hpart⟩ := exists_of_partAt?_cons hpart
    have hpath : pathAt path (k :: rest) = pathAt (childPath path k) rest := rfl
    rw [hpath, reached_cons_iff hitems hchild, and_assoc, and_assoc, ← ih hpart]
    -- an issue under the part lies under the child, so it is found there
    constructor
    · rintro ⟨hi, hunder⟩
      obtain ⟨hhead, hfront, hi⟩ :=
        (mem_issues_under_child_iff hitems hchild).mp ⟨hi, hunder.of_pathAt⟩
      exact ⟨hhead, hfront, hi, hunder⟩
    · rintro ⟨hhead, hfront, hi, hunder⟩
      exact ⟨((mem_issues_under_child_iff hitems hchild).mpr ⟨hhead, hfront, hi⟩).1, hunder⟩

theorem exists_issue_under_iff {indices : List Nat} {part : Value}
    (hpart : partAt? spec indices = some part)
    (hmalformed : ¬ ∃ node, DenotesElement part node) (path : String) :
    (∃ i ∈ (readElement path spec).issues, LiesUnder (pathAt path indices) i) ↔
      Reached spec indices := by
  simp only [mem_issues_under_part_iff hpart, exists_and_left]
  refine and_iff_left (List.exists_mem_of_ne_nil _ fun hnil => ?_)
  exact hmalformed (issues_readElement_eq_nil_iff.mp hnil)

/-- What is found in an element that a document declares is found in the document. -/
theorem issues_of_element_infix {document : Value} {name : String} {fields : Entries Value}
    (hmem : (.str name, .map fields) ∈ bindingsOf document) (hword : isWord name = true)
    (hwrap : fields.get? "wrap" = none) (helement : fields.get? "element" = some spec) :
    (readElement (elementPath name) spec).issues <:+: Profile.issues document := by
  have hbinding : (readElement (elementPath name) spec).issues <:+:
      (readBinding (.str name) (.map fields)).issues := by
    rw [readBinding, if_pos hword, readSpec, Entries.has_eq_isSome, hwrap, helement,
      ← Reading.issues_andThen_ok _ Binding.value]
    exact (List.suffix_append _ _).isInfix
  cases document with
  | map entries =>
    rw [bindingsOf] at hmem
    split at hmem
    next bindings hbindings =>
      have hreadings : (readBindings bindings).2
          = bindings.flatMap fun e => (readBinding e.1 e.2).issues := by
        rw [readBindings, List.flatMap_map]
      have hfound : (readBinding (.str name) (.map fields)).issues <:+:
          bindings.flatMap fun e => (readBinding e.1 e.2).issues := by
        obtain ⟨front, rest, rfl⟩ := List.append_of_mem hmem
        rw [List.flatMap_append, List.flatMap_cons]
        exact List.infix_append' _ _ _
      rw [Profile.issues, hbindings, readBindingsField, hreadings]
      exact (hbinding.trans hfound).trans (List.suffix_append _ _).isInfix
    next => cases hmem
  | _ => cases hmem

end Schema

/-- **A part that breaks a rule is found exactly if reading comes to it.** A part of an element that
denotes nothing has an issue at or under its path if reading comes to it, and none if something in
front of it cannot be read. Whatever is found in an element that a document declares is told
together with all that is found in the document, unless a limit stands in the way. -/
theorem malformed_parts_are_found_iff_reached (spec : Value) :
    (∀ path indices part, partAt? spec indices = some part →
      (¬ ∃ node, DenotesElement part node) →
      ((∃ i ∈ (readElement path spec).issues, LiesUnder (pathAt path indices) i) ↔
        Reached spec indices)) ∧
    ∀ document name (fields : Entries Value), Limit.Spares document →
      (.str name, .map fields) ∈ bindingsOf document → isWord name = true →
      fields.get? "wrap" = none → fields.get? "element" = some spec →
      (¬ ∃ node, DenotesElement spec node) →
        (Profile.loadData document).result = .error (.invalid (Profile.issues document)) ∧
          (readElement (elementPath name) spec).issues <:+: Profile.issues document := by
  refine ⟨fun path indices part hpart hmalformed => exists_issue_under_iff hpart hmalformed path,
    fun document name fields hspares hmem hword hwrap helement hmalformed => ?_⟩
  have hfound := issues_of_element_infix hmem hword hwrap helement
  have hissues : Profile.issues document ≠ [] := fun hnil =>
    hmalformed (issues_readElement_eq_nil_iff.mp (List.infix_nil.mp (hnil ▸ hfound)))
  exact ⟨Profile.loadData_of_issues_ne_nil hspares hissues, hfound⟩

namespace Sample

def rowSpec : Value :=
  .map [(.str "tag", .str "p"), (.str "children", .list
    [.map [(.str "tag", .str "b"), (.str "x", .null)], .int 1, .int 2])]

theorem readElement_rowSpec (path : String) : readElement path rowSpec =
    ⟨none, [⟨.unknownElementFields [.str "x"], childPath path 0⟩,
      ⟨.elementNotMap, childPath path 1⟩]⟩ := by
  have hfirst : readElement (childPath path 0) (.map [(.str "tag", .str "b"), (.str "x", .null)])
      = ⟨some (.element "b" (.map []) (.list [])),
        [⟨.unknownElementFields [.str "x"], childPath path 0⟩]⟩ :=
    readElement_of_head rfl (by decide) .absent
  have hsecond : readElement (childPath path 1) (.int 1)
      = .reject .elementNotMap (childPath path 1) := by
    rw [readElement]
    · rfl
    · exact fun _ => Value.noConfusion
  refine Eq.trans (readElement_of_items rfl (by decide) .absent rfl) ?_
  rw [readChildren_cons, readChildren_cons, readChild_of_not_text rfl, readChild_of_not_text rfl,
    hfirst, hsecond]
  rfl

theorem spares_rowSpec : Limit.Spares (declaring "x" rowSpec) :=
  (moderate_declaring ⟨by decide, by decide⟩ "x").spares

theorem issues_rowSpec : Profile.issues (declaring "x" rowSpec) =
    [⟨.unknownElementFields [.str "x"], "bindings.x.element.children[0]"⟩,
      ⟨.elementNotMap, "bindings.x.element.children[1]"⟩] := by
  have hverdict := Profile.verdict_of_spared_element (by decide) spares_rowSpec
  rw [Profile.verdict_of_spared spares_rowSpec, readElement_rowSpec] at hverdict
  exact (congrArg Verdict.issues hverdict).trans (by rfl)

/-- Nothing is found in the last child. -/
theorem not_liesUnder_last (path : String) :
    ∀ i ∈ (readElement path rowSpec).issues, ¬ LiesUnder (childPath path 2) i := by
  rw [readElement_rowSpec]
  intro i hi hunder
  simp only [List.mem_cons, List.not_mem_nil, or_false] at hi
  obtain rfl | rfl := hi
  all_goals exact absurd (hunder.index_eq ⟨"", String.append_empty.symm⟩) (by decide)

theorem not_denotes_int (n : Int) : ¬ ∃ node, DenotesElement (.int n) node := by
  rintro ⟨node, ⟨⟩⟩

theorem not_denotes_rowSpec : ¬ ∃ node, DenotesElement rowSpec node := by
  intro hdenotes
  have hnil : (readElement "" rowSpec).issues = [] := issues_readElement_eq_nil_iff.mpr hdenotes
  rw [readElement_rowSpec] at hnil
  cases hnil

end Sample

theorem malformed_parts_are_found_iff_reached_of_row :
    (partAt? Sample.rowSpec [1] = some (.int 1) ∧ (¬ ∃ node, DenotesElement (.int 1) node) ∧
      Reached Sample.rowSpec [1]) ∧
    (partAt? Sample.rowSpec [2] = some (.int 2) ∧ (¬ ∃ node, DenotesElement (.int 2) node) ∧
      ¬ Reached Sample.rowSpec [2]) ∧
    let document := declaring "x" Sample.rowSpec
    Limit.Spares document ∧ (¬ ∃ node, DenotesElement Sample.rowSpec node) ∧
      (Profile.loadData document).result = .error (.invalid (Profile.issues document)) := by
  obtain ⟨hfound, htold⟩ := malformed_parts_are_found_iff_reached Sample.rowSpec
  have hsecond : partAt? Sample.rowSpec [1] = some (.int 1) := rfl
  have hlast : partAt? Sample.rowSpec [2] = some (.int 2) := rfl
  refine ⟨⟨hsecond, Sample.not_denotes_int 1, ?_⟩, ⟨hlast, Sample.not_denotes_int 2, ?_⟩,
    Sample.spares_rowSpec, Sample.not_denotes_rowSpec, ?_⟩
  · rw [← hfound "" [1] _ hsecond (Sample.not_denotes_int 1), Sample.readElement_rowSpec]
    exact ⟨_, List.mem_cons_of_mem _ List.mem_cons_self, "", String.append_empty.symm⟩
  · rw [← hfound "" [2] _ hlast (Sample.not_denotes_int 2)]
    rintro ⟨i, hi, hunder⟩
    exact Sample.not_liesUnder_last "" i hi hunder
  · exact (htold _ "x" _ Sample.spares_rowSpec List.mem_cons_self (by decide) rfl rfl
      Sample.not_denotes_rowSpec).1

/-- Of three children that are wrong, the last is not found: the one in front of it ends the
reading. -/
theorem last_child_is_not_found :
    let found : List Issue := [⟨.unknownElementFields [.str "x"], "bindings.x.element.children[0]"⟩,
      ⟨.elementNotMap, "bindings.x.element.children[1]"⟩]
    (∃ entries : Entries Value, Sample.rowSpec = .map entries ∧ SoundHead entries) ∧
    partAt? Sample.rowSpec [2] = some (.int 2) ∧ (¬ ∃ node, DenotesElement (.int 2) node) ∧
    (Profile.loadData (declaring "x" Sample.rowSpec)).result = .error (.invalid found) ∧
    ∀ i ∈ found, ¬ LiesUnder "bindings.x.element.children[2]" i := by
  intro found
  have hissues : Profile.issues (declaring "x" Sample.rowSpec) = found := Sample.issues_rowSpec
  have hread : (readElement (elementPath "x") Sample.rowSpec).issues = found := by
    rw [Sample.readElement_rowSpec]
    rfl
  refine ⟨⟨_, rfl, ⟨"p", rfl, by decide⟩, [], .absent⟩, rfl, Sample.not_denotes_int 2, ?_, ?_⟩
  · have hfound : Profile.issues (declaring "x" Sample.rowSpec) ≠ [] :=
      hissues ▸ List.cons_ne_nil _ _
    rw [Profile.loadData_of_issues_ne_nil Sample.spares_rowSpec hfound, hissues]
  · rw [← hread]
    exact Sample.not_liesUnder_last (elementPath "x")

end RichTemplate
