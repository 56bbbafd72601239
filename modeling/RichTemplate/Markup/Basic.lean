import RichTemplate.Text.Word

/-!
# Markup

The two forms of markup a template may hold: a pair of tags around a text, and a bare placeholder.
The close tag repeats the name of the open tag, and the enclosed text is opaque: it stays on one
line and ends at the first close tag of that name, whatever else it looks like.
-/

namespace RichTemplate

inductive Form where
  | tag
  | placeholder
deriving DecidableEq, Repr

namespace Form

def word : Form → String
  | tag => "tag"
  | placeholder => "placeholder"

/-- The name under which a form is listed. -/
def memberName : Form → String
  | tag => "TAG"
  | placeholder => "PLACEHOLDER"

def ofWord? (s : String) : Option Form :=
  [tag, placeholder].find? fun f => f.word == s

end Form

inductive Markup where
  | tag (name content : String)
  | placeholder (name : String)
deriving DecidableEq, Repr

namespace Markup

def form : Markup → Form
  | tag _ _ => .tag
  | placeholder _ => .placeholder

def name : Markup → String
  | tag name _ => name
  | placeholder name => name

/-- The enclosed text; a placeholder encloses none. -/
def content? : Markup → Option String
  | tag _ content => some content
  | placeholder _ => none

def closeTag (name : List Char) : List Char :=
  '<' :: '/' :: name ++ ['>']

def source : Markup → List Char
  | tag name content =>
    '<' :: name.toList ++ '>' :: content.toList ++ closeTag name.toList
  | placeholder name => '{' :: '{' :: name.toList ++ ['}', '}']

/-- What follows a given front, if the text has it. -/
def afterFront? : List Char → List Char → Option (List Char)
  | [], cs => some cs
  | _ :: _, [] => none
  | p :: ps, c :: cs => if p = c then afterFront? ps cs else none

/-- The text before the first occurrence of `stop`, which must come on the same line, and what
follows that occurrence. -/
def before? (stop : List Char) : List Char → Option (List Char × List Char)
  | [] => none
  | c :: cs =>
    match afterFront? stop (c :: cs) with
    | some rest => some ([], rest)
    | none =>
      if c = '\n' then none
      else (before? stop cs).map fun (text, rest) => (c :: text, rest)

/-- Reads a tag pair whose first angle bracket has been read. -/
def readTag? (cs : List Char) : Option (Markup × List Char) :=
  match wordRun cs, afterWord cs with
  | [], _ => none
  | name, '>' :: body =>
    (before? (closeTag name) body).map fun (content, rest) =>
      (.tag (String.ofList name) (String.ofList content), rest)
  | _, _ => none

/-- Reads a placeholder whose two opening braces have been read. -/
def readPlaceholder? (cs : List Char) : Option (Markup × List Char) :=
  match wordRun cs, afterWord cs with
  | [], _ => none
  | name, '}' :: '}' :: rest => some (.placeholder (String.ofList name), rest)
  | _, _ => none

def read? : List Char → Option (Markup × List Char)
  | '<' :: cs => readTag? cs
  | '{' :: '{' :: cs => readPlaceholder? cs
  | _ => none

theorem eq_append_of_afterFront? {front cs rest : List Char}
    (h : afterFront? front cs = some rest) : cs = front ++ rest := by
  induction front generalizing cs with
  | nil => simpa [afterFront?] using h
  | cons p ps ih =>
    cases cs with
    | nil => simp [afterFront?] at h
    | cons c cs =>
      by_cases hpc : p = c
      · simp only [afterFront?, hpc, if_true] at h
        rw [ih h, hpc, List.cons_append]
      · simp [afterFront?, hpc] at h

theorem eq_append_of_before? {stop cs text rest : List Char}
    (h : before? stop cs = some (text, rest)) : cs = text ++ stop ++ rest := by
  induction cs generalizing text rest with
  | nil => simp [before?] at h
  | cons c cs ih =>
    simp only [before?] at h
    split at h
    next found hfront =>
      obtain ⟨rfl, rfl⟩ : [] = text ∧ found = rest := by simpa using h
      simpa using eq_append_of_afterFront? hfront
    next =>
      split at h
      · simp at h
      · obtain ⟨⟨t, r⟩, hrest, heq⟩ := Option.map_eq_some_iff.mp h
        obtain ⟨rfl, rfl⟩ : c :: t = text ∧ r = rest := by simpa using heq
        rw [ih hrest, List.cons_append, List.cons_append]

/-- Reading takes exactly the characters of the markup off the front. -/
theorem eq_source_append_of_read? {cs rest : List Char} {m : Markup}
    (h : read? cs = some (m, rest)) : cs = m.source ++ rest := by
  unfold read? at h
  split at h
  next cs =>
    unfold readTag? at h
    split at h
    · simp at h
    next body hbody _ =>
      obtain ⟨⟨content, r⟩, hrest, heq⟩ := Option.map_eq_some_iff.mp h
      obtain ⟨rfl, rfl⟩ := Prod.mk.inj heq
      have hcs := wordRun_append_afterWord cs
      rw [hbody, eq_append_of_before? hrest] at hcs
      simpa [source] using hcs.symm
    · simp at h
  next cs =>
    unfold readPlaceholder? at h
    split at h
    · simp at h
    next r hbody _ =>
      obtain ⟨rfl, rfl⟩ := Prod.mk.inj (Option.some.inj h)
      have hcs := wordRun_append_afterWord cs
      rw [hbody] at hcs
      simpa [source] using hcs.symm
    · simp at h
  · simp at h

theorem source_length_pos (m : Markup) : 0 < m.source.length := by
  cases m <;> simp [source]

theorem length_source_tag (name content : String) :
    (tag name content).source.length
      = content.toList.length + 2 * name.toList.length + 5 := by
  simp [source, closeTag]
  omega

end Markup

end RichTemplate
