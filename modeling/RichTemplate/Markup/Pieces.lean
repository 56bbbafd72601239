import RichTemplate.Markup.Basic

/-!
# Templates in pieces

A template is read from left to right as markup and the literal text between. The pieces put
together are the template, so nothing is lost and nothing is read twice.
-/

namespace RichTemplate

/-- A part of a template: a run of literal text, or markup. -/
inductive Piece where
  | literal (text : List Char)
  | markup (m : Markup)
deriving DecidableEq, Repr

namespace Piece

def source : Piece → List Char
  | literal text => text
  | markup m => m.source

def consLiteral (c : Char) : List Piece → List Piece
  | literal text :: ps => literal (c :: text) :: ps
  | ps => literal [c] :: ps

def split (cs : List Char) : List Piece :=
  match cs with
  | [] => []
  | c :: cs =>
    match _h : Markup.read? (c :: cs) with
    | some (m, rest) => markup m :: split rest
    | none => consLiteral c (split cs)
termination_by cs.length
decreasing_by
  · have hlength := congrArg List.length (Markup.eq_source_append_of_read? _h)
    have := Markup.source_length_pos m
    simp only [List.length_cons, List.length_append] at hlength ⊢
    omega
  · simp

theorem flatMap_source_consLiteral (c : Char) (ps : List Piece) :
    (consLiteral c ps).flatMap source = c :: ps.flatMap source := by
  cases ps with
  | nil => rfl
  | cons p ps => cases p <;> rfl

/-- **Nothing is lost.** The pieces put together are the text. -/
theorem flatMap_source_split (cs : List Char) : (split cs).flatMap source = cs := by
  fun_induction split cs with
  | case1 => rfl
  | case2 c cs m rest h ih =>
    rw [List.flatMap_cons, ih]
    exact (Markup.eq_source_append_of_read? h).symm
  | case3 c cs h ih => rw [flatMap_source_consLiteral, ih]

/-- The pieces of a template; an empty template is one empty literal. -/
def ofTemplate (template : String) : List Piece :=
  match split template.toList with
  | [] => [literal []]
  | ps => ps

def totalLength (ps : List Piece) : Nat :=
  (ps.flatMap source).length

theorem totalLength_cons (p : Piece) (ps : List Piece) :
    totalLength (p :: ps) = p.source.length + totalLength ps := by
  rw [totalLength, List.flatMap_cons, List.length_append, totalLength]

theorem totalLength_split (cs : List Char) : totalLength (split cs) = cs.length := by
  rw [totalLength, flatMap_source_split]

theorem totalLength_ofTemplate (template : String) :
    totalLength (ofTemplate template) = template.toList.length := by
  rw [← totalLength_split, ofTemplate]
  split
  next h => rw [h]; rfl
  next => rfl

end Piece

/-- Markup and where in a template it starts, counted in characters. -/
structure Match where
  markup : Markup
  start : Nat
deriving DecidableEq, Repr

namespace Match

def stop (m : Match) : Nat :=
  m.start + m.markup.source.length

/-- The markup among pieces of which the first starts at `offset`. -/
def ofPieces (offset : Nat) : List Piece → List Match
  | [] => []
  | .literal text :: ps => ofPieces (offset + text.length) ps
  | .markup m :: ps => ⟨m, offset⟩ :: ofPieces (offset + m.source.length) ps

end Match

def scan (template : String) : List Match :=
  Match.ofPieces 0 (Piece.split template.toList)

end RichTemplate
