import RichTemplate.Binding
import RichTemplate.Markup.Pieces
import RichTemplate.Report
import RichTemplate.Trace

/-!
# Filling templates

The pieces of a template are filled in order: literal text stands for itself, and markup gives the
node that its name is bound to. Markup without a node is reported and left out. A wrapper may have
the text it is given filled again; that text is shorter than the template, so filling ends.
-/

namespace RichTemplate

/-- A call of a wrapper: the name it is bound to, its label and the text it was given. -/
structure Call where
  name : String
  label : String
  text : String
deriving DecidableEq, Repr

/-- What filling a template does besides making segments. What is done to a text that a wrapper has
filled again lies within. -/
inductive Event where
  | resolved (m : Markup)
  | called (c : Call)
  | reported (d : Diagnostic)
  | within (e : Event)
deriving DecidableEq, Repr

namespace Event

def markup? : Event → Option Markup
  | resolved m => some m
  | within e => e.markup?
  | _ => none

def call? : Event → Option Call
  | called c => some c
  | within e => e.call?
  | _ => none

def diagnostic? : Event → Option Diagnostic
  | reported d => some d
  | within e => e.diagnostic?
  | _ => none

def own? : Event → Option Event
  | within _ => none
  | e => some e

end Event

/-- A run of filling, with what it resolved, called and reported. -/
abbrev Run := Traced InterpolationError Event

namespace Run

variable {α : Type}

def resolved (r : Run α) : List Markup :=
  r.trace.filterMap Event.markup?

/-- The calls made, each before those made within it. -/
def calls (r : Run α) : List Call :=
  r.trace.filterMap Event.call?

def diagnostics (r : Run α) : List Diagnostic :=
  r.trace.filterMap Event.diagnostic?

/-- The run without what its wrappers have filled again. -/
def own (r : Run α) : Run α :=
  ⟨r.result, r.trace.filterMap Event.own?⟩

end Run

def Wrapping.run (refill : Unit → Run (List Value)) : Wrapping → Run Value
  | .done outcome => Traced.ofExcept outcome
  | .reenter finish => ((refill ()).mapTrace .within).mapResult finish

/-- The tag names that never hand on the text they enclose, unless other names are given. -/
def defaultVoidNames : List String :=
  ["area", "base", "br", "col", "embed", "hr", "img", "input", "link", "meta", "param", "source",
    "track", "wbr"]

/-- What one piece of markup comes to. -/
inductive Resolution where
  | dropped (d : Diagnostic)
  | node (v : Value)
  | failed (e : InterpolationError)
  | call (w : Wrapper) (text : String)

namespace Interpolation

/-- The text a wrapper is given: a void name hands on none. -/
def handedOn (voidNames : List String) (name content : String) : String :=
  if voidNames.contains name then "" else content

def callWith (text : String) : Callee → Resolution
  | .wrapper w => .call w text
  | fn => .failed (.notCallable fn.given)

/-- What markup comes to under a binding. A value takes the place of either form; a wrapper needs
the text that only tags enclose. -/
def resolveWith (voidNames : List String) (b : Binding) (m : Markup) : Resolution :=
  if b.kind.isValue then .node b.node
  else
    match m with
    | .placeholder name => .dropped (.wrapperInPlaceholder name)
    | .tag name content => callWith (handedOn voidNames name content) b.fn

/-- What markup comes to: its name decides. -/
def resolve (bindings : Entries Entry) (voidNames : List String) (m : Markup) : Resolution :=
  match bindings.get? m.name with
  | some (.binding b) => resolveWith voidNames b m
  | _ => .dropped (.unbound m.name)

theorem length_handedOn_le (voidNames : List String) (name content : String) :
    (handedOn voidNames name content).toList.length ≤ content.toList.length := by
  unfold handedOn
  split <;> simp

/-- The text handed to a wrapper is shorter than the markup it comes from. -/
theorem length_lt_of_resolve {bindings : Entries Entry} {voidNames : List String} {m : Markup}
    {w : Wrapper} {text : String} (h : resolve bindings voidNames m = .call w text) :
    text.toList.length < m.source.length := by
  unfold resolve resolveWith at h
  split at h
  next b =>
    split at h
    · simp at h
    · split at h
      · simp at h
      next name content =>
        unfold callWith at h
        split at h
        · obtain ⟨_, rfl⟩ := Resolution.call.inj h
          have := length_handedOn_le voidNames name content
          have := Markup.length_source_tag name content
          omega
        · simp at h
  · simp at h

mutual

def settle (bindings : Entries Entry) (voidNames : List String) (m : Markup) :
    Run (Option Value) := do
  Traced.mark (.resolved m)
  match _h : resolve bindings voidNames m with
  | .dropped d =>
    Traced.mark (.reported d)
    return none
  | .node v => return some v
  | .failed e => Traced.fail e
  | .call w text =>
    Traced.mark (.called ⟨m.name, w.label, text⟩)
    let node ← (w.wrap text).run fun _ => fill bindings voidNames (Piece.ofTemplate text)
    return some node
termination_by (m.source.length, 0)
decreasing_by
  have := length_lt_of_resolve _h
  simp only [Prod.lex_def, Piece.totalLength_ofTemplate]
  omega

def fill (bindings : Entries Entry) (voidNames : List String) (ps : List Piece) :
    Run (List Value) :=
  match ps with
  | [] => pure []
  | .literal text :: rest => do
    let segments ← fill bindings voidNames rest
    return .str (String.ofList text) :: segments
  | .markup m :: rest => do
    let node ← settle bindings voidNames m
    let segments ← fill bindings voidNames rest
    return node.toList ++ segments
termination_by (Piece.totalLength ps, ps.length)
decreasing_by
  all_goals
    simp only [Prod.lex_def, Piece.totalLength_cons, Piece.source, List.length_cons]
    omega

end

def firstForeign? (bindings : Entries Entry) : Option (Value × Value) :=
  bindings.findSome? fun e =>
    match e.2 with
    | .binding _ => none
    | .other given => some (e.1, given)

end Interpolation

/-- Fills a template. Every entry must be a binding, whether the template names it or not. -/
def interpolate (bindings : Entries Entry) (voidNames : List String) (template : String) :
    Run (List Value) :=
  match Interpolation.firstForeign? bindings with
  | some (name, entry) => Traced.fail (.notBinding name entry)
  | none => Interpolation.fill bindings voidNames (Piece.ofTemplate template)

end RichTemplate
