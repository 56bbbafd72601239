import RichTemplate.Interpolation

/-!
# Interpolators

An interpolator is used again and again with the same void names and the same reporter. A diagnostic
is handed to the reporter when it arises, also in a text that is filled again, so what is reported
in front of a failure has been taken by then.
-/

namespace RichTemplate

namespace Interpolation

/-- Markup is settled by what its wrapper makes of the text. -/
def settleBy (m : Markup) (w : Wrapper) (text : String) (run : Run Value) : Run (Option Value) :=
  ⟨run.result.map some, .resolved m :: .called ⟨m.name, w.label, text⟩ :: run.trace⟩

section Into

variable {σ : Type} (take : Diagnostic → σ → σ) (bindings : Entries Entry)
  (voidNames : List String)

mutual

/-- Settles markup and hands on what it is reported for. -/
def settleInto (m : Markup) (s : σ) : Run (Option Value) × σ :=
  match _h : resolve bindings voidNames m with
  | .dropped d => (⟨.ok none, [.resolved m, .reported d]⟩, take d s)
  | .node v => (⟨.ok (some v), [.resolved m]⟩, s)
  | .failed e => (⟨.error e, [.resolved m]⟩, s)
  | .call w text =>
    match w.wrap text with
    | .done outcome => (settleBy m w text (Traced.ofExcept outcome), s)
    | .reenter finish =>
      let (run, s) := fillInto (Piece.ofTemplate text) s
      (settleBy m w text ((run.mapTrace .within).mapResult finish), s)
termination_by (m.source.length, 0)
decreasing_by
  have := length_lt_of_resolve _h
  simp only [Prod.lex_def, Piece.totalLength_ofTemplate]
  omega

def fillInto (ps : List Piece) (s : σ) : Run (List Value) × σ :=
  match ps with
  | [] => (pure [], s)
  | .literal text :: rest =>
    let (run, s) := fillInto rest s
    ((.str (String.ofList text) :: ·) <$> run, s)
  | .markup m :: rest =>
    let (first, s) := settleInto m s
    match first.result with
    | .error e => (⟨.error e, first.trace⟩, s)
    | .ok node =>
      let (run, s) := fillInto rest s
      (⟨run.result.map (node.toList ++ ·), first.trace ++ run.trace⟩, s)
termination_by (Piece.totalLength ps, ps.length)
decreasing_by
  all_goals
    simp only [Prod.lex_def, Piece.totalLength_cons, Piece.source, List.length_cons]
    omega

end

end Into

end Interpolation

/-- Fills a template and hands each diagnostic to whatever takes it, as it arises. -/
def interpolateInto {σ : Type} (take : Diagnostic → σ → σ) (bindings : Entries Entry)
    (voidNames : List String) (template : String) (s : σ) : Run (List Value) × σ :=
  match Interpolation.firstForeign? bindings with
  | some (name, entry) => (Traced.fail (.notBinding name entry), s)
  | none => Interpolation.fillInto take bindings voidNames (Piece.ofTemplate template) s

/-- An interpolator, with what its reporter has logged. -/
structure Interpolator where
  voidNames : List String
  reporter : Reporter
  logged : List LogRecord

namespace Interpolator

/-- An interpolator before its first use. Void names and a reporter that are not given are the usual
ones. -/
def new (voidNames : Option (List String)) (reporter : Option Reporter) : Interpolator :=
  ⟨voidNames.getD defaultVoidNames, reporter.getD (.logging Reporter.defaultLogger), []⟩

def take (d : Diagnostic) (i : Interpolator) : Interpolator :=
  let (reporter, records) := i.reporter.take d
  { i with reporter := reporter, logged := i.logged ++ records }

def interpolate (i : Interpolator) (bindings : Entries Entry) (template : String) :
    Run (List Value) × Interpolator :=
  interpolateInto take bindings i.voidNames template i

/-- Empties the outermost collector, if there is one. -/
def clear? (i : Interpolator) : Option Interpolator :=
  i.reporter.clear?.map fun reporter => { i with reporter := reporter }

end Interpolator

end RichTemplate
