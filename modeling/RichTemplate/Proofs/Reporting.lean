import RichTemplate.Interpolator
import RichTemplate.Proofs.Filling
import Mathlib.Data.List.DropRight

/-!
# Reporters

What takes the diagnostics has no say in the filling: the run is the same whoever takes them, and
what is taken is what the run reports, in order and once. So an interpolator that is used again and
again starts every run anew, and its reporter holds what the history of its uses tells. The
outermost collector holds what has been said since it was last emptied, every other collector and
the logger at the end of the chain all that was ever said.
-/

namespace RichTemplate

def Run.handTo {σ α : Type} (take : Diagnostic → σ → σ) (run : Run α) (s : σ) : σ :=
  run.diagnostics.foldl (fun s d => take d s) s

namespace Run

variable {σ α β : Type} {take : Diagnostic → σ → σ} {s : σ}

theorem diagnostics_mapTrace_within (run : Run α) :
    Run.diagnostics (run.mapTrace .within) = run.diagnostics := by
  rw [diagnostics, Traced.mapTrace, List.filterMap_map]
  rfl

theorem handTo_of_diagnostics_eq {x : Run α} {y : Run β} (h : x.diagnostics = y.diagnostics) :
    x.handTo take s = y.handTo take s := by
  rw [handTo, h, handTo]

theorem handTo_eq_of_ok {x : Run α} {a : α} (h : x.result = .ok a) (f : α → Run β) :
    (x >>= f).handTo take s = (f a).handTo take (x.handTo take s) := by
  rw [handTo, Traced.bind_of_ok h, diagnostics, List.filterMap_append, List.foldl_append]
  rfl

theorem handTo_map (f : α → β) (x : Run α) : (f <$> x).handTo take s = x.handTo take s := by
  rw [Traced.map_eq]
  exact handTo_of_diagnostics_eq rfl

end Run

namespace Interpolation

variable {σ : Type} {take : Diagnostic → σ → σ} {bindings : Entries Entry}
  {voidNames : List String}

/-! ### Whoever takes what is reported -/

section Into

variable {m : Markup} {ps : List Piece}

theorem settleInto_eq (hwithin : ∀ w text, resolve bindings voidNames m = .call w text → ∀ s,
      fillInto take bindings voidNames (Piece.ofTemplate text) s
        = (fill bindings voidNames (Piece.ofTemplate text),
            (fill bindings voidNames (Piece.ofTemplate text)).handTo take s)) (s : σ) :
    settleInto take bindings voidNames m s
      = (settle bindings voidNames m, (settle bindings voidNames m).handTo take s) := by
  rw [settleInto, settle_eq]
  split
  next d h => rw [h]; rfl
  next v h => rw [h]; rfl
  next e h => rw [h]; rfl
  next w text h =>
    rw [h]
    dsimp only
    rw [callRun]
    cases w.wrap text with
    | done outcome => rfl
    | reenter finish =>
      dsimp only
      rw [hwithin w text h]
      refine Prod.ext rfl (Run.handTo_of_diagnostics_eq ?_)
      exact (Run.diagnostics_mapTrace_within _).symm

theorem fillInto_pieces_eq (hsettle : ∀ m, Piece.markup m ∈ ps → ∀ s,
      settleInto take bindings voidNames m s
        = (settle bindings voidNames m, (settle bindings voidNames m).handTo take s)) (s : σ) :
    fillInto take bindings voidNames ps s
      = (fill bindings voidNames ps, (fill bindings voidNames ps).handTo take s) := by
  induction ps generalizing s with
  | nil =>
    rw [fillInto, fill_nil]
    rfl
  | cons p ps ih =>
    have hrest := ih fun m hm => hsettle m (List.mem_cons_of_mem p hm)
    cases p with
    | literal text =>
      rw [fillInto, hrest, fill, bind_pure_comp, Run.handTo_map]
    | markup m =>
      rw [fillInto, hsettle m List.mem_cons_self, fill]
      dsimp only
      cases hresult : (settle bindings voidNames m).result with
      | error e =>
        rw [Traced.bind_of_error hresult]
        rfl
      | ok node =>
        dsimp only
        rw [hrest, Run.handTo_eq_of_ok hresult, Traced.bind_of_ok hresult, bind_pure_comp,
          Run.handTo_map, Traced.map_eq]

theorem fillInto_ofTemplate_eq (text : String) (s : σ) :
    fillInto take bindings voidNames (Piece.ofTemplate text) s
      = (fill bindings voidNames (Piece.ofTemplate text),
          (fill bindings voidNames (Piece.ofTemplate text)).handTo take s) := by
  induction text using handedOn_induction voidNames generalizing s with
  | step text ih =>
    refine fillInto_pieces_eq (fun m hm => settleInto_eq fun w inner hresolve => ?_) s
    have hresolves := resolves bindings voidNames m
    rw [hresolve] at hresolves
    cases hresolves with
    | @call name content b _ _ _ _ => exact ih name content hm

end Into

end Interpolation

/-- A run does not depend on who takes its diagnostics, and they are taken as they are reported. -/
theorem interpolateInto_eq {σ : Type} (take : Diagnostic → σ → σ) (bindings : Entries Entry)
    (voidNames : List String) (template : String) (s : σ) :
    interpolateInto take bindings voidNames template s
      = (interpolate bindings voidNames template,
          (interpolate bindings voidNames template).handTo take s) := by
  rw [interpolateInto, interpolate]
  cases Interpolation.firstForeign? bindings with
  | some found => rfl
  | none => exact Interpolation.fillInto_ofTemplate_eq template s

namespace Reporter

/-- So many collectors, one before the other, ended by nothing or by a logger of some name. -/
def chain : Nat → Option String → Reporter
  | 0, none => nowhere
  | 0, some logger => logging logger
  | depth + 1, ending => collecting (chain depth ending)

variable {r : Reporter}

theorem report_nil : r.report [] = r := by
  rw [report]
  simp only [List.append_nil, List.map_id']

theorem records_nil : r.records [] = [] := by
  rw [records]
  split <;> rfl

theorem report_cons (d : Diagnostic) (ds : List Diagnostic) :
    r.report (d :: ds) = (r.report [d]).report ds := by
  simp only [report, List.map_map, Function.comp_def, List.append_assoc, List.singleton_append]

theorem handOn_eq (d : Diagnostic) (logger : Option String) (collectors : List (List Diagnostic)) :
    handOn d logger collectors
      = (collectors.map (· ++ [d]), (logger.map fun name => d.record name).toList) := by
  induction collectors with
  | nil => rfl
  | cons kept next ih => rw [handOn, ih, List.map_cons]

/-- A diagnostic gets to every collector and to the end of the chain. -/
theorem take_eq (d : Diagnostic) : r.take d = (r.report [d], r.records [d]) := by
  rw [take, handOn_eq, report, records]
  cases r.logger <;> rfl

theorem records_append (ds ds' : List Diagnostic) :
    r.records (ds ++ ds') = r.records ds ++ r.records ds' := by
  rw [records, records, records]
  cases r.logger with
  | none => rfl
  | some logger => exact List.map_append

/-- The logger that goes by a name; the one above all others has none. -/
def loggerName (name : String) : String :=
  if name = "" then rootLogger else name

theorem chain_eq (depth : Nat) (ending : Option String) :
    chain depth ending = ⟨List.replicate depth [], ending.map loggerName⟩ := by
  induction depth with
  | zero => cases ending <;> rfl
  | succ depth ih => rw [chain, ih, collecting, List.replicate_succ]

end Reporter

namespace Interpolator

/-- What is done with an interpolator: it fills a template, or its outermost collector, if there is
one, is emptied. -/
inductive Use where
  | interpolate (bindings : Entries Entry) (template : String)
  | clear

namespace Use

def isRun : Use → Bool
  | interpolate _ _ => true
  | clear => false

def run? (voidNames : List String) : Use → Option (Run (List Value))
  | interpolate bindings template => some (RichTemplate.interpolate bindings voidNames template)
  | clear => none

end Use

def useAll (i : Interpolator) : List Use → List (Run (List Value)) × Interpolator
  | [] => ([], i)
  | .interpolate bindings template :: uses =>
    let (run, i) := i.interpolate bindings template
    let (runs, i) := i.useAll uses
    (run :: runs, i)
  | .clear :: uses => (i.clear?.getD i).useAll uses

def said (voidNames : List String) (uses : List Use) : List Diagnostic :=
  (uses.filterMap (Use.run? voidNames)).flatMap Run.diagnostics

/-- The end of a history in which nothing is emptied. -/
def sinceClear (uses : List Use) : List Use :=
  uses.rtakeWhile Use.isRun

/-- What the collectors of a chain hold if the outermost holds something else. -/
def collected (outermost inner : List Diagnostic) : Nat → List (List Diagnostic)
  | 0 => []
  | depth + 1 => outermost :: List.replicate depth inner

def toldReporter (voidNames : List String) (logger : Option String) (depth : Nat)
    (uses : List Use) : Reporter :=
  ⟨collected (said voidNames (sinceClear uses)) (said voidNames uses) depth, logger⟩

def told (voidNames : List String) (logger : Option String) (depth : Nat) (uses : List Use) :
    Interpolator :=
  ⟨voidNames, toldReporter voidNames logger depth uses,
    (toldReporter voidNames logger depth uses).records (said voidNames uses)⟩

variable {voidNames : List String} {logger : Option String} {depth : Nat} {uses : List Use}

section Said

theorem said_append (uses uses' : List Use) :
    said voidNames (uses ++ uses') = said voidNames uses ++ said voidNames uses' := by
  rw [said, List.filterMap_append, List.flatMap_append]
  rfl

theorem said_interpolate (bindings : Entries Entry) (template : String) :
    said voidNames [.interpolate bindings template]
      = (RichTemplate.interpolate bindings voidNames template).diagnostics :=
  List.append_nil _

theorem sinceClear_interpolate (bindings : Entries Entry) (template : String) :
    sinceClear (uses ++ [.interpolate bindings template])
      = sinceClear uses ++ [.interpolate bindings template] :=
  List.rtakeWhile_concat_pos _ _ _ rfl

theorem sinceClear_clear : sinceClear (uses ++ [.clear]) = [] :=
  List.rtakeWhile_concat_neg _ _ _ Bool.false_ne_true

theorem collected_append (outermost inner ds : List Diagnostic) (depth : Nat) :
    collected (outermost ++ ds) (inner ++ ds) depth
      = (collected outermost inner depth).map (· ++ ds) := by
  cases depth with
  | zero => rfl
  | succ depth => rw [collected, collected, List.map_cons, List.map_replicate]

theorem collected_nil (depth : Nat) : collected [] [] depth = List.replicate depth [] := by
  cases depth <;> rfl

end Said

/-! ### What one use does -/

theorem foldl_take (ds : List Diagnostic) (i : Interpolator) :
    ds.foldl (fun i d => i.take d) i
      = ⟨i.voidNames, i.reporter.report ds, i.logged ++ i.reporter.records ds⟩ := by
  induction ds generalizing i with
  | nil => rw [List.foldl_nil, Reporter.report_nil, Reporter.records_nil, List.append_nil]
  | cons d ds ih =>
    have htake : i.take d
        = ⟨i.voidNames, i.reporter.report [d], i.logged ++ i.reporter.records [d]⟩ := by
      rw [take, Reporter.take_eq]
    have hrecords : i.reporter.records (d :: ds)
        = i.reporter.records [d] ++ i.reporter.records ds := Reporter.records_append [d] ds
    rw [List.foldl_cons, ih, htake, Reporter.report_cons d ds, hrecords, ← List.append_assoc]
    rfl

theorem interpolate_told (bindings : Entries Entry) (template : String) :
    (told voidNames logger depth uses).interpolate bindings template
      = (RichTemplate.interpolate bindings voidNames template,
          told voidNames logger depth (uses ++ [.interpolate bindings template])) := by
  have hreporter : (toldReporter voidNames logger depth uses).report
        (RichTemplate.interpolate bindings voidNames template).diagnostics
      = toldReporter voidNames logger depth (uses ++ [.interpolate bindings template]) := by
    rw [toldReporter, toldReporter, sinceClear_interpolate, said_append, said_append,
      said_interpolate, collected_append]
    rfl
  rw [interpolate, interpolateInto_eq]
  refine Prod.ext rfl ?_
  change List.foldl _ _ _ = _
  rw [foldl_take, told, told, hreporter, said_append, said_interpolate, Reporter.records_append]
  rfl

theorem clear_told :
    (told voidNames logger depth uses).clear?.getD (told voidNames logger depth uses)
      = told voidNames logger depth (uses ++ [.clear]) := by
  have hsaid : said voidNames (uses ++ [.clear]) = said voidNames uses := by
    rw [said_append]
    exact List.append_nil _
  rw [told, told, toldReporter, toldReporter, sinceClear_clear, hsaid]
  cases depth <;> rfl

/-! ### What a history of uses comes to -/

theorem useAll_told (uses' : List Use) :
    (told voidNames logger depth uses).useAll uses'
      = (uses'.filterMap (Use.run? voidNames), told voidNames logger depth (uses ++ uses')) := by
  induction uses' generalizing uses with
  | nil => rw [List.append_nil]; rfl
  | cons use uses' ih =>
    rw [List.append_cons uses use]
    cases use with
    | interpolate bindings template =>
      rw [useAll, interpolate_told]
      dsimp only
      rw [ih]
      rfl
    | clear =>
      rw [useAll, clear_told, ih]
      rfl

theorem new_chain_eq_told (voidNames : Option (List String)) (depth : Nat)
    (ending : Option String) :
    new voidNames (some (.chain depth ending))
      = told (voidNames.getD defaultVoidNames) (ending.map Reporter.loggerName) depth [] := by
  have hchain : Reporter.chain depth ending = toldReporter (voidNames.getD defaultVoidNames)
      (ending.map Reporter.loggerName) depth [] := by
    rw [Reporter.chain_eq, ← collected_nil]
    rfl
  rw [told, ← hchain]
  exact congrArg (Interpolator.mk _ _) Reporter.records_nil.symm

end Interpolator

/-- **Reporters lose nothing, tell nothing twice and change nothing.** Behind a chain of collectors,
however long, that nothing or a logger ends, an interpolator is used again and again. Then its
outermost collector holds what its runs have reported since it was last emptied, every other
collector what they ever reported, and the logger has a warning for each of that. Every run is what
the bindings, the void names and the template make of it: the same alone, and the same whoever takes
what it reports. -/
theorem reporters_only_keep (voidNames : Option (List String)) (depth : Nat)
    (ending : Option String) (uses : List Interpolator.Use) :
    let start := Interpolator.new voidNames (some (.chain depth ending))
    let names := voidNames.getD defaultVoidNames
    let everSaid := Interpolator.said names uses
    (start.useAll uses).2.reporter.collectors
      = Interpolator.collected (Interpolator.said names (Interpolator.sinceClear uses)) everSaid
          depth ∧
    (start.useAll uses).2.logged
      = (match ending with
        | none => []
        | some logger => everSaid.map fun d =>
            ⟨Reporter.loggerName logger, .warning, "translate error: " ++ d.message⟩) ∧
    (start.useAll uses).1 = uses.filterMap (Interpolator.Use.run? names) ∧
    ∀ (σ : Type) (take : Diagnostic → σ → σ) (s : σ) (bindings : Entries Entry)
      (template : String),
      (interpolateInto take bindings names template s).1 = interpolate bindings names template := by
  intro start names everSaid
  have huses : start.useAll uses
      = (uses.filterMap (Interpolator.Use.run? names),
          Interpolator.told names (ending.map Reporter.loggerName) depth uses) := by
    change (Interpolator.new voidNames _).useAll uses = _
    rw [Interpolator.new_chain_eq_told, Interpolator.useAll_told, List.nil_append]
  rw [huses]
  refine ⟨rfl, ?_, rfl, fun σ take s bindings template => ?_⟩
  · cases ending <;> rfl
  · rw [interpolateInto_eq]

end RichTemplate
