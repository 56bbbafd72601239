import RichTemplate.Proofs.Cutting
import RichTemplate.Proofs.Failing
import RichTemplate.Proofs.Rendering

/-!
# Templates of several lines

No markup crosses a line break, so a template is filled line by line: each line is filled as if it
were the whole template, and the texts are joined again by line breaks. The pieces are not those of
the lines one after the other, since literal text runs on over a line break; they are once literal
text is taken apart into its characters, and nobody who reads the result can tell.
-/

namespace RichTemplate

open Interpolation

/-- What is read off a text does not depend on what comes after its line. -/
theorem Markup.read?_append_newline (u v : List Char) :
    read? (u ++ '\n' :: v) = (read? u).map fun (m, rest) => (m, rest ++ '\n' :: v) := by
  cases hu : read? u with
  | some found =>
    obtain ⟨m, rest⟩ := found
    obtain ⟨hm, rfl⟩ := read?_eq_some_iff.mp hu
    exact read?_eq_some_iff.mpr ⟨hm, List.append_assoc _ _ _⟩
  | none =>
    refine Option.eq_none_iff_forall_ne_some.mpr fun ⟨m, rest⟩ huv => ?_
    obtain ⟨hm, heq⟩ := read?_eq_some_iff.mp huv
    -- a spelling in front of the whole has no line break, so it ends before the one behind `u`
    have hprefix : m.source <+: u :=
      isPrefix_of_notMem (newline_notMem_source hm) (heq ▸ List.prefix_append m.source rest)
    obtain ⟨rest', rfl⟩ := hprefix
    rw [read?_source_append hm] at hu
    exact Option.some_ne_none _ hu

namespace Piece

theorem split_of_read? {cs rest : List Char} {m : Markup} (h : Markup.read? cs = some (m, rest)) :
    split cs = markup m :: split rest := by
  cases cs with
  | nil => exact absurd h (Option.some_ne_none _).symm
  | cons c cs =>
    rw [split]
    split <;> simp_all

theorem split_cons_of_read?_eq_none {c : Char} {cs : List Char}
    (h : Markup.read? (c :: cs) = none) : split (c :: cs) = consLiteral c (split cs) := by
  rw [split]
  split <;> simp_all

/-- A piece taken apart: a literal is its characters, and markup stays whole. -/
def atoms : Piece → List Piece
  | literal text => text.map fun c => literal [c]
  | markup m => [markup m]

theorem flatMap_atoms_consLiteral (c : Char) (ps : List Piece) :
    (consLiteral c ps).flatMap atoms = literal [c] :: ps.flatMap atoms := by
  cases ps with
  | nil => rfl
  | cons p ps => cases p <;> rfl

theorem flatMap_atoms_ofTemplate (template : String) :
    (ofTemplate template).flatMap atoms = (split template.toList).flatMap atoms := by
  rw [ofTemplate]
  split
  next hnil => rw [hnil]; rfl
  next => rfl

theorem flatMap_atoms_split_append (u v : List Char) :
    (split (u ++ '\n' :: v)).flatMap atoms
      = (split u).flatMap atoms ++ literal ['\n'] :: (split v).flatMap atoms := by
  -- a literal that `u` ends with runs on over the line break, so the pieces themselves do not
  -- append; the characters do, one at a time
  fun_induction split u with
  | case1 =>
    have hread : Markup.read? ('\n' :: v) = none := rfl
    rw [List.nil_append, split_cons_of_read?_eq_none hread, flatMap_atoms_consLiteral]
    rfl
  | case2 c cs m rest h ih =>
    have hread : Markup.read? (c :: cs ++ '\n' :: v) = some (m, rest ++ '\n' :: v) := by
      rw [Markup.read?_append_newline, h]
      rfl
    rw [split_of_read? hread, List.flatMap_cons, ih, List.flatMap_cons, List.append_assoc]
  | case3 c cs h ih =>
    have hread : Markup.read? (c :: (cs ++ '\n' :: v)) = none := by
      rw [← List.cons_append, Markup.read?_append_newline, h]
      rfl
    rw [List.cons_append, split_cons_of_read?_eq_none hread, flatMap_atoms_consLiteral, ih,
      flatMap_atoms_consLiteral]
    rfl

end Piece

namespace Interpolation

def fillText (bindings : Entries Entry) (voidNames : List String) (ps : List Piece) :
    Run (Except NodeError String) :=
  Segment.textOf <$> fill bindings voidNames ps

def interpolateText (bindings : Entries Entry) (voidNames : List String) (template : String) :
    Run (Except NodeError String) :=
  Segment.textOf <$> interpolate bindings voidNames template

variable {bindings : Entries Entry} {voidNames : List String}

section Run

variable {template : String} {text : Except NodeError String} {events : List Event}
  {e : InterpolationError}

theorem interpolateText_eq : interpolateText bindings voidNames template
    = ⟨(interpolate bindings voidNames template).result.map Segment.textOf,
        (interpolate bindings voidNames template).trace⟩ :=
  Traced.map_eq _ _

theorem interpolateText_eq_ok_iff :
    interpolateText bindings voidNames template = ⟨.ok text, events⟩ ↔
      (∃ segments, (interpolate bindings voidNames template).result = .ok segments ∧
        Segment.textOf segments = text) ∧
      (interpolate bindings voidNames template).trace = events := by
  rw [interpolateText_eq, Traced.mk.injEq]
  cases (interpolate bindings voidNames template).result <;> simp [Except.map]

theorem interpolateText_eq_error_iff :
    interpolateText bindings voidNames template = ⟨.error e, events⟩ ↔
      (interpolate bindings voidNames template).result = .error e ∧
      (interpolate bindings voidNames template).trace = events := by
  rw [interpolateText_eq, Traced.mk.injEq]
  cases (interpolate bindings voidNames template).result <;> simp [Except.map]

end Run

theorem fillText_append (ps qs : List Piece) :
    fillText bindings voidNames (ps ++ qs) = do
      let first ← fillText bindings voidNames ps
      let rest ← fillText bindings voidNames qs
      return do return (← first) ++ (← rest) := by
  simp only [fillText, fill_append, map_bind, bind_map_left, map_pure, Segment.textOf_append]

theorem fillText_literal (text : List Char) :
    fillText bindings voidNames [.literal text] = pure (.ok (String.ofList text)) := by
  rw [fillText, fill, fill_nil, pure_bind, map_pure, Segment.textOf_singleton]
  rfl

theorem fillText_atoms_literal (text : List Char) :
    fillText bindings voidNames (Piece.literal text).atoms = pure (.ok (String.ofList text)) := by
  induction text with
  | nil =>
    change fillText bindings voidNames [] = _
    rw [fillText, fill_nil, map_pure]
    rfl
  | cons c cs ih =>
    have hatoms : (Piece.literal (c :: cs)).atoms = [.literal [c]] ++ (Piece.literal cs).atoms :=
      rfl
    have htext : String.ofList (c :: cs) = String.ofList [c] ++ String.ofList cs := by
      rw [← String.ofList_append, List.singleton_append]
    rw [hatoms, fillText_append, fillText_literal, ih, pure_bind, pure_bind, htext]
    rfl

theorem fillText_flatMap_atoms (ps : List Piece) :
    fillText bindings voidNames (ps.flatMap Piece.atoms) = fillText bindings voidNames ps := by
  induction ps with
  | nil => rfl
  | cons p ps ih =>
    have hp : fillText bindings voidNames p.atoms = fillText bindings voidNames [p] := by
      cases p with
      | literal text => rw [fillText_atoms_literal, fillText_literal]
      | markup m => rfl
    rw [List.flatMap_cons, fillText_append, hp, ih, ← fillText_append, List.singleton_append]

theorem interpolateText_eq_fillText (h : firstForeign? bindings = none) (template : String) :
    interpolateText bindings voidNames template
      = fillText bindings voidNames ((Piece.split template.toList).flatMap Piece.atoms) := by
  rw [← Piece.flatMap_atoms_ofTemplate, fillText_flatMap_atoms, interpolateText, interpolate, h]
  rfl

/-- A template is filled up to a line break, and then behind it. -/
theorem interpolateText_append_newline (u v : String) :
    interpolateText bindings voidNames (u ++ "\n" ++ v) = do
      let first ← interpolateText bindings voidNames u
      let rest ← interpolateText bindings voidNames v
      return do return (← first) ++ "\n" ++ (← rest) := by
  cases hforeign : firstForeign? bindings with
  | some entry =>
    -- the run of either part fails as the whole does, and the second is never begun
    have hfail : ∀ template, interpolateText bindings voidNames template
        = Traced.fail (.notBinding entry.1 entry.2) := by
      intro template
      rw [interpolateText, interpolate, hforeign]
      rfl
    rw [hfail, hfail, Traced.bind_of_error rfl]
    rfl
  | none =>
    have hlist : (u ++ "\n" ++ v).toList = u.toList ++ '\n' :: v.toList := by simp
    rw [interpolateText_eq_fillText hforeign, interpolateText_eq_fillText hforeign,
      interpolateText_eq_fillText hforeign, hlist, Piece.flatMap_atoms_split_append,
      ← List.singleton_append, fillText_append, fillText_append [.literal ['\n']],
      fillText_literal]
    refine bind_congr fun first => ?_
    simp only [pure_bind, bind_assoc]
    refine bind_congr fun rest => ?_
    simp only [String.append_assoc]
    rfl

theorem interpolateText_join (line : String) {lines : List String} (hlines : lines ≠ []) :
    interpolateText bindings voidNames ("\n".intercalate (line :: lines)) = do
      let first ← interpolateText bindings voidNames line
      let rest ← interpolateText bindings voidNames ("\n".intercalate lines)
      return do return (← first) ++ "\n" ++ (← rest) := by
  obtain ⟨next, more, rfl⟩ := List.exists_cons_of_ne_nil hlines
  rw [String.intercalate_cons_cons, interpolateText_append_newline]

theorem joinText_singleton (segments : List Value) :
    ([segments].mapM Segment.textOf).map "\n".intercalate = Segment.textOf segments := by
  simp only [List.mapM_cons]
  cases Segment.textOf segments <;> simp [Except.map, bind, Except.bind, pure, Except.pure]

/-- The text of a line is joined to those behind it. -/
theorem joinText_cons {results : List (List Value)} (segments : List Value)
    (hresults : results ≠ []) :
    ((segments :: results).mapM Segment.textOf).map "\n".intercalate = do
      return (← Segment.textOf segments) ++ "\n"
        ++ (← (results.mapM Segment.textOf).map "\n".intercalate) := by
  obtain ⟨next, more, rfl⟩ := List.exists_cons_of_ne_nil hresults
  simp only [List.mapM_cons]
  cases Segment.textOf segments <;> cases Segment.textOf next <;>
    cases more.mapM Segment.textOf <;> simp [Except.map, bind, Except.bind, pure, Except.pure]

theorem interpolateText_lines_of_ok {lines : List String} {results : List (List Value)}
    (hlines : lines ≠ [])
    (h : List.Forall₂ (fun line segments =>
      (interpolate bindings voidNames line).result = .ok segments) lines results) :
    interpolateText bindings voidNames ("\n".intercalate lines)
      = ⟨.ok ((results.mapM Segment.textOf).map "\n".intercalate),
          lines.flatMap fun line => (interpolate bindings voidNames line).trace⟩ := by
  induction h with
  | nil => exact absurd rfl hlines
  | @cons line segments lines results hline hrest ih =>
    have hfirst := interpolateText_eq_ok_iff.mpr ⟨⟨segments, hline, rfl⟩, rfl⟩
    cases hrest with
    | nil =>
      rw [String.intercalate_singleton, hfirst, joinText_singleton]
      simp
    | cons hnext hmore =>
      rw [interpolateText_join line (List.cons_ne_nil _ _), ih (List.cons_ne_nil _ _), hfirst,
        Traced.bind_of_ok rfl, Traced.bind_of_ok rfl, joinText_cons _ (List.cons_ne_nil _ _)]
      exact Traced.ext rfl (by simp)

theorem interpolateText_lines_of_error {before after : List String} {line : String}
    {e : InterpolationError}
    (hbefore : ∀ x ∈ before, ∃ segments, (interpolate bindings voidNames x).result = .ok segments)
    (h : (interpolate bindings voidNames line).result = .error e) :
    interpolateText bindings voidNames ("\n".intercalate (before ++ line :: after))
      = ⟨.error e,
          (before ++ [line]).flatMap fun x => (interpolate bindings voidNames x).trace⟩ := by
  induction before with
  | nil =>
    have hline := interpolateText_eq_error_iff.mpr ⟨h, rfl⟩
    cases after with
    | nil =>
      rw [List.nil_append, String.intercalate_singleton, hline]
      simp
    | cons next more =>
      rw [List.nil_append, interpolateText_join line (List.cons_ne_nil _ _), hline,
        Traced.bind_of_error rfl]
      simp
  | cons x before ih =>
    obtain ⟨segments, hsegments⟩ := hbefore x List.mem_cons_self
    have hfirst := interpolateText_eq_ok_iff.mpr ⟨⟨segments, hsegments, rfl⟩, rfl⟩
    have hne : before ++ line :: after ≠ [] :=
      List.append_ne_nil_of_right_ne_nil before (List.cons_ne_nil line after)
    rw [List.cons_append, interpolateText_join x hne, hfirst, Traced.bind_of_ok rfl,
      ih fun y hy => hbefore y (List.mem_cons_of_mem x hy), Traced.bind_of_error rfl]
    exact Traced.ext rfl (by simp)

end Interpolation

/-- What a run calls and reports is listed by parts if what it does is. -/
theorem Run.calls_and_diagnostics_of_trace {α β ι : Type} {whole : Run α} {part : ι → Run β}
    {is : List ι} (h : whole.trace = is.flatMap fun i => (part i).trace) :
    whole.calls = is.flatMap (fun i => (part i).calls) ∧
      whole.diagnostics = is.flatMap fun i => (part i).diagnostics := by
  constructor
  · rw [Run.calls, h, List.filterMap_flatMap]
    rfl
  · rw [Run.diagnostics, h, List.filterMap_flatMap]
    rfl

/-- **Templates are filled line by line.** A template of one or more lines is filled as its lines
are, each on its own: where all of them are filled, its text is their texts joined, and what the run
does is what the runs of the lines do, one after the other. Where one is not, the run ends with the
error of the first such line, having done what the lines up to that one do. -/
theorem interpolate_is_linewise (bindings : Entries Entry) (voidNames : List String)
    (lines : List String) (hlines : lines ≠ []) :
    let run := interpolate bindings voidNames
    let whole := run ("\n".intercalate lines)
    (∀ results,
      List.Forall₂ (fun line segments => (run line).result = .ok segments) lines results →
        (∃ segments, whole.result = .ok segments ∧
          Segment.textOf segments = (results.mapM Segment.textOf).map "\n".intercalate) ∧
        whole.trace = lines.flatMap (fun line => (run line).trace) ∧
        whole.calls = lines.flatMap (fun line => (run line).calls) ∧
        whole.diagnostics = lines.flatMap fun line => (run line).diagnostics) ∧
    ∀ before line after e, lines = before ++ line :: after →
      (∀ x ∈ before, ∃ segments, (run x).result = .ok segments) →
      (run line).result = .error e →
        whole.result = .error e ∧
        whole.trace = (before ++ [line]).flatMap (fun x => (run x).trace) ∧
        whole.calls = (before ++ [line]).flatMap (fun x => (run x).calls) ∧
        whole.diagnostics = (before ++ [line]).flatMap fun x => (run x).diagnostics := by
  intro run whole
  constructor
  · intro results hresults
    obtain ⟨hresult, htrace⟩ :=
      interpolateText_eq_ok_iff.mp (interpolateText_lines_of_ok hlines hresults)
    exact ⟨hresult, htrace, Run.calls_and_diagnostics_of_trace htrace⟩
  · rintro before line after e rfl hbefore hline
    obtain ⟨hresult, htrace⟩ :=
      interpolateText_eq_error_iff.mp (interpolateText_lines_of_error hbefore hline)
    exact ⟨hresult, htrace, Run.calls_and_diagnostics_of_trace htrace⟩

/-- A tag pair broken over two lines is literal text, and a line whose tag is refused ends the run
before the next line is looked at. -/
theorem interpolate_is_linewise_of_grudging :
    (∃ segments, (interpolate grudging ["br"] "<b>a\n</b>{{user}}").result = .ok segments ∧
      Segment.textOf segments = .ok "<b>a\n</b>*Ann*") ∧
    (interpolate grudging ["br"] "<b>a</b>\n<i>c</i>\n{{x}}").result = .error (.refused "no") ∧
    (interpolate grudging ["br"] "<b>a</b>\n<i>c</i>\n{{x}}").calls
      = [⟨"b", "plain", "a"⟩, ⟨"i", "picky", "c"⟩] ∧
    (interpolate grudging ["br"] "<b>a</b>\n<i>c</i>\n{{x}}").diagnostics = [] := by
  have hopen : interpolate grudging ["br"] "<b>a" = ⟨.ok [.str "<b>a"], []⟩ := by
    have hpieces : Piece.ofTemplate "<b>a" = [.literal "<b>a".toList] := by decide +kernel
    rw [allBindings_grudging.interpolate_eq, hpieces, fill, fill]
    rfl
  have huser : interpolate grudging ["br"] "</b>{{user}}"
      = ⟨.ok [.str "</b>", .opaqueNode "Ann"], [.resolved (.placeholder "user")]⟩ := by
    have hpieces : Piece.ofTemplate "</b>{{user}}"
        = [.literal "</b>".toList, .markup (.placeholder "user")] := by decide +kernel
    rw [allBindings_grudging.interpolate_eq, hpieces, fill, fill, fill, settle_eq]
    rfl
  have hbold : interpolate grudging ["br"] "<b>a</b>"
      = ⟨.ok [.str "a"], [.resolved (.tag "b" "a"), .called ⟨"b", "plain", "a"⟩]⟩ := by
    have hpieces : Piece.ofTemplate "<b>a</b>" = [.markup (.tag "b" "a")] := by decide +kernel
    rw [allBindings_grudging.interpolate_eq, hpieces, fill, fill, settle_eq]
    rfl
  have hitalic : interpolate grudging ["br"] "<i>c</i>"
      = ⟨.error (.refused "no"), [.resolved (.tag "i" "c"), .called ⟨"i", "picky", "c"⟩]⟩ := by
    have hpieces : Piece.ofTemplate "<i>c</i>" = [.markup (.tag "i" "c")] := by decide +kernel
    rw [allBindings_grudging.interpolate_eq, hpieces, fill, settle_eq]
    rfl
  have htexts : [[.str "<b>a"], [.str "</b>", .opaqueNode "Ann"]].mapM Segment.textOf
      = .ok ["<b>a", "</b>*Ann*"] := rfl
  have hjoin : "\n".intercalate ["<b>a", "</b>*Ann*"] = "<b>a\n</b>*Ann*" := by decide +kernel
  obtain ⟨hfilled, -⟩ := interpolate_is_linewise grudging ["br"] ["<b>a", "</b>{{user}}"]
    (List.cons_ne_nil _ _)
  obtain ⟨⟨segments, hsegments, htext⟩, -⟩ := hfilled _
    (.cons (congrArg Traced.result hopen) (.cons (congrArg Traced.result huser) .nil))
  obtain ⟨-, hfailed⟩ := interpolate_is_linewise grudging ["br"]
    ["<b>a</b>", "<i>c</i>", "{{x}}"] (List.cons_ne_nil _ _)
  have hfront : ∀ x ∈ ["<b>a</b>"],
      ∃ segments, (interpolate grudging ["br"] x).result = .ok segments := by
    intro x hx
    rw [List.mem_singleton.mp hx, hbold]
    exact ⟨_, rfl⟩
  obtain ⟨hresult, -, hcalls, hdiagnostics⟩ := hfailed _ "<i>c</i>" ["{{x}}"]
    (.refused "no") rfl hfront (congrArg Traced.result hitalic)
  refine ⟨⟨segments, hsegments, ?_⟩, hresult, hcalls.trans ?_, hdiagnostics.trans ?_⟩
  · rw [htext, htexts, Except.map, hjoin]
  · simp only [List.singleton_append, List.flatMap_cons, Run.calls, hbold, hitalic]
    rfl
  · simp only [List.singleton_append, List.flatMap_cons, Run.diagnostics, hbold, hitalic]
    rfl

end RichTemplate
