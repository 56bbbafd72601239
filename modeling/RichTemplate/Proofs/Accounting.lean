import RichTemplate.Proofs.Filling
import RichTemplate.Proofs.Gaps

/-!
# Accounting for a template

A filled template is its gaps and the nodes of its matches in turn. Each character of the template
is in a gap or in a match, and what is left of the template in the outcome has no markup in it.
-/

namespace RichTemplate

/-- A segment and where it comes from: the text of the template, or markup. -/
inductive Part where
  | literal (text : String)
  | node (v : Value)

namespace Part

def segment : Part → Value
  | literal text => .str text
  | node v => v

def ofGap : List Char → List Part
  | [] => []
  | c :: cs => [literal (String.ofList (c :: cs))]

def ofNode : Option Value → List Part
  | none => []
  | some v => [node v]

/-- The gaps of a template and the nodes of its matches in turn; without matches the template. -/
def ofTemplate (template : String) (nodes : List (Option Value)) : List Part :=
  if scan template = [] then [literal template]
  else weave ((gaps template).map ofGap) (nodes.map ofNode)

theorem of_literal_mem_ofTemplate {template text : String} {nodes : List (Option Value)}
    (h : literal text ∈ ofTemplate template nodes) :
    (text = "" → template = "") ∧ scan text = [] := by
  unfold ofTemplate at h
  split at h
  next hnone =>
    obtain rfl : text = template := by simpa using h
    exact ⟨id, hnone⟩
  next =>
    rcases mem_of_mem_weave h with ⟨x, hx, hmem⟩ | ⟨x, hx, hmem⟩
    · obtain ⟨g, hg, rfl⟩ := List.mem_map.mp hx
      cases g with
      | nil => simp [ofGap] at hmem
      | cons c cs =>
        obtain rfl : text = String.ofList (c :: cs) := by simpa [ofGap] using hmem
        refine ⟨fun hempty => ?_, scan_of_mem_gaps hg⟩
        have hlist := congrArg String.toList hempty
        rw [String.toList_ofList] at hlist
        exact absurd hlist (List.cons_ne_nil c cs)
    · obtain ⟨node, -, rfl⟩ := List.mem_map.mp hx
      cases node <;> simp [ofNode] at hmem

end Part

open Interpolation

variable {bindings : Entries Entry} {voidNames : List String}

theorem flatMap_segmentsOf_ofTemplate (template : String) :
    (Piece.ofTemplate template).flatMap (segmentsOf bindings voidNames)
      = (Part.ofTemplate template
          ((scan template).map fun m => nodeOf bindings voidNames m.markup)).map Part.segment := by
  rw [Piece.ofTemplate_eq, Part.ofTemplate]
  split
  · simp [segmentsOf, Part.segment]
  · rw [flatMap_weave, map_weave]
    simp only [List.map_map]
    congr 1
    · refine List.map_congr_left fun g _ => ?_
      cases g <;> rfl
    · refine List.map_congr_left fun m _ => ?_
      change (nodeOf bindings voidNames m.markup).toList ++ [] = _
      cases hnode : nodeOf bindings voidNames m.markup <;> simp [Part.ofNode, Part.segment, hnode]

/-- **Every character of a template is accounted for.** Where every wrapper returns, the outcome is
the gaps of the template and the nodes of its matches in turn, less the empty gaps and the matches
that come to nothing. Gaps and matches put together are the template, and what is left of the gaps
is not empty, unless the template is, and has no markup in it. -/
theorem interpolate_eq_parts (h : Returning bindings voidNames) (template : String) :
    ∃ nodes : List (Option Value),
      (scan template).map (fun m => (settle bindings voidNames m.markup).result)
        = nodes.map Except.ok ∧
      (interpolate bindings voidNames template).result
        = .ok ((Part.ofTemplate template nodes).map Part.segment) ∧
      weave (gaps template) ((scan template).map fun m => slice template.toList m.start m.stop)
        = template.toList ∧
      ∀ text, Part.literal text ∈ Part.ofTemplate template nodes →
        (text = "" → template = "") ∧ scan text = [] := by
  refine ⟨(scan template).map fun m => nodeOf bindings voidNames m.markup, ?_, ?_,
    weave_gaps template, fun text => Part.of_literal_mem_ofTemplate⟩
  · rw [List.map_map]
    exact List.map_congr_left fun m _ => h.settle_result m.markup
  · rw [h.interpolate_eq, h.fill_eq, flatMap_segmentsOf_ofTemplate]

theorem interpolate_eq_parts_of_greeting :
    Returning greeting ["br"] ∧ ∃ nodes : List (Option Value),
      (interpolate greeting ["br"] "Hi <b>{{user}}</b>{{user}}{{x}}").result
        = .ok ((Part.ofTemplate "Hi <b>{{user}}</b>{{user}}{{x}}" nodes).map Part.segment) := by
  obtain ⟨nodes, -, hresult, -⟩ :=
    interpolate_eq_parts returning_greeting "Hi <b>{{user}}</b>{{user}}{{x}}"
  exact ⟨returning_greeting, nodes, hresult⟩

end RichTemplate
