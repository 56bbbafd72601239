import RichTemplate.Proofs.Exits

/-!
# Templates as texts and in files

A file ends its last line with a line feed that is no part of the template, and may have a carriage
return in front of every line feed. A template that has no carriage return itself is read back from
such a file, and a command does not tell apart where it was given its template.
-/

namespace RichTemplate

/-! ### Line ends -/

def withReturns (cs : List Char) : List Char :=
  cs.flatMap fun c => if c = '\n' then ['\r', '\n'] else [c]

section LineEnds

variable {c : Char} {cs : List Char}

theorem withReturns_newline (cs : List Char) :
    withReturns ('\n' :: cs) = '\r' :: '\n' :: withReturns cs := rfl

theorem withReturns_cons_of_ne (hc : c ≠ '\n') (cs : List Char) :
    withReturns (c :: cs) = c :: withReturns cs := by
  rw [withReturns, List.flatMap_cons, if_neg hc]
  rfl

theorem normalizeLines_cons_of_ne (hc : c ≠ '\r') (cs : List Char) :
    normalizeLines (c :: cs) = c :: normalizeLines cs := by
  rw [normalizeLines]
  · exact fun _ h _ => hc h
  · exact hc

theorem normalizeLines_eq_self (h : '\r' ∉ cs) : normalizeLines cs = cs := by
  induction cs with
  | nil => rfl
  | cons c cs ih =>
    obtain ⟨hc, hcs⟩ := List.ne_and_not_mem_of_not_mem_cons h
    rw [normalizeLines_cons_of_ne (Ne.symm hc), ih hcs]

/-- The carriage returns that were put in are taken out again, and there are no others. -/
theorem normalizeLines_withReturns (h : '\r' ∉ cs) : normalizeLines (withReturns cs) = cs := by
  induction cs with
  | nil => rfl
  | cons c cs ih =>
    obtain ⟨hc, hcs⟩ := List.ne_and_not_mem_of_not_mem_cons h
    by_cases hbreak : c = '\n'
    · rw [hbreak, withReturns_newline, normalizeLines, ih hcs]
    · rw [withReturns_cons_of_ne hbreak, normalizeLines_cons_of_ne (Ne.symm hc), ih hcs]

theorem decodeText?_toUTF8 (s : String) :
    decodeText? s.toUTF8 = some (normalizeLines s.toList) := by
  have hdecodes : String.fromUTF8? s.toUTF8 = some s := by
    rw [String.fromUTF8?, String.toUTF8_eq_toByteArray, dif_pos s.isValidUTF8]
    rfl
  rw [decodeText?, hdecodes, Option.map_some]

end LineEnds

namespace Command

theorem dropFinalBreak_concat (cs : List Char) : dropFinalBreak (cs ++ ['\n']) = cs := by
  rw [dropFinalBreak, List.getLast?_concat, if_pos rfl, List.dropLast_concat]

theorem dropFinalBreak_eq_self {cs : List Char} (h : cs.getLast? ≠ some '\n') :
    dropFinalBreak cs = cs :=
  if_neg h

/-! ### Templates in files -/

/-- What a file with a template holds: the template with a line feed behind it, the same with a
carriage return in front of every line feed, or the template alone, unless the line feed at its end
would be taken for the file's. -/
inductive Holds (template : String) : ByteArray → Prop
  | ended : Holds template (template ++ "\n").toUTF8
  | returned : Holds template (String.ofList (withReturns (template ++ "\n").toList)).toUTF8
  | bare (h : template.toList.getLast? ≠ some '\n') : Holds template template.toUTF8

section Given

variable {files files' : Files} {template name : String} {content : ByteArray}
  {source source' : TemplateSource} {settings : Settings}

theorem ofContent_toUTF8 (path : Path) (s : String) :
    TemplateSource.ofContent path (.bytes s.toUTF8)
      = .ok (String.ofList (dropFinalBreak (normalizeLines s.toList))) := by
  rw [TemplateSource.ofContent, decodeText?_toUTF8]

theorem Holds.ofContent_eq (h : Holds template content) (hreturn : '\r' ∉ template.toList)
    (path : Path) : TemplateSource.ofContent path (.bytes content) = .ok template := by
  have htoList : (template ++ "\n").toList = template.toList ++ ['\n'] := String.toList_append
  have hended : '\r' ∉ template.toList ++ ['\n'] := by simpa using hreturn
  cases h with
  | ended =>
    rw [ofContent_toUTF8, htoList, normalizeLines_eq_self hended, dropFinalBreak_concat,
      String.ofList_toList]
  | returned =>
    rw [ofContent_toUTF8, String.toList_ofList, htoList, normalizeLines_withReturns hended,
      dropFinalBreak_concat, String.ofList_toList]
  | bare hlast =>
    rw [ofContent_toUTF8, normalizeLines_eq_self hreturn, dropFinalBreak_eq_self hlast,
      String.ofList_toList]

theorem Holds.read_eq (h : Holds template content) (hreturn : '\r' ∉ template.toList)
    (hfound : files.atPath (.ofText name) = .ok (.bytes content)) :
    (TemplateSource.file name).read files = .ok (some template) := by
  rw [read_of_found hfound, h.ofContent_eq hreturn]
  rfl

/-! ### Commands that are given the same template -/

structure SameProfile (files files' : Files) (name : String) : Prop where
  here_eq : files'.here = files.here
  found_eq : files'.atResolved (.ofText name) = files.atResolved (.ofText name)

def rendering (settings : Settings) (name : String) (source : TemplateSource) : Invocation :=
  .render name source { settings with template := some source }

def inspecting (settings : Settings) (source : TemplateSource) : Invocation :=
  .inspect source { settings with template := some source }

theorem render_eq_of_read (hsame : SameProfile files files' name)
    (hread : source.read files = source'.read files') (settings : Settings) :
    render files name source settings = render files' name source' settings := by
  rw [render, render, hsame.here_eq, hsame.found_eq, hread]

theorem invoke_rendering_eq (hsame : SameProfile files files' name)
    (hread : source.read files = source'.read files') (settings : Settings) :
    invoke files (rendering settings name source)
      = invoke files' (rendering settings name source') := by
  -- the settings tell where the template comes from too, but rendering does not look there
  have hsettings : ∀ files source,
      render files name source { settings with template := some source }
        = render files name source settings := fun files source =>
    (course_render files name source).congr rfl rfl
  rw [rendering, rendering, invoke, invoke, hsettings, hsettings,
    render_eq_of_read hsame hread]
  rfl

theorem withProfile_eq_of_sameProfile (hsame : SameProfile files files' name)
    (template : Option String) :
    Inspect.withProfile files name template = Inspect.withProfile files' name template := by
  rw [Inspect.withProfile, Inspect.withProfile, hsame.here_eq, hsame.found_eq]

theorem inspect_eq_of_read (hsame : ∀ name, Names settings name → SameProfile files files' name)
    (hread : source.read files = source'.read files') :
    inspect files source settings = inspect files' source' settings := by
  cases hread' : source'.read files' with
  | error e =>
    rw [hread'] at hread
    cases e <;> rw [inspect, inspect, hread, hread']
  | ok template =>
    rw [hread'] at hread
    by_cases hnames : ∃ name, Names settings name
    · obtain ⟨name, hname⟩ := hnames
      rw [inspect_of_names hread hname, inspect_of_names hread' hname,
        withProfile_eq_of_sameProfile (hsame name hname)]
    · rw [inspect_of_not_names hread hnames, inspect_of_not_names hread' hnames]

theorem invoke_inspecting_eq (hsame : ∀ name, Names settings name → SameProfile files files' name)
    (hread : source.read files = source'.read files') :
    invoke files (inspecting settings source) = invoke files' (inspecting settings source') := by
  have hsettings : ∀ files source,
      inspect files source { settings with template := some source }
        = inspect files source settings := fun _ _ => inspect_congr rfl
  rw [inspecting, inspecting, invoke, invoke, hsettings, hsettings,
    inspect_eq_of_read hsame hread]
  rfl

end Given

/-- **A template in a file is the same template.** A template without carriage returns may be given
as a text or in a file that holds it, with a line feed behind it or without, and with carriage
returns in its line ends or without: each command ends alike, prints the same and shows the same
records, whatever the profile and the other settings are, and whatever else there is among the
files. -/
theorem file_stands_for_text {files files' : Files} {template path : String} {content : ByteArray}
    (hreturn : '\r' ∉ template.toList) (hholds : Holds template content)
    (hfound : files.atPath (.ofText path) = .ok (.bytes content)) (settings : Settings) :
    (∀ name, SameProfile files files' name →
      invoke files (rendering settings name (.file path))
        = invoke files' (rendering settings name (.text template))) ∧
    ((∀ name, Names settings name → SameProfile files files' name) →
      invoke files (inspecting settings (.file path))
        = invoke files' (inspecting settings (.text template))) := by
  have hread : (TemplateSource.file path).read files = (TemplateSource.text template).read files' :=
    hholds.read_eq hreturn hfound
  exact ⟨fun name hsame => invoke_rendering_eq hsame hread settings,
    fun hsame => invoke_inspecting_eq hsame hread⟩

namespace Sample

def lines : String := "<br>x</br>\n"

def returnedLines : ByteArray := "<br>x</br>\r\n\r\n".toUTF8

def filesWith (template : ByteArray) : Files :=
  ⟨.root, fun p =>
    if p.names = ["p"] then content
    else if p.names = ["t"] then .bytes template else .directory⟩

end Sample

theorem file_stands_for_text_of_returned :
    '\r' ∉ Sample.lines.toList ∧ Holds Sample.lines Sample.returnedLines ∧
      (Sample.filesWith Sample.returnedLines).atPath (.ofText "t")
        = .ok (.bytes Sample.returnedLines) ∧
      SameProfile (Sample.filesWith Sample.returnedLines) Sample.files "p" ∧
      invoke (Sample.filesWith Sample.returnedLines) (rendering Sample.settings "p" (.file "t"))
        = invoke Sample.files (rendering Sample.settings "p" (.text Sample.lines)) ∧
      invoke (Sample.filesWith Sample.returnedLines) (inspecting Sample.settings (.file "t"))
        = invoke Sample.files (inspecting Sample.settings (.text Sample.lines)) := by
  have hreturn : '\r' ∉ Sample.lines.toList := by decide
  have hholds : Holds Sample.lines Sample.returnedLines := .returned
  have hfound : (Sample.filesWith Sample.returnedLines).atPath (.ofText "t")
      = .ok (.bytes Sample.returnedLines) := rfl
  have hsame : SameProfile (Sample.filesWith Sample.returnedLines) Sample.files "p" := ⟨rfl, rfl⟩
  obtain ⟨hrender, hinspect⟩ := file_stands_for_text hreturn hholds hfound Sample.settings
  refine ⟨hreturn, hholds, hfound, hsame, hrender "p" hsame, hinspect ?_⟩
  rintro name ⟨hname, -⟩
  obtain rfl := Option.some.inj hname
  exact hsame

end Command

end RichTemplate
