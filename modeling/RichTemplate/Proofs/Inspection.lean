import RichTemplate.Command.Inspect
import RichTemplate.Command.Render
import RichTemplate.Proofs.Loaded
import RichTemplate.Proofs.Scanning

/-!
# Inspecting and rendering agree

What inspecting prints can be read back: a row for each match, with its place, its form, its name
and how the name stands in the profile. The rows tell what rendering will report, though rendering
goes through the matches in a way of its own.
-/

namespace RichTemplate.Command

open Interpolation

/-- What a line of the inspection tells: where a match is, its form, its name, and in words how the
name stands. -/
structure Row where
  start : Nat
  stop : Nat
  form : Form
  name : String
  status : List String
deriving DecidableEq, Repr

namespace Row

def diagnostic? (row : Row) : Option Diagnostic :=
  match row.status.head?, row.form with
  | some "unbound", _ => some (.unbound row.name)
  | some "wrapper", .placeholder => some (.wrapperInPlaceholder row.name)
  | _, _ => none

def isReported (row : Row) : Bool :=
  row.status.head? == some "unbound" ||
    row.form == .placeholder && row.status.head? == some "wrapper"

end Row

section Fields

variable {c : Char} {sep : String} {parts : List String}

end Fields

section Reading

variable {profile : Profile} {m : Match} {word : String}

def statusWords (profile : Profile) (name word : String) : List String :=
  word :: if name ∈ profile.voidNames then ["void"] else []

def fields (profile : Profile) (m : Match) (word : String) : List String :=
  ["-".intercalate [toString m.start, toString m.stop], m.markup.form.word, m.markup.name,
    ",".intercalate (statusWords profile m.markup.name word)]

end Reading

section Rows

variable {profile : Profile} {template : String}

end Rows

/-! ### Both commands on one template -/

section Commands

variable {files : Files} {name : String} {content : FileContent} {profile : Profile}
  {source : TemplateSource} {template : String}

structure Given (files : Files) (name : String) (profile : Profile) (source : TemplateSource)
    (template : String) (content : FileContent) : Prop where
  named : name ≠ ""
  found : files.atResolved (.ofText name) = .ok content
  loaded : (Profile.load content).result = .ok profile
  template_read : source.read files = .ok (some template)

theorem ne_missing_of_loaded (h : (Profile.load content).result = .ok profile) :
    content ≠ .missing := by
  rintro rfl
  exact absurd h (by simp [Profile.load, Profile.readDocument, Traced.fail, Traced.ofExcept])

/-- What inspecting against a profile comes to: loading the profile decides. -/
theorem inspect_withProfile_eq (hfound : files.atResolved (.ofText name) = .ok content)
    (hcontent : content ≠ .missing) (template : Option String) :
    Inspect.withProfile files name template =
      match (Profile.load content).result with
      | .error e => .ofProfileError Inspect.logger (Profile.load content).trace e
      | .ok profile => Inspect.list (some profile) template (Profile.load content).trace := by
  rw [Inspect.withProfile, hfound]
  dsimp only
  split
  next herror => cases herror
  next hmissing => exact absurd (Except.ok.inj hmissing) hcontent
  next hok =>
    obtain rfl := Except.ok.inj hok
    rfl

def afterLoading (template : Option String) (options : Settings) (records : List LogRecord) :
    Except ProfileError Profile → Outcome
  | .error e => .ofProfileError Render.logger records e
  | .ok profile =>
    match template with
    | some template => Render.withProfile profile template options records
    | none => .fail .noTemplate records

def loadingRecords (files : Files) (name : String) (content : FileContent) : List LogRecord :=
  ⟨Render.logger, .debug, "Loading profile: " ++ (files.here.follow (.ofText name)).text⟩ ::
    (Profile.load content).trace

/-- What rendering comes to once the profile has been found: the template is read, and then loading
the profile decides. -/
theorem render_of_found (hfound : files.atResolved (.ofText name) = .ok content)
    (hcontent : content ≠ .missing) (options : Settings) :
    render files name source options =
      match source.read files with
      | .error .noPath => .fail (.template .noPath) []
      | .error e =>
        .exit unreadableInput [⟨Render.logger, .error, "Cannot read template: " ++ e.message⟩]
      | .ok text => afterLoading text options (loadingRecords files name content)
          (Profile.load content).result := by
  rw [render, hfound]
  dsimp only
  split
  next herror => cases herror
  next hmissing => exact absurd (Except.ok.inj hmissing) hcontent
  next hok =>
    obtain rfl := Except.ok.inj hok
    rfl

theorem render_of_loaded (hfound : files.atResolved (.ofText name) = .ok content)
    (hloaded : (Profile.load content).result = .ok profile)
    (hread : source.read files = .ok (some template)) (options : Settings) :
    render files name source options
      = Render.withProfile profile template options (loadingRecords files name content) := by
  rw [render_of_found hfound (ne_missing_of_loaded hloaded), hread, hloaded]
  rfl

def reported (profile : Profile) (template : String) : List Diagnostic :=
  (scan template).filterMap fun m => diagnosticOf? profile.registry.bindings m.markup

theorem result_withProfile_of_not_filled {e : InterpolationError} {options : Settings}
    (hfails : (profile.interpolate template).result = .error e) (records : List LogRecord) :
    (Render.withProfile profile template options records).result = .error (.interpolation e) := by
  unfold Render.withProfile
  simp only [hfails]
  rfl

theorem result_withProfile_of_not_printed {segments : List Value} {e : Failure}
    {options : Settings} (hok : (profile.interpolate template).result = .ok segments)
    (hfails : Render.printed options.format segments = .error e) (records : List LogRecord) :
    (Render.withProfile profile template options records).result = .error e := by
  unfold Render.withProfile
  simp only [hok, hfails]
  rfl

/-- Where the segments are printed, the exit code tells of problems unless they are let pass. -/
theorem withProfile_of_printed {segments : List Value} {text : String} {options : Settings}
    (hok : (profile.interpolate template).result = .ok segments)
    (hprinted : Render.printed options.format segments = .ok text) (records : List LogRecord) :
    let outcome := Render.withProfile profile template options records
    let problematic := options.strict = true ∧ (profile.interpolate template).diagnostics ≠ []
    outcome.result = .ok (if problematic then 3 else 0) ∧ outcome.lines = [text] := by
  unfold Render.withProfile
  simp only [hok, hprinted, ← List.length_eq_zero_iff, Ne]
  split <;> exact ⟨rfl, rfl⟩

theorem result_withProfile_of_printed (hp : profile.Denoted) {segments : List Value} {text : String}
    {options : Settings} (hok : (profile.interpolate template).result = .ok segments)
    (hprinted : Render.printed options.format segments = .ok text) (records : List LogRecord) :
    (Render.withProfile profile template options records).result
      = .ok (if options.strict = true ∧ reported profile template ≠ [] then 3 else 0) := by
  have hreported : (profile.interpolate template).diagnostics = reported profile template :=
    (hp.interpolate_eq template).2
  rw [← hreported]
  exact (withProfile_of_printed hok hprinted records).1

/-- Text is always printed. -/
theorem result_withProfile (hp : profile.Denoted) (records : List LogRecord) {options : Settings}
    (hformat : options.format = .text) :
    (Render.withProfile profile template options records).result
      = .ok (if options.strict = true ∧ reported profile template ≠ [] then 3 else 0) := by
  obtain ⟨⟨segments, hok, text, htext⟩, -⟩ := hp.interpolate_eq template
  have hprinted : Render.printed options.format segments = .ok text := by
    rw [hformat, Render.printed, htext]
    rfl
  exact result_withProfile_of_printed hp hok hprinted records

end Commands

namespace Sample

def content : FileContent :=
  .bytes "version: '1'\nbindings: {br: {wrap: i}}".toUTF8

def files : Files :=
  ⟨.root, fun p => if p.names = ["p"] then content else .directory⟩

def filesOf (profile : FileContent) : Files :=
  ⟨.root, fun p => if p.names = ["p"] then profile else .directory⟩

def source : TemplateSource :=
  .text "<br>x</br>{{br}} {{u}}"

def settings : Settings :=
  { Settings.initial with profile := some "p", strict := true }

theorem exists_given :
    ∃ profile, Given files "p" profile source "<br>x</br>{{br}} {{u}}" content := by
  have hloads : (Profile.load content).result.toOption.isSome = true := by decide +kernel
  cases hresult : (Profile.load content).result with
  | ok profile => exact ⟨profile, by decide, rfl, hresult, rfl⟩
  | error e =>
    rw [hresult] at hloads
    cases hloads

end Sample

end RichTemplate.Command
