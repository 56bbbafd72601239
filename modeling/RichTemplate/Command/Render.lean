import RichTemplate.Command.Outcome

/-!
# Rendering

Fills a template against a profile and prints the result, as text or as JSON. Diagnostics are
logged, and in strict mode any of them makes the command fail after printing.
-/

namespace RichTemplate.Command

namespace Render

def logger : String := "richinterp.cli.commands.render"

/-- The reporter of rendering: it keeps the diagnostics and logs them. -/
def reporter : Reporter :=
  .collecting (.logging Reporter.defaultLogger)

def printed (format : OutputFormat) (segments : List Value) : Except Failure String :=
  match format with
  | .text => (Segment.textOf segments).mapError .node
  | .json => do
    let data ← (Segment.dataOf segments).mapError .node
    (JsonText.write 0 (.list data)).mapError .json

def strictRecord (count : Nat) : LogRecord :=
  ⟨logger, .error, toString count ++ " diagnostic(s) reported in strict mode"⟩

def withProfile (profile : Profile) (template : String) (settings : Settings)
    (records : List LogRecord) : Outcome :=
  let run := profile.interpolate template
  let records := records ++ reporter.records run.diagnostics
  match run.result with
  | .error e => .fail (.interpolation e) records
  | .ok segments =>
    match printed settings.format segments with
    | .error e => .fail e records
    | .ok text =>
      let count := run.diagnostics.length
      if settings.strict ∧ count ≠ 0 then
        ⟨.ok strictDiagnostics, [text], records ++ [strictRecord count]⟩
      else ⟨.ok 0, [text], records⟩

end Render

/-- Renders a template. The profile must exist before the template is looked at. -/
def render (files : Files) (profile : String) (source : TemplateSource) (settings : Settings) :
    Outcome :=
  let path := Path.ofText profile
  let place := (files.here.follow path).text
  match files.atResolved path with
  | .error e => .fail (.path e) []
  | .ok .missing =>
    .exit unreadableInput [⟨Render.logger, .error, "Profile file not found: " ++ place⟩]
  | .ok content =>
    match source.read files with
    | .error .noPath => .fail (.template .noPath) []
    | .error e =>
      .exit unreadableInput [⟨Render.logger, .error, "Cannot read template: " ++ e.message⟩]
    | .ok template =>
      let loading := Profile.load content
      let records := ⟨Render.logger, .debug, "Loading profile: " ++ place⟩ :: loading.trace
      match loading.result with
      | .error e => .ofProfileError Render.logger records e
      | .ok profile =>
        match template with
        | some template => Render.withProfile profile template settings records
        | none => .fail .noTemplate records

end RichTemplate.Command
