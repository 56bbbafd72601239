import RichTemplate.Command.Outcome

/-!
# Inspecting

Lists the markup of a template, a line for each match: where it is, its form, its name, and how the
name stands. Without a profile only void names are told of.
-/

namespace RichTemplate.Command

namespace Inspect

def logger : String := "richinterp.cli.commands.inspect"

def bindingStatus (profile : Profile) (name : String) : String :=
  match profile.registry.get? name with
  | some (.binding b) => b.kind.shown.plainText
  | _ => "unbound"

/-- The status of a name: its binding if there is a profile, and whether it is void. -/
def status (profile : Option Profile) (name : String) : List String :=
  let binding :=
    match profile with
    | some p => [bindingStatus p name]
    | none => []
  let voidNames :=
    match profile with
    | some p => p.voidNames
    | none => defaultVoidNames
  binding ++ (if voidNames.contains name then ["void"] else [])

/-- The line of a match. An empty status takes its tab with it. -/
def line (profile : Option Profile) (m : Match) : String :=
  let fields := [toString m.start ++ "-" ++ toString m.stop, m.markup.form.word, m.markup.name]
  let words := status profile m.markup.name
  "\t".intercalate (fields ++ (if words.isEmpty then [] else [",".intercalate words]))

def list (profile : Option Profile) (template : Option String) (records : List LogRecord) :
    Outcome :=
  match template.map scan with
  | none => .fail .noTemplate records
  | some [] => .exit 0 (records ++ [⟨logger, .info, "No markup found"⟩])
  | some found => ⟨.ok 0, found.map (line profile), records⟩

def withProfile (files : Files) (profile : String) (template : Option String) : Outcome :=
  let path := Path.ofText profile
  match files.atResolved path with
  | .error e => .fail (.path e) []
  | .ok .missing =>
    .exit unreadableInput
      [⟨logger, .error, "Profile file not found: " ++ (files.here.follow path).text⟩]
  | .ok content =>
    let loading := Profile.load content
    match loading.result with
    | .error e => .ofProfileError logger loading.trace e
    | .ok p => list (some p) template loading.trace

end Inspect

/-- Inspects a template. The template is read before the profile is looked at; an empty path names
no profile. -/
def inspect (files : Files) (source : TemplateSource) (settings : Settings) : Outcome :=
  match source.read files with
  | .error .noPath => .fail (.template .noPath) []
  | .error e =>
    .exit unreadableInput [⟨Inspect.logger, .error, "Cannot read template: " ++ e.message⟩]
  | .ok template =>
    match settings.profile with
    | none => Inspect.list none template []
    | some "" => Inspect.list none template []
    | some profile => Inspect.withProfile files profile template

end RichTemplate.Command
