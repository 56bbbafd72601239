import RichTemplate.Command.Template
import RichTemplate.Element
import RichTemplate.JsonText
import RichTemplate.Log
import RichTemplate.Profile.Source

/-!
# What a command comes to

A command prints lines, logs records and ends with an exit code, unless a failure that nobody deals
with ends it.
-/

namespace RichTemplate.Command

/-- A failure that no command deals with. -/
inductive Failure where
  /-- The level is asked for and not named. -/
  | noLevel
  /-- The text of the template is missing. -/
  | noTemplate
  | template (e : TemplateError)
  | path (e : PathError)
  | profile (e : ProfileError)
  | interpolation (e : InterpolationError)
  | node (e : NodeError)
  | json (e : JsonError)

def Failure.message : Failure → String
  | .noLevel => "unhashable type: 'list'"
  | .noTemplate => "expected string or bytes-like object, got 'list'"
  | .template e => e.message
  | .path e => e.message
  | .profile (.badScalar e) => e.message
  | .profile (.limit l _) => l.message
  | .profile .notUtf8 => Yaml.Error.notUtf8.message
  | .profile (.invalid issues) => ValidationError.report (issues.map Issue.toError)
  | .interpolation e => e.message
  | .node e => e.message
  | .json e => e.message

structure Outcome where
  result : Except Failure Nat
  lines : List String
  records : List LogRecord

namespace Outcome

def exit (code : Nat) (records : List LogRecord) : Outcome :=
  ⟨.ok code, [], records⟩

def fail (e : Failure) (records : List LogRecord) : Outcome :=
  ⟨.error e, [], records⟩

def stdout (o : Outcome) : String :=
  String.join (o.lines.map (· ++ "\n"))

def stderr (threshold : Level) (o : Outcome) : String :=
  String.join ((LogRecord.atLeast threshold o.records).map fun r => r.line ++ "\n")

end Outcome

def issueRecords (logger : String) (issues : List Issue) : List LogRecord :=
  issues.map fun i => ⟨logger, .error, "Validation error: " ++ i.fault.message⟩

/-- The exit code for input that is missing or cannot be read. -/
def unreadableInput : Nat := 1

def invalidProfile : Nat := invalidProfileCode.toNat

def strictDiagnostics : Nat := 3

def Outcome.ofProfileError (logger : String) (records : List LogRecord) (e : ProfileError) :
    Outcome :=
  match e with
  | .invalid issues => .exit invalidProfile (records ++ issueRecords logger issues)
  | e => .fail (.profile e) records

end RichTemplate.Command
