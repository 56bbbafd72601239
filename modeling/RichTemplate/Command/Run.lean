import RichTemplate.Command.Inspect
import RichTemplate.Command.Render

/-!
# Running a command
-/

namespace RichTemplate.Command

inductive Response where
  /-- The arguments ask for help or make no sense. -/
  | stopped (why : Stop)
  /-- No command was named, so help is shown. -/
  | noCommand
  /-- A command was run, and the records at or above a level are shown. -/
  | ran (outcome : Outcome) (threshold : Level)

def noCommandCode : Nat := 1

def Stop.code : Stop → Nat
  | help => 0
  | usage => 2

/-- The response of a command, which must know what is logged before it starts. -/
def Response.of (settings : Settings) (outcome : Outcome) : Response :=
  if settings.level.isNone then .ran (.fail .noLevel []) settings.threshold
  else .ran outcome settings.threshold

def invoke (files : Files) : Invocation → Response
  | .noCommand => .noCommand
  | .render profile template settings =>
    .of settings (render files profile template settings)
  | .inspect template settings => .of settings (inspect files template settings)

def run (files : Files) (args : List String) : Response :=
  match Invocation.ofArguments args with
  | .error why => .stopped why
  | .ok invocation => invoke files invocation

end RichTemplate.Command
