import RichTemplate.Command.Run

/-!
# The program

Reads what the arguments name from the file system, runs the command on it, and prints.
-/

namespace RichTemplate.Command

def Invocation.paths : Invocation → List Path
  | .noCommand => []
  | .render profile template _ => Path.ofText profile :: templatePaths template
  | .inspect template settings =>
    (settings.profile.toList.map Path.ofText) ++ templatePaths template
where
  templatePaths : TemplateSource → List Path
    | .file path => [Path.ofText path]
    | _ => []

def helpText : String :=
  "usage: richtemplate [-h] COMMAND ...\n\n" ++
  "Rich-content interpolation for localized templates\n\n" ++
  "commands:\n" ++
  "  render PROFILE (--template TEXT | --template-file PATH)\n" ++
  "         [--format text|json] [--strict] [--quiet] [--log-level LEVEL]\n" ++
  "  inspect (--template TEXT | --template-file PATH)\n" ++
  "         [--profile PROFILE] [--quiet] [--log-level LEVEL]\n"

def readPlace (p : Place) : IO FileContent := do
  let path := (← IO.currentDir) / p.text
  if ← path.isDir then return .directory
  else if ← path.pathExists then
    try return .bytes (← IO.FS.readBinFile path)
    catch _ => return .locked
  else return .missing

/-- The part of the file system that paths lead through. -/
def readFiles (paths : List Path) : IO Files := do
  let here : Place := ⟨(Path.ofText (← IO.currentDir).toString).steps⟩
  let places := ((here :: paths.flatMap here.visited).flatMap Place.wayTo).eraseDups
  let table ← places.mapM fun p => do return (p, ← readPlace p)
  return ⟨here, fun p => (table.lookup p).getD .missing⟩

def Response.print : Response → IO UInt32
  | .stopped .help => do
    IO.print helpText
    return 0
  | .stopped .usage => do
    IO.eprint helpText
    return Stop.usage.code.toUInt32
  | .noCommand => do
    IO.print helpText
    return noCommandCode.toUInt32
  | .ran outcome threshold => do
    IO.eprint (outcome.stderr threshold)
    IO.print outcome.stdout
    match outcome.result with
    | .ok code => return code.toUInt32
    | .error e => do
      IO.eprintln e.message
      return 1

def answer (args : List String) : IO UInt32 := do
  match Invocation.ofArguments args with
  | .error why => (Response.stopped why).print
  | .ok invocation => (invoke (← readFiles invocation.paths) invocation).print

end RichTemplate.Command

def main (args : List String) : IO UInt32 :=
  RichTemplate.Command.answer args
