import RichTemplate.Profile.Limits
import RichTemplate.Yaml.Document

/-!
# Loading profiles

A profile is read from a file as UTF-8 text in which every line end counts as a line feed. A file
that cannot be opened or is no YAML document is an invalid profile; text that is not UTF-8 and
scalars that stand for nothing are failures of their own.
-/

namespace RichTemplate

inductive FileContent where
  | bytes (content : ByteArray)
  | missing
  | directory
  /-- A file that is there and may not be opened. -/
  | locked

inductive ProfileError where
  | invalid (issues : List Issue)
  | notUtf8
  | badScalar (e : Yaml.Error)
  | limit (l : Limit) (found : List Issue)

namespace ProfileError

def unreadable : ProfileError := invalid [⟨.unreadable, ""⟩]

def issues : ProfileError → List Issue
  | invalid issues => issues
  | limit _ found => found
  | _ => []

def ofYaml : Yaml.Error → ProfileError
  | .malformed => unreadable
  | .endsEarly => unreadable
  | .notUtf8 => notUtf8
  | e => badScalar e

end ProfileError

namespace Profile

abbrev Loading := Traced ProfileError LogRecord Profile

def loadData (document : Value) : Loading :=
  match Limit.ofDocument? document with
  | some breach =>
    ⟨.error (.limit breach.limit breach.issues),
      (registrationOf (some (.map breach.bindings))).trace⟩
  | none => (ofValue document).mapResultError .invalid

def readDocument : FileContent → Except ProfileError Value
  | .missing => .error .unreadable
  | .directory => .error .unreadable
  | .locked => .error .unreadable
  | .bytes content => ((Yaml.Source.ofBytes content).bind Yaml.read).mapError .ofYaml

def load (file : FileContent) : Loading :=
  match readDocument file with
  | .ok document => loadData document
  | .error e => Traced.fail e

end Profile

/-- A loader that is used again and again. What it finds wrong goes to a list that it shares with
the error it raises for it, so it keeps every list that it ever took. -/
structure Loader where
  lists : List (List Issue)
  current : Nat
  current_lt : current < lists.length

namespace Loader

inductive Source where
  | data (document : Value)
  | file (content : FileContent)

/-- What a loading is given up with: for what is in a list, or for something else. -/
inductive Raised where
  | invalid (list : Nat)
  | other (e : ProfileError)

abbrev Loading := Traced Raised LogRecord Profile

def new : Loader := ⟨[[]], 0, Nat.one_pos⟩

/-- What a list holds by now. -/
def held (l : Loader) (list : Nat) : List Issue :=
  l.lists[list]?.getD []

def issues (l : Loader) : List Issue :=
  l.held l.current

/-- Goes on with a new list. Whoever shares an earlier one keeps it. -/
def forget (l : Loader) : Loader :=
  ⟨l.lists ++ [[]], l.lists.length, by simp⟩

def note (l : Loader) (i : Issue) : Loader :=
  ⟨l.lists.modify l.current (· ++ [i]), l.current, by simpa using l.current_lt⟩

def noteAll (l : Loader) (issues : List Issue) : Loader :=
  issues.foldl note l

def loadData (l : Loader) (document : Value) : Loading × Loader :=
  match Limit.ofDocument? document with
  | some breach =>
    (⟨.error (.other (.limit breach.limit breach.issues)),
      (Profile.registrationOf (some (.map breach.bindings))).trace⟩,
      l.forget.noteAll breach.issues)
  | none =>
    let l := l.forget.noteAll (Profile.issues document)
    let registered := Profile.registration document
    match l.issues, registered.result with
    | [], .ok registry =>
      (⟨.ok ⟨registry, Profile.voidNamesOf document⟩, registered.trace⟩, l)
    | _, _ => (⟨.error (.invalid l.current), registered.trace⟩, l)

def loadFile (l : Loader) (content : FileContent) : Loading × Loader :=
  let l := l.forget
  match Profile.readDocument content with
  | .ok document => l.loadData document
  | .error (.invalid issues) =>
    let l := l.noteAll issues
    (Traced.fail (.invalid l.current), l)
  | .error e => (Traced.fail (.other e), l)

def attempt (l : Loader) : Source → Loading × Loader
  | .data document => l.loadData document
  | .file content => l.loadFile content

/-- The error that is raised, as it can be read by now. -/
def error (l : Loader) : Raised → ProfileError
  | .invalid list => .invalid (l.held list)
  | .other e => e

def load (l : Loader) (source : Source) : Profile.Loading × Loader :=
  let (loading, l) := l.attempt source
  (loading.mapResultError l.error, l)

end Loader

end RichTemplate
