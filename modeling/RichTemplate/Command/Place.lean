import RichTemplate.Profile.Source
import RichTemplate.Text.Quoted

/-!
# Places in a file system

A place is a list of names below the root of everything. A path leads from one place to another;
followed on paper, every step back undoes the step before it, while in the file system a step can
only be taken from a directory. Names and paths that are too long lead nowhere, and neither do those
that no name can hold.
-/

namespace RichTemplate.Command

/-- A place: the names on the way from the root, outermost first. -/
structure Place where
  names : List String
deriving DecidableEq, Repr

/-- A path: how the root it starts at is written, if it starts at the root of everything, and its
steps. -/
structure Path where
  root : String
  steps : List String
deriving DecidableEq, Repr

inductive PathError where
  | nullCharacter
  | tooLong (path : String)
deriving DecidableEq, Repr

def PathError.message : PathError → String
  | nullCharacter => "embedded null byte"
  | tooLong path => "[Errno 36] File name too long: " ++ quoted path

namespace Path

def slashParts : List Char → List (List Char)
  | [] => [[]]
  | '/' :: cs => [] :: slashParts cs
  | c :: cs =>
    match slashParts cs with
    | [] => [[c]]
    | part :: parts => (c :: part) :: parts

/-- The root that the slashes at the front of a text stand for: exactly two are kept, and any other
number counts as one. -/
def rootOf (cs : List Char) : String :=
  match (cs.takeWhile (· == '/')).length with
  | 0 => ""
  | 2 => "//"
  | _ => "/"

/-- Reads a path. Empty steps and steps that stay in place are left out. -/
def ofText (s : String) : Path :=
  let parts := (slashParts s.toList).map String.ofList
  ⟨rootOf s.toList, parts.filter fun p => p ≠ "" ∧ p ≠ "."⟩

def isAbsolute (p : Path) : Bool :=
  p.root != ""

def text (p : Path) : String :=
  if p.steps.isEmpty && !p.isAbsolute then "." else p.root ++ "/".intercalate p.steps

def hasNull (p : Path) : Bool :=
  p.steps.any fun name => name.toList.contains '\x00'

end Path

namespace Place

def root : Place := ⟨[]⟩

/-- Takes a step; the step back from the root stays there. -/
def step (p : Place) (name : String) : Place :=
  ⟨if name = ".." then p.names.dropLast else p.names ++ [name]⟩

def start (here : Place) (path : Path) : Place :=
  if path.isAbsolute then root else here

/-- Where a path leads on paper. -/
def follow (here : Place) (path : Path) : Place :=
  path.steps.foldl step (start here path)

def wayTo (p : Place) : List Place :=
  (List.range (p.names.length + 1)).map fun n => ⟨p.names.take n⟩

def visited (here : Place) (path : Path) : List Place :=
  path.steps.foldl (fun places name => places ++ [(places.getLastD here).step name])
    [start here path]

def text (p : Place) : String :=
  "/" ++ "/".intercalate p.names

end Place

/-- A file system: the current place and what is at each place. -/
structure Files where
  here : Place
  content : Place → FileContent

namespace Files

def longestName : Nat := 255

def longestPath : Nat := 4095

/-- Takes steps from a place; a path is shown by its text. -/
def walk (files : Files) (shown : String) (p : Place) : List String → Except PathError FileContent
  | [] => .ok (files.content p)
  | name :: rest =>
    match files.content p with
    | .directory =>
      if longestName < name.utf8ByteSize then .error (.tooLong shown)
      else walk files shown (p.step name) rest
    | _ => .ok .missing

def find (files : Files) (shown : String) (p : Place) (steps : List String) :
    Except PathError FileContent :=
  if longestPath < shown.utf8ByteSize then .error (.tooLong shown) else files.walk shown p steps

/-- What is where a path leads on paper. -/
def atResolved (files : Files) (path : Path) : Except PathError FileContent :=
  if path.hasNull then .error .nullCharacter
  else
    let place := files.here.follow path
    files.find place.text .root place.names

/-- What a path leads to in the file system. There is nothing under a name that cannot be. -/
def atPath (files : Files) (path : Path) : Except PathError FileContent :=
  if path.hasNull then .ok .missing
  else files.find path.text (files.here.start path) path.steps

end Files

end RichTemplate.Command
