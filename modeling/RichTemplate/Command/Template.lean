import RichTemplate.Command.Options
import RichTemplate.Command.Place
import RichTemplate.Text.Decode
import RichTemplate.Text.Quoted

/-!
# Where templates come from

A template is given as a text or in a file. The line feed at the end of a file ends its last line
and is not part of the template.
-/

namespace RichTemplate.Command

inductive TemplateError where
  | missing (path : Path)
  | directory (path : Path)
  | locked (path : Path)
  | unreachable (e : PathError)
  | notUtf8
  | noPath
deriving DecidableEq, Repr

namespace TemplateError

def message : TemplateError → String
  | missing path => "Template file not found: " ++ path.text
  | directory path => "[Errno 21] Is a directory: " ++ quoted path.text
  | locked path => "[Errno 13] Permission denied: " ++ quoted path.text
  | unreachable e => e.message
  | notUtf8 => "'utf-8' codec can't decode the file"
  | noPath => "expected str, bytes or os.PathLike object, not list"

end TemplateError

/-- A text without the line feed at its end. -/
def dropFinalBreak (cs : List Char) : List Char :=
  if cs.getLast? = some '\n' then cs.dropLast else cs

namespace TemplateSource

def ofContent (path : Path) : FileContent → Except TemplateError String
  | .missing => .error (.missing path)
  | .directory => .error (.directory path)
  | .locked => .error (.locked path)
  | .bytes content =>
    match decodeText? content with
    | some cs => .ok (String.ofList (dropFinalBreak cs))
    | none => .error .notUtf8

/-- The template of a source; there is none where its text is missing. -/
def read (files : Files) : TemplateSource → Except TemplateError (Option String)
  | text s => .ok (some s)
  | noText => .ok none
  | file name => do
    let path := Path.ofText name
    let content ← (files.atPath path).mapError .unreachable
    return some (← ofContent path content)
  | noFile => .error .noPath

end TemplateSource

end RichTemplate.Command
