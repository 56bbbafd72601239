import RichTemplate.Number.Notation
import RichTemplate.Text.Digit
import RichTemplate.Text.Quoted
import RichTemplate.Value.Basic

/-!
# Values as JSON text

Values are written over several lines, two spaces deeper for each level. Only what must be escaped
is. The keys of numbers, truth values and nulls are written as texts. Dates, bytes and nodes cannot
be written, and neither can integers that are too long and values without an end; a value with an
end is written however deep it nests.
-/

namespace RichTemplate

inductive JsonError where
  | unsupported (v : Value)
  | unsupportedKey (key : Value)
  | overlong
  | circular

namespace JsonError

def message : JsonError → String
  | unsupported v => "Object of type " ++ v.typeName ++ " is not JSON serializable"
  | unsupportedKey key =>
    "keys must be str, int, float, bool or None, not " ++ key.typeName
  | overlong => overlongMessage
  | circular => "Circular reference detected"

end JsonError

namespace JsonText

def escape (c : Char) : List Char :=
  if c = '"' ∨ c = '\\' then ['\\', c]
  else if c = '\n' then ['\\', 'n']
  else if c = '\r' then ['\\', 'r']
  else if c = '\t' then ['\\', 't']
  else if c = '\x0c' then ['\\', 'f']
  else if c = '\x08' then ['\\', 'b']
  else if c.toNat < 0x20 then '\\' :: 'u' :: hexDigits 4 c.toNat
  else [c]

def string (s : String) : String :=
  String.ofList ('"' :: s.toList.flatMap escape ++ ['"'])

/-- The spelling of a number; infinities and what is no number have names. -/
def float (x : Binary64) : String :=
  match x.meaning with
  | .notANumber => "NaN"
  | .infinite negative => if negative then "-Infinity" else "Infinity"
  | .finite _ _ _ => x.spell

def integer (i : Int) : Except JsonError String :=
  if isOverlong i then .error .overlong else .ok (toString i)

def key : Value → Except JsonError String
  | .str s => .ok s
  | .float x => .ok (float x)
  | .bool b => .ok (if b then "true" else "false")
  | .null => .ok "null"
  | .int i => integer i
  | v => .error (.unsupportedKey v)

def lineStart (level : Nat) : String :=
  String.ofList ('\n' :: List.replicate (2 * level) ' ')

def block (opening closing : String) (level : Nat) (items : List String) : String :=
  if items.isEmpty then opening ++ closing
  else
    opening ++ lineStart (level + 1) ++ ("," ++ lineStart (level + 1)).intercalate items ++
      lineStart level ++ closing

mutual

def write (level : Nat) : Value → Except JsonError String
  | .null => .ok "null"
  | .bool b => .ok (if b then "true" else "false")
  | .int i => integer i
  | .float x => .ok (float x)
  | .str s => .ok (string s)
  | .list items => do return block "[" "]" level (← writeItems (level + 1) items)
  | .tuple items => do return block "[" "]" level (← writeItems (level + 1) items)
  | .map entries => do return block "\x7b" "\x7d" level (← writeEntries (level + 1) entries)
  | .endless => .error .circular
  | v => .error (.unsupported v)

def writeItems (level : Nat) : List Value → Except JsonError (List String)
  | [] => .ok []
  | v :: vs => do
    let first ← write level v
    let rest ← writeItems level vs
    return first :: rest

def writeEntries (level : Nat) : List (Value × Value) → Except JsonError (List String)
  | [] => .ok []
  | (k, v) :: rest => do
    let name ← key k
    let value ← write level v
    let more ← writeEntries level rest
    return (string name ++ ": " ++ value) :: more

end

end JsonText

end RichTemplate
