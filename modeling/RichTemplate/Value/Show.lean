import RichTemplate.Number.Notation
import RichTemplate.Text.Digit
import RichTemplate.Text.Quoted
import RichTemplate.Value.Basic

/-!
# The spelling of values in messages

A value has two texts. Its spelling quotes strings and names types, so that different values are
told apart. Its plain text is the same but for strings, dates and opaque nodes, which show what a
reader would see. Neither can be given where an integer in it is too long to be written.
-/

namespace RichTemplate

/-- The spelling of a date: its type and its parts. -/
def Date.spell (d : Date) : String :=
  "datetime.date(" ++ ", ".intercalate ([d.year, d.month, d.day].map toString) ++ ")"

/-- The parts of a time of a day that a spelling gives: the hour and the minute, and the rest up to
the last that is not zero. -/
def DateTime.clockParts (t : DateTime) : List Nat :=
  if t.microsecond ≠ 0 then [t.hour, t.minute, t.second, t.microsecond]
  else if t.second ≠ 0 then [t.hour, t.minute, t.second]
  else [t.hour, t.minute]

/-- The spelling of a time: its type, its parts and its offset. -/
def DateTime.spell (t : DateTime) : String :=
  let parts := ([t.date.year, t.date.month, t.date.day] ++ t.clockParts).map toString
  let zone :=
    match t.offset with
    | none => []
    | some 0 => ["tzinfo=datetime.timezone.utc"]
    | some o => ["tzinfo=datetime.timezone(" ++ durationText o ++ ")"]
  "datetime.datetime(" ++ ", ".intercalate (parts ++ zone) ++ ")"

namespace Value

def enclosed (opening : String) (items : List String) (closing : String) : String :=
  opening ++ ", ".intercalate items ++ closing

mutual

/-- The spelling of a value, in which different values look different. -/
def spell : Value → String
  | null => "None"
  | bool b => if b then "True" else "False"
  | int i => toString i
  | float x => x.spell
  | str s => quoted s
  | bytes bs => quotedBytes bs
  | date d => d.spell
  | dateTime t => t.spell
  | list items => enclosed "[" (spellItems items) "]"
  | tuple items =>
    match spellItems items with
    | [one] => "(" ++ one ++ ",)"
    | many => enclosed "(" many ")"
  | set items =>
    match spellItems items with
    | [] => "set()"
    | many => enclosed "\x7b" many "\x7d"
  | map entries => enclosed "\x7b" (spellEntries entries) "\x7d"
  | element tag props children =>
    "Element(tag=" ++ quoted tag ++ ", props=" ++ spell props ++ ", children=" ++ spell children ++
      ")"
  | opaqueNode label => "Opaque(" ++ label ++ ")"
  | endless => "..."

def spellItems : List Value → List String
  | [] => []
  | v :: vs => spell v :: spellItems vs

def spellEntries : List (Value × Value) → List String
  | [] => []
  | (k, v) :: rest => (spell k ++ ": " ++ spell v) :: spellEntries rest

end

def plainText : Value → String
  | str s => s
  | date d => d.isoText
  | dateTime t => t.isoText " "
  | opaqueNode label => "*" ++ label ++ "*"
  | v => v.spell

/-- Whether a spelling would have to hold an integer that is too long. -/
def isOverlong : Value → Bool :=
  anyLeaf fun leaf =>
    match leaf with
    | int i => RichTemplate.isOverlong i
    | _ => false

end Value

end RichTemplate
