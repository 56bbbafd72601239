import RichTemplate.Number.Read
import RichTemplate.Text.Lower
import RichTemplate.Value.Basic
import RichTemplate.Yaml.Error
import RichTemplate.Yaml.Resolution

/-!
# The values of scalars

What the text of a scalar stands for, given its kind. A kind that was selected by the form of the
text fits it, but for dates that do not exist; a kind that was given by a tag may not.
-/

namespace RichTemplate.Yaml.Scalar

def bool (text : List Char) : Except Error Value :=
  let word := String.ofList (lowerCase text)
  if ["yes", "true", "on"].contains word then .ok (.bool true)
  else if ["no", "false", "off"].contains word then .ok (.bool false)
  else .error (.unknownWord word)

/-- The digits of a number: its text without underscores. -/
def digitsOf (text : List Char) : List Char :=
  text.filter (· != '_')

/-- The digits that a decimal integer starts with, behind blanks and a sign. -/
def leadingDigits (text : List Char) : Nat :=
  (Read.decimalRun (Read.sign (trimBlanks text)).2).1.length

/-- Reads an integer in a base. A decimal one must not start with too many digits, whatever follows
them. -/
def integer (base : Nat) (text : List Char) : Except Error Int :=
  let count := leadingDigits text
  if base = 10 ∧ mostDigits < count then .error (.tooManyDigits count)
  else
    match Read.integer? base text with
    | some i => .ok i
    | none => .error (.invalidInteger base (String.ofList text))

def sexagesimal (groups : List (List Char)) : Except Error Int :=
  groups.foldlM (fun n group => do return n * 60 + (← integer 10 group)) 0

def magnitude (cs : List Char) : Except Error Int :=
  match cs with
  | ['0'] => .ok 0
  | '0' :: 'b' :: digits => integer 2 digits
  | '0' :: 'x' :: digits => integer 16 digits
  | '0' :: _ => integer 8 cs
  | [] => .error .emptyNumber
  | _ =>
    if cs.contains ':' then sexagesimal (Form.colonParts cs) else integer 10 cs

def unsigned (cs : List Char) : Bool × List Char :=
  Read.sign cs

def int (text : List Char) : Except Error Value := do
  let cs := digitsOf text
  if cs.isEmpty then .error .emptyNumber
  else
    let (negative, rest) := unsigned cs
    let n ← magnitude rest
    return .int (if negative then -n else n)

def binary64 (text : List Char) : Except Error Binary64 :=
  match Read.binary64? text with
  | some x => .ok x
  | none => .error (.invalidFloat (String.ofList text))

/-- Adds up digits from the last, each as so many units of its place. A unit must not be too large
to be a double-precision number itself. -/
def sexagesimalSum (digits : List Binary64) : Except Error Binary64 := do
  let (sum, _) ← digits.reverse.foldlM (fun (sum, unit) digit =>
    let place := Binary64.ofInt unit
    if place == Binary64.infinity false then .error .unitTooLarge
    else .ok (sum.add (digit.mul place), unit * 60)) (Binary64.zero false, (1 : Int))
  return sum

def sexagesimalFloat (groups : List (List Char)) : Except Error Binary64 := do
  sexagesimalSum (← groups.mapM binary64)

def namesNan (text : List Char) : Bool :=
  (unsigned (lowerCase (digitsOf text))).2 == ".nan".toList

def float (text : List Char) : Except Error Value := do
  let cs := lowerCase (digitsOf text)
  if cs.isEmpty then .error .emptyNumber
  else
    let (negative, rest) := unsigned cs
    let x ←
      if rest == ".inf".toList then .ok (Binary64.infinity false)
      else if rest == ".nan".toList then .ok Binary64.nan
      else if rest.contains ':' then sexagesimalFloat (Form.colonParts rest)
      else binary64 rest
    return .float (if negative then x.neg else x)

def number (digits : List Char) : Nat :=
  digits.foldl (fun n d => n * 10 + (d.toNat - '0'.toNat)) 0

/-- The microseconds of a fraction: its first six digits. -/
def microseconds (fraction : List Char) : Nat :=
  number ((fraction ++ List.replicate 6 '0').take 6)

def offset (zone : Option (Option (Char × List Char × List Char))) : Option Int :=
  zone.map fun
    | none => 0
    | some (sign, hours, minutes) =>
      let seconds : Int := number hours * 3600 + number minutes * 60
      if sign == '-' then -seconds else seconds

def timestamp (text : List Char) : Except Error Value :=
  match TimestampText.ofText? (withoutFinalBreak text) with
  | none => .error .notATimestamp
  | some t =>
    let value : Except CalendarError Value :=
      match t.clock with
      | none =>
        (Date.ofParts (number t.year) (number t.month) (number t.day)).map .date
      | some c =>
        (DateTime.ofParts (number t.year) (number t.month) (number t.day) (number c.hour)
          (number c.minute) (number c.second) (microseconds c.fraction) (offset c.zone)).map
            .dateTime
    value.mapError .calendar

def base64Digit? (c : Char) : Option Nat :=
  if 'A' ≤ c ∧ c ≤ 'Z' then some (c.toNat - 'A'.toNat)
  else if 'a' ≤ c ∧ c ≤ 'z' then some (c.toNat - 'a'.toNat + 26)
  else if c.isDigit then some (c.toNat - '0'.toNat + 52)
  else if c = '+' then some 62
  else if c = '/' then some 63
  else none

/-- Decodes base 64 behind `place` digits of a group, of which `left` holds the bits not yet used,
and `pads` marks of padding. Padding that completes a group ends the text; other characters are
skipped. A group that is not complete at the end is an error. -/
def base64 (place left pads : Nat) : List Char → Option (List UInt8)
  | [] => if place = 0 then some [] else none
  | c :: cs =>
    if c = '=' then
      if 2 ≤ place then
        if 4 ≤ place + pads + 1 then some [] else base64 place left (pads + 1) cs
      else base64 place left pads cs
    else
      match base64Digit? c with
      | none => base64 place left pads cs
      | some d =>
        if place = 0 then base64 1 d 0 cs
        else if place = 1 then (base64 2 (d % 16) 0 cs).map ((left * 4 + d / 16).toUInt8 :: ·)
        else if place = 2 then (base64 3 (d % 4) 0 cs).map ((left * 16 + d / 4).toUInt8 :: ·)
        else (base64 0 0 0 cs).map ((left * 64 + d).toUInt8 :: ·)

def binary (text : List Char) : Except Error Value :=
  if text.all fun c => c.toNat < 128 then
    match base64 0 0 0 text with
    | some bytes => .ok (.bytes bytes)
    | none => .error .malformed
  else .error .malformed

end RichTemplate.Yaml.Scalar
