import RichTemplate.Number.Binary64
import RichTemplate.Text.Digit

/-!
# Reading numbers

Integers in a given base and double-precision numbers, as a whole text with blanks around it.
-/

namespace RichTemplate

namespace Read

/-- A leading sign, as whether it is a minus, and what follows it. -/
def sign : List Char → Bool × List Char
  | '-' :: cs => (true, cs)
  | '+' :: cs => (false, cs)
  | cs => (false, cs)

def digit? (c : Char) : Option Nat :=
  if 'a' ≤ c ∧ c ≤ 'z' then some (c.toNat - 'a'.toNat + 10)
  else if 'A' ≤ c ∧ c ≤ 'Z' then some (c.toNat - 'A'.toNat + 10)
  else decimalDigit? c

def natural? (base : Nat) (cs : List Char) : Option Nat :=
  cs.foldlM (fun n c =>
    match digit? c with
    | some d => if d < base then some (n * base + d) else none
    | none => none) 0

/-- What follows the mark that a base may carry after its sign, as in `0x1f`. -/
def afterBaseMark (base : Nat) : List Char → List Char
  | '0' :: c :: cs =>
    if (base == 2 && (c == 'b' || c == 'B')) || (base == 8 && (c == 'o' || c == 'O')) ||
        (base == 16 && (c == 'x' || c == 'X')) then cs
    else '0' :: c :: cs
  | cs => cs

def integer? (base : Nat) (text : List Char) : Option Int :=
  let (negative, cs) := sign (trimBlanks text)
  let digits := afterBaseMark base cs
  if digits.isEmpty then none
  else (natural? base digits).map (Binary64.signed negative ·)

def decimalRun (cs : List Char) : List Char × List Char :=
  cs.span fun c => (decimalDigit? c).isSome

/-- The exponent part: nothing, or a mark, a sign and digits. -/
def exponent? : List Char → Option Int
  | [] => some 0
  | c :: cs =>
    if c == 'e' || c == 'E' then
      let (negative, digits) := sign cs
      if digits.isEmpty then none
      else if digits.all fun d => (decimalDigit? d).isSome then
        (natural? 10 digits).map (Binary64.signed negative ·)
      else none
    else none

/-- An unsigned decimal with an optional point and exponent, and at least one digit before it. -/
def magnitude? (negative : Bool) (cs : List Char) : Option Binary64 :=
  let (whole, rest) := decimalRun cs
  let (fraction, rest) :=
    match rest with
    | '.' :: rest => decimalRun rest
    | _ => ([], rest)
  if whole.isEmpty && fraction.isEmpty then none
  else
    match natural? 10 (whole ++ fraction), exponent? rest with
    | some digits, some e => some (Binary64.ofDecimal negative digits (e - fraction.length))
    | _, _ => none

def binary64? (text : List Char) : Option Binary64 :=
  let (negative, cs) := sign (trimBlanks text)
  let word := String.ofList (cs.map Char.toLower)
  if word == "inf" || word == "infinity" then some (Binary64.infinity negative)
  else if word == "nan" then some Binary64.nan
  else magnitude? negative cs

end Read

end RichTemplate
