import RichTemplate.Number.Shortest

/-!
# The spelling of numbers

A double-precision number is written with the fewest digits that read back, positionally for
exponents from -4 to 15 and with an exponent otherwise. A whole number keeps its `.0`, and an
exponent has a sign and at least two digits.
-/

namespace RichTemplate

namespace Decimal

/-- The exponent of an exponent form: a sign and at least two digits. -/
def exponentPart (e : Int) : List Char :=
  let digits := Nat.toDigits 10 e.natAbs
  'e' :: (if e < 0 then '-' else '+') :: (if digits.length < 2 then '0' :: digits else digits)

def spell (d : Decimal) : List Char :=
  let digits := Nat.toDigits 10 d.digits
  let leading : Int := d.exponent + digits.length - 1
  if leading < -4 ∨ 16 ≤ leading then
    match digits with
    | [] => []
    | [c] => c :: exponentPart leading
    | c :: rest => c :: '.' :: rest ++ exponentPart leading
  else if leading < 0 then
    '0' :: '.' :: List.replicate (-leading - 1).toNat '0' ++ digits
  else
    let whole := leading.toNat + 1
    let padded := digits ++ List.replicate (whole - digits.length) '0'
    let fraction := padded.drop whole
    padded.take whole ++ '.' :: (if fraction.isEmpty then ['0'] else fraction)

end Decimal

namespace Binary64

def spell (x : Binary64) : String :=
  match x.meaning with
  | .notANumber => "nan"
  | .infinite negative => if negative then "-inf" else "inf"
  | .finite negative significand exponent =>
    let magnitude :=
      if significand = 0 then ['0', '.', '0']
      else (Shortest.ofMagnitude significand exponent).spell
    String.ofList (if negative then '-' :: magnitude else magnitude)

end Binary64

end RichTemplate
