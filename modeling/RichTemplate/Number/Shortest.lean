import RichTemplate.Number.Binary64

/-!
# Shortest decimals

The decimal with the fewest digits that reads back as a given number. For 1, 2, … 17 digits the two
neighbours of the number on that decimal grid are tested in exact arithmetic; the first grid with a
neighbour that reads back wins, of two such neighbours the nearer one, and of two equally near ones
the even one.
-/

namespace RichTemplate

/-- The decimal `digits * 10 ^ exponent`. -/
structure Decimal where
  digits : Nat
  exponent : Int
deriving DecidableEq, Repr

namespace Decimal

def quotient (d : Decimal) : Nat × Nat :=
  if 0 ≤ d.exponent then (d.digits * Nat.pow 10 d.exponent.toNat, 1)
  else (d.digits, Nat.pow 10 (-d.exponent).toNat)

def trim : Nat → Decimal → Decimal
  | 0, d => d
  | fuel + 1, d =>
    if d.digits ≠ 0 ∧ d.digits % 10 = 0 then trim fuel ⟨d.digits / 10, d.exponent + 1⟩ else d

end Decimal

namespace Shortest

/-- The magnitude `significand * 2 ^ exponent` as a quotient of naturals. -/
def magnitude (significand : Nat) (exponent : Int) : Nat × Nat :=
  if 0 ≤ exponent then (significand * Nat.pow 2 exponent.toNat, 1)
  else (significand, Nat.pow 2 (-exponent).toNat)

def readsBack (significand : Nat) (exponent : Int) (d : Decimal) : Bool :=
  let q := d.quotient
  let x := magnitude significand exponent
  Binary64.ofQuotient false q.1 q.2 == Binary64.ofQuotient false x.1 x.2

/-- Starting at `guess`, the greatest exponent whose power of ten does not exceed the quotient. -/
def leadingExponent (num den : Nat) : Nat → Int → Int
  | 0, guess => guess
  | fuel + 1, guess =>
    let power := Decimal.quotient ⟨1, guess⟩
    if power.1 * den ≤ num * power.2 then guess else leadingExponent num den fuel (guess - 1)

/-- An exponent of ten at or above that of the leading digit of `num / den`. -/
def exponentAbove (num den : Nat) : Int :=
  let twos : Int := (Nat.log2 num : Int) + 1 - (Nat.log2 den : Int)
  twos * 30103 / 100000 + 1

/-- Of two decimals on one grid around the quotient, the nearer one; of two equally near ones, the
one whose last digit is even. -/
def nearer (num den : Nat) (low high : Decimal) : Decimal :=
  let sum := Decimal.quotient ⟨low.digits + high.digits, low.exponent⟩
  let twice := 2 * num * sum.2
  let middle := sum.1 * den
  if twice < middle then low
  else if middle < twice then high
  else if low.digits % 2 = 0 then low else high

/-- The grid point nearest to the magnitude that reads back, if one of the two neighbours does. -/
def onGrid? (significand : Nat) (exponent : Int) (grid : Int) : Option Decimal :=
  let x := magnitude significand exponent
  let unit := Decimal.quotient ⟨1, grid⟩
  let floor := x.1 * unit.2 / (x.2 * unit.1)
  let low : Decimal := ⟨floor, grid⟩
  let high : Decimal := ⟨floor + 1, grid⟩
  match readsBack significand exponent low, readsBack significand exponent high with
  | true, true => some (nearer x.1 x.2 low high)
  | true, false => some low
  | false, true => some high
  | false, false => none

def ofMagnitude (significand : Nat) (exponent : Int) : Decimal :=
  let x := magnitude significand exponent
  let leading := leadingExponent x.1 x.2 4 (exponentAbove x.1 x.2)
  let grids := (List.range 17).map fun (n : Nat) => leading - n
  Decimal.trim 20 ((grids.findSome? (onGrid? significand exponent)).getD ⟨0, 0⟩)

end Shortest

end RichTemplate
