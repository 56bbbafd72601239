/-!
# Double-precision numbers

A number is the word that encodes it. Arithmetic is exact on naturals and rounded once, to the
nearest number with ties to the even significand, so nothing here depends on the machine.
-/

namespace RichTemplate

/-- A double-precision number, as its 64-bit encoding. -/
structure Binary64 where
  bits : UInt64
deriving DecidableEq, Inhabited, Repr

namespace Binary64

/-- What an encoding stands for: `significand * 2 ^ exponent` with a sign, an infinity, or no
number. -/
inductive Meaning where
  | finite (negative : Bool) (significand : Nat) (exponent : Int)
  | infinite (negative : Bool)
  | notANumber
deriving DecidableEq, Repr

def isNegative (x : Binary64) : Bool :=
  Nat.pow 2 63 ≤ x.bits.toNat

def meaning (x : Binary64) : Meaning :=
  let magnitude := x.bits.toNat % Nat.pow 2 63
  let biased : Nat := magnitude / Nat.pow 2 52
  let fraction := magnitude % Nat.pow 2 52
  if biased = 2047 then
    if fraction = 0 then .infinite x.isNegative else .notANumber
  else if biased = 0 then .finite x.isNegative fraction (-1074)
  else .finite x.isNegative (Nat.pow 2 52 + fraction) ((biased : Int) - 1075)

def ofMagnitude (negative : Bool) (magnitude : Nat) : Binary64 :=
  ⟨(if negative then Nat.pow 2 63 + magnitude else magnitude).toUInt64⟩

def infinity (negative : Bool) : Binary64 := ofMagnitude negative (2047 * Nat.pow 2 52)

def zero (negative : Bool) : Binary64 := ofMagnitude negative 0

def nan : Binary64 := ofMagnitude false (2047 * Nat.pow 2 52 + Nat.pow 2 51)

def neg (x : Binary64) : Binary64 :=
  match x.meaning with
  | .notANumber => x
  | _ => ofMagnitude (!x.isNegative) (x.bits.toNat % Nat.pow 2 63)

/-- The integer nearest to a quotient, the even one of two. -/
def roundQuotient (num den : Nat) : Nat :=
  let q := num / den
  let r := num % den
  if 2 * r < den then q
  else if den < 2 * r then q + 1
  else if q % 2 = 0 then q else q + 1

def scaleDown (num den : Nat) (exponent : Int) : Nat × Nat :=
  if 0 ≤ exponent then (num, den * Nat.pow 2 exponent.toNat)
  else (num * Nat.pow 2 (-exponent).toNat, den)

/-- The exponent at which the significand of a positive quotient has 53 bits, or the least exponent
there is. -/
def gridExponent (num den : Nat) : Int :=
  let guess : Int := max (-1074) ((Nat.log2 num : Int) - (Nat.log2 den : Int) - 53)
  let scaled := scaleDown num den guess
  if Nat.pow 2 53 ≤ scaled.1 / scaled.2 then guess + 1 else guess

/-- The number nearest to `num / den`; the magnitudes beyond the largest number become infinite. -/
def ofQuotient (negative : Bool) (num den : Nat) : Binary64 :=
  if num = 0 then zero negative
  else
    let exponent := gridExponent num den
    let scaled := scaleDown num den exponent
    let significand := roundQuotient scaled.1 scaled.2
    let magnitude := (exponent + 1074).toNat * Nat.pow 2 52 + significand
    if 2047 * Nat.pow 2 52 ≤ magnitude then infinity negative else ofMagnitude negative magnitude

/-- The number nearest to `digits * 10 ^ exponent`. Exponents far outside the range give zero or
infinity at once, so no huge power is formed. -/
def ofDecimal (negative : Bool) (digits : Nat) (exponent : Int) : Binary64 :=
  if digits = 0 then zero negative
  else
    let top := (Nat.log2 digits : Int) / 4 + exponent
    if 400 < top then infinity negative
    else if exponent + (Nat.log2 digits : Int) < -400 then zero negative
    else if 0 ≤ exponent then ofQuotient negative (digits * Nat.pow 10 exponent.toNat) 1
    else ofQuotient negative digits (Nat.pow 10 (-exponent).toNat)

def ofInt (i : Int) : Binary64 :=
  ofQuotient (i < 0) i.natAbs 1

/-- The number nearest to `n * 2 ^ exponent`. -/
def ofScaled (n : Int) (exponent : Int) : Binary64 :=
  if 0 ≤ exponent then ofQuotient (n < 0) (n.natAbs * Nat.pow 2 exponent.toNat) 1
  else ofQuotient (n < 0) n.natAbs (Nat.pow 2 (-exponent).toNat)

def signed (negative : Bool) (n : Nat) : Int :=
  if negative then -(n : Int) else n

def mul (x y : Binary64) : Binary64 :=
  let negative := x.isNegative != y.isNegative
  match x.meaning, y.meaning with
  | .notANumber, _ => nan
  | _, .notANumber => nan
  | .infinite _, .finite _ 0 _ => nan
  | .finite _ 0 _, .infinite _ => nan
  | .infinite _, _ => infinity negative
  | _, .infinite _ => infinity negative
  | .finite _ m e, .finite _ n f =>
    if m * n = 0 then zero negative else ofScaled (signed negative (m * n)) (e + f)

/-- The rounded sum; a sum that cancels out is positive unless both terms are negative. -/
def add (x y : Binary64) : Binary64 :=
  match x.meaning, y.meaning with
  | .notANumber, _ => nan
  | _, .notANumber => nan
  | .infinite a, .infinite b => if a = b then infinity a else nan
  | .infinite a, _ => infinity a
  | _, .infinite b => infinity b
  | .finite a m e, .finite b n f =>
    let low := min e f
    let sum := signed a (m * Nat.pow 2 (e - low).toNat) + signed b (n * Nat.pow 2 (f - low).toNat)
    if sum = 0 then zero (a && b) else ofScaled sum low

/-- Whether two numbers are equal: both zeros are, and no number equals what is not a number. -/
def eq (x y : Binary64) : Bool :=
  match x.meaning, y.meaning with
  | .notANumber, _ => false
  | _, .notANumber => false
  | .finite _ 0 _, .finite _ 0 _ => true
  | _, _ => x.bits == y.bits

def eqInt (x : Binary64) (i : Int) : Bool :=
  match x.meaning with
  | .finite a m e =>
    if 0 ≤ e then signed a (m * Nat.pow 2 e.toNat) == i
    else signed a m == i * (Nat.pow 2 (-e).toNat : Nat)
  | _ => false

end Binary64

end RichTemplate
