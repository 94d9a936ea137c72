/-!
# Binary floating point numbers

Numbers `m · 2 ^ e` with a mantissa below `2 ^ 53`, in exact natural arithmetic.

* `Binary64`: the numbers of double precision.
* `ratioAt`: a quotient scaled by a power of two, as a numerator and a denominator.
* `roundHalfEven`: the nearest natural number to a quotient.
* `Binary64.ofDecimal`: the number nearest to `digits · 10 ^ exponent`; ties go to even mantissas.
-/

namespace LocalCluster

/-- A number of double precision. In a finite one the mantissa has 53 bits, or fewer where the
exponent is least. -/
inductive Binary64 where
  | nan
  | infinite (negative : Bool)
  | finite (negative : Bool) (mantissa : Nat) (exponent : Int)
  deriving DecidableEq, Repr

namespace Binary64

/-- The bits of a mantissa. -/
def precision : Nat := 53

/-- The least exponent. -/
def minExponent : Int := -1074

/-- The greatest exponent. -/
def maxExponent : Int := 971

/-- The natural number nearest to `num / den`; a half goes to the even neighbour. -/
def roundHalfEven (num den : Nat) : Nat :=
  let q := num / den
  let r := num % den
  if 2 * r < den then q
  else if 2 * r > den then q + 1
  else if q % 2 = 0 then q else q + 1

/-- The quotient `num / (den · 2 ^ e)` as a numerator and a denominator. -/
def ratioAt (num den : Nat) (e : Int) : Nat × Nat :=
  if 0 ≤ e then (num, den <<< e.toNat) else (num <<< (-e).toNat, den)

/-- The exponent at which the quotient of positive numbers has a mantissa of 53 bits. -/
def exponentFor (num den : Nat) : Int :=
  let guess : Int := (Nat.log2 num : Int) - (Nat.log2 den : Int) - 52
  let (n, d) := ratioAt num den guess
  if n / d < 1 <<< 52 then guess - 1 else guess

/-- The number nearest to a quotient of positive numbers. -/
def ofRatio (negative : Bool) (num den : Nat) : Binary64 :=
  let e := max (exponentFor num den) minExponent
  let (n, d) := ratioAt num den e
  let m := roundHalfEven n d
  let (m, e) := if m = 1 <<< precision then (1 <<< 52, e + 1) else (m, e)
  if e > maxExponent then .infinite negative else .finite negative m e

/-- How many decimal digits a number has. -/
def digitCount (n : Nat) : Nat := (Nat.toDigits 10 n).length

/-- The number nearest to `digits · 10 ^ exponent`. -/
def ofDecimal (negative : Bool) (digits : Nat) (exponent : Int) : Binary64 :=
  if digits = 0 then .finite negative 0 minExponent
  else
    let magnitude : Int := digitCount digits + exponent
    if magnitude > 310 then .infinite negative
    else if magnitude < -330 then .finite negative 0 minExponent
    else if 0 ≤ exponent then ofRatio negative (digits * Nat.pow 10 exponent.toNat) 1
    else ofRatio negative digits (Nat.pow 10 (-exponent).toNat)

/-- The number is neither infinite nor undefined. -/
def isFinite : Binary64 → Bool
  | .finite .. => true
  | _ => false

/-- Two numbers are the same number: zeros of both signs are, and so are undefined ones. -/
def same : Binary64 → Binary64 → Bool
  | .finite _ 0 _, .finite _ 0 _ => true
  | x, y => x == y

end Binary64

end LocalCluster
