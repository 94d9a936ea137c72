import LocalCluster.Decimal.Binary64

/-!
# Shortest decimals

The decimal with the fewest digits among those that round to a given number, and of those the
nearest to it.

* `Decimal`: digits and a power of ten.
* `shortest`: the decimal of `m · 2 ^ e`.
* `Layout`, `Decimal.layOut`: how a decimal is written, positionally or with an exponent.
* `Binary64.text`: the text of a number.
-/

namespace LocalCluster

/-- The number `digits · 10 ^ exponent`. -/
structure Decimal where
  digits : Nat
  exponent : Int
  deriving DecidableEq, Repr

namespace Decimal

/-- The value `num / den` in units of `10 ^ p`. -/
def inUnits (num den : Nat) (p : Int) : Nat × Nat :=
  if 0 ≤ p then (num, den * Nat.pow 10 p.toNat) else (num * Nat.pow 10 (-p).toNat, den)

/-- The power of ten of the first digit of a positive quotient. -/
def leadingPower (num den : Nat) : Int :=
  let guess : Int := (Binary64.digitCount num : Int) - (Binary64.digitCount den : Int)
  let (n, d) := inUnits num den guess
  if n < d then guess - 1 else guess

/-- The best decimal in units of `10 ^ p` between the bounds, which count if `closed`. All three
quotients are given in quarters of a unit in the last place. -/
def candidate? (closed : Bool) (low mid high : Nat) (den : Nat) (p : Int) : Option Nat :=
  let (n, d) := inUnits mid den p
  let (l, _) := inUnits low den p
  let (h, _) := inUnits high den p
  let inside (k : Nat) : Bool := if closed then l ≤ k * d && k * d ≤ h else l < k * d && k * d < h
  let below := n / d
  let above := below + 1
  let r := n % d
  match inside below, inside above with
  | true, true => if 2 * r < d || (2 * r == d && below % 2 == 0) then some below else some above
  | true, false => some below
  | false, true => some above
  | false, false => none

/-- The first decimal found with `count`, `count + 1`, … digits; `fuel` bounds their number. -/
def search (closed : Bool) (low mid high den : Nat) (lead : Int) : Nat → Int → Decimal
  | 0, _ => ⟨0, 0⟩
  | fuel + 1, count =>
    let p := lead + 1 - count
    match candidate? closed low mid high den p with
    | some k => ⟨k, p⟩
    | none => search closed low mid high den lead fuel (count + 1)

/-- A decimal without zeros at the end of its digits; `fuel` bounds their number. -/
def dropZeros : Nat → Decimal → Decimal
  | 0, x => x
  | fuel + 1, x =>
    if x.digits ≠ 0 && x.digits % 10 = 0 then dropZeros fuel ⟨x.digits / 10, x.exponent + 1⟩ else x

end Decimal

/-- The shortest decimal of `m · 2 ^ e` with `m` positive. Below a power of two the numbers lie
twice as close as above it. -/
def shortest (m : Nat) (e : Int) : Decimal :=
  let gapBelow := if m = 1 <<< 52 && e > Binary64.minExponent then 1 else 2
  let scale := if 0 ≤ e then 1 <<< e.toNat else 1
  let den := if 0 ≤ e then 4 else 4 <<< (-e).toNat
  let low := (4 * m - gapBelow) * scale
  let mid := 4 * m * scale
  let high := (4 * m + 2) * scale
  let lead := Decimal.leadingPower mid den
  Decimal.dropZeros 20 (Decimal.search (m % 2 = 0) low mid high den lead 20 1)

/-! ## Writing -/

/-- How decimals are written. -/
structure Layout where
  /-- The most digits before the point of a number written positionally. -/
  maxWhole : Int
  /-- The most zeros between the point and the first digit of one written positionally. -/
  maxZeros : Int
  /-- What a whole number written positionally ends in. -/
  wholeEnd : String
  /-- The mark of an exponent. -/
  mark : String
  deriving DecidableEq, Repr

/-- The text of a positive decimal. -/
def Decimal.layOut (style : Layout) (x : Decimal) : String :=
  let ds := Nat.toDigits 10 x.digits
  let n : Int := ds.length
  let point := n + x.exponent
  if 0 ≤ x.exponent && point ≤ style.maxWhole then
    String.ofList (ds ++ List.replicate x.exponent.toNat '0') ++ style.wholeEnd
  else if 0 < point && point ≤ style.maxWhole then
    String.ofList (ds.take point.toNat ++ '.' :: ds.drop point.toNat)
  else if -style.maxZeros ≤ point && point ≤ 0 then
    String.ofList ('0' :: '.' :: List.replicate (-point).toNat '0' ++ ds)
  else
    let fraction := match ds.drop 1 with
      | [] => []
      | rest => '.' :: rest
    String.ofList (ds.take 1 ++ fraction) ++ style.mark ++ toString (point - 1)

/-- The text of a number: positional up to sixteen digits before the point and four zeros after it,
and `.inf` and `.nan` for what is not finite. -/
def Binary64.text : Binary64 → String
  | .nan => ".nan"
  | .infinite negative => if negative then "-.inf" else ".inf"
  | .finite negative m e =>
    (if negative then "-" else "") ++
      (if m = 0 then "0.0" else (shortest m e).layOut ⟨16, 4, ".0", "e"⟩)

end LocalCluster
