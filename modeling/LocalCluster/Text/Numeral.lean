/-!
# Decimal numerals

Natural numbers as decimal digits.

* `digitsValue`: the number that digits stand for.
* `readNat`: a numeral up to a limit, with an optional plus sign; leading zeros are allowed.
* `maxPort`: the largest number of sixteen bits, which bounds a port.
-/

namespace LocalCluster.Text

/-- The value of a decimal digit. -/
def digitValue (c : Char) : Nat := c.toNat - '0'.toNat

/-- The number that decimal digits stand for. -/
def digitsValue (ds : List Char) : Nat := ds.foldl (fun n d => 10 * n + digitValue d) 0

/-- The number written by a nonempty run of decimal digits, if it is at most `limit`. -/
def readDigits (limit : Nat) (ds : List Char) : Option Nat :=
  if ds.isEmpty then none
  else if ds.all Char.isDigit then
    let n := digitsValue ds
    if n ≤ limit then some n else none
  else none

/-- A decimal numeral up to `limit`; one plus sign may stand before it. -/
def readNat (limit : Nat) (s : String) : Option Nat :=
  match s.toList with
  | '+' :: ds => readDigits limit ds
  | ds => readDigits limit ds

/-- The largest port, and the largest number of sixteen bits. -/
def maxPort : Nat := 65535

end LocalCluster.Text
