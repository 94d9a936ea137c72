import LocalCluster.Text.Cut
import LocalCluster.Work.Program

/-!
# Bootstrap tokens

A node proves with a token that it may join: six characters, a point and sixteen characters, each a
small letter or a digit.

* `Token.ofNat`: the token of a random number; **`isWellFormed_ofNat`**.
* `Token.fresh`: a token from the random numbers of the host.
-/

namespace LocalCluster.Cluster.Token

open LocalCluster.Text

/-- The hexadecimal digit of a number below sixteen. -/
def hexDigit (n : Nat) : Char := Nat.digitChar (n % 16)

/-- The last `k` hexadecimal digits of a number. -/
def hexDigits : Nat → Nat → List Char
  | 0, _ => []
  | k + 1, n => hexDigits k (n / 16) ++ [hexDigit n]

/-- The token of a random number. -/
def ofNat (n : Nat) : String :=
  String.ofList (hexDigits 6 (n >>> 64) ++ '.' :: hexDigits 16 n)

/-- The character may stand in a token. -/
def isTokenChar (c : Char) : Bool := ('a' ≤ c && c ≤ 'z') || ('0' ≤ c && c ≤ '9')

/-- The text is a token. -/
def isWellFormed (s : String) : Bool :=
  match cutLast '.' s.toList with
  | some (a, b) => a.length == 6 && b.length == 16 && a.all isTokenChar && b.all isTokenChar
  | none => false

/-- A token from the random numbers of the host. -/
def fresh : Routine String := do
  return ofNat (← draw)

/-! ## Laws -/

theorem length_hexDigits (k n : Nat) : (hexDigits k n).length = k := by
  induction k generalizing n with
  | zero => rfl
  | succ k ih => simp [hexDigits, ih]

theorem isTokenChar_hexDigit (n : Nat) : isTokenChar (hexDigit n) = true := by
  have all : ∀ d < 16, isTokenChar (Nat.digitChar d) = true := by decide
  exact all (n % 16) (Nat.mod_lt n (by decide))

theorem all_hexDigits (k n : Nat) : (hexDigits k n).all isTokenChar = true := by
  induction k generalizing n with
  | zero => rfl
  | succ k ih => simp [hexDigits, ih, isTokenChar_hexDigit]

/-- Every random number becomes a token. -/
theorem isWellFormed_ofNat (n : Nat) : isWellFormed (ofNat n) = true := by
  have hpoint : '.' ∉ hexDigits 16 n := fun hmem =>
    absurd (List.all_eq_true.1 (all_hexDigits 16 n) '.' hmem) (by decide)
  simp [isWellFormed, ofNat, cutLast_append '.' _ _ hpoint, length_hexDigits, all_hexDigits]

end LocalCluster.Cluster.Token
