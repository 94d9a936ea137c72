import LocalCluster.Cluster.Fault
import LocalCluster.Text.Numeral

/-!
# Kubernetes versions

A version is three numbers of 32 bits. Its text may have blanks around it, any number of `v` in
front, and after the third number further numbers or a suffix that begins with `-` or `+`; only the
first three numbers count.

* `Version.core`: what remains of a text without the parts that do not count.
* `Version.parse?`, `Version.read`: the version of a text.
* `Version.display`: its text; `Version.olderThan`: order by major and minor number.
-/

namespace LocalCluster.Cluster

open LocalCluster.Text

/-- The numbers of a release. -/
structure Version where
  major : UInt32
  minor : UInt32
  patch : UInt32
  deriving DecidableEq, Repr

namespace Version

/-- The largest number in a version. -/
def maxNumber : Nat := 4294967295

/-- The character begins a suffix that does not count. -/
def beginsSuffix (c : Char) : Bool := c == '-' || c == '+'

/-- The text without blanks around it, without any `v` in front and without a suffix. -/
def core (s : String) : List Char :=
  ((trimChars s.toList).dropWhile (· == 'v')).takeWhile (! beginsSuffix ·)

/-- The number that digits stand for, if it has 32 bits. Other numerals may have a plus sign before
them; in a version it begins a suffix, so that no core has one. -/
def readNumber (digits : List Char) : Option UInt32 :=
  (readDigits maxNumber digits).map UInt32.ofNat

/-- The version of a text. -/
def parse? (s : String) : Option Version :=
  match (core s).splitOn '.' with
  | a :: b :: c :: _ => do return ⟨← readNumber a, ← readNumber b, ← readNumber c⟩
  | _ => none

/-- The version of a text, or the fault that it has none. -/
def read (s : String) : Except Fault Version :=
  match parse? s with
  | some v => .ok v
  | none => .error (.validation ("invalid Kubernetes version " ++ quote s))

/-- The text of a version. -/
def display (v : Version) : String :=
  "v" ++ toString v.major.toNat ++ "." ++ toString v.minor.toNat ++ "." ++ toString v.patch.toNat

/-- The version is older than `major.minor`. -/
def olderThan (v : Version) (major minor : UInt32) : Bool :=
  v.major < major || (v.major == major && v.minor < minor)

/-- The order of versions: by major, then minor, then patch number. -/
def compare (v w : Version) : Ordering :=
  (Ord.compare v.major w.major).then ((Ord.compare v.minor w.minor).then
    (Ord.compare v.patch w.patch))

end Version

end LocalCluster.Cluster
