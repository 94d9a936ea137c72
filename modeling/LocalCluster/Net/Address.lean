import LocalCluster.Text.Cut
import LocalCluster.Text.Numeral

/-!
# Internet addresses

Addresses of both families and their text. Version 4 is four decimal octets without leading zeros.
Version 6 is eight groups of up to four hexadecimal digits, of which `::` leaves out one or more
that are zero and the last two may be written as a version 4 address.

* `Address.parse?`: reads either family.
* `Address.display`: the canonical text; the longest run of two or more zero groups is left out.
* `bracketHost`: a host as it stands before a port, with brackets around version 6.
-/

namespace LocalCluster.Net

open LocalCluster.Text

/-- An address of either family. -/
inductive Address where
  /-- Four octets. -/
  | v4 (octets : List Nat)
  /-- Eight groups of sixteen bits. -/
  | v6 (groups : List Nat)
  deriving DecidableEq, Repr

/-! ## Reading -/

/-- The value of a hexadecimal digit. -/
def hexValue (c : Char) : Option Nat :=
  if c.isDigit then some (digitValue c)
  else if 'a' ≤ c && c ≤ 'f' then some (c.toNat - 'a'.toNat + 10)
  else if 'A' ≤ c && c ≤ 'F' then some (c.toNat - 'A'.toNat + 10)
  else none

/-- The character is a hexadecimal digit. -/
def isHex (c : Char) : Bool := (hexValue c).isSome

/-- One octet of a version 4 address, and what follows it. -/
def readOctet (cs : List Char) : Option (Nat × List Char) :=
  let ds := cs.takeWhile Char.isDigit
  if ds.length == 0 || ds.length > 3 then none
  else if ds.head? == some '0' && ds.length > 1 then none
  else if digitsValue ds > 255 then none
  else some (digitsValue ds, cs.drop ds.length)

/-- Octets with points between them: `n` of them, and what follows. -/
def readOctets : Nat → List Char → Option (List Nat × List Char)
  | 0, cs => some ([], cs)
  | 1, cs => (readOctet cs).map fun (o, rest) => ([o], rest)
  | n + 2, cs =>
    match readOctet cs with
    | some (o, '.' :: rest) => (readOctets (n + 1) rest).map fun (os, r) => (o :: os, r)
    | _ => none

/-- One group of a version 6 address, and what follows it. -/
def readGroup (cs : List Char) : Option (Nat × List Char) :=
  let ds := cs.takeWhile isHex
  if ds.length == 0 || ds.length > 4 then none
  else some (ds.foldl (fun n d => 16 * n + (hexValue d).getD 0) 0, cs.drop ds.length)

/-- The two groups that a version 4 address stands for. -/
def groupsOfOctets : List Nat → List Nat
  | [a, b, c, d] => [256 * a + b, 256 * c + d]
  | _ => []

/-- What stands after the colon that separates a group from the one before it. -/
def afterColon (first : Bool) (cs : List Char) : Option (List Char) :=
  if first then some cs
  else match cs with
    | ':' :: rest => some rest
    | _ => none

/-- At most `limit` groups: the groups, whether they end in a version 4 address, and the rest. -/
def readGroups : Nat → Bool → List Char → List Nat × Bool × List Char
  | 0, _, cs => ([], false, cs)
  | limit + 1, first, cs =>
    match afterColon first cs with
    | none => ([], false, cs)
    | some body =>
      match if limit = 0 then none else readOctets 4 body with
      | some (octets, rest) => (groupsOfOctets octets, true, rest)
      | none =>
        match readGroup body with
        | none => ([], false, cs)
        | some (g, rest) =>
          let (gs, embedded, r) := readGroups limit false rest
          (g :: gs, embedded, r)

/-- A version 6 address, and what follows it. -/
def readV6 (cs : List Char) : Option (List Nat × List Char) :=
  let (front, embedded, rest) := readGroups 8 true cs
  if front.length == 8 then some (front, rest)
  else if embedded then none
  else match rest with
    | ':' :: ':' :: rest =>
      let (back, _, rest) := readGroups (7 - front.length) true rest
      some (front ++ List.replicate (8 - front.length - back.length) 0 ++ back, rest)
    | _ => none

/-- The address that a text is. -/
def Address.parse? (s : String) : Option Address :=
  match readOctets 4 s.toList with
  | some (octets, rest) => if rest.isEmpty then some (.v4 octets) else none
  | none =>
    match readV6 s.toList with
    | some (groups, rest) => if rest.isEmpty then some (.v6 groups) else none
    | none => none

/-- The address is of version 6. -/
def Address.isV6 : Address → Bool
  | .v4 _ => false
  | .v6 _ => true

/-! ## Printing -/

/-- Octets with points between them. -/
def displayOctets (octets : List Nat) : String := join "." (octets.map toString)

/-- Groups with colons between them. -/
def displayGroups (groups : List Nat) : String :=
  join ":" (groups.map fun g => String.ofList (Nat.toDigits 16 g))

/-- The first longest run of zero groups: where it begins and its length. The arguments are the
place of the next group, the run that reaches up to it and the best run so far. -/
def longestZeros : Nat → Nat × Nat → Nat × Nat → List Nat → Nat × Nat
  | _, _, best, [] => best
  | i, (start, len), best, g :: gs =>
    if g = 0 then
      let run := if len = 0 then (i, 1) else (start, len + 1)
      longestZeros (i + 1) run (if run.2 > best.2 then run else best) gs
    else longestZeros (i + 1) (0, 0) best gs

/-- The canonical text of eight groups. -/
def displayV6 (groups : List Nat) : String :=
  match groups with
  | [0, 0, 0, 0, 0, 0xFFFF, a, b] =>
    "::ffff:" ++ displayOctets [a / 256, a % 256, b / 256, b % 256]
  | groups =>
    let (start, len) := longestZeros 0 (0, 0) (0, 0) groups
    if len > 1 then
      displayGroups (groups.take start) ++ "::" ++ displayGroups (groups.drop (start + len))
    else displayGroups groups

/-- The canonical text of an address. -/
def Address.display : Address → String
  | .v4 octets => displayOctets octets
  | .v6 groups => displayV6 groups

/-! ## Hosts -/

/-- The text is a version 6 address. -/
def isV6Text (host : String) : Bool := (Address.parse? host).any Address.isV6

/-- A host as it stands before a port: a version 6 address is put in brackets. -/
def bracketHost (host : String) : String :=
  if isV6Text host then "[" ++ host ++ "]" else host

end LocalCluster.Net
