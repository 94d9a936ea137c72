import LocalCluster.Json.Value
import LocalCluster.Net.Address

/-!
# Reading JSON text

The grammar of JSON, on lists of characters. A reader takes the characters of one construct off the
front of its input and returns the rest. The first argument of the recursive readers bounds their
depth; the length of the input is enough.

* `Json.readString`: a string after its opening quote.
* `Json.readNumber`: the spelling of a number.
* `Json.parse?`: the value that a text is.
-/

namespace LocalCluster.Json

open LocalCluster.Net (hexValue)

/-- White space between the parts of a value. -/
def isSpace (c : Char) : Bool := c == ' ' || c == '\t' || c == '\n' || c == '\r'

/-- The input without white space at its front. -/
def skipSpace (cs : List Char) : List Char := cs.dropWhile isSpace

/-! ## Strings -/

/-- The number that four hexadecimal digits spell, and the rest. -/
def readHex4 : List Char → Option (Nat × List Char)
  | a :: b :: c :: d :: rest => do
    let digits ← [a, b, c, d].mapM hexValue
    return (digits.foldl (fun n d => 16 * n + d) 0, rest)
  | _ => none

/-- The code that one character after a backslash stands for. -/
def simpleEscape? : Char → Option Nat
  | '"' => some 0x22
  | '\\' => some 0x5C
  | '/' => some 0x2F
  | 'b' => some 0x08
  | 'f' => some 0x0C
  | 'n' => some 0x0A
  | 'r' => some 0x0D
  | 't' => some 0x09
  | _ => none

/-- The codes up to the closing quote, halves of surrogate pairs among them, and the rest. -/
def readCodes : Nat → List Char → Option (List Nat × List Char)
  | 0, _ => none
  | _, [] => none
  | fuel + 1, c :: cs =>
    if c == '"' then some ([], cs)
    else if c == '\\' then
      match cs with
      | 'u' :: rest => do
        let (n, rest) ← readHex4 rest
        let (ns, rest) ← readCodes fuel rest
        return (n :: ns, rest)
      | e :: rest => do
        let n ← simpleEscape? e
        let (ns, rest) ← readCodes fuel rest
        return (n :: ns, rest)
      | [] => none
    else if c.toNat < 0x20 then none
    else do
      let (ns, rest) ← readCodes fuel cs
      return (c.toNat :: ns, rest)

/-- The first half of a surrogate pair. -/
def isHigh (n : Nat) : Bool := 0xD800 ≤ n && n ≤ 0xDBFF

/-- The second half of a surrogate pair. -/
def isLow (n : Nat) : Bool := 0xDC00 ≤ n && n ≤ 0xDFFF

/-- The characters of codes in which halves of surrogate pairs are joined, if none is left over. -/
def joinPairs : List Nat → Option (List Char)
  | [] => some []
  | n :: ns =>
    if isHigh n then
      match ns with
      | m :: rest =>
        if isLow m then
          (joinPairs rest).map
            (Char.ofNat (0x10000 + (n - 0xD800) * 0x400 + (m - 0xDC00)) :: ·)
        else none
      | [] => none
    else if isLow n then none
    else (joinPairs ns).map (Char.ofNat n :: ·)

/-- A string after its opening quote: its text, if it is one, and the rest. -/
def readString (cs : List Char) : Option (Option String × List Char) := do
  let (codes, rest) ← readCodes cs.length cs
  return ((joinPairs codes).map String.ofList, rest)

/-! ## Numbers -/

/-- A run of one or more digits, and the rest. -/
def readDigitRun (cs : List Char) : Option (List Char × List Char) :=
  let ds := cs.takeWhile Char.isDigit
  if ds.isEmpty then none else some (ds, cs.drop ds.length)

/-- The whole part of a number: no zero stands in front of other digits. -/
def readWhole (cs : List Char) : Option (List Char × List Char) := do
  let (ds, rest) ← readDigitRun cs
  match ds with
  | '0' :: _ :: _ => none
  | _ => some (ds, rest)

/-- The fraction of a number, if it has one. -/
def readFraction : List Char → Option (List Char × List Char)
  | '.' :: rest => (readDigitRun rest).map fun (ds, r) => ('.' :: ds, r)
  | cs => some ([], cs)

/-- The exponent of a number, if it has one. -/
def readExponent : List Char → Option (List Char × List Char)
  | e :: rest =>
    if e == 'e' || e == 'E' then
      match rest with
      | s :: more =>
        if s == '+' || s == '-' then (readDigitRun more).map fun (ds, r) => (e :: s :: ds, r)
        else (readDigitRun rest).map fun (ds, r) => (e :: ds, r)
      | [] => none
    else some ([], e :: rest)
  | [] => some ([], [])

/-- The spelling of a number, and the rest. -/
def readNumber (cs : List Char) : Option (List Char × List Char) := do
  let (sign, body) := match cs with
    | '-' :: rest => (['-'], rest)
    | _ => ([], cs)
  let (whole, rest) ← readWhole body
  let (fraction, rest) ← readFraction rest
  let (exponent, rest) ← readExponent rest
  return (sign ++ whole ++ fraction ++ exponent, rest)

/-! ## Values -/

/-- An object of members some of whose names may be no text. -/
def ofMembers (members : List (Option String × Json)) : Json :=
  match members.mapM fun (name, value) => name.map (·, value) with
  | some named => .object named
  | none => .undecodable

mutual

/-- A value, and the rest. -/
def readValue : Nat → List Char → Option (Json × List Char)
  | 0, _ => none
  | fuel + 1, cs =>
    match skipSpace cs with
    | 'n' :: 'u' :: 'l' :: 'l' :: rest => some (.null, rest)
    | 't' :: 'r' :: 'u' :: 'e' :: rest => some (.bool true, rest)
    | 'f' :: 'a' :: 'l' :: 's' :: 'e' :: rest => some (.bool false, rest)
    | '"' :: rest => (readString rest).map fun (s, r) => (s.elim .undecodable .string, r)
    | '[' :: rest =>
      match skipSpace rest with
      | ']' :: r => some (.array [], r)
      | r => (readItems fuel r).map fun (items, r) => (.array items, r)
    | '\x7b' :: rest =>
      match skipSpace rest with
      | '\x7d' :: r => some (.object [], r)
      | r => (readMembers fuel r).map fun (members, r) => (ofMembers members, r)
    | cs => (readNumber cs).map fun (spelling, r) => (.number (String.ofList spelling), r)

/-- The elements of an array up to its closing bracket, and the rest. -/
def readItems : Nat → List Char → Option (List Json × List Char)
  | 0, _ => none
  | fuel + 1, cs => do
    let (item, rest) ← readValue fuel cs
    match skipSpace rest with
    | ',' :: r =>
      let (items, r) ← readItems fuel r
      return (item :: items, r)
    | ']' :: r => return ([item], r)
    | _ => none

/-- The members of an object up to its closing brace, and the rest. -/
def readMembers : Nat → List Char → Option (List (Option String × Json) × List Char)
  | 0, _ => none
  | fuel + 1, cs => do
    match skipSpace cs with
    | '"' :: rest =>
      let (name, rest) ← readString rest
      match skipSpace rest with
      | ':' :: rest =>
        let (value, rest) ← readValue fuel rest
        match skipSpace rest with
        | ',' :: r =>
          let (members, r) ← readMembers fuel r
          return ((name, value) :: members, r)
        | '\x7d' :: r => return ([(name, value)], r)
        | _ => none
      | _ => none
    | _ => none

end

/-- What is said of a text that is not the value it should be. -/
def unreadableMessage : String := "malformed"

/-- The value that a text is. -/
def parse? (s : String) : Option Json := do
  let cs := s.toList
  let (value, rest) ← readValue (cs.length + 1) cs
  if (skipSpace rest).isEmpty then some value else none

end LocalCluster.Json
