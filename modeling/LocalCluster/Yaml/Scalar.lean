import LocalCluster.Yaml.Value
import LocalCluster.Net.Address
import LocalCluster.Text.Cut

/-!
# Plain scalars

What a text without quotes stands for: nothing, a truth value, a whole number, a number with a
fraction, or itself.

* `readNull`, `readBool`, `readInteger`, `readFloat`: the scalars of one kind.
* `resolve`: what a plain text stands for; whole numbers beyond 64 bits are refused.
* `readsAsText`: the plain text stands for itself, so it needs no quotes.
-/

namespace LocalCluster.Yaml

open LocalCluster.Net (hexValue)
open LocalCluster.Text

/-- The text spells that there is no value. -/
def readNull (cs : List Char) : Bool :=
  ["null", "Null", "NULL", "~"].any (·.toList == cs)

/-- The truth value that a text spells. -/
def readBool (cs : List Char) : Option Bool :=
  if ["true", "True", "TRUE"].any (·.toList == cs) then some true
  else if ["false", "False", "FALSE"].any (·.toList == cs) then some false
  else none

/-! ## Whole numbers -/

/-- The value of a digit in a base up to sixteen. -/
def digitIn (base : Nat) (c : Char) : Option Nat :=
  match hexValue c with
  | some d => if d < base then some d else none
  | none => none

/-- The number that a nonempty run of digits spells in a base. -/
def readInBase (base : Nat) (cs : List Char) : Option Nat :=
  if cs.isEmpty then none
  else (cs.mapM (digitIn base)).map fun ds => ds.foldl (fun n d => base * n + d) 0

/-- The text begins with a sign. -/
def signed : List Char → Bool
  | c :: _ => c == '+' || c == '-'
  | [] => false

/-- The digits, after an optional sign, begin with a zero that is not the only one of them. Such a
text is no number. -/
def hasLeadingZero (cs : List Char) : Bool :=
  let body := match cs with
    | c :: rest => if c == '+' || c == '-' then rest else cs
    | [] => []
  1 < body.length && body.head? == some '0' && body.all Char.isDigit

/-- The bases that a number may name, with the letters that name them. -/
def namedBases : List (Char × Nat) := [('x', 16), ('o', 8), ('b', 2)]

/-- The number up to a limit that is spelled after a base's name. -/
def readNamed (limit : Nat) (cs : List Char) : Option Nat :=
  namedBases.findSome? fun (letter, base) =>
    match stripPrefix ['0', letter] cs with
    | some rest => (readInBase base rest).bind fun n => if n ≤ limit then some n else none
    | none => none

/-- The number up to a limit that a text spells without a minus sign. -/
def readUnsigned (limit : Nat) (cs : List Char) : Option Nat :=
  let body := (stripPrefix ['+'] cs).getD cs
  match readNamed limit body with
  | some n => some n
  | none =>
    if signed body || hasLeadingZero cs then none
    else (readInBase 10 body).bind fun n => if n ≤ limit then some n else none

/-- The absolute value, up to a limit, of the number that a text spells after a minus sign. -/
def readNegative (limit : Nat) (cs : List Char) : Option Nat :=
  match cs with
  | '-' :: body =>
    match readNamed limit body with
    | some n => some n
    | none =>
      if hasLeadingZero cs then none
      else (readInBase 10 body).bind fun n => if n ≤ limit then some n else none
  | _ => none

/-- A whole number, or one that is too large to hold. -/
inductive Whole where
  | fits (n : Int)
  | tooLarge
  deriving DecidableEq, Repr

/-- The whole number that a text spells, in 64 bits or, too large to hold, in 128. -/
def readInteger (cs : List Char) : Option Whole :=
  match readUnsigned (1 <<< 64 - 1) cs with
  | some n => some (.fits n)
  | none =>
    match readNegative (1 <<< 63) cs with
    | some n => some (.fits (-n))
    | none =>
      if (readUnsigned (1 <<< 128 - 1) cs).isSome || (readNegative (1 <<< 127) cs).isSome then
        some .tooLarge
      else none

/-! ## Numbers with a fraction -/

/-- Digits, a point and an exponent as parts of a decimal number, without its sign. -/
def readDecimal (negative : Bool) (cs : List Char) : Option Binary64 :=
  let whole := cs.takeWhile Char.isDigit
  let rest := cs.drop whole.length
  let (fraction, rest) := match rest with
    | '.' :: r => (r.takeWhile Char.isDigit, r.dropWhile Char.isDigit)
    | r => ([], r)
  if whole.isEmpty && fraction.isEmpty then none
  else
    let mantissa := digitsValue (whole ++ fraction)
    let shift : Int := fraction.length
    match rest with
    | [] => some (.ofDecimal negative mantissa (-shift))
    | e :: r =>
      if e == 'e' || e == 'E' then
        let (minus, ds) := match r with
          | '+' :: ds => (false, ds)
          | '-' :: ds => (true, ds)
          | ds => (false, ds)
        if ds.isEmpty || ! ds.all Char.isDigit then none
        else
          let n : Int := digitsValue ds
          some (.ofDecimal negative mantissa ((if minus then -n else n) - shift))
      else none

/-- The number with a fraction that a text spells; what overflows is none. -/
def readFloat (cs : List Char) : Option Binary64 :=
  let positive := stripPrefix ['+'] cs
  if (positive.map signed).getD false then none
  else
    let body := positive.getD cs
    if [".inf", ".Inf", ".INF"].any (·.toList == body) then some (.infinite false)
    else if ["-.inf", "-.Inf", "-.INF"].any (·.toList == cs) then some (.infinite true)
    else if [".nan", ".NaN", ".NAN"].any (·.toList == cs) then some .nan
    else
      let read := match body with
        | '-' :: r => readDecimal true r
        | r => readDecimal false r
      read.bind fun x => if x.isFinite then some x else none

/-! ## Resolution -/

/-- What a plain text stands for, or `none` for a whole number that is too large to hold. -/
def resolve (cs : List Char) : Option Value :=
  if cs.isEmpty || readNull cs then some .null
  else match readBool cs with
    | some b => some (.bool b)
    | none =>
      match readInteger cs with
      | some (.fits n) => some (.integer n)
      | some .tooLarge => none
      | none =>
        let text := Value.string (String.ofList cs)
        if hasLeadingZero cs then some text
        else match readFloat cs with
          | some x => some (.float x)
          | none => some text

/-- A plain text stands for itself and does not look like a number with a leading zero. -/
def readsAsText (cs : List Char) : Bool :=
  match resolve cs with
  | some (.string _) => ! hasLeadingZero cs
  | _ => false

end LocalCluster.Yaml
