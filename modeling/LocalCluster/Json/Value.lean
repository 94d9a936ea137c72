import LocalCluster.Text.Numeral

/-!
# JSON values

A value keeps the members of an object in their order and the spelling of a number, so that what
reads it decides which numbers and which repetitions it takes.

* `Json`: the values.
* `Json.slots?`: the parts of a record, from an object by name or from an array by position.
* `Json.variant?`: the name of a plain alternative.
* `Json.text?`, `Json.bool?`, `Json.natural?`, `Json.list?`: values of one kind.
-/

namespace LocalCluster

/-- A JSON value. -/
inductive Json where
  | null
  | bool (value : Bool)
  /-- A number as it is spelled. -/
  | number (spelling : String)
  | string (value : String)
  | array (items : List Json)
  /-- The members in order; names may repeat. -/
  | object (members : List (String × Json))
  /-- A string, or an object with a name, that holds half of a surrogate pair and so is no text. -/
  | undecodable
  deriving Repr

namespace Json

instance : Inhabited Json := ⟨.null⟩

/-- A natural number. -/
def ofNat (n : Nat) : Json := .number (toString n)

/-- The text that a value is. -/
def text? : Json → Option String
  | .string s => some s
  | _ => none

/-- The truth value that a value is. -/
def bool? : Json → Option Bool
  | .bool b => some b
  | _ => none

/-- The elements of an array, each read by `read`. -/
def list? {α : Type} (read : Json → Option α) : Json → Option (List α)
  | .array items => items.mapM read
  | _ => none

/-- The natural number up to `limit` that a value spells without point, exponent or sign. -/
def natural? (limit : Nat) : Json → Option Nat
  | .number spelling => Text.readDigits limit spelling.toList
  | _ => none

/-- The member of a name: `none` if it is repeated, `some none` if it is missing. -/
def member? (name : String) (members : List (String × Json)) : Option (Option Json) :=
  match members.filter (·.1 == name) with
  | [] => some none
  | [(_, value)] => some (some value)
  | _ => none

/-- The parts of a record with the given names. An object gives them by name, whatever else it
holds; an array gives the first of them in order. -/
def slots? (names : List String) : Json → Option (List (Option Json))
  | .object members => names.mapM (member? · members)
  | .array items =>
    if items.length ≤ names.length then
      some (items.map some ++ List.replicate (names.length - items.length) none)
    else none
  | _ => none

/-- The name of an alternative that carries nothing, alone or as the only member of an object. -/
def variant? : Json → Option String
  | .string s => some s
  | .object [(name, .null)] => some name
  | _ => none

/-- A part that must be there. -/
def required {α : Type} (read : Json → Option α) (slot : Option Json) : Option α :=
  slot.bind read

/-- A part that may be missing; `null` is not missing. -/
def optional {α : Type} (default : α) (read : Json → Option α) (slot : Option Json) : Option α :=
  match slot with
  | none => some default
  | some value => read value

end Json

end LocalCluster
