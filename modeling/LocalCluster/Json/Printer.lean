import LocalCluster.Json.Value
import LocalCluster.Text.Cut

/-!
# Printing JSON

A value is printed on one line without blanks; control characters are written by their number.

* `Json.print`.
-/

namespace LocalCluster.Json

open LocalCluster.Text

/-- A character as it stands in a string. -/
def printChar (c : Char) : List Char :=
  if c == '"' then ['\\', '"']
  else if c == '\\' then ['\\', '\\']
  else if c.toNat < 32 then
    ['\\', 'u', '0', '0', Nat.digitChar (c.toNat / 16), Nat.digitChar (c.toNat % 16)]
  else [c]

/-- A text as a string. -/
def printString (s : String) : String :=
  String.ofList ('"' :: s.toList.flatMap printChar ++ ['"'])

mutual

/-- The text of a value; what is no text is written as null. -/
def print : Json → String
  | .null | .undecodable => "null"
  | .bool b => if b then "true" else "false"
  | .number spelling => spelling
  | .string s => printString s
  | .array items => "[" ++ join "," (printItems items) ++ "]"
  | .object members => "\x7b" ++ join "," (printMembers members) ++ "\x7d"

/-- The texts of items. -/
def printItems : List Json → List String
  | [] => []
  | item :: rest => item.print :: printItems rest

/-- The texts of members. -/
def printMembers : List (String × Json) → List String
  | [] => []
  | (name, value) :: rest => (printString name ++ ":" ++ value.print) :: printMembers rest

end

end LocalCluster.Json
