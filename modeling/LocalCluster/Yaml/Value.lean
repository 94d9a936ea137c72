import LocalCluster.Decimal.Shortest

/-!
# YAML values

* `Value`: the values that documents hold. Mappings keep their entries in order.
* `Value.same`: equality of values; the order of entries does not count in it.
* `Value.bare`: the value without the tags around it; what looks into a value looks through tags.
* `Value.entry?`, `insertEntry`: the entry of a text key, and a mapping with it set.
-/

namespace LocalCluster.Yaml

/-- A YAML value. -/
inductive Value where
  | null
  | bool (value : Bool)
  | integer (value : Int)
  | float (value : Binary64)
  | string (value : String)
  | sequence (items : List Value)
  | mapping (entries : List (Value × Value))
  /-- A value with a tag of the document's own, without the exclamation mark. -/
  | tagged (tag : String) (value : Value)
  deriving Repr

instance : Inhabited Value := ⟨.null⟩

namespace Value

mutual

/-- The two are the same value. -/
def same : Value → Value → Bool
  | .null, .null => true
  | .bool a, .bool b => a == b
  | .integer a, .integer b => a == b
  | .float a, .float b => a.same b
  | .string a, .string b => a == b
  | .sequence a, .sequence b => sameItems a b
  | .mapping a, .mapping b => a.length == b.length && sameEntries a b
  | .tagged s a, .tagged t b => s == t && same a b
  | _, _ => false

/-- The two lists hold the same values in the same order. -/
def sameItems : List Value → List Value → Bool
  | [], [] => true
  | a :: as, b :: bs => same a b && sameItems as bs
  | _, _ => false

/-- Every entry of the first list stands somewhere in the second. -/
def sameEntries : List (Value × Value) → List (Value × Value) → Bool
  | [], _ => true
  | (k, v) :: rest, other =>
    other.any (fun (k', v') => same k k' && same v v') && sameEntries rest other

end

/-- The value without the tags around it. -/
def bare : Value → Value
  | .tagged _ v => v.bare
  | v => v

/-- The text that a value is. -/
def text? (v : Value) : Option String :=
  match v.bare with
  | .string s => some s
  | _ => none

/-- The entries of the mapping that a value is. -/
def entries? (v : Value) : Option (List (Value × Value)) :=
  match v.bare with
  | .mapping entries => some entries
  | _ => none

/-- The items of the sequence that a value is. -/
def items? (v : Value) : Option (List Value) :=
  match v.bare with
  | .sequence items => some items
  | _ => none

/-- The value is the text `key`, without a tag. -/
def isKey (key : String) : Value → Bool
  | .string s => s == key
  | _ => false

/-- The value of a text key among entries. -/
def lookup? (key : String) : List (Value × Value) → Option Value
  | [] => none
  | (k, v) :: rest => if k.isKey key then some v else lookup? key rest

/-- The value of a text key in the mapping that a value is. -/
def entry? (key : String) (v : Value) : Option Value := v.entries?.bind (lookup? key)

/-- Entries with a text key set: in its place if it is there, else at the end. -/
def insertEntry (key : String) (value : Value) : List (Value × Value) → List (Value × Value)
  | [] => [(.string key, value)]
  | (k, v) :: rest =>
    if k.isKey key then (k, value) :: rest else (k, v) :: insertEntry key value rest

/-- A value with the value inside its tags replaced. -/
def replaceBare (v new : Value) : Value :=
  match v with
  | .tagged tag inner => .tagged tag (inner.replaceBare new)
  | _ => new

end Value

end LocalCluster.Yaml
