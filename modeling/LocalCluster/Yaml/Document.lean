import LocalCluster.Yaml.Node
import LocalCluster.Yaml.Scalar
import LocalCluster.Yaml.Token.Lexer

/-!
# From documents to values

A document's tree becomes a value: plain scalars are resolved, tags of the standard are obeyed, tags
of the document's own are kept, aliases are followed.

* `Anchors`: what anchors stand for so far; a node's anchor is known from the node's beginning, but
  its value only from its end.
* `Composed`: a value, how deep its collections are nested and how many aliases lie in it.
* `Value.parse?`: the value that bytes are, if they hold one document and keep the limits.
-/

namespace LocalCluster.Yaml

/-- A value with the measures that are limited. -/
structure Composed where
  value : Value
  /-- How deep its collections are nested. -/
  depth : Nat := 0
  /-- How many aliases have been followed in it. -/
  aliases : Nat := 0

/-- What anchors stand for. -/
structure Anchors where
  /-- The number of the node that a name stands for, the latest first. -/
  names : List (String × Nat) := []
  /-- The values of the nodes that have ended. -/
  values : List (Nat × Composed) := []
  next : Nat := 0

namespace Anchors

/-- A node with an anchor begins; it gets a number. -/
def declare (a : Anchors) (anchor : Option String) : Anchors × Option Nat :=
  match anchor with
  | none => (a, none)
  | some name =>
    ({ a with names := (name, a.next) :: a.names, next := a.next + 1 }, some a.next)

/-- A node has ended. -/
def define (a : Anchors) (number : Option Nat) (c : Composed) : Anchors :=
  match number with
  | none => a
  | some n => { a with values := (n, c) :: a.values }

/-- What a name stands for; nothing, if its node has not ended. -/
def find? (a : Anchors) (name : String) : Option Composed :=
  (a.names.lookup name).bind fun n => a.values.lookup n

end Anchors

/-! ## Tags -/

/-- A tag of the document's own, without its exclamation mark. -/
def ownTag? (tag : Option String) : Option String :=
  match tag.map String.toList with
  | some ('!' :: rest) => some (String.ofList rest)
  | _ => none

/-- A value under a tag of the document's own, which may not be empty. -/
def underTag (tag : Option String) (v : Value) : Option Value :=
  match ownTag? tag with
  | none => some v
  | some own => if own = "" then none else some (.tagged own v)

/-- What a scalar stands for when no tag speaks about it. -/
def untaggedScalar (plain : Bool) (text : List Char) : Option Value :=
  if plain then resolve text else some (.string (String.ofList text))

/-- What a scalar stands for under the tag that it has. -/
def scalarValue (tag : Option String) (plain : Bool) (text : List Char) : Option Value :=
  match tag with
  | none => untaggedScalar plain text
  | some t =>
    if (ownTag? tag).isSome then (untaggedScalar plain text).bind (underTag tag)
    else if t = "tag:yaml.org,2002:bool" then (readBool text).map .bool
    else if t = "tag:yaml.org,2002:int" then
      match readInteger text with
      | some (.fits n) => some (.integer n)
      | _ => none
    else if t = "tag:yaml.org,2002:float" then (readFloat text).map .float
    else if t = "tag:yaml.org,2002:null" then if readNull text then some .null else none
    else some (.string (String.ofList text))

/-! ## Composition -/

/-- No key stands twice among entries. -/
def distinctKeys : List (Value × Value) → Bool
  | [] => true
  | (k, _) :: rest => ! rest.any (fun (k', _) => k'.same k) && distinctKeys rest

mutual

/-- The value of a node. -/
def compose (a : Anchors) : Node → Option (Composed × Anchors)
  | .alias name => do
    let c ← a.find? name
    return ({ c with aliases := c.aliases + 1 }, a)
  | .scalar p plain text => do
    let v ← scalarValue p.tag plain text
    let (a, number) := a.declare p.anchor
    let c : Composed := { value := v }
    return (c, a.define number c)
  | .sequence p items => do
    let (a, number) := a.declare p.anchor
    let (vs, depth, aliases, a) ← composeItems a items
    let c : Composed := ⟨← underTag p.tag (.sequence vs), depth + 1, aliases⟩
    return (c, a.define number c)
  | .mapping p entries => do
    let (a, number) := a.declare p.anchor
    let (vs, depth, aliases, a) ← composeEntries a entries
    if distinctKeys vs then
      let c : Composed := ⟨← underTag p.tag (.mapping vs), depth + 1, aliases⟩
      return (c, a.define number c)
    else none

/-- The values of the items of a sequence, how deep they are and how many aliases they hold. -/
def composeItems (a : Anchors) : List Node → Option (List Value × Nat × Nat × Anchors)
  | [] => some ([], 0, 0, a)
  | n :: rest => do
    let (c, a) ← compose a n
    let (vs, depth, aliases, a) ← composeItems a rest
    return (c.value :: vs, max c.depth depth, c.aliases + aliases, a)

/-- The values of the entries of a mapping, how deep they are and how many aliases they hold. -/
def composeEntries (a : Anchors) :
    List (Node × Node) → Option (List (Value × Value) × Nat × Nat × Anchors)
  | [] => some ([], 0, 0, a)
  | (k, v) :: rest => do
    let (ck, a) ← compose a k
    let (cv, a) ← compose a v
    let (vs, depth, aliases, a) ← composeEntries a rest
    return ((ck.value, cv.value) :: vs, max (max ck.depth cv.depth) depth,
      ck.aliases + cv.aliases + aliases, a)

end

/-- How deep collections may be nested. -/
def maxDepth : Nat := 128

/-- How many aliases may be followed for each part of a document. -/
def aliasesPerEvent : Nat := 100

/-- The value of a document's root, if it keeps the limits. -/
def Value.ofNode? (n : Node) : Option Value := do
  let (c, _) ← compose {} n
  if c.depth ≤ maxDepth && c.aliases ≤ aliasesPerEvent * n.events then some c.value else none

/-- What is said of bytes that hold no document; the reader does not tell where they go wrong. -/
def Value.unreadableMessage : String := "malformed document"

/-- The value that bytes are; no document at all stands for nothing. -/
def Value.parse? (bytes : Text.Bytes) : Option Value := do
  let cs ← Text.decodeChars? bytes
  match ← Node.ofTokens? (← Token.ofChars? cs) with
  | none => return .null
  | some root => Value.ofNode? root

end LocalCluster.Yaml
