import LocalCluster.Container.Engine
import LocalCluster.Proofs.Container.Reading
import LocalCluster.Proofs.Text.Printed
import LocalCluster.Proofs.Work.Follows

/-!
# An engine that keeps names and labels

Of each container an engine keeps the name and the labels that its argument vector gives it. When it
is asked to list containers, it fills a template for each one that a filter lets through, in any
order.

* `Kept`, `kept?`: what is kept of a container.
* `Kept.passes`, `Kept.fill`: filters and templates; **`passes_label`**, **`passes_value`**.
* `Honest`: an answer of such an engine; `answersOf`: the answers of one.
-/

namespace LocalCluster.Container

open LocalCluster.Text Script

/-- What an engine keeps of a container. -/
structure Kept where
  name : String
  labels : List (String × String)
  deriving DecidableEq, Repr

/-- What is kept of the container that an argument vector starts; a label without a value has an
empty one. -/
def kept? (argv : List String) : Option Kept := do
  let (options, _) ← read? argv
  let name ← (values "--name" options).getLast?
  return ⟨name, (values "--label" options).map fun label => (cutAt? '=' label).getD (label, "")⟩

namespace Kept

/-- The value of a label; of several the last one counts. -/
def label? (k : Kept) (key : String) : Option String :=
  ((k.labels.filter (·.1 = key)).getLast?).map (·.2)

/-- The container passes a filter `label=key` or `label=key=value`. -/
def passes (filter : String) (k : Kept) : Bool :=
  match stripPrefix "label=".toList filter.toList with
  | some wanted =>
    match cutFirst '=' wanted with
    | some (key, value) => k.label? (String.ofList key) = some (String.ofList value)
    | none => (k.label? (String.ofList wanted)).isSome
  | none => false

/-- The value of what stands between the braces of a template: `.Names` or `.Label "key"`. -/
def field (k : Kept) (action : String) : String :=
  if action = ".Names" then k.name
  else match (stripPrefix ".Label \"".toList action.toList).bind (stripSuffix ['"']) with
    | some key => (k.label? (String.ofList key)).getD ""
    | none => ""

/-- A template filled in, from its characters on; inside braces, those of the action so far are
given in reverse. -/
def fillChars (k : Kept) : Option (List Char) → List Char → List Char
  | none, '\x7b' :: '\x7b' :: rest => fillChars k (some []) rest
  | none, ch :: rest => ch :: fillChars k none rest
  | some action, '\x7d' :: '\x7d' :: rest =>
    (k.field (String.ofList action.reverse)).toList ++ fillChars k none rest
  | some action, ch :: rest => fillChars k (some (ch :: action)) rest
  | _, [] => []

/-- A template filled in for a container. -/
def fill (format : String) (k : Kept) : String := String.ofList (k.fillChars none format.toList)

end Kept

/-- The answer is one of an engine that keeps these containers: a listing is answered with a line
for each that passes the filter, in any order. -/
def Honest (store : List Kept) : Exchange Request Request.Answer → Prop
  | ⟨.command c, answer⟩ => ∀ filter format,
    c.args = ["ps", "-a", "--filter", filter, "--format", format] →
      ∃ (rows : List Kept) (stderr : Bytes), rows.Perm (store.filter (·.passes filter)) ∧
        answer = .ok ⟨encode (printLines "\n" (rows.map (·.fill format))), stderr⟩
  | _ => True

/-- The answers of an engine that lists containers in the order in which it keeps them. -/
def answersOf (store : List Kept) : (r : Request) → r.Answer
  | .command c =>
    match c.args with
    | ["ps", "-a", "--filter", filter, "--format", format] =>
      .ok ⟨encode (printLines "\n" ((store.filter (·.passes filter)).map (·.fill format))), []⟩
    | _ => .ok {}
  | r => r.compliance

theorem honest_answersOf (store : List Kept) (r : Request) :
    Honest store ⟨r, answersOf store r⟩ := by
  cases r with
  | command c =>
    rintro filter format hargs
    refine ⟨store.filter (·.passes filter), [], List.Perm.refl _, ?_⟩
    simp [answersOf, hargs]
  | _ => trivial

/-! ## Laws -/

variable {k : Kept} {key value : String}

theorem stripPrefix_text (a b : String) : stripPrefix a.toList (a ++ b).toList = some b.toList := by
  rw [String.toList_append]
  exact stripPrefix_append _ _

/-- **A filter for a label lets through what has the label.** -/
theorem passes_label (hkey : '=' ∉ key.toList) :
    k.passes ("label=" ++ key) = (k.label? key).isSome := by
  rw [Kept.passes, stripPrefix_text]
  simp [cutFirst_of_not_mem hkey]

/-- **A filter for a label and a value lets through what has the label with this value**, whatever
the value is. -/
theorem passes_value (hkey : '=' ∉ key.toList) :
    k.passes ("label=" ++ key ++ "=" ++ value) = decide (k.label? key = some value) := by
  have hcut := cutFirst_append value.toList hkey
  rw [Kept.passes, String.append_assoc, String.append_assoc, stripPrefix_text]
  simp [hcut]

theorem field_names : k.field ".Names" = k.name := rfl

theorem field_label : k.field (".Label \"" ++ key ++ "\"") = (k.label? key).getD "" := by
  have hne : ".Label \"" ++ key ++ "\"" ≠ ".Names" := by
    intro h
    simpa using congrArg String.toList h
  have hquote : stripSuffix ['"'] (key ++ "\"").toList = some key.toList := by
    rw [String.toList_append]
    exact stripSuffix_append _ _
  rw [Kept.field, if_neg hne, String.append_assoc, stripPrefix_text, Option.bind_some, hquote]
  simp

end LocalCluster.Container
