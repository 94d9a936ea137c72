/-!
# Cutting text

Functions that take a list of characters apart at a character, and their forms on `String`.

* `split`: the pieces between the occurrences of one character; there is always at least one.
* `cutLast`: what stands before and after the last occurrence of a character.
* `stripPrefix`, `stripSuffix`: the text without a given beginning or end, if it has it.
* `occursIn`: a text stands somewhere inside another.
* `join`: pieces put together with a separator.
-/

namespace LocalCluster.Text

variable {α : Type} [BEq α]

/-- What stands before and after the last occurrence of `c`. -/
def cutLast (c : α) : List α → Option (List α × List α)
  | [] => none
  | x :: xs =>
    match cutLast c xs with
    | some (before, after) => some (x :: before, after)
    | none => if x == c then some ([], xs) else none

/-- The list without the beginning `p`, if it begins so. -/
def stripPrefix : List α → List α → Option (List α)
  | [], xs => some xs
  | _ :: _, [] => none
  | p :: ps, x :: xs => if p == x then stripPrefix ps xs else none

/-- The list without the end `p`, if it ends so. -/
def stripSuffix (p xs : List α) : Option (List α) :=
  (stripPrefix p.reverse xs.reverse).map List.reverse

/-- The list `needle` stands somewhere in a list. -/
def occursIn (needle : List α) : List α → Bool
  | [] => needle.isEmpty
  | x :: xs => needle.isPrefixOf (x :: xs) || occursIn needle xs

/-- The pieces of a text between the occurrences of `c`. -/
def split (c : Char) (s : String) : List String :=
  (s.toList.splitOn c).map String.ofList

/-- The pieces in order, with a separator between neighbours. -/
def join (sep : String) : List String → String
  | [] => ""
  | [s] => s
  | s :: r :: rest => s ++ sep ++ join sep (r :: rest)

/-- A text stands somewhere in another. -/
def contains (needle hay : String) : Bool := occursIn needle.toList hay.toList

/-! ## Laws -/

theorem join_cons_cons (sep s r : String) (rest : List String) :
    join sep (s :: r :: rest) = s ++ sep ++ join sep (r :: rest) := rfl

/-- A text that is a prefix and a rest loses exactly the prefix. -/
theorem stripPrefix_append [LawfulBEq α] (p xs : List α) : stripPrefix p (p ++ xs) = some xs := by
  induction p with
  | nil => cases xs <;> rfl
  | cons a p ih => simp [stripPrefix, ih]

theorem stripPrefix_eq_some [LawfulBEq α] {p xs r : List α} (h : stripPrefix p xs = some r) :
    xs = p ++ r := by
  induction p generalizing xs with
  | nil => cases xs <;> simp_all [stripPrefix]
  | cons a p ih =>
    cases xs with
    | nil => simp [stripPrefix] at h
    | cons x xs =>
      simp only [stripPrefix] at h
      split at h
      · next hax => simp [eq_of_beq hax, ih h]
      · simp at h

theorem stripSuffix_append [LawfulBEq α] (p xs : List α) : stripSuffix p (xs ++ p) = some xs := by
  simp [stripSuffix, stripPrefix_append]

theorem stripSuffix_eq_some [LawfulBEq α] {p xs r : List α} (h : stripSuffix p xs = some r) :
    xs = r ++ p := by
  obtain ⟨rest, hrest, rfl⟩ := Option.map_eq_some_iff.1 h
  rw [← List.reverse_reverse xs, stripPrefix_eq_some hrest]
  simp

/-- The last occurrence is the one that no other follows. -/
theorem cutLast_append [LawfulBEq α] (c : α) (before after : List α) (h : c ∉ after) :
    cutLast c (before ++ c :: after) = some (before, after) := by
  have none_of : ∀ xs : List α, c ∉ xs → cutLast c xs = none := by
    intro xs hxs
    induction xs with
    | nil => rfl
    | cons x xs ih =>
      have hne : (x == c) = false := by
        apply Bool.eq_false_iff.2
        intro heq
        exact hxs (by simp [eq_of_beq heq])
      simp [cutLast, ih (fun hm => hxs (by simp [hm])), hne]
  induction before with
  | nil => simp [cutLast, none_of after h]
  | cons x before ih => simp [cutLast, ih]

end LocalCluster.Text
