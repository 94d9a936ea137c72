/-!
# Sorted texts

Texts are ordered by their code points, which is also the order of their bytes.

* `insertDistinct`, `sortDistinct`: a sorted list without repetitions.
* `sortOn`: sorts by a key; what has equal keys keeps its order.
-/

namespace LocalCluster.Text

/-- A text put into its place in a sorted list, unless it stands there already. -/
def insertDistinct (s : String) : List String → List String
  | [] => [s]
  | r :: rest => if s < r then s :: r :: rest else if s = r then r :: rest
    else r :: insertDistinct s rest

/-- The texts in order, each once. -/
def sortDistinct (ss : List String) : List String := ss.foldr insertDistinct []

variable {α : Type}

/-- An item put before the first one with a greater or equal key. -/
def insertOn (key : α → String) (a : α) : List α → List α
  | [] => [a]
  | b :: rest => if key b < key a then b :: insertOn key a rest else a :: b :: rest

/-- The items in the order of their keys; those with equal keys stay in their order. -/
def sortOn (key : α → String) (xs : List α) : List α := xs.foldr (insertOn key) []

/-! ## Laws -/

theorem insertOn_perm (key : α → String) (a : α) (xs : List α) :
    (insertOn key a xs).Perm (a :: xs) := by
  induction xs with
  | nil => exact List.Perm.refl _
  | cons b rest ih =>
    unfold insertOn
    split
    · exact (ih.cons b).trans (List.Perm.swap a b rest)
    · exact List.Perm.refl _

/-- Sorting keeps every item as often as it stood. -/
theorem sortOn_perm (key : α → String) (xs : List α) : (sortOn key xs).Perm xs := by
  induction xs with
  | nil => exact List.Perm.refl _
  | cons a xs ih => exact (insertOn_perm key a _).trans (ih.cons a)

theorem mem_insertDistinct {s r : String} {xs : List String} :
    r ∈ insertDistinct s xs ↔ r = s ∨ r ∈ xs := by
  induction xs with
  | nil => simp [insertDistinct]
  | cons x xs ih =>
    unfold insertDistinct
    split
    · simp
    · split
      · next h => subst h; simp
      · simp only [List.mem_cons, ih]
        grind

theorem mem_sortDistinct {s : String} {xs : List String} : s ∈ sortDistinct xs ↔ s ∈ xs := by
  induction xs with
  | nil => simp [sortDistinct]
  | cons x xs ih =>
    simp only [sortDistinct, List.foldr_cons, mem_insertDistinct, List.mem_cons] at ih ⊢
    rw [ih]

end LocalCluster.Text
