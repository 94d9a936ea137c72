/-!
# Blank characters

The characters that count as white space, which is the `White_Space` property of Unicode, and what
is done with them: `trim` takes them off both ends of a text and `words` splits a text at them.

* `isBlank`; **`isBlank_of_isWhitespace`**: core's ASCII white space is blank.
* `trim`, `words`.
-/

namespace LocalCluster.Text

/-- A character of white space. -/
def isBlank (c : Char) : Bool :=
  let n := c.toNat
  (9 ≤ n && n ≤ 13) || n == 0x20 || n == 0x85 || n == 0xA0 || n == 0x1680 ||
    (0x2000 ≤ n && n ≤ 0x200A) || n == 0x2028 || n == 0x2029 || n == 0x202F || n == 0x205F ||
    n == 0x3000

/-- The list without the elements at its end that satisfy `p`. -/
def dropEndWhile {α : Type} (p : α → Bool) (xs : List α) : List α :=
  (xs.reverse.dropWhile p).reverse

/-- The characters between the blanks at both ends. -/
def trimChars (cs : List Char) : List Char := dropEndWhile isBlank (cs.dropWhile isBlank)

/-- A text without the blanks at its ends. -/
def trim (s : String) : String := String.ofList (trimChars s.toList)

/-- The maximal runs of characters that are not blank, read with the run begun so far. -/
def wordsFrom (run : List Char) : List Char → List (List Char)
  | [] => if run.isEmpty then [] else [run]
  | c :: cs =>
    if isBlank c then
      if run.isEmpty then wordsFrom [] cs else run :: wordsFrom [] cs
    else wordsFrom (run ++ [c]) cs

/-- The maximal runs of characters that are not blank. -/
def words (s : String) : List String := (wordsFrom [] s.toList).map String.ofList

/-! ## Laws -/

theorem isBlank_of_isWhitespace (c : Char) (h : c.isWhitespace = true) : isBlank c = true := by
  simp only [Char.isWhitespace, Bool.or_eq_true, decide_eq_true_eq] at h
  rcases h with ((h | h) | h) | h <;> subst h <;> decide

theorem dropWhile_of_head {α : Type} (p : α → Bool) {x : α} {xs : List α} (h : p x = false) :
    (x :: xs).dropWhile p = x :: xs := by
  simp [List.dropWhile, h]

/-- Blanks around a text are lost in trimming. -/
theorem trimChars_pad (before cs after : List Char) (hb : ∀ c ∈ before, isBlank c = true)
    (ha : ∀ c ∈ after, isBlank c = true) (hne : cs ≠ []) (hfirst : isBlank (cs.head hne) = false)
    (hlast : isBlank (cs.getLast hne) = false) : trimChars (before ++ cs ++ after) = cs := by
  have hdrop : ∀ (bs rest : List Char), (∀ c ∈ bs, isBlank c = true) →
      (bs ++ rest).dropWhile isBlank = rest.dropWhile isBlank := by
    intro bs rest h
    induction bs with
    | nil => rfl
    | cons b bs ih =>
      rw [List.cons_append, List.dropWhile_cons, if_pos (h b (by simp))]
      exact ih fun c hc => h c (by simp [hc])
  have hhead : ∀ (xs : List Char) (rest : List Char) (h : xs ≠ []),
      isBlank (xs.head h) = false → (xs ++ rest).dropWhile isBlank = xs ++ rest := by
    intro xs rest h hx
    cases xs with
    | nil => exact absurd rfl h
    | cons x xs => exact dropWhile_of_head _ hx
  unfold trimChars dropEndWhile
  rw [List.append_assoc, hdrop _ _ hb, hhead cs after hne hfirst, List.reverse_append,
    hdrop _ _ (by simpa using ha)]
  have hr : cs.reverse ≠ [] := by simpa using hne
  have := hhead cs.reverse [] hr (by rw [List.head_reverse]; exact hlast)
  rw [List.append_nil] at this
  rw [this, List.reverse_reverse]

end LocalCluster.Text
