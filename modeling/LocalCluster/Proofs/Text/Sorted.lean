import LocalCluster.Text.Sorted
import Mathlib.Data.List.Nodup

/-!
# Sorted lists

* **`sortOn_pairwise`**: sorting by a key puts the keys in order; `sortOn_pairwise_lt`: strictly,
  when no two items share a key. **`sortOn_eq_of_perm`**: it forgets in what order they came.
* **`sortDistinct_pairwise`**: distinct texts come out in strict order.
-/

namespace LocalCluster.Text

variable {α : Type} {key : α → String} {xs : List α}

theorem insertOn_pairwise {a : α} (h : xs.Pairwise (key · ≤ key ·)) :
    (insertOn key a xs).Pairwise (key · ≤ key ·) := by
  induction xs with
  | nil => exact List.pairwise_singleton _ a
  | cons b rest ih =>
    obtain ⟨hb, hrest⟩ := List.pairwise_cons.1 h
    unfold insertOn
    split
    · next hlt =>
      refine List.pairwise_cons.2 ⟨fun c hc => ?_, ih hrest⟩
      rcases List.mem_cons.1 ((insertOn_perm key a rest).mem_iff.1 hc) with rfl | hc
      · exact String.not_lt.1 fun hgt => String.lt_irrefl _ (String.lt_trans hlt hgt)
      · exact hb c hc
    · next hle =>
      have hab : key a ≤ key b := String.not_lt.1 hle
      refine List.pairwise_cons.2 ⟨fun c hc => ?_, h⟩
      rcases List.mem_cons.1 hc with rfl | hc
      · exact hab
      · exact String.le_trans hab (hb c hc)

/-- **Sorting puts the keys in order.** -/
theorem sortOn_pairwise (key : α → String) (xs : List α) :
    (sortOn key xs).Pairwise (key · ≤ key ·) := by
  induction xs with
  | nil => exact .nil
  | cons a xs ih => exact insertOn_pairwise ih

theorem nodup_map_sortOn (h : (xs.map key).Nodup) : ((sortOn key xs).map key).Nodup :=
  ((sortOn_perm key xs).map key).nodup_iff.2 h

theorem sortOn_pairwise_lt (h : (xs.map key).Nodup) :
    (sortOn key xs).Pairwise (key · < key ·) := by
  have hne : (sortOn key xs).Pairwise (key · ≠ key ·) := List.pairwise_map.1 (nodup_map_sortOn h)
  refine (sortOn_pairwise key xs).imp₂ (fun a b hle hne => ?_) hne
  exact String.not_le.1 fun hge => hne (String.le_antisymm hle hge)

/-- **Items without a common key are sorted alike, in whatever order they come.** -/
theorem sortOn_eq_of_perm {ys : List α} (h : xs.Perm ys) (hnodup : (xs.map key).Nodup) :
    sortOn key xs = sortOn key ys := by
  have hys : (ys.map key).Nodup := (h.map key).nodup_iff.1 hnodup
  have hperm : (sortOn key xs).Perm (sortOn key ys) :=
    (sortOn_perm key xs).trans (h.trans (sortOn_perm key ys).symm)
  refine hperm.eq_of_pairwise (fun a b _ _ hab hba => ?_) (sortOn_pairwise_lt hnodup)
    (sortOn_pairwise_lt hys)
  exact absurd (String.lt_trans hab hba) (String.lt_irrefl _)

theorem insertDistinct_pairwise {s : String} {ss : List String} (h : ss.Pairwise (· < ·)) :
    (insertDistinct s ss).Pairwise (· < ·) := by
  induction ss with
  | nil => exact List.pairwise_singleton _ s
  | cons r rest ih =>
    obtain ⟨hr, hrest⟩ := List.pairwise_cons.1 h
    unfold insertDistinct
    split
    · next hlt =>
      refine List.pairwise_cons.2 ⟨fun c hc => ?_, h⟩
      rcases List.mem_cons.1 hc with rfl | hc
      · exact hlt
      · exact String.lt_trans hlt (hr c hc)
    · next hle =>
      split
      · exact h
      · next hne =>
        refine List.pairwise_cons.2 ⟨fun c hc => ?_, ih hrest⟩
        rcases mem_insertDistinct.1 hc with rfl | hc
        · exact String.not_le.1 fun hge => hne (String.le_antisymm hge (String.not_lt.1 hle))
        · exact hr c hc

/-- **Distinct texts come out in strict order.** -/
theorem sortDistinct_pairwise (ss : List String) : (sortDistinct ss).Pairwise (· < ·) := by
  induction ss with
  | nil => exact .nil
  | cons s ss ih => exact insertDistinct_pairwise ih

end LocalCluster.Text
