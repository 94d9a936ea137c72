import LocalCluster.Text.Numeral
import Mathlib.Data.List.Basic

/-!
# Decimal numerals

* `Numeral`: what digits stand for; **`readDigits_eq_some_iff`**: they are read as that, up to a
  limit.
* `Denotes`: the number that a text is; **`readNat_eq_some_iff`**: it is read so, up to a limit.
* **`numeral_toString`**: the digits that a number is written in stand for it;
  `readNat_toString`: so it is read back, up to the limit.
-/

namespace LocalCluster.Text

variable {limit n : Nat} {ds : List Char} {c : Char}

/-- Decimal digits, of which there is one at least, stand for a number. Zeros may come first. -/
structure Numeral (ds : List Char) (n : Nat) : Prop where
  nonempty : ds ≠ []
  digits : ∀ d ∈ ds, d.isDigit = true
  value : digitsValue ds = n

theorem readDigits_eq_some_iff : readDigits limit ds = some n ↔ Numeral ds n ∧ n ≤ limit := by
  unfold readDigits
  by_cases hempty : ds = []
  · subst hempty
    exact ⟨nofun, fun h => absurd rfl h.1.nonempty⟩
  by_cases hdigits : ∀ d ∈ ds, d.isDigit = true
  · simp only [List.isEmpty_iff, hempty, List.all_eq_true.2 hdigits, if_true, if_false,
      Option.ite_none_right_eq_some, Option.some.injEq]
    constructor
    · rintro ⟨hle, rfl⟩
      exact ⟨⟨hempty, hdigits, rfl⟩, hle⟩
    · rintro ⟨h, hle⟩
      exact ⟨h.value ▸ hle, h.value⟩
  · have hall : ds.all Char.isDigit = false := by simpa using hdigits
    simp only [List.isEmpty_iff, hempty, hall, if_false, Bool.false_eq_true]
    exact ⟨nofun, fun h => absurd h.1.digits hdigits⟩

theorem Numeral.head_ne_plus (h : Numeral ds n) (rest : List Char) : ds ≠ '+' :: rest := by
  rintro rfl
  exact absurd (h.digits _ List.mem_cons_self) (by decide)

/-- A text is a number: digits that stand for it, or a plus sign and such digits. -/
def Denotes (text : String) (n : Nat) : Prop :=
  ∃ ds, (text.toList = ds ∨ text.toList = '+' :: ds) ∧ Numeral ds n

/-- **A text is read as the number that it is**, up to the limit. -/
theorem readNat_eq_some_iff {text : String} :
    readNat limit text = some n ↔ Denotes text n ∧ n ≤ limit := by
  unfold readNat Denotes
  split
  · next ds htext =>
    rw [readDigits_eq_some_iff, htext]
    refine and_congr_left fun _ => ⟨fun h => ⟨ds, .inr rfl, h⟩, ?_⟩
    rintro ⟨others, rfl | hplus, h⟩
    · exact absurd rfl (h.head_ne_plus ds)
    · obtain ⟨-, rfl⟩ := List.cons.inj hplus
      exact h
  · next ds hno =>
    rw [readDigits_eq_some_iff]
    refine and_congr_left fun _ => ⟨fun h => ⟨_, .inl rfl, h⟩, ?_⟩
    rintro ⟨others, rfl | hplus, h⟩
    · exact h
    · exact absurd hplus (hno others)

theorem isDigit_of_mem_toString (h : c ∈ (toString n).toList) : c.isDigit = true := by
  rw [Nat.toString_eq_repr, Nat.toList_repr] at h
  exact Nat.isDigit_of_mem_toDigits (by decide) (by decide) h

theorem not_mem_toString (h : c.isDigit = false) : c ∉ (toString n).toList := fun hmem => by
  rw [isDigit_of_mem_toString hmem] at h
  cases h

theorem toString_nat_toList_ne_nil : (toString n).toList ≠ [] := by
  rw [Nat.toString_eq_repr, Nat.toList_repr]
  exact Nat.toDigits_ne_nil

theorem toString_nat_ne_empty : toString n ≠ "" := fun h =>
  toString_nat_toList_ne_nil (String.toList_eq_nil_iff.2 h)

/-- **A number is written in digits that stand for it.** -/
theorem numeral_toString (n : Nat) : Numeral (toString n).toList n where
  nonempty := toString_nat_toList_ne_nil
  digits _ := isDigit_of_mem_toString
  value := by
    rw [Nat.toString_eq_repr, Nat.toList_repr]
    exact Nat.ofDigitChars_ten_toDigits

/-- **A number is read back.** -/
theorem readNat_toString (h : n ≤ limit) : readNat limit (toString n) = some n :=
  readNat_eq_some_iff.2 ⟨⟨_, .inl rfl, numeral_toString n⟩, h⟩

theorem toString_nat_inj {m : Nat} (h : toString m = toString n) : m = n := by
  rw [← (numeral_toString m).value, h, (numeral_toString n).value]

end LocalCluster.Text
