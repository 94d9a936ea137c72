import LocalCluster.Yaml.Value

/-!
# Changes of one part of a value

What it is for two values to differ in one place, told by how they are built and not by the
functions that change them.

* `FirstChanged`: two lists differ in the first item that a condition holds of.
* `Value.Under`: two values have the same tags around contents that are related; `Value.KeyChanged`,
  `Value.KeySet`: two mappings differ in the value of one text key, which may be new.
* **`Value.under_iff`**, **`Value.keyChanged_iff`**, **`Value.keySet_iff`**: the functions make
  these changes.
* `Value.eqb_iff`: equality of values is decided.
* `Overwrites`, `Commutes`: a change that leaves nothing of another, and two that can be made in
  either order; both go from parts to the whole.
-/

namespace LocalCluster.Yaml

variable {α β : Type} {R S : α → α → Prop} {p q : α → Bool} {xs ys zs : List α} {x : α}

/-! ## One item of a list -/

/-- The first item that satisfies `p` is changed as `R` says; all others stay. -/
inductive FirstChanged (p : α → Bool) (R : α → α → Prop) : List α → List α → Prop where
  | here {x y : α} {rest : List α} (hp : p x = true) (h : R x y) :
      FirstChanged p R (x :: rest) (y :: rest)
  | there {x : α} {rest rest' : List α} (hp : p x = false) (h : FirstChanged p R rest rest') :
      FirstChanged p R (x :: rest) (x :: rest')

theorem firstChanged_cons_pos (hp : p x = true) :
    FirstChanged p R (x :: xs) ys ↔ ∃ y, R x y ∧ ys = y :: xs := by
  constructor
  · intro h
    cases h with
    | here _ h => exact ⟨_, h, rfl⟩
    | there hp' _ => simp [hp] at hp'
  · rintro ⟨y, h, rfl⟩
    exact .here hp h

theorem firstChanged_cons_neg (hp : p x = false) :
    FirstChanged p R (x :: xs) ys ↔ ∃ rest, FirstChanged p R xs rest ∧ ys = x :: rest := by
  constructor
  · intro h
    cases h with
    | here hp' _ => simp [hp] at hp'
    | there _ h => exact ⟨_, h, rfl⟩
  · rintro ⟨rest, h, rfl⟩
    exact .there hp h

theorem exists_firstChanged_iff :
    (∃ ys, FirstChanged p R xs ys) ↔ ∃ x y, xs.find? p = some x ∧ R x y := by
  induction xs with
  | nil => exact iff_of_false (fun ⟨_, h⟩ => by cases h) (fun ⟨_, _, h, _⟩ => by cases h)
  | cons x rest ih =>
    cases hp : p x with
    | true =>
      simp only [firstChanged_cons_pos hp, List.find?_cons, hp]
      constructor
      · rintro ⟨_, y, h, -⟩
        exact ⟨x, y, rfl, h⟩
      · rintro ⟨_, y, hx, h⟩
        cases hx
        exact ⟨_, y, h, rfl⟩
    | false =>
      simp only [firstChanged_cons_neg hp, List.find?_cons, hp, ← ih]
      constructor
      · rintro ⟨_, rest', h, -⟩
        exact ⟨rest', h⟩
      · rintro ⟨rest', h⟩
        exact ⟨_, rest', h, rfl⟩

/-- A condition that a change has no say in. -/
def Unaffected (p : α → Bool) (R : α → α → Prop) : Prop := ∀ ⦃x y⦄, R x y → p y = p x

theorem FirstChanged.find? (h : FirstChanged p R xs ys) (hp : Unaffected p R) :
    ∃ x y, xs.find? p = some x ∧ ys.find? p = some y ∧ R x y := by
  induction h with
  | here hx hxy =>
    have hy := (hp hxy).trans hx
    exact ⟨_, _, List.find?_cons_of_pos hx, List.find?_cons_of_pos hy, hxy⟩
  | there hx _ ih =>
    obtain ⟨x, y, hxs, hys, hxy⟩ := ih
    exact ⟨x, y, by rw [List.find?_cons_of_neg (by simp [hx]), hxs],
      by rw [List.find?_cons_of_neg (by simp [hx]), hys], hxy⟩

/-! ## Changes after one another -/

/-- The change `S` after the change `R` is the change `S` alone. -/
def Overwrites (R S : α → α → Prop) : Prop := ∀ ⦃x y z⦄, R x y → (S y z ↔ S x z)

/-- The change `R` and then `S` is a change `S` and then `R`. -/
def Commutes (R S : α → α → Prop) : Prop := ∀ ⦃x y z⦄, R x y → S y z → ∃ w, S x w ∧ R w z

theorem Overwrites.firstChanged (h : Overwrites R S) (hp : Unaffected p R) :
    Overwrites (FirstChanged p R) (FirstChanged p S) := by
  intro xs ys zs hR
  induction hR generalizing zs with
  | here hx hxy =>
    rw [firstChanged_cons_pos hx, firstChanged_cons_pos ((hp hxy).trans hx)]
    exact exists_congr fun z => and_congr_left fun _ => h hxy
  | there hx _ ih =>
    rw [firstChanged_cons_neg hx, firstChanged_cons_neg hx]
    exact exists_congr fun rest => and_congr_left fun _ => @ih rest

theorem Commutes.firstChanged (h : Commutes R S) (hR : Unaffected p R) (hS : Unaffected p S) :
    Commutes (FirstChanged p R) (FirstChanged p S) := by
  intro xs ys zs h₁ h₂
  induction h₁ generalizing zs with
  | here hx hxy =>
    obtain ⟨z, hyz, rfl⟩ := (firstChanged_cons_pos ((hR hxy).trans hx)).1 h₂
    obtain ⟨w, hw, hwz⟩ := h hxy hyz
    exact ⟨_, .here hx hw, .here ((hS hw).trans hx) hwz⟩
  | there hx _ ih =>
    obtain ⟨rest, hrest, rfl⟩ := (firstChanged_cons_neg hx).1 h₂
    obtain ⟨w, hw, hwz⟩ := ih hrest
    exact ⟨_, .there hx hw, .there hx hwz⟩

/-- **Items found by two conditions that exclude each other are changed in either order.** -/
theorem commutes_firstChanged (hpq : ∀ x, p x = true → q x = false) (hR : Unaffected q R)
    (hS : Unaffected p S) : Commutes (FirstChanged p R) (FirstChanged q S) := by
  intro xs ys zs h₁ h₂
  -- along the first change: the second one has its item here, or passes over this one
  induction h₁ generalizing zs with
  | here hx hxy =>
    have hq := hpq _ hx
    obtain ⟨rest, hrest, rfl⟩ := (firstChanged_cons_neg ((hR hxy).trans hq)).1 h₂
    exact ⟨_, .there hq hrest, .here hx hxy⟩
  | @there x rest rest' hx hp ih =>
    cases hq : q x with
    | true =>
      obtain ⟨y, hxy, rfl⟩ := (firstChanged_cons_pos hq).1 h₂
      exact ⟨_, .here hq hxy, .there ((hS hxy).trans hx) hp⟩
    | false =>
      obtain ⟨last, hlast, rfl⟩ := (firstChanged_cons_neg hq).1 h₂
      obtain ⟨w, hw, hwz⟩ := ih hlast
      exact ⟨_, .there hq hw, .there hx hwz⟩

namespace Value

variable {make : β → Value} {P Q : β → β → Prop} {key tag : String} {v v' value : Value}
variable {entries entries' : List (Value × Value)} {C D : Value → Value → Prop} {b : β}

/-! ## Inside tags -/

/-- Two values with the same tags, around contents of one kind that are related. -/
inductive Under (make : β → Value) (P : β → β → Prop) : Value → Value → Prop where
  | bare {b b' : β} (h : P b b') : Under make P (make b) (make b')
  | tagged {tag : String} {v v' : Value} (h : Under make P v v') :
      Under make P (.tagged tag v) (.tagged tag v')

/-- Values of one kind, none of which is a tag. -/
structure Kind (make : β → Value) : Prop where
  injective : ∀ {b b' : β}, make b = make b' → b = b'
  untagged : ∀ {b : β} {tag : String} {v : Value}, make b ≠ .tagged tag v

theorem kind_mapping : Kind Value.mapping := ⟨fun h => by injection h, nofun⟩

theorem kind_sequence : Kind Value.sequence := ⟨fun h => by injection h, nofun⟩

theorem under_bare_iff (hmake : Kind make) :
    Under make P (make b) v' ↔ ∃ b', P b b' ∧ v' = make b' := by
  constructor
  · intro h
    generalize hv : make b = v at h
    cases h with
    | bare h =>
      obtain rfl := hmake.injective hv
      exact ⟨_, h, rfl⟩
    | tagged _ => exact absurd hv hmake.untagged
  · rintro ⟨b', h, rfl⟩
    exact .bare h

theorem under_tagged_iff (hmake : Kind make) :
    Under make P (.tagged tag v) v' ↔ ∃ inner, Under make P v inner ∧ v' = .tagged tag inner := by
  constructor
  · intro h
    generalize hv : Value.tagged tag v = w at h
    cases h with
    | bare _ => exact absurd hv.symm hmake.untagged
    | tagged h =>
      cases hv
      exact ⟨_, h, rfl⟩
  · rintro ⟨inner, h, rfl⟩
    exact .tagged h

theorem replaceBare_of_untagged (h : ∀ tag inner, v = .tagged tag inner → False) :
    v.replaceBare value = value := by
  cases v with
  | tagged tag inner => exact absurd rfl (h tag inner)
  | _ => rfl

theorem under_iff (hmake : Kind make) : Under make P v v' ↔
    ∃ b b', v.bare = make b ∧ P b b' ∧ v' = v.replaceBare (make b') := by
  fun_induction bare v generalizing v' with
  | case1 tag inner ih =>
    rw [under_tagged_iff hmake]
    constructor
    · rintro ⟨changed, h, rfl⟩
      obtain ⟨b, b', hb, hP, rfl⟩ := ih.1 h
      exact ⟨b, b', hb, hP, rfl⟩
    · rintro ⟨b, b', hb, hP, rfl⟩
      exact ⟨_, ih.2 ⟨b, b', hb, hP, rfl⟩, rfl⟩
  | case2 v huntagged =>
    simp only [replaceBare_of_untagged huntagged]
    constructor
    · intro h
      cases h with
      | bare hP => exact ⟨_, _, rfl, hP, rfl⟩
      | tagged h => exact absurd rfl (huntagged _ _)
    · rintro ⟨b, b', rfl, hP, rfl⟩
      exact .bare hP

/-! ## Keys of a mapping -/

/-- The entry is that of a text key. -/
def isEntryOf (key : String) (entry : Value × Value) : Bool := entry.1.isKey key

/-- The value of a text key is changed. -/
def KeyChanged (key : String) (C : Value → Value → Prop) :
    List (Value × Value) → List (Value × Value) → Prop :=
  FirstChanged (isEntryOf key) fun entry entry' => entry'.1 = entry.1 ∧ C entry.2 entry'.2

/-- A text key is given a value: in its place if it is there, and else behind all others. -/
inductive KeySet (key : String) (value : Value) :
    List (Value × Value) → List (Value × Value) → Prop where
  | replaced {old : Value} {rest : List (Value × Value)} :
      KeySet key value ((.string key, old) :: rest) ((.string key, value) :: rest)
  | added : KeySet key value [] [(.string key, value)]
  | there {entry : Value × Value} {rest rest' : List (Value × Value)}
      (hne : entry.1.isKey key = false) (h : KeySet key value rest rest') :
      KeySet key value (entry :: rest) (entry :: rest')

theorem eq_string_of_isKey (h : v.isKey key = true) : v = .string key := by
  cases v with
  | string s => exact congrArg Value.string (eq_of_beq h)
  | _ => cases h

theorem keyChanged_iff : KeyChanged key C entries entries' ↔ ∃ v v', lookup? key entries = some v ∧
    C v v' ∧ entries' = insertEntry key v' entries := by
  unfold KeyChanged
  induction entries generalizing entries' with
  | nil => exact iff_of_false (fun h => by cases h) (fun ⟨_, _, h, _⟩ => by cases h)
  | cons entry rest ih =>
    obtain ⟨k, w⟩ := entry
    cases hk : k.isKey key with
    | true =>
      have hp : isEntryOf key (k, w) = true := hk
      simp only [lookup?, insertEntry, hk, if_true]
      rw [firstChanged_cons_pos hp]
      constructor
      · rintro ⟨⟨_, w'⟩, ⟨rfl, h⟩, rfl⟩
        exact ⟨w, w', rfl, h, rfl⟩
      · rintro ⟨_, w', hw, h, rfl⟩
        cases hw
        exact ⟨(k, w'), ⟨rfl, h⟩, rfl⟩
    | false =>
      have hp : isEntryOf key (k, w) = false := hk
      simp only [lookup?, insertEntry, hk, Bool.false_eq_true, if_false]
      rw [firstChanged_cons_neg hp]
      simp only [ih]
      constructor
      · rintro ⟨_, ⟨v, v', hv, h, rfl⟩, rfl⟩
        exact ⟨v, v', hv, h, rfl⟩
      · rintro ⟨v, v', hv, h, rfl⟩
        exact ⟨_, ⟨v, v', hv, h, rfl⟩, rfl⟩

theorem keySet_iff :
    KeySet key value entries entries' ↔ entries' = insertEntry key value entries := by
  induction entries generalizing entries' with
  | nil =>
    constructor
    · intro h
      cases h
      rfl
    · rintro rfl
      exact .added
  | cons entry rest ih =>
    obtain ⟨k, w⟩ := entry
    unfold insertEntry
    cases hk : k.isKey key with
    | true =>
      obtain rfl := eq_string_of_isKey hk
      constructor
      · intro h
        cases h with
        | replaced => rfl
        | there hne _ => simp [hk] at hne
      · rintro rfl
        exact .replaced
    | false =>
      constructor
      · intro h
        cases h with
        | replaced => simp [isKey] at hk
        | there _ h =>
          rw [ih.1 h]
          rfl
      · rintro rfl
        exact .there hk (ih.2 rfl)

theorem entries?_eq_some_iff : v.entries? = some entries ↔ v.bare = .mapping entries := by
  unfold entries?
  split
  · next h => simp [h]
  · next h => exact iff_of_false (by simp) (h entries)

theorem items?_eq_some_iff {items : List Value} :
    v.items? = some items ↔ v.bare = .sequence items := by
  unfold items?
  split
  · next h => simp [h]
  · next h => exact iff_of_false (by simp) (h items)

/-! ## Equality -/

mutual

/-- The two values are equal. -/
def eqb : Value → Value → Bool
  | .null, .null => true
  | .bool a, .bool b => a == b
  | .integer a, .integer b => a == b
  | .float a, .float b => a == b
  | .string a, .string b => a == b
  | .sequence as, .sequence bs => itemsEqb as bs
  | .mapping as, .mapping bs => entriesEqb as bs
  | .tagged s a, .tagged t b => s == t && eqb a b
  | _, _ => false

/-- The two lists of values are equal. -/
def itemsEqb : List Value → List Value → Bool
  | [], [] => true
  | a :: as, b :: bs => eqb a b && itemsEqb as bs
  | _, _ => false

/-- The two lists of entries are equal. -/
def entriesEqb : List (Value × Value) → List (Value × Value) → Bool
  | [], [] => true
  | (k, a) :: as, (l, b) :: bs => eqb k l && eqb a b && entriesEqb as bs
  | _, _ => false

end

mutual

theorem eqb_iff (a b : Value) : eqb a b = true ↔ a = b := by
  cases a <;> cases b <;> simp [eqb, itemsEqb_iff, entriesEqb_iff]
  case tagged.tagged s a t b =>
    exact fun _ => eqb_iff a b

theorem itemsEqb_iff (as bs : List Value) : itemsEqb as bs = true ↔ as = bs := by
  cases as <;> cases bs <;> simp [itemsEqb, eqb_iff, itemsEqb_iff]

theorem entriesEqb_iff (as bs : List (Value × Value)) : entriesEqb as bs = true ↔ as = bs := by
  cases as <;> cases bs <;> simp [entriesEqb, eqb_iff, entriesEqb_iff, Prod.ext_iff]

end

instance : DecidableEq Value := fun a b => decidable_of_iff _ (eqb_iff a b)

end Value

/-! ## Changes of the parts -/

open Value

theorem Overwrites.under {make : β → Value} {P Q : β → β → Prop} (h : Overwrites P Q)
    (hmake : Kind make) : Overwrites (Under make P) (Under make Q) := by
  intro v v₁ v₂ hP
  induction hP generalizing v₂ with
  | bare hP =>
    rw [under_bare_iff hmake, under_bare_iff hmake]
    exact exists_congr fun b => and_congr_left fun _ => h hP
  | tagged _ ih =>
    rw [under_tagged_iff hmake, under_tagged_iff hmake]
    exact exists_congr fun inner => and_congr_left fun _ => @ih inner

theorem Commutes.under {make : β → Value} {P Q : β → β → Prop} (h : Commutes P Q)
    (hmake : Kind make) : Commutes (Under make P) (Under make Q) := by
  intro v v₁ v₂ hP hQ
  induction hP generalizing v₂ with
  | bare hP =>
    obtain ⟨b, hb, rfl⟩ := (under_bare_iff hmake).1 hQ
    obtain ⟨w, hw, hwb⟩ := h hP hb
    exact ⟨_, .bare hw, .bare hwb⟩
  | tagged _ ih =>
    obtain ⟨inner, hinner, rfl⟩ := (under_tagged_iff hmake).1 hQ
    obtain ⟨w, hw, hwz⟩ := ih hinner
    exact ⟨_, .tagged hw, .tagged hwz⟩

variable {key : String} {C D : Value → Value → Prop}

theorem unaffected_isEntryOf :
    Unaffected (isEntryOf key) fun entry entry' => entry'.1 = entry.1 ∧ C entry.2 entry'.2 := by
  rintro entry entry' ⟨hkey, -⟩
  rw [isEntryOf, isEntryOf, hkey]

theorem Overwrites.keyChanged (h : Overwrites C D) :
    Overwrites (KeyChanged key C) (KeyChanged key D) := by
  refine Overwrites.firstChanged ?_ unaffected_isEntryOf
  rintro x y z ⟨hkey, hC⟩
  dsimp only
  rw [hkey, h hC]

theorem Commutes.keyChanged (h : Commutes C D) :
    Commutes (KeyChanged key C) (KeyChanged key D) := by
  refine Commutes.firstChanged ?_ unaffected_isEntryOf unaffected_isEntryOf
  rintro x y z ⟨hxy, hC⟩ ⟨hyz, hD⟩
  obtain ⟨w, hw, hwz⟩ := h hC hD
  exact ⟨(x.1, w), ⟨rfl, hw⟩, hyz.trans hxy, hwz⟩

theorem overwrites_keySet {first second : Value} :
    Overwrites (KeySet key first) (KeySet key second) := by
  intro xs ys zs h
  rw [keySet_iff, keySet_iff]
  suffices hsame : insertEntry key second ys = insertEntry key second xs by rw [hsame]
  induction h with
  | replaced => simp [insertEntry, isKey]
  | added => simp [insertEntry, isKey]
  | there hne _ ih => simp [insertEntry, hne, ih]

end LocalCluster.Yaml
