import LocalCluster.Cluster.Version
import LocalCluster.Proofs.Text.Numerals
import LocalCluster.Proofs.Text.Printed
import LocalCluster.Proofs.Text.Trimmed

/-!
# Texts of versions

The grammar of a version: blanks, any number of `v`, three numbers with points between them, after
the third one a point or a suffix with anything behind, and blanks.

* `Shape`: a text taken apart; **`Shape.core_eq`**, `exists_shape`: this is possible in one way.
* `Tells`: the numbers in the core of a text; **`parse?_eq_some_iff`**: they are what is read.
* `Ending`: a suffix taken apart; **`Shape.read_append_iff`**: it counts for nothing, but blanks
  that it shuts in count.
* **`read_by_grammar`**: what is read and what is refused; texts of versions are read back.
-/

namespace LocalCluster.Cluster.Version

open LocalCluster.Text

variable {s : String} {v : Version}

/-! ## The parts of a text -/

/-- A text taken apart into blanks, marks `v`, a core and a suffix. -/
structure Shape (s : String) where
  before : List Char
  marks : Nat
  core : List Char
  suffix : List Char
  after : List Char
  text : s.toList = before ++ (List.replicate marks 'v' ++ (core ++ suffix)) ++ after
  blank_before : ∀ c ∈ before, isBlank c = true
  blank_after : ∀ c ∈ after, isBlank c = true
  /-- All blanks at the ends have been taken off. -/
  stripped : Stripped (List.replicate marks 'v' ++ (core ++ suffix))
  /-- All marks have been taken off. -/
  unmarked : (core ++ suffix).head? ≠ some 'v'
  plain : '-' ∉ core ∧ '+' ∉ core
  /-- The core goes on until the suffix begins. -/
  ended : ∀ c, suffix.head? = some c → c = '-' ∨ c = '+'

/-- **There is one core at most.** -/
theorem Shape.core_eq (shape : Shape s) : shape.core = Version.core s := by
  have hmarks : (List.replicate shape.marks 'v' ++ (shape.core ++ shape.suffix)).dropWhile
      (· == 'v') = shape.core ++ shape.suffix := by
    rw [List.dropWhile_append_of_pos (by simp)]
    cases hrest : shape.core ++ shape.suffix with
    | nil => rfl
    | cons c rest =>
      have hc : c ≠ 'v' := by simpa [hrest] using shape.unmarked
      exact dropWhile_of_head _ (by simpa using hc)
  have hcore : ∀ c ∈ shape.core, (! beginsSuffix c) = true := by
    intro c hc
    have hminus : c ≠ '-' := fun h => shape.plain.1 (h ▸ hc)
    have hplus : c ≠ '+' := fun h => shape.plain.2 (h ▸ hc)
    simp [beginsSuffix, hminus, hplus]
  have hsuffix : shape.suffix.takeWhile (! beginsSuffix ·) = [] := by
    cases h : shape.suffix with
    | nil => rfl
    | cons c rest =>
      have hc : beginsSuffix c = true := by
        simpa [beginsSuffix] using shape.ended c (by rw [h]; rfl)
      simp [hc]
  rw [Version.core, shape.text, trimChars_of_stripped shape.blank_before shape.blank_after
    shape.stripped, hmarks, List.takeWhile_append_of_pos hcore, hsuffix, List.append_nil]

/-- **Every text can be taken apart.** -/
theorem exists_shape (s : String) : Nonempty (Shape s) := by
  obtain ⟨before, after, htext, hbefore, hafter⟩ := exists_eq_trimChars s.toList
  have hmarks : (trimChars s.toList).takeWhile (· == 'v') =
      List.replicate ((trimChars s.toList).takeWhile (· == 'v')).length 'v' :=
    List.eq_replicate_of_mem fun c hc => by simpa using List.mem_takeWhile_imp hc
  have hrest : Version.core s ++ ((trimChars s.toList).dropWhile (· == 'v')).dropWhile
      (! beginsSuffix ·) = (trimChars s.toList).dropWhile (· == 'v') :=
    List.takeWhile_append_dropWhile
  have hbody : List.replicate ((trimChars s.toList).takeWhile (· == 'v')).length 'v' ++
      (Version.core s ++ ((trimChars s.toList).dropWhile (· == 'v')).dropWhile
        (! beginsSuffix ·)) = trimChars s.toList := by
    rw [hrest, ← hmarks, List.takeWhile_append_dropWhile]
  have hcore : ∀ c ∈ Version.core s, beginsSuffix c = false := fun c hc => by
    simpa using List.mem_takeWhile_imp hc
  exact ⟨{
    before, after
    marks := _
    core := Version.core s
    suffix := _
    text := by rw [hbody]; exact htext
    blank_before := hbefore
    blank_after := hafter
    stripped := by rw [hbody]; exact stripped_trimChars _
    unmarked := by
      rw [hrest]
      intro h
      exact absurd (head?_dropWhile h) (by decide)
    plain := ⟨fun h => absurd (hcore _ h) (by decide), fun h => absurd (hcore _ h) (by decide)⟩
    ended := fun c h => by simpa [beginsSuffix, or_iff_not_imp_left] using head?_dropWhile h }⟩

/-! ## Numbers -/

/-- The core tells a version: three numbers of 32 bits with points between them, and then nothing or
a point with anything behind. -/
def Tells (core : List Char) (v : Version) : Prop :=
  ∃ major minor patch rest, core = major ++ '.' :: (minor ++ '.' :: (patch ++ rest)) ∧
    (∀ c, rest.head? = some c → c = '.') ∧
    Numeral major v.major.toNat ∧ Numeral minor v.minor.toNat ∧ Numeral patch v.patch.toNat

theorem readNumber_eq_some_iff {ds : List Char} {n : UInt32} :
    readNumber ds = some n ↔ Numeral ds n.toNat := by
  rw [readNumber, Option.map_eq_some_iff]
  constructor
  · rintro ⟨value, hvalue, rfl⟩
    obtain ⟨hnumeral, hle⟩ := readDigits_eq_some_iff.1 hvalue
    rwa [UInt32.toNat_ofNat_of_lt' (by unfold maxNumber at hle; simp [UInt32.size]; omega)]
  · intro h
    have hlt := n.toNat_lt
    refine ⟨n.toNat, readDigits_eq_some_iff.2 ⟨h, ?_⟩, UInt32.ofNat_toNat⟩
    unfold maxNumber
    omega

theorem point_not_mem {ds : List Char} {n : Nat} (h : Numeral ds n) : '.' ∉ ds := fun hmem =>
  absurd (h.digits _ hmem) (by decide)

/-- **The numbers in the core of a text are what is read.** -/
theorem parse?_eq_some_iff : parse? s = some v ↔ Tells (Version.core s) v := by
  unfold parse?
  constructor
  · intro h
    split at h
    · next a b c rest hsplit =>
      obtain ⟨major, hmajor, h⟩ := Option.bind_eq_some_iff.1 h
      obtain ⟨minor, hminor, h⟩ := Option.bind_eq_some_iff.1 h
      obtain ⟨patch, hpatch, h⟩ := Option.bind_eq_some_iff.1 h
      cases h
      rw [readNumber_eq_some_iff] at hmajor hminor hpatch
      have hcore : Version.core s = ['.'].intercalate (a :: b :: c :: rest) := by
        rw [← hsplit, List.intercalate_splitOn]
      cases rest with
      | nil =>
        refine ⟨a, b, c, [], ?_, nofun, hmajor, hminor, hpatch⟩
        simp [hcore, List.intercalate]
      | cons d rest =>
        refine ⟨a, b, c, '.' :: ['.'].intercalate (d :: rest), ?_, ?_, hmajor, hminor, hpatch⟩
        · simp [hcore, List.intercalate]
        · simp
    · cases h
  · rintro ⟨a, b, c, rest, hcore, hrest, hmajor, hminor, hpatch⟩
    obtain ⟨more, hlast⟩ : ∃ more, (c ++ rest).splitOn '.' = c :: more := by
      cases rest with
      | nil => exact ⟨[], by rw [List.append_nil, List.splitOn_eq_singleton (point_not_mem hpatch)]⟩
      | cons x rest =>
        obtain rfl := hrest x rfl
        exact ⟨_, List.splitOn_append_cons_self_of_not_mem (point_not_mem hpatch) rest⟩
    have hsplit : (Version.core s).splitOn '.' = a :: b :: c :: more := by
      rw [hcore, List.splitOn_append_cons_self_of_not_mem (point_not_mem hmajor),
        List.splitOn_append_cons_self_of_not_mem (point_not_mem hminor), hlast]
    rw [← readNumber_eq_some_iff] at hmajor hminor hpatch
    simp [hsplit, hmajor, hminor, hpatch]

theorem read_eq_ok_iff : read s = .ok v ↔ Tells (Version.core s) v := by
  rw [← parse?_eq_some_iff, read]
  cases parse? s <;> simp

theorem read_eq_error_iff {fault : Fault} : read s = .error fault ↔
    (∀ v, ¬ Tells (Version.core s) v) ∧
      fault = .validation ("invalid Kubernetes version " ++ quote s) := by
  simp only [← parse?_eq_some_iff, read]
  cases parse? s <;> simp [eq_comm]

theorem isDigit_or_point {a b c : List Char} {major minor patch : Nat} (hmajor : Numeral a major)
    (hminor : Numeral b minor) (hpatch : Numeral c patch) :
    ∀ x ∈ a ++ '.' :: (b ++ '.' :: c), x.isDigit = true ∨ x = '.' := by
  intro x hx
  simp only [List.mem_append, List.mem_cons] at hx
  rcases hx with hx | rfl | hx | rfl | hx
  · exact .inl (hmajor.digits x hx)
  · exact .inr rfl
  · exact .inl (hminor.digits x hx)
  · exact .inr rfl
  · exact .inl (hpatch.digits x hx)

theorem isBlank_of_isDigit_or_point {c : Char} (h : c.isDigit = true ∨ c = '.') :
    isBlank c = false := by
  rcases h with h | rfl
  · exact isBlank_of_isDigit h
  · decide

/-! ## Texts of versions -/

/-- The numbers of a version with points between them. -/
def numbers (v : Version) : List Char :=
  (toString v.major.toNat).toList ++ '.' :: ((toString v.minor.toNat).toList ++
    '.' :: (toString v.patch.toNat).toList)

theorem isDigit_or_point_numbers : ∀ c ∈ numbers v, c.isDigit = true ∨ c = '.' :=
  isDigit_or_point (numeral_toString _) (numeral_toString _) (numeral_toString _)

theorem display_toList : (display v).toList = 'v' :: numbers v := by
  simp [display, numbers]

/-- **The core of the text of a version is its numbers.** -/
theorem core_display : Version.core (display v) = numbers v := by
  have hnot : ∀ c, c.isDigit = false → c ≠ '.' → c ∉ numbers v := by
    intro c hdigit hpoint hc
    rcases isDigit_or_point_numbers c hc with h | h
    · simp [h] at hdigit
    · exact hpoint h
  let shape : Shape (display v) := {
    before := [], marks := 1, core := numbers v, suffix := [], after := []
    text := by simp [display_toList]
    blank_before := by simp
    blank_after := by simp
    stripped := stripped_of_forall fun c hc => by
      simp only [List.replicate_one, List.append_nil, List.mem_append, List.mem_singleton] at hc
      rcases hc with rfl | hc
      · decide
      · exact isBlank_of_isDigit_or_point (isDigit_or_point_numbers c hc)
    unmarked := fun h =>
      hnot 'v' (by decide) (by decide) (List.mem_of_head? (by simpa using h))
    plain := ⟨hnot '-' (by decide) (by decide), hnot '+' (by decide) (by decide)⟩
    ended := nofun }
  exact shape.core_eq.symm

theorem read_display (v : Version) : read (display v) = .ok v := by
  rw [read_eq_ok_iff, core_display]
  exact ⟨_, _, _, [], by simp [numbers], nofun, numeral_toString _, numeral_toString _,
    numeral_toString _⟩

/-! ## Suffixes -/

/-- A suffix taken apart: no blanks stand before it, and those at its end are told apart. -/
structure Ending (suffix : String) where
  tail : List Char
  after : List Char
  text : suffix.toList = tail ++ after
  blank_after : ∀ c ∈ after, isBlank c = true
  stripped : Stripped tail
  begun : tail.head? = some '-' ∨ tail.head? = some '+'

variable {suffix : String}

theorem Ending.tail_ne_nil (e : Ending suffix) : e.tail ≠ [] := by
  intro h
  have hbegun := e.begun
  simp [h] at hbegun

theorem Ending.ended (e : Ending suffix) : ∀ c, e.tail.head? = some c → c = '-' ∨ c = '+' := by
  intro c hc
  simpa [hc] using e.begun

theorem Ending.unmarked (e : Ending suffix) : e.tail.head? ≠ some 'v' := fun h => by
  simpa using e.ended 'v' h

theorem exists_ending (hsuffix : suffix.toList.head? = some '-' ∨ suffix.toList.head? = some '+') :
    Nonempty (Ending suffix) := by
  obtain ⟨before, after, htext, hbefore, hafter⟩ := exists_eq_trimChars suffix.toList
  obtain rfl : before = [] := by
    cases before with
    | nil => rfl
    | cons b rest =>
      have hb := hbefore b List.mem_cons_self
      rw [htext, List.cons_append, List.cons_append, List.head?_cons, Option.some_inj,
        Option.some_inj] at hsuffix
      rcases hsuffix with rfl | rfl <;> exact absurd hb (by decide)
  rw [List.nil_append] at htext
  refine ⟨⟨_, after, htext, hafter, stripped_trimChars _, ?_⟩⟩
  cases htail : trimChars suffix.toList with
  | nil =>
    have hblank : ∀ c, suffix.toList.head? = some c → isBlank c = true := fun c hc =>
      trimChars_eq_nil_iff.1 htail c (List.mem_of_head? hc)
    rcases hsuffix with h | h <;> exact absurd (hblank _ h) (by decide)
  | cons c rest =>
    rw [htext, htail] at hsuffix
    simpa using hsuffix

theorem Shape.exists_append_blank (shape : Shape s) (e : Ending suffix)
    (hbody : List.replicate shape.marks 'v' ++ (shape.core ++ shape.suffix) = []) :
    ∃ shape' : Shape (s ++ suffix), shape'.core = shape.core := by
  have hcore : shape.core = [] := by simp_all
  have hall : s.toList = shape.before ++ shape.after := by rw [shape.text, hbody]; simp
  exact ⟨{
    before := shape.before ++ shape.after, marks := 0, core := [], suffix := e.tail
    after := e.after
    text := by simp [hall, e.text]
    blank_before := List.forall_mem_append.2 ⟨shape.blank_before, shape.blank_after⟩
    blank_after := e.blank_after
    stripped := by simpa using e.stripped
    unmarked := by simpa using e.unmarked
    plain := by simp
    ended := e.ended }, hcore.symm⟩

/-- Behind a core, a suffix shuts the blanks between them in. -/
theorem Shape.exists_append_core (shape : Shape s) (e : Ending suffix)
    (hbody : List.replicate shape.marks 'v' ++ (shape.core ++ shape.suffix) ≠ [])
    (hnone : shape.suffix = []) :
    ∃ shape' : Shape (s ++ suffix), shape'.core = shape.core ++ shape.after := by
  refine ⟨{
    before := shape.before, marks := shape.marks, core := shape.core ++ shape.after
    suffix := e.tail, after := e.after
    text := by simp [shape.text, e.text, hnone]
    blank_before := shape.blank_before
    blank_after := e.blank_after
    stripped := by
      simpa [hnone] using shape.stripped.append hbody e.stripped e.tail_ne_nil shape.after
    unmarked := ?_
    plain := ?_
    ended := e.ended }, rfl⟩
  · have hcore := shape.unmarked
    cases hc : shape.core with
    | cons c rest => simpa [hc] using hcore
    | nil =>
      cases ha : shape.after with
      | nil => simpa using e.unmarked
      | cons b rest =>
        rintro ⟨⟩
        exact absurd (shape.blank_after 'v' (by simp [ha])) (by decide)
  · have hblank : ∀ c, isBlank c = false → c ∉ shape.after := fun c hc hmem => by
      simp [shape.blank_after c hmem] at hc
    simp [shape.plain, hblank '-' (by decide), hblank '+' (by decide)]

theorem Shape.exists_append_suffix (shape : Shape s) (e : Ending suffix)
    (hsuffix : shape.suffix ≠ []) : ∃ shape' : Shape (s ++ suffix), shape'.core = shape.core := by
  have hbody : List.replicate shape.marks 'v' ++ (shape.core ++ shape.suffix) ≠ [] := by
    simp [hsuffix]
  obtain ⟨first, rest, hfirst⟩ := List.exists_cons_of_ne_nil hsuffix
  exact ⟨{
    before := shape.before, marks := shape.marks, core := shape.core
    suffix := shape.suffix ++ shape.after ++ e.tail, after := e.after
    text := by simp [shape.text, e.text]
    blank_before := shape.blank_before
    blank_after := e.blank_after
    stripped := by
      simpa using shape.stripped.append hbody e.stripped e.tail_ne_nil shape.after
    unmarked := by
      have hunmarked := shape.unmarked
      cases hc : shape.core with
      | nil => simpa [hc, hfirst] using hunmarked
      | cons c core => simpa [hc] using hunmarked
    plain := shape.plain
    ended := fun x hx => shape.ended x (by simpa [hfirst] using hx) }, rfl⟩

/-- No blanks stand at the end of the text, or they stand behind another suffix or behind a third
point, where nothing is read. -/
def Shape.Extensible (shape : Shape s) : Prop :=
  shape.after = [] ∨ shape.suffix ≠ [] ∨ 2 < shape.core.count '.'

theorem exists_append_of_blank {core shut numbers rest : List Char}
    (hshut : ∀ c ∈ shut, isBlank c = true) (hnumbers : ∀ c ∈ numbers, isBlank c = false)
    (h : core ++ shut = numbers ++ rest) : ∃ own, core = numbers ++ own ∧ rest = own ++ shut := by
  rcases List.append_eq_append_iff.1 h with ⟨own, htext, hown⟩ | ⟨own, hcore, hown⟩
  · -- what is shut in would stand among the numbers
    obtain rfl : own = [] := by
      refine List.eq_nil_iff_forall_not_mem.2 fun x hx => ?_
      have hblank := hshut x (by simp [hown, hx])
      rw [hnumbers x (by simp [htext, hx])] at hblank
      cases hblank
    exact ⟨[], by simpa using htext.symm, by simpa using hown.symm⟩
  · exact ⟨own, hcore, hown⟩

theorem tells_iff_of_blank {core shut : List Char} (hshut : ∀ c ∈ shut, isBlank c = true) :
    Tells (core ++ shut) v ↔ Tells core v ∧ (shut = [] ∨ 2 < core.count '.') := by
  constructor
  · rintro ⟨a, b, c, rest, htext, hrest, hmajor, hminor, hpatch⟩
    have hvisible : ∀ x ∈ a ++ '.' :: (b ++ '.' :: c), isBlank x = false := fun x hx =>
      isBlank_of_isDigit_or_point (isDigit_or_point hmajor hminor hpatch x hx)
    have htext' : core ++ shut = (a ++ '.' :: (b ++ '.' :: c)) ++ rest := by simp [htext]
    obtain ⟨own, hcore, hown⟩ := exists_append_of_blank hshut hvisible htext'
    replace hcore : core = a ++ '.' :: (b ++ '.' :: (c ++ own)) := by simpa using hcore
    refine ⟨⟨a, b, c, own, hcore, fun x hx => hrest x (by simp [hown, hx]), hmajor, hminor,
      hpatch⟩, ?_⟩
    cases own with
    | nil =>
      refine .inl (List.eq_nil_iff_forall_not_mem.2 fun x hx => ?_)
      cases shut with
      | nil => cases hx
      | cons y shut =>
        obtain rfl := hrest y (by simp [hown])
        exact absurd (hshut '.' List.mem_cons_self) (by decide)
    | cons x own =>
      obtain rfl := hrest x (by simp [hown])
      refine .inr ?_
      simp only [hcore, List.count_append, List.count_cons_self]
      omega
  · rintro ⟨⟨a, b, c, rest, hcore, hrest, hmajor, hminor, hpatch⟩, rfl | hpoints⟩
    · exact ⟨a, b, c, rest, by simp [hcore], hrest, hmajor, hminor, hpatch⟩
    · cases rest with
      | nil =>
        simp [hcore, List.count_eq_zero_of_not_mem (point_not_mem hmajor),
          List.count_eq_zero_of_not_mem (point_not_mem hminor),
          List.count_eq_zero_of_not_mem (point_not_mem hpatch)] at hpoints
      | cons x rest =>
        obtain rfl := hrest x rfl
        exact ⟨a, b, c, '.' :: (rest ++ shut), by simp [hcore], by simp, hmajor, hminor, hpatch⟩

/-- **With a suffix behind it, a text is read as before, or it is refused** because of the blanks
that the suffix shuts in. -/
theorem Shape.read_append_iff (shape : Shape s)
    (hsuffix : suffix.toList.head? = some '-' ∨ suffix.toList.head? = some '+') :
    read (s ++ suffix) = .ok v ↔ read s = .ok v ∧ shape.Extensible := by
  obtain ⟨e⟩ := exists_ending hsuffix
  rw [read_eq_ok_iff, read_eq_ok_iff, ← shape.core_eq]
  by_cases hbody : List.replicate shape.marks 'v' ++ (shape.core ++ shape.suffix) = []
  · obtain ⟨shape', hcore⟩ := shape.exists_append_blank e hbody
    have hnothing : shape.core = [] := by simp_all
    have hnone : ¬ Tells [] v := by
      rintro ⟨_, _, _, _, h, -⟩
      simp at h
    rw [← shape'.core_eq, hcore, hnothing]
    exact ⟨fun h => absurd h hnone, fun h => absurd h.1 hnone⟩
  by_cases hsuffix : shape.suffix = []
  · obtain ⟨shape', hcore⟩ := shape.exists_append_core e hbody hsuffix
    rw [← shape'.core_eq, hcore, tells_iff_of_blank shape.blank_after, Extensible]
    simp [hsuffix]
  · obtain ⟨shape', hcore⟩ := shape.exists_append_suffix e hsuffix
    rw [← shape'.core_eq, hcore, Extensible]
    simp [hsuffix]

theorem extensible_of_getLast? (shape : Shape s)
    (hlast : ∀ c, s.toList.getLast? = some c → isBlank c = false) : shape.Extensible := by
  refine .inl ?_
  by_contra hne
  have hend := hlast (shape.after.getLast hne)
    (by simp [shape.text, List.getLast?_append, List.getLast?_eq_some_getLast hne])
  rw [shape.blank_after _ (List.getLast_mem hne)] at hend
  cases hend

/-- **What is read is what the grammar says**, and the rest is refused: a text is taken apart in one
way, and its core must begin with three numbers of 32 bits between points. The text of a version is
read back, with any suffix behind it. Any other text is read with a suffix behind it as it is read
without, but for one case: blanks that stand directly behind the third number are blanks at the end
no more, and the text is refused. -/
theorem read_by_grammar (s : String) :
    (Nonempty (Shape s) ∧ ∀ shape : Shape s, (∀ v, read s = .ok v ↔ Tells shape.core v) ∧
      ((∀ v, ¬ Tells shape.core v) →
        read s = .error (.validation ("invalid Kubernetes version " ++ quote s)))) ∧
    (∀ v, read (display v) = .ok v) ∧
    ∀ suffix : String, suffix.toList.head? = some '-' ∨ suffix.toList.head? = some '+' →
      (∀ v, read (display v ++ suffix) = .ok v) ∧
      (∀ shape : Shape s, ∀ v, read (s ++ suffix) = .ok v ↔ read s = .ok v ∧ shape.Extensible) ∧
      ((∀ v, read s ≠ .ok v) → read (s ++ suffix) =
        .error (.validation ("invalid Kubernetes version " ++ quote (s ++ suffix)))) := by
  refine ⟨⟨exists_shape s, fun shape => ⟨fun v => ?_, fun hnone => ?_⟩⟩, read_display,
    fun suffix hsuffix => ⟨fun v => ?_, fun shape _ => shape.read_append_iff hsuffix,
      fun hnone => ?_⟩⟩
  · rw [read_eq_ok_iff, shape.core_eq]
  · rw [shape.core_eq] at hnone
    exact read_eq_error_iff.2 ⟨hnone, rfl⟩
  · obtain ⟨shape⟩ := exists_shape (display v)
    refine (shape.read_append_iff hsuffix).2 ⟨read_display v, extensible_of_getLast? shape ?_⟩
    intro c hc
    rw [display_toList] at hc
    rcases List.mem_cons.1 (List.mem_of_getLast? hc) with rfl | hc
    · decide
    · exact isBlank_of_isDigit_or_point (isDigit_or_point_numbers c hc)
  · obtain ⟨shape⟩ := exists_shape s
    refine read_eq_error_iff.2 ⟨fun v h => hnone v ?_, rfl⟩
    exact ((shape.read_append_iff hsuffix).1 (read_eq_ok_iff.2 h)).1

theorem suffixed_read : read "\tvv1.030.4294967295.x\n" = .ok ⟨1, 30, 4294967295⟩ ∧
    read ("\tvv1.030.4294967295.x\n" ++ "+build -\n") = .ok ⟨1, 30, 4294967295⟩ ∧
    read (display ⟨1, 30, 0⟩ ++ "-alpha.1+abc") = .ok ⟨1, 30, 0⟩ := by
  have hread : read "\tvv1.030.4294967295.x\n" = .ok ⟨1, 30, 4294967295⟩ := by rfl
  obtain ⟨⟨⟨shape⟩, -⟩, -, hsuffix⟩ := read_by_grammar "\tvv1.030.4294967295.x\n"
  have hpoints : shape.Extensible := .inr (.inr (by rw [shape.core_eq]; decide))
  exact ⟨hread, ((hsuffix "+build -\n" (by decide)).2.1 shape _).2 ⟨hread, hpoints⟩,
    (hsuffix "-alpha.1+abc" (by decide)).1 _⟩

/-- **A suffix behind a blank can take a text its version.** -/
theorem suffix_shuts_blank :
    read "1.2.3 " = .ok ⟨1, 2, 3⟩ ∧ read ("1.2.3 " ++ "-rc.1") =
      .error (.validation "invalid Kubernetes version \"1.2.3 -rc.1\"") ∧
    read "1.14.10\n" = .ok ⟨1, 14, 10⟩ ∧ read ("1.14.10\n" ++ "-x") =
      .error (.validation "invalid Kubernetes version \"1.14.10\\n-x\"") := by
  refine ⟨by rfl, by rfl, by rfl, by rfl⟩

end LocalCluster.Cluster.Version
