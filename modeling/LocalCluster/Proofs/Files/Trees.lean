import LocalCluster.Proofs.Files.Paths

/-!
# Trees along paths

What becomes of a tree when directories are made and files are written below a directory that is
there, and that nothing else becomes of it.

* `find?_put`, `walk_append`, `walk_mono`: places of a tree, and walks in trees that grow.
* `Opens`: a path leads to a directory; it is kept by trees that grow.
* `Grown`, **`makeDirs_joinAll`**: directories are made as far as they are missing.
* **`write_joinAll`**: a new file is put into a directory; `walk_joinAll`, `resolve_joinAll`: where
  its path leads.
-/

namespace LocalCluster.Files.Tree

open LocalCluster.Container LocalCluster.Text

variable {t t' : Tree} {place q : Place} {path name : String} {pre rest ms ns : List String}
variable {item : Item}

/-! ## Places and walks -/

theorem lookup_replaced (items : List (Place × Item)) :
    (items.map fun e => if e.1 == place then (place, item) else e).lookup q =
      if q = place then (items.lookup place).map fun _ => item else items.lookup q := by
  induction items with
  | nil => simp
  | cons e items ih =>
    obtain ⟨p, old⟩ := e
    rw [List.map_cons]
    by_cases hp : p = place
    · subst hp
      simp only [beq_self_eq_true, if_true, List.lookup_cons]
      by_cases hq : q = p
      · simp [hq]
      · rw [if_neg hq] at ih ⊢
        rw [beq_eq_false_iff_ne.2 hq]
        exact ih
    · have hne : (place == p) = false := beq_eq_false_iff_ne.2 (Ne.symm hp)
      have hstay : (p == place) = false := beq_eq_false_iff_ne.2 hp
      simp only [hstay, Bool.false_eq_true, if_false, List.lookup_cons, hne]
      by_cases hq : q = p
      · subst hq
        rw [if_neg hp, beq_self_eq_true]
      · rw [beq_eq_false_iff_ne.2 hq]
        exact ih

/-- **Only the place changes at which something is put.** -/
theorem find?_put (h : place ≠ []) :
    (t.put place item).find? q = if q = place then some item else t.find? q := by
  by_cases hq : q = []
  · subst hq
    rw [if_neg h.symm]
    rfl
  have hfind : ∀ t : Tree, t.find? q = t.items.lookup q := fun t => by
    rw [find?, if_neg (by simpa using hq)]
  rw [hfind, hfind, put]
  split
  · next hany =>
    rw [lookup_replaced]
    obtain ⟨e, he, hplace⟩ := List.any_eq_true.1 hany
    cases hl : t.items.lookup place with
    | some old => rfl
    | none =>
      have hne : place ≠ e.1 := bne_iff_ne.1 (List.lookup_eq_none_iff.1 hl e he)
      exact absurd (beq_iff_eq.1 hplace).symm hne
  · next hany =>
    rw [List.lookup_append, List.lookup_cons, List.lookup_nil]
    by_cases hqp : q = place
    · subst hqp
      have hnone : t.items.lookup q = none :=
        List.lookup_eq_none_iff.2 fun e he => bne_iff_ne.2 fun heq =>
          hany (List.any_eq_true.2 ⟨e, he, beq_iff_eq.2 heq.symm⟩)
      simp [hnone]
    · rw [beq_eq_false_iff_ne.2 hqp, if_neg hqp]
      simp

theorem step_name (h : IsFileName name) : step place name = place ++ [name] := by
  rw [step, if_neg (by simp [h.notHere, h.nonempty]), if_neg h.notAbove]

theorem walk_append : t.walk place (ms ++ ns) = (t.walk place ms).bind (t.walk · ns) := by
  induction ms generalizing place with
  | nil => rfl
  | cons m ms ih =>
    rw [List.cons_append, walk, walk]
    split
    · exact ih
    · rfl
    · rfl

/-- Every directory of the first tree is one of the second. -/
def Grows (t t' : Tree) : Prop := ∀ q, t.find? q = some .directory → t'.find? q = some .directory

theorem walk_mono (h : Grows t t') (hw : t.walk place ns = .ok q) : t'.walk place ns = .ok q := by
  induction ns generalizing place with
  | nil => exact hw
  | cons n ns ih =>
    rw [walk] at hw ⊢
    split at hw
    · next hd =>
      rw [h place hd]
      exact ih hw
    · cases hw
    · cases hw

/-- Directories stand all along some names. -/
def Chain (t : Tree) (place : Place) (rest : List String) : Prop :=
  ∀ p, p <+: rest → t.find? (place ++ p) = some .directory

/-- Along some names nothing stands but directories; they may be missing. -/
def Clear (t : Tree) (place : Place) (rest : List String) : Prop :=
  ∀ p, p <+: rest → t.find? (place ++ p) = none ∨ t.find? (place ++ p) = some .directory

theorem Chain.of_cons (hname : IsFileName name) (h : Chain t place (name :: rest)) :
    Chain t (step place name) rest := fun p hp => by
  rw [step_name hname, List.append_assoc]
  exact h _ ((List.prefix_cons_inj name).2 hp)

theorem Chain.walk_eq (h : Chain t place rest) (hnames : ∀ name ∈ rest, IsFileName name) :
    t.walk place rest = .ok (place ++ rest) := by
  induction rest generalizing place with
  | nil =>
    rw [List.append_nil]
    rfl
  | cons name rest ih =>
    obtain ⟨hname, hrest⟩ := List.forall_mem_cons.1 hnames
    have hhere := h [] List.nil_prefix
    rw [List.append_nil] at hhere
    rw [walk, hhere]
    dsimp only
    rw [ih (h.of_cons hname) hrest, step_name hname, List.append_assoc]
    rfl

/-- Where not all along the way are directories, something is missing: on the way or at its end. -/
theorem walk_of_clear (hnames : ∀ name ∈ rest, IsFileName name) (hclear : Clear t place rest) :
    Chain t place rest ∨ t.walk place rest = .error .notFound ∨
      t.walk place rest = .ok (place ++ rest) ∧ t.find? (place ++ rest) = none := by
  induction rest generalizing place with
  | nil =>
    obtain hnone | hdir := hclear [] List.nil_prefix
    · exact .inr (.inr ⟨by rw [List.append_nil]; rfl, hnone⟩)
    · refine .inl fun p hp => ?_
      rwa [List.prefix_nil.1 hp]
  | cons name rest ih =>
    obtain ⟨hname, hrest⟩ := List.forall_mem_cons.1 hnames
    have hhere := hclear [] List.nil_prefix
    rw [List.append_nil] at hhere
    rw [walk]
    obtain hnone | hdir := hhere
    · rw [hnone]
      exact .inr (.inl rfl)
    · rw [hdir, List.append_cons, ← step_name hname]
      have hlater : Clear t (step place name) rest := fun p hp => by
        rw [step_name hname, List.append_assoc]
        exact hclear _ ((List.prefix_cons_inj name).2 hp)
      refine (ih hrest hlater).imp_left fun hchain p hp => ?_
      obtain rfl | ⟨p, rfl, hrest⟩ := List.prefix_cons_iff.1 hp
      · rwa [List.append_nil]
      · rw [List.append_cons, ← step_name hname]
        exact hchain p hrest

theorem Chain.concat (h : Chain t place pre)
    (hname : t.find? (place ++ (pre ++ [name])) = some .directory) :
    Chain t place (pre ++ [name]) := by
  intro p hp
  obtain rfl | hp := List.prefix_concat_iff.1 hp
  · exact hname
  · exact h p hp

/-! ## Paths that lead to directories -/

/-- The path leads to a directory at this place. -/
structure Opens (t : Tree) (path : String) (place : Place) : Prop where
  noZero : '\x00' ∉ path.toList
  leads : t.walk (origin path) (names path) = .ok place
  isDirectory : t.find? place = some .directory

theorem spellingFault?_eq_none_iff :
    spellingFault? path = none ↔ path ≠ "" ∧ '\x00' ∉ path.toList := by
  rw [spellingFault?]
  split
  · next h => simp [h]
  · next h => split <;> simp_all

theorem opens_of_resolve (h : t.resolve path = .ok (place, .directory)) : Opens t path place := by
  rw [resolve] at h
  split at h
  · cases h
  · next hs =>
    split at h
    · cases h
    · next found hw =>
      split at h
      · next item hi =>
        obtain ⟨rfl, rfl⟩ := Prod.mk.inj (Except.ok.inj h)
        exact ⟨(spellingFault?_eq_none_iff.1 hs).2, hw, hi⟩
      · cases h

namespace Opens

variable (ho : Opens t path place)
include ho

theorem mono (h : Grows t t') : Opens t' path place :=
  ⟨ho.noZero, walk_mono h ho.leads, h place ho.isDirectory⟩

theorem tidy : Opens t (tidy path) place := by
  obtain ⟨k, hk⟩ := exists_names_eq_tidy path
  have hdots : ∀ k q, t.walk q (List.replicate k ".") = .ok place → q = place := by
    intro k
    induction k with
    | zero =>
      intro q h
      exact Except.ok.inj h
    | succ k ih =>
      intro q h
      rw [List.replicate_succ, walk] at h
      split at h
      · exact ih q h
      · cases h
      · cases h
  have hleads := ho.leads
  rw [hk, walk_append, ← origin_tidy] at hleads
  refine ⟨not_mem_zero_tidy ho.noZero, ?_, ho.isDirectory⟩
  cases hw : t.walk (origin (Files.tidy path)) (names (Files.tidy path)) with
  | error fault =>
    rw [hw] at hleads
    cases hleads
  | ok q =>
    rw [hw] at hleads
    rw [hdots k q hleads]

theorem resolve_eq (hne : path ≠ "") : t.resolve path = .ok (place, .directory) := by
  rw [resolve, spellingFault?_eq_none_iff.2 ⟨hne, ho.noZero⟩]
  simp only [ho.leads, ho.isDirectory]

theorem makeDirsUp_eq (depth : Nat) : makeDirsUp (depth + 1) t path = (t, .ok ()) := by
  rw [makeDirsUp]
  by_cases hne : path = ""
  · rw [if_pos hne]
  rw [if_neg hne]
  have hthere : t.makeDir path = .error .alreadyExists := by
    have hleads := ho.leads
    have hspelling := spellingFault?_eq_none_iff.2 ⟨hne, ho.noZero⟩
    rw [makeDir, home, hspelling]
    rcases List.eq_nil_or_concat (names path) with hnames | ⟨ms, m, hnames⟩
    · rw [hnames] at hleads ⊢
      obtain rfl := Except.ok.inj hleads
      simp [walk, ho.isDirectory, step]
    · rw [hnames, List.concat_eq_append, walk_append] at hleads
      rw [hnames, List.concat_eq_append, List.dropLast_concat, List.getLastD_concat]
      cases hw : t.walk (origin path) ms with
      | error fault =>
        rw [hw] at hleads
        cases hleads
      | ok q =>
        rw [hw] at hleads
        change t.walk q [m] = _ at hleads
        rw [walk] at hleads
        split at hleads
        · next hq =>
          obtain rfl := Except.ok.inj hleads
          simp [hq, ho.isDirectory]
        · cases hleads
        · cases hleads
  rw [hthere]
  simp [makeDirsUp.settle, Tree.isDirectory, ho.resolve_eq hne]

theorem home_eq (hpre : ∀ n ∈ pre, IsFileName n) (hname : IsFileName name) :
    t.home (joinPath (joinAll path pre) name) =
      match t.walk place pre with
      | .error fault => .error fault
      | .ok place =>
        match t.find? place with
        | some .directory => .ok place
        | some (.file ..) => .error .notADirectory
        | none => .error .notFound := by
  have hspelling := spellingFault?_eq_none_iff.2 ⟨joinPath_ne_empty hname,
    not_mem_zero_joinPath hname (not_mem_zero_joinAll hpre ho.noZero)⟩
  rw [home, hspelling, names_joinPath hname, List.dropLast_concat, names_joinAll hpre,
    origin_joinPath hname, origin_joinAll hpre, walk_append, ho.leads]
  rfl

theorem home_of_chain (hchain : Chain t place pre) (hpre : ∀ n ∈ pre, IsFileName n)
    (hname : IsFileName name) :
    t.home (joinPath (joinAll path pre) name) = .ok (place ++ pre) := by
  rw [ho.home_eq hpre hname, hchain.walk_eq hpre]
  simp only [hchain pre (List.prefix_refl pre)]

/-- The directories on the way to a name are all there, or one of them is missing. -/
theorem home_of_clear (hclear : Clear t place pre) (hpre : ∀ n ∈ pre, IsFileName n)
    (hname : IsFileName name) : Chain t place pre ∨
      t.home (joinPath (joinAll path pre) name) = .error .notFound := by
  rw [ho.home_eq hpre hname]
  obtain hchain | hwalk | ⟨hwalk, hnone⟩ := walk_of_clear hpre hclear
  · exact .inl hchain
  · rw [hwalk]
    exact .inr rfl
  · rw [hwalk]
    dsimp only
    rw [hnone]
    exact .inr rfl

theorem makeDir_of_chain (hchain : Chain t place pre) (hpre : ∀ n ∈ pre, IsFileName n)
    (hname : IsFileName name) : t.makeDir (joinPath (joinAll path pre) name) =
      match t.find? (place ++ (pre ++ [name])) with
      | some _ => .error .alreadyExists
      | none => .ok (t.put (place ++ (pre ++ [name])) .directory) := by
  cases hi : t.find? (place ++ (pre ++ [name])) <;>
    simp [makeDir, ho.home_of_chain hchain hpre hname, names_joinPath hname, step_name hname, hi]

theorem joinAll (hchain : Chain t place rest) (hnames : ∀ n ∈ rest, IsFileName n) :
    Opens t (joinAll path rest) (place ++ rest) where
  noZero := not_mem_zero_joinAll hnames ho.noZero
  leads := by
    rw [names_joinAll hnames, origin_joinAll hnames, walk_append, ho.leads]
    exact hchain.walk_eq hnames
  isDirectory := hchain rest (List.prefix_refl rest)

end Opens

/-! ## Making directories -/

/-- Directories stand all along some names, and nothing else has changed. -/
structure Grown (t t' : Tree) (place : Place) (rest : List String) : Prop where
  made : ∀ p, p <+: rest → p ≠ [] → t'.find? (place ++ p) = some .directory
  kept : ∀ q, (∀ p, p <+: rest → p ≠ [] → q ≠ place ++ p) → t'.find? q = t.find? q

theorem Chain.grown (h : Chain t place rest) : Grown t t place rest :=
  ⟨fun p hp _ => h p hp, fun _ _ => rfl⟩

theorem Chain.grown_put (h : Chain t place pre) :
    Grown t (t.put (place ++ (pre ++ [name])) .directory) place (pre ++ [name]) := by
  have hne : place ++ (pre ++ [name]) ≠ [] := by simp
  refine ⟨fun p hp _ => ?_, fun q hq => ?_⟩
  · rw [find?_put hne]
    obtain rfl | hp := List.prefix_concat_iff.1 hp
    · rw [if_pos rfl]
    · have hdir := h p hp
      split
      · rfl
      · exact hdir
  · rw [find?_put hne, if_neg (hq _ (List.prefix_refl _) (by simp))]

theorem Grown.grows (h : Grown t t' place rest) : Grows t t' := by
  intro q hq
  by_cases hin : ∃ p, p <+: rest ∧ p ≠ [] ∧ q = place ++ p
  · obtain ⟨p, hp, hne, rfl⟩ := hin
    exact h.made p hp hne
  · rw [h.kept q fun p hp hne he => hin ⟨p, hp, hne, he⟩, hq]

theorem Grown.chain (h : Grown t t' place rest) (hplace : t.find? place = some .directory) :
    Chain t' place rest := by
  intro p hp
  by_cases hne : p = []
  · rw [hne, List.append_nil]
    exact h.grows place hplace
  · exact h.made p hp hne

theorem Grown.trans {t₁ t₂ : Tree} (h₁ : Grown t t₁ place pre)
    (h₂ : Grown t₁ t₂ place (pre ++ [name])) : Grown t t₂ place (pre ++ [name]) := by
  refine ⟨h₂.made, fun q hq => ?_⟩
  rw [h₂.kept q hq, h₁.kept q fun p hp => hq p (hp.trans (List.prefix_append _ _))]

section

variable (ho : Opens t path place) (hpre : ∀ n ∈ pre, IsFileName n) (hname : IsFileName name)
include ho hpre hname

theorem settle_of_chain (hchain : Chain t place pre)
    (hhere : t.find? (place ++ (pre ++ [name])) = none ∨
      t.find? (place ++ (pre ++ [name])) = some .directory) :
    ∃ t', makeDirsUp.settle t (joinPath (joinAll path pre) name)
        (t.makeDir (joinPath (joinAll path pre) name)) = (t', .ok ()) ∧
      Grown t t' place (pre ++ [name]) := by
  rw [ho.makeDir_of_chain hchain hpre hname]
  obtain hnone | hdir := hhere
  · rw [hnone]
    exact ⟨_, rfl, hchain.grown_put⟩
  · have hall : Chain t place (pre ++ [name]) := hchain.concat hdir
    have hnames : ∀ n ∈ pre ++ [name], IsFileName n :=
      List.forall_mem_append.2 ⟨hpre, List.forall_mem_singleton.2 hname⟩
    have hopens := ho.joinAll hall hnames
    rw [joinAll_concat] at hopens
    have hresolve := hopens.resolve_eq (joinPath_ne_empty hname)
    rw [hdir]
    exact ⟨t, by simp [makeDirsUp.settle, isDirectory, hresolve], hall.grown⟩

theorem makeDirsUp_of_chain (depth : Nat) (hchain : Chain t place pre) :
    makeDirsUp (depth + 1) t (joinPath (joinAll path pre) name) =
      makeDirsUp.settle t (joinPath (joinAll path pre) name)
        (t.makeDir (joinPath (joinAll path pre) name)) := by
  rw [makeDirsUp, if_neg (joinPath_ne_empty hname), ho.makeDir_of_chain hchain hpre hname]
  cases t.find? (place ++ (pre ++ [name])) <;> rfl

end

theorem makeDirsUp_joinAll (ho : Opens t path place) (depth : Nat) (hdepth : rest.length < depth)
    (hnames : ∀ n ∈ rest, IsFileName n) (hclear : Clear t place rest) :
    ∃ t', makeDirsUp depth t (joinAll path rest) = (t', .ok ()) ∧ Grown t t' place rest := by
  induction depth generalizing rest with
  | zero => omega
  | succ depth ih =>
    rcases List.eq_nil_or_concat rest with rfl | ⟨pre, name, rfl⟩
    · refine ⟨t, ho.makeDirsUp_eq depth, fun p hp hne => ?_, fun _ _ => rfl⟩
      exact absurd (List.prefix_nil.1 hp) hne
    rw [List.concat_eq_append] at hdepth hnames hclear ⊢
    obtain ⟨hpre, hname⟩ := List.forall_mem_append.1 hnames
    replace hname := List.forall_mem_singleton.1 hname
    have hhere := hclear _ (List.prefix_refl _)
    have habove : Clear t place pre := fun p hp => hclear p (hp.trans (List.prefix_append _ _))
    rw [joinAll_concat]
    by_cases hchain : Chain t place pre
    · rw [makeDirsUp_of_chain ho hpre hname depth hchain]
      exact settle_of_chain ho hpre hname hchain hhere
    -- something above is missing, and is made first
    have hhome := (ho.home_of_clear habove hpre hname).resolve_left hchain
    have hmissing : t.makeDir (joinPath (joinAll path pre) name) = .error .notFound := by
      rw [makeDir, hhome]
    have htidy : tidy (joinAll path pre) = joinAll path pre := by
      rcases List.eq_nil_or_concat pre with rfl | ⟨pre, last, rfl⟩
      · refine absurd (fun p hp => ?_) hchain
        rw [List.prefix_nil.1 hp, List.append_nil]
        exact ho.isDirectory
      · rw [List.concat_eq_append] at hpre ⊢
        rw [joinAll_concat, tidy_joinPath (hpre last (by simp))]
    obtain ⟨t₁, hmade, hgrown⟩ := ih (by simpa using hdepth) hpre habove
    have hopens := ho.mono hgrown.grows
    have hstill : t₁.find? (place ++ (pre ++ [name])) = t.find? (place ++ (pre ++ [name])) := by
      refine hgrown.kept _ fun p hp _ he => ?_
      have hlength := congrArg List.length (List.append_cancel_left he)
      have hle := hp.length_le
      rw [List.length_append, List.length_singleton] at hlength
      omega
    rw [← hstill] at hhere
    obtain ⟨t₂, hsettle, hlast⟩ :=
      settle_of_chain hopens hpre hname (hgrown.chain ho.isDirectory) hhere
    refine ⟨t₂, ?_, hgrown.trans hlast⟩
    rw [makeDirsUp, if_neg (joinPath_ne_empty hname), hmissing, parentPath?_joinPath _ hname]
    dsimp only
    rw [htidy, hmade]
    exact hsettle

/-- **Directories are made as far as they are missing**, and nothing else changes. -/
theorem makeDirs_joinAll (ho : Opens t path place) (hnames : ∀ n ∈ rest, IsFileName n)
    (hclear : Clear t place rest) :
    ∃ t', t.makeDirs (joinAll path rest) = (t', .ok ()) ∧ Grown t t' place rest := by
  have hlength := length_le_length_joinAll path hnames
  exact makeDirsUp_joinAll ho _ (by omega) hnames hclear

/-! ## Files -/

section

variable (ho : Opens t path place) (hpre : ∀ n ∈ pre, IsFileName n) (hname : IsFileName name)
include ho hpre hname

/-- **A new file is put into a directory that is there.** -/
theorem write_joinAll (hchain : Chain t place pre)
    (hnone : t.find? (place ++ (pre ++ [name])) = none) (contents : Bytes) :
    t.write (joinAll path (pre ++ [name])) contents =
      (t.put (place ++ (pre ++ [name])) (.file false contents), .ok ()) := by
  have hplain : namesDirectory (joinPath (joinAll path pre) name) = false := by
    rw [namesDirectory, names_joinPath hname, List.getLast?_concat]
    simp [getLast?_joinPath hname, hname.notHere, hname.notAbove]
  rw [joinAll_concat, write, ho.home_of_chain hchain hpre hname, hplain, names_joinPath hname,
    List.getLastD_concat]
  simp only [Bool.false_eq_true, if_false, step_name hname, List.append_assoc, hnone]

theorem walk_joinAll (hchain : Chain t place pre) :
    t.walk (origin (joinAll path (pre ++ [name]))) (names (joinAll path (pre ++ [name]))) =
      .ok (place ++ (pre ++ [name])) := by
  have hnames : ∀ n ∈ pre ++ [name], IsFileName n :=
    List.forall_mem_append.2 ⟨hpre, List.forall_mem_singleton.2 hname⟩
  rw [names_joinAll hnames, origin_joinAll hnames, walk_append, ho.leads]
  change t.walk place (pre ++ [name]) = _
  rw [walk_append, hchain.walk_eq hpre]
  change t.walk (place ++ pre) [name] = _
  rw [walk, hchain pre (List.prefix_refl pre)]
  dsimp only
  rw [step_name hname, List.append_assoc]
  rfl

theorem resolve_joinAll (hchain : Chain t place pre) : t.resolve (joinAll path (pre ++ [name])) =
    match t.find? (place ++ (pre ++ [name])) with
    | some item => .ok (place ++ (pre ++ [name]), item)
    | none => .error .notFound := by
  have hspelling : spellingFault? (joinAll path (pre ++ [name])) = none := by
    rw [joinAll_concat]
    exact spellingFault?_eq_none_iff.2 ⟨joinPath_ne_empty hname,
      not_mem_zero_joinPath hname (not_mem_zero_joinAll hpre ho.noZero)⟩
  cases hi : t.find? (place ++ (pre ++ [name])) <;>
    simp only [resolve, hspelling, walk_joinAll ho hpre hname hchain, hi]

end

end LocalCluster.Files.Tree
