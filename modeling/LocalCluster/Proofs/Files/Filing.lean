import LocalCluster.Proofs.Files.Trees
import LocalCluster.Proofs.Work.Driven

/-!
# Filing in a tree

What a run does with files, when they are kept in a tree that others may change too where the run
has nothing to do. If every directory and every file has a place of its own below a directory that
was empty, then nothing goes wrong, and in the end there is what has been made and written.

* `Filed`: how a tree goes along with what is exchanged; `clerk`: a host that keeps files so.
* `Site`: a directory, and the names below it that directories and files are to have.
* `Laid`: what has been made and written below it; `Site.Progress`: just this is there.
* `Site.Allows`: what may be asked next; `Site.makes_again`, **`Site.makes`**, **`Site.writes`**: it
  is done as asked.
* **`Site.progress_of_filed`**: this goes on as long as only that is asked.
-/

namespace LocalCluster.Files

open LocalCluster.Container LocalCluster.Text Script LocalCluster.Files.Tree

/-- The request is about files of the host. -/
def isFiling : Request → Bool
  | .makeDirs _ | .writeFile .. | .restrict _ => true
  | _ => false

/-- A tree goes along with exchanges: what is asked about files is done to it and answered as it
says. Others may change what is set aside, at any time. -/
inductive Filed (aside : Place → Prop) :
    Tree → List (Exchange Request Request.Answer) → Tree → Prop where
  | done {t : Tree} : Filed aside t [] t
  | stirred {t t' u : Tree} {X : List (Exchange Request Request.Answer)}
      (same : ∀ q, ¬ aside q → t'.find? q = t.find? q) (rest : Filed aside t' X u) :
      Filed aside t X u
  | elsewhere {t u : Tree} {x : Exchange Request Request.Answer}
      {X : List (Exchange Request Request.Answer)} (hx : isFiling x.question = false)
      (rest : Filed aside t X u) : Filed aside t (x :: X) u
  | makeDirs {t u : Tree} {path : String} {X : List (Exchange Request Request.Answer)}
      (rest : Filed aside (t.makeDirs path).1 X u) :
      Filed aside t (⟨.makeDirs path, (t.makeDirs path).2⟩ :: X) u
  | writeFile {t u : Tree} {path : String} {contents : Bytes}
      {X : List (Exchange Request Request.Answer)}
      (rest : Filed aside (t.write path contents).1 X u) :
      Filed aside t (⟨.writeFile path contents, (t.write path contents).2⟩ :: X) u
  | restrict {t u : Tree} {path : String} {X : List (Exchange Request Request.Answer)}
      (rest : Filed aside (t.restrict path).1 X u) :
      Filed aside t (⟨.restrict path, (t.restrict path).2⟩ :: X) u

/-- A host that answers commands from a table and keeps files in a tree. -/
def clerk (answers : Command → Except RuntimeFault Output) : Host Tree where
  answer
    | .command c => fun t => ((answers c, 0), t)
    | .makeDirs path => fun t => (((t.makeDirs path).2, 0), (t.makeDirs path).1)
    | .writeFile path contents => fun t =>
      (((t.write path contents).2, 0), (t.write path contents).1)
    | .restrict path => fun t => (((t.restrict path).2, 0), (t.restrict path).1)
    | .pause milliseconds => fun t => (((), milliseconds), t)
    | .listen .. => fun t => ((.ok 1, 0), t)
    | .draw => fun t => (((0 : Nat), 0), t)
    | .tell _ => fun t => (((), 0), t)

theorem filed_of_answers {aside : Place → Prop} {answers : Command → Except RuntimeFault Output}
    {t u : Tree} {X : List (Exchange Request Request.Answer)}
    (h : (clerk answers).Answers t X u) : Filed aside t X u := by
  induction h with
  | nil => exact .done
  | @cons t u r X _ ih =>
    cases r with
    | makeDirs path => exact .makeDirs ih
    | writeFile path contents => exact .writeFile ih
    | restrict path => exact .restrict ih
    | _ => exact .elsewhere rfl ih

theorem eq_of_answers {answers : Command → Except RuntimeFault Output} {t u : Tree}
    {X : List (Exchange Request Request.Answer)} (h : (clerk answers).Answers t X u) {c : Command}
    {result : Except RuntimeFault Output} (hmem : ⟨.command c, result⟩ ∈ X) :
    result = answers c := by
  induction h with
  | nil => cases hmem
  | cons _ ih =>
    obtain he | hmem := List.mem_cons.1 hmem
    · obtain ⟨rfl, hanswer⟩ := Exchange.mk.inj he
      exact eq_of_heq hanswer
    · exact ih hmem

/-! ## Sites -/

/-- A path leads to an empty directory. Below it some directories are to be made and some files are
to be written, each at a place of its own, and not where others may change something. -/
structure Site (t₀ : Tree) (path : String) (place : Place) (aside : Place → Prop)
    (dirs files : List String → Prop) : Prop where
  opens : t₀.Opens path place
  empty : ∀ rest, rest ≠ [] → t₀.find? (place ++ rest) = none
  named : ∀ rest, dirs rest ∨ files rest → rest ≠ [] ∧ ∀ name ∈ rest, IsFileName name
  closed : ∀ rest p, dirs rest → p <+: rest → p ≠ [] → dirs p
  housed : ∀ rest, files rest → rest.dropLast ≠ [] → dirs rest.dropLast
  apart : ∀ rest, files rest → ¬ dirs rest
  untouched : ∀ rest, dirs rest ∨ files rest → ¬ aside (place ++ rest)
  fresh : ∀ q, aside q → t₀.find? q = none

/-- Exchanges that put an item at a place below a path: they make a directory, perhaps on the way to
another one, or write a file. -/
inductive Laid (path : String) (place : Place) (dirs files : List String → Prop)
    (X : List (Exchange Request Request.Answer)) : Place → Item → Prop where
  | directory {rest p : List String} {r : Except IoFault Unit}
      (made : ⟨.makeDirs (joinAll path rest), r⟩ ∈ X) (hrest : dirs rest) (hp : p <+: rest)
      (hne : p ≠ []) : Laid path place dirs files X (place ++ p) .directory
  | file {rest : List String} {contents : Bytes} {r : Except IoFault Unit}
      (written : ⟨.writeFile (joinAll path rest) contents, r⟩ ∈ X) (hrest : files rest) :
      Laid path place dirs files X (place ++ rest) (.file false contents)

namespace Site

variable {t₀ t : Tree} {path : String} {place q : Place} {aside : Place → Prop}
variable {dirs files : List String → Prop} {rest p : List String} {item : Item}
variable {X : List (Exchange Request Request.Answer)} {x : Exchange Request Request.Answer}

/-- After these exchanges, of which all that are about files went well, there is what was there
before and what they have put there. -/
structure Progress (t₀ : Tree) (path : String) (place : Place) (aside : Place → Prop)
    (dirs files : List String → Prop) (X : List (Exchange Request Request.Answer)) (t : Tree) :
    Prop where
  made : ∀ path r, ⟨.makeDirs path, r⟩ ∈ X → r = .ok ()
  written : ∀ path contents r, ⟨.writeFile path contents, r⟩ ∈ X → r = .ok ()
  holds : ∀ q item, ¬ aside q →
    (t.find? q = some item ↔ t₀.find? q = some item ∨ Laid path place dirs files X q item)

/-- What may be asked next: anything that is not about files; that directories be made which are to
be there; and that a file be written which is to be there, once its directory has been made, and
that has not been written yet. -/
inductive Allows (t₀ : Tree) (path : String) (place : Place) (dirs files : List String → Prop)
    (X : List (Exchange Request Request.Answer)) : Request → Prop where
  | elsewhere {r : Request} (h : isFiling r = false) : Allows t₀ path place dirs files X r
  | opened {other : String} (h : t₀.Opens other place) :
      Allows t₀ path place dirs files X (.makeDirs other)
  | below {rest : List String} (h : dirs rest) :
      Allows t₀ path place dirs files X (.makeDirs (joinAll path rest))
  | file {rest : List String} {contents : Bytes} (h : files rest)
      (ready : rest.dropLast ≠ [] → ∃ r, ⟨.makeDirs (joinAll path rest.dropLast), r⟩ ∈ X)
      (new : ∀ old r, ⟨.writeFile (joinAll path rest) old, r⟩ ∉ X) :
      Allows t₀ path place dirs files X (.writeFile (joinAll path rest) contents)

section

variable (site : Site t₀ path place aside dirs files)
include site

theorem names_of_dirs (h : dirs rest) : ∀ name ∈ rest, IsFileName name :=
  (site.named rest (.inl h)).2

theorem names_of_files (h : files rest) : ∀ name ∈ rest, IsFileName name :=
  (site.named rest (.inr h)).2

theorem ne_joinAll {other : String} (ho : t₀.Opens other place) (h : dirs rest) :
    other ≠ joinAll path rest := by
  rintro rfl
  obtain ⟨hne, hnames⟩ := site.named rest (.inl h)
  have hleads := ho.leads
  rw [names_joinAll hnames, origin_joinAll hnames, walk_append, site.opens.leads] at hleads
  change t₀.walk place rest = .ok place at hleads
  obtain ⟨name, later, rfl⟩ := List.exists_cons_of_ne_nil hne
  rw [walk, site.opens.isDirectory, step_name (hnames name (by simp))] at hleads
  cases later with
  | nil =>
    have hlength := congrArg List.length (Except.ok.inj hleads)
    simp at hlength
  | cons second later =>
    dsimp only at hleads
    rw [walk, site.empty [name] (by simp)] at hleads
    cases hleads

theorem find?_eq_none (h : p ≠ []) : t₀.find? (place ++ p) ≠ some item := by
  rw [site.empty p h]
  nofun

theorem grows (prog : Progress t₀ path place aside dirs files X t) : Grows t₀ t := by
  intro q hq
  refine (prog.holds q _ fun ha => ?_).2 (.inl hq)
  rw [site.fresh q ha] at hq
  cases hq

theorem eq_directory (prog : Progress t₀ path place aside dirs files X t) (h : dirs p)
    (hitem : t.find? (place ++ p) = some item) : item = .directory := by
  have hne := (site.named p (.inl h)).1
  obtain hold | hlaid := (prog.holds _ item (site.untouched p (.inl h))).1 hitem
  · exact absurd hold (site.find?_eq_none hne)
  · generalize hplace : place ++ p = q at hlaid
    cases hlaid with
    | directory => rfl
    | file _ hrest =>
      obtain rfl := List.append_cancel_left hplace
      exact absurd h (site.apart _ hrest)

theorem clear (prog : Progress t₀ path place aside dirs files X t) (h : dirs rest) :
    Clear t place rest := by
  intro p hp
  by_cases hne : p = []
  · rw [hne, List.append_nil]
    exact .inr (site.grows prog place site.opens.isDirectory)
  · cases hi : t.find? (place ++ p) with
    | none => exact .inl rfl
    | some item => exact .inr (by rw [site.eq_directory prog (site.closed rest p h hp hne) hi])

omit site in
theorem laid_concat_iff : Laid path place dirs files (X ++ [x]) q item ↔
    Laid path place dirs files X q item ∨ Laid path place dirs files [x] q item := by
  constructor
  · intro h
    cases h with
    | directory made hrest hp hne =>
      exact (List.mem_append.1 made).imp (.directory · hrest hp hne) (.directory · hrest hp hne)
    | file written hrest =>
      exact (List.mem_append.1 written).imp (.file · hrest) (.file · hrest)
  · rintro (h | h)
    · cases h with
      | directory made hrest hp hne =>
        exact .directory (List.mem_append_left _ made) hrest hp hne
      | file written hrest => exact .file (List.mem_append_left _ written) hrest
    · cases h with
      | directory made hrest hp hne =>
        exact .directory (List.mem_append_right _ made) hrest hp hne
      | file written hrest => exact .file (List.mem_append_right _ written) hrest

omit site in
theorem Progress.concat {t' : Tree} (prog : Progress t₀ path place aside dirs files X t)
    (hmade : ∀ other r, x = ⟨.makeDirs other, r⟩ → r = .ok ())
    (hwritten : ∀ other contents r, x = ⟨.writeFile other contents, r⟩ → r = .ok ())
    (holds : ∀ q item, ¬ aside q → (t'.find? q = some item ↔
      t.find? q = some item ∨ Laid path place dirs files [x] q item)) :
    Progress t₀ path place aside dirs files (X ++ [x]) t' where
  made other r hr := (List.mem_append.1 hr).elim (prog.made other r) fun h =>
    hmade other r (List.mem_singleton.1 h).symm
  written other contents r hr := (List.mem_append.1 hr).elim (prog.written other contents r)
    fun h => hwritten other contents r (List.mem_singleton.1 h).symm
  holds q item ha := by
    rw [holds q item ha, prog.holds q item ha, laid_concat_iff, or_assoc]

omit site in
theorem Progress.idle {t' : Tree} (prog : Progress t₀ path place aside dirs files X t)
    (hmade : ∀ other r, x = ⟨.makeDirs other, r⟩ → r = .ok ())
    (hwritten : ∀ other contents r, x = ⟨.writeFile other contents, r⟩ → r = .ok ())
    (hlaid : ∀ q item, ¬ Laid path place dirs files [x] q item)
    (hsame : ∀ q, ¬ aside q → t'.find? q = t.find? q) :
    Progress t₀ path place aside dirs files (X ++ [x]) t' :=
  prog.concat hmade hwritten fun q item ha => by rw [hsame q ha, or_iff_left (hlaid q item)]

theorem laid_makeDirs_iff {r : Except IoFault Unit} (h : dirs rest) :
    Laid path place dirs files [⟨.makeDirs (joinAll path rest), r⟩] q item ↔
      item = .directory ∧ ∃ p, p <+: rest ∧ p ≠ [] ∧ q = place ++ p := by
  constructor
  · intro hlaid
    cases hlaid with
    | directory hx hrest hp hne =>
      obtain ⟨hx, -⟩ := Exchange.mk.inj (List.mem_singleton.1 hx)
      have hpath := Request.makeDirs.inj hx
      rw [joinAll_inj (site.names_of_dirs hrest) (site.names_of_dirs h)] at hpath
      exact ⟨rfl, _, hpath ▸ hp, hne, rfl⟩
    | file hx => cases (Exchange.mk.inj (List.mem_singleton.1 hx)).1
  · rintro ⟨rfl, p, hp, hne, rfl⟩
    exact .directory (List.mem_singleton.2 rfl) h hp hne

theorem laid_writeFile_iff {contents : Bytes} {r : Except IoFault Unit} (h : files rest) :
    Laid path place dirs files [⟨.writeFile (joinAll path rest) contents, r⟩] q item ↔
      q = place ++ rest ∧ item = .file false contents := by
  constructor
  · intro hlaid
    cases hlaid with
    | directory hx => cases (Exchange.mk.inj (List.mem_singleton.1 hx)).1
    | file hx hrest =>
      obtain ⟨hx, -⟩ := Exchange.mk.inj (List.mem_singleton.1 hx)
      obtain ⟨hpath, rfl⟩ := Request.writeFile.inj hx
      rw [joinAll_inj (site.names_of_files hrest) (site.names_of_files h)] at hpath
      exact ⟨by rw [hpath], rfl⟩
  · rintro ⟨rfl, rfl⟩
    exact .file (List.mem_singleton.2 rfl) h

/-- **A directory is made, and there are just it and those above it that were not there yet.** -/
theorem makes (prog : Progress t₀ path place aside dirs files X t) (h : dirs rest) :
    ∃ t', t.makeDirs (joinAll path rest) = (t', .ok ()) ∧ Progress t₀ path place aside dirs files
      (X ++ [⟨.makeDirs (joinAll path rest), .ok ()⟩]) t' := by
  obtain ⟨t', hmade, hgrown⟩ := makeDirs_joinAll (site.opens.mono (site.grows prog))
    (site.names_of_dirs h) (site.clear prog h)
  have hgood : ∀ other r, (⟨.makeDirs (joinAll path rest), .ok ()⟩ :
      Exchange Request Request.Answer) = ⟨.makeDirs other, r⟩ → r = .ok () := by
    rintro _ _ ⟨⟩
    rfl
  refine ⟨t', hmade, prog.concat hgood nofun fun q item _ => ?_⟩
  rw [site.laid_makeDirs_iff h]
  by_cases hin : ∃ p, p <+: rest ∧ p ≠ [] ∧ q = place ++ p
  · obtain ⟨p, hp, hne, rfl⟩ := hin
    rw [hgrown.made p hp hne, Option.some.injEq]
    constructor
    · rintro rfl
      exact .inr ⟨rfl, p, hp, hne, rfl⟩
    · rintro (hold | ⟨hitem, -⟩)
      · exact (site.eq_directory prog (site.closed rest p h hp hne) hold).symm
      · exact hitem.symm
  · rw [hgrown.kept q fun p hp hne he => hin ⟨p, hp, hne, he⟩]
    exact ⟨.inl, fun hor => hor.elim id fun hnew => absurd hnew.2 hin⟩

theorem makes_again {other : String} (prog : Progress t₀ path place aside dirs files X t)
    (ho : t₀.Opens other place) : t.makeDirs other = (t, .ok ()) ∧
      Progress t₀ path place aside dirs files (X ++ [⟨.makeDirs other, .ok ()⟩]) t := by
  refine ⟨(ho.mono (site.grows prog)).makeDirsUp_eq _,
    prog.idle ?_ nofun (fun q item hlaid => ?_) fun _ _ => rfl⟩
  · rintro _ _ ⟨⟩
    rfl
  · cases hlaid with
    | directory hmem hrest =>
      obtain ⟨hx, -⟩ := Exchange.mk.inj (List.mem_singleton.1 hmem)
      exact site.ne_joinAll ho hrest (Request.makeDirs.inj hx).symm
    | file hmem => cases (Exchange.mk.inj (List.mem_singleton.1 hmem)).1

theorem chain_of_made (prog : Progress t₀ path place aside dirs files X t)
    (hdirs : rest ≠ [] → dirs rest)
    (hmade : rest ≠ [] → ∃ r, ⟨.makeDirs (joinAll path rest), r⟩ ∈ X) : Chain t place rest := by
  intro p hp
  by_cases hne : p = []
  · rw [hne, List.append_nil]
    exact site.grows prog place site.opens.isDirectory
  · have hrest : rest ≠ [] := fun he => hne (List.prefix_nil.1 (he ▸ hp))
    obtain ⟨r, hmem⟩ := hmade hrest
    refine (prog.holds _ _ ?_).2 (.inr (.directory hmem (hdirs hrest) hp hne))
    exact site.untouched p (.inl (site.closed rest p (hdirs hrest) hp hne))

theorem find?_of_unwritten (prog : Progress t₀ path place aside dirs files X t) (h : files rest)
    (new : ∀ old r, ⟨.writeFile (joinAll path rest) old, r⟩ ∉ X) :
    t.find? (place ++ rest) = none := by
  cases hi : t.find? (place ++ rest) with
  | none => rfl
  | some item =>
    obtain hold | hlaid := (prog.holds _ item (site.untouched _ (.inr h))).1 hi
    · exact absurd hold (site.find?_eq_none (site.named rest (.inr h)).1)
    · generalize hq : place ++ rest = q at hlaid
      cases hlaid with
      | directory _ hrest hp hne =>
        obtain rfl := List.append_cancel_left hq
        exact absurd (site.closed _ _ hrest hp hne) (site.apart _ h)
      | file hx =>
        obtain rfl := List.append_cancel_left hq
        exact absurd hx (new _ _)

/-- **A file is written, and nothing else changes.** -/
theorem writes (prog : Progress t₀ path place aside dirs files X t) (h : files rest)
    (ready : rest.dropLast ≠ [] → ∃ r, ⟨.makeDirs (joinAll path rest.dropLast), r⟩ ∈ X)
    (new : ∀ old r, ⟨.writeFile (joinAll path rest) old, r⟩ ∉ X) (contents : Bytes) :
    ∃ t', t.write (joinAll path rest) contents = (t', .ok ()) ∧
      Progress t₀ path place aside dirs files
        (X ++ [⟨.writeFile (joinAll path rest) contents, .ok ()⟩]) t' := by
  have hnames := site.names_of_files h
  have hchain := site.chain_of_made prog (site.housed rest h) ready
  have hnone := site.find?_of_unwritten prog h new
  have hgood : ∀ other old r, (⟨.writeFile (joinAll path rest) contents, .ok ()⟩ :
      Exchange Request Request.Answer) = ⟨.writeFile other old, r⟩ → r = .ok () := by
    rintro _ _ _ ⟨⟩
    rfl
  obtain ⟨pre, name, rfl⟩ : ∃ pre name, rest = pre ++ [name] :=
    ⟨_, _, (List.dropLast_concat_getLast (site.named rest (.inr h)).1).symm⟩
  rw [List.dropLast_concat] at hchain
  have hput := write_joinAll (site.opens.mono (site.grows prog))
    (fun n hn => hnames n (List.mem_append_left _ hn)) (hnames name (by simp)) hchain hnone contents
  refine ⟨_, hput, prog.concat nofun hgood fun q item _ => ?_⟩
  have hplace : place ++ (pre ++ [name]) ≠ [] := by simp
  rw [site.laid_writeFile_iff h, find?_put hplace]
  by_cases hq : q = place ++ (pre ++ [name])
  · rw [if_pos hq, hq, hnone]
    simp [eq_comm]
  · rw [if_neg hq]
    simp [hq]

end

/-! ## Runs -/

theorem progress_nil : Progress t₀ path place aside dirs files [] t₀ where
  made := nofun
  written := nofun
  holds q item _ := by
    refine ⟨.inl, fun h => h.elim id fun hlaid => ?_⟩
    cases hlaid with
    | directory hx => cases hx
    | file hx => cases hx

theorem not_laid_of_elsewhere (hx : isFiling x.question = false) :
    ¬ Laid path place dirs files [x] q item := by
  intro hlaid
  cases hlaid with
  | directory hmem =>
    rw [← List.mem_singleton.1 hmem] at hx
    cases hx
  | file hmem =>
    rw [← List.mem_singleton.1 hmem] at hx
    cases hx

theorem allows_later {Y : List (Exchange Request Request.Answer)}
    (hall : ∀ before y after, x :: Y = before ++ y :: after →
      Allows t₀ path place dirs files (X ++ before) y.question) :
    ∀ before y after, Y = before ++ y :: after →
      Allows t₀ path place dirs files ((X ++ [x]) ++ before) y.question := by
  intro before y after h
  rw [List.append_assoc]
  exact hall (x :: before) y after (congrArg (x :: ·) h)

/-- **As long as nothing is asked but what is allowed, all goes well**, and in the end there is what
has been put there. -/
theorem progress_of_filed (site : Site t₀ path place aside dirs files) {u : Tree}
    {Y : List (Exchange Request Request.Answer)} (filed : Filed aside t Y u)
    (prog : Progress t₀ path place aside dirs files X t)
    (hall : ∀ before y after, Y = before ++ y :: after →
      Allows t₀ path place dirs files (X ++ before) y.question) :
    Progress t₀ path place aside dirs files (X ++ Y) u := by
  induction filed generalizing X with
  | done =>
    rw [List.append_nil]
    exact prog
  | stirred same _ ih =>
    refine ih ⟨prog.made, prog.written, fun q item ha => ?_⟩ hall
    rw [same q ha]
    exact prog.holds q item ha
  | elsewhere hx _ ih =>
    rw [List.append_cons]
    refine ih (prog.idle ?_ ?_ (fun _ _ => not_laid_of_elsewhere hx) fun _ _ => rfl)
      (allows_later hall)
    · rintro other r rfl
      cases hx
    · rintro other contents r rfl
      cases hx
  | @makeDirs t u other Y _ ih =>
    have hfirst := hall [] _ _ rfl
    rw [List.append_nil] at hfirst
    rw [List.append_cons]
    refine ih ?_ (allows_later hall)
    cases hfirst with
    | elsewhere h => cases h
    | opened ho =>
      obtain ⟨hmade, hprog⟩ := site.makes_again prog ho
      rwa [hmade]
    | below h =>
      obtain ⟨t', hmade, hprog⟩ := site.makes prog h
      rwa [hmade]
  | @writeFile t u other contents Y _ ih =>
    have hfirst := hall [] _ _ rfl
    rw [List.append_nil] at hfirst
    rw [List.append_cons]
    refine ih ?_ (allows_later hall)
    cases hfirst with
    | elsewhere h => cases h
    | file h ready new =>
      obtain ⟨t', hwritten, hprog⟩ := site.writes prog h ready new contents
      rwa [hwritten]
  | restrict =>
    have hfirst := hall [] _ _ rfl
    cases hfirst with
    | elsewhere h => cases h

end Site

end LocalCluster.Files
