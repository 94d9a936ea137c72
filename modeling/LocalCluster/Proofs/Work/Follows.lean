import LocalCluster.Work.Program

/-!
# What scripts ask and how they go

A script that is put together from parts goes through its parts one after the other. These are the
laws that take a run of the whole apart.

* `follows_bind_iff`, `follows_run_bind_iff`: a run of a sequence, plain or with faults;
  `follows_run_judged_iff`: a run of a part whose value is judged afterwards;
  `follows_run_lift_bind_iff`, `follows_run_mk_pure_bind_iff`: of a part that cannot fail, or that
  asks nothing, and the rest.
* `Follows.eq_of_append_eq`: a script ends where its answers say.
* `Follows.forM_ok`: a loop that ends well has gone through every item.
* `Follows.question`: what is asked in a run is asked by the script (`Script.Asks`);
  `Follows.asked_later`: what a first part does not ask has been asked after it.
* `Script.play`: the run that a fixed table of answers leads to.
* The same for calls, work and programs: `follows_during_iff`, `follows_toJob_iff`, …
-/

namespace LocalCluster

open LocalCluster.Container LocalCluster.Cluster

namespace Script

variable {Q : Type} {A : Q → Type} {α β ε ε' : Type} {t : List (Exchange Q A)}

@[simp] theorem follows_pure_iff {a b : α} : Follows (pure a : Script Q A α) t b ↔ t = [] ∧ b = a :=
  ⟨fun h => by cases h; exact ⟨rfl, rfl⟩, fun ⟨ht, hb⟩ => by subst ht hb; exact .done _⟩

theorem follows_lift_iff {q : Q} {a : A q} : Follows (lift q) t a ↔ t = [⟨q, a⟩] := by
  constructor
  · intro h
    cases h with
    | ask h => cases h; rfl
  · rintro rfl
    exact .ask (.done a)

/-- **A run of a sequence is a run of its first part and then one of its second.** -/
theorem follows_bind_iff {s : Script Q A α} {f : α → Script Q A β} {b : β} :
    Follows (s >>= f) t b ↔
      ∃ a t₁ t₂, t = t₁ ++ t₂ ∧ Follows s t₁ a ∧ Follows (f a) t₂ b := by
  constructor
  · intro h
    induction s generalizing t with
    | done a => exact ⟨a, [], t, rfl, .done a, h⟩
    | ask q next ih =>
      cases h with
      | ask h =>
        obtain ⟨a, t₁, t₂, rfl, h₁, h₂⟩ := ih _ h
        exact ⟨a, _ :: t₁, t₂, rfl, .ask h₁, h₂⟩
  · rintro ⟨a, t₁, t₂, rfl, h₁, h₂⟩
    induction h₁ with
    | done a => exact h₂
    | ask _ ih => exact .ask (ih h₂)

/-- What a script asks is settled by the answers: of two runs, neither goes on where the other is
at its end. -/
theorem Follows.eq_of_append_eq {s : Script Q A α} {t₁ t₂ u₁ u₂ : List (Exchange Q A)} {a b : α}
    (h₁ : Follows s t₁ a) (h₂ : Follows s t₂ b) (h : t₁ ++ u₁ = t₂ ++ u₂) :
    t₁ = t₂ ∧ a = b ∧ u₁ = u₂ := by
  induction h₁ generalizing t₂ with
  | done a =>
    cases h₂
    exact ⟨rfl, rfl, h⟩
  | ask _ ih =>
    cases h₂ with
    | ask h₂ =>
      obtain ⟨hx, hrest⟩ := List.cons.inj h
      obtain ⟨-, hanswer⟩ := Exchange.mk.inj hx
      obtain rfl := eq_of_heq hanswer
      obtain ⟨rfl, hab, hu⟩ := ih h₂ hrest
      exact ⟨rfl, hab, hu⟩

/-- A run of a sequence that can fail: its first part fails, or its second part follows. -/
theorem follows_run_bind_iff {x : ExceptT ε (Script Q A) α} {f : α → ExceptT ε (Script Q A) β}
    {r : Except ε β} :
    Follows (x >>= f).run t r ↔
      (∃ e, Follows x.run t (.error e) ∧ r = .error e) ∨
        ∃ a t₁ t₂, t = t₁ ++ t₂ ∧ Follows x.run t₁ (.ok a) ∧ Follows (f a).run t₂ r := by
  rw [ExceptT.run_bind, follows_bind_iff]
  constructor
  · rintro ⟨x', t₁, t₂, rfl, h₁, h₂⟩
    cases x' with
    | error e =>
      obtain ⟨rfl, rfl⟩ := follows_pure_iff.1 h₂
      exact .inl ⟨e, by simpa using h₁, rfl⟩
    | ok a => exact .inr ⟨a, t₁, t₂, rfl, h₁, h₂⟩
  · rintro (⟨e, h, rfl⟩ | ⟨a, t₁, t₂, rfl, h₁, h₂⟩)
    · exact ⟨.error e, t, [], by simp, h, .done _⟩
    · exact ⟨.ok a, t₁, t₂, rfl, h₁, h₂⟩

theorem follows_run_bind_ok_iff {x : ExceptT ε (Script Q A) α}
    {f : α → ExceptT ε (Script Q A) β} {b : β} :
    Follows (x >>= f).run t (.ok b) ↔
      ∃ a t₁ t₂, t = t₁ ++ t₂ ∧ Follows x.run t₁ (.ok a) ∧ Follows (f a).run t₂ (.ok b) := by
  rw [follows_run_bind_iff]
  simp

@[simp] theorem follows_run_pure_iff {a : α} {r : Except ε α} :
    Follows (pure a : ExceptT ε (Script Q A) α).run t r ↔ t = [] ∧ r = .ok a :=
  follows_pure_iff

@[simp] theorem follows_run_mk_pure_iff {x r : Except ε α} :
    Follows (ExceptT.mk (pure x) : ExceptT ε (Script Q A) α).run t r ↔ t = [] ∧ r = x :=
  follows_pure_iff

@[simp] theorem follows_run_throw_iff {e : ε} {r : Except ε α} :
    Follows (throw e : ExceptT ε (Script Q A) α).run t r ↔ t = [] ∧ r = .error e :=
  follows_pure_iff

theorem follows_run_judged_iff {x : ExceptT ε (Script Q A) α} {f : α → Except ε β}
    {r : Except ε β} :
    Follows (x >>= fun a => ExceptT.mk (pure (f a))).run t r ↔
      ∃ r₀, Follows x.run t r₀ ∧ r = r₀.bind f := by
  rw [follows_run_bind_iff]
  constructor
  · rintro (⟨e, h, rfl⟩ | ⟨a, t₁, t₂, rfl, h₁, h₂⟩)
    · exact ⟨.error e, h, rfl⟩
    · obtain ⟨rfl, rfl⟩ := follows_run_mk_pure_iff.1 h₂
      exact ⟨.ok a, by rwa [List.append_nil], rfl⟩
  · rintro ⟨r₀, h, rfl⟩
    cases r₀ with
    | error e => exact .inl ⟨e, h, rfl⟩
    | ok a =>
      exact .inr ⟨a, t, [], (List.append_nil t).symm, h, follows_run_mk_pure_iff.2 ⟨rfl, rfl⟩⟩

theorem follows_run_lift_iff {s : Script Q A α} {r : Except ε α} :
    Follows (ExceptT.lift s : ExceptT ε (Script Q A) α).run t r ↔
      ∃ a, Follows s t a ∧ r = .ok a := by
  rw [ExceptT.run_lift, map_eq_pure_bind, follows_bind_iff]
  constructor
  · rintro ⟨a, t₁, t₂, rfl, h₁, h₂⟩
    obtain ⟨rfl, rfl⟩ := follows_pure_iff.1 h₂
    exact ⟨a, by simpa using h₁, rfl⟩
  · rintro ⟨a, h, rfl⟩
    exact ⟨a, t, [], by simp, h, .done _⟩

theorem follows_run_lift_bind_iff {s : Script Q A α} {f : α → ExceptT ε (Script Q A) β}
    {r : Except ε β} :
    Follows ((ExceptT.lift s : ExceptT ε (Script Q A) α) >>= f).run t r ↔
      ∃ a t₁ t₂, t = t₁ ++ t₂ ∧ Follows s t₁ a ∧ Follows (f a).run t₂ r := by
  rw [follows_run_bind_iff]
  simp only [follows_run_lift_iff]
  constructor
  · rintro (⟨e, ⟨a, -, he⟩, -⟩ | ⟨a, t₁, t₂, ht, ⟨b, hs, hb⟩, hf⟩)
    · cases he
    · cases hb
      exact ⟨a, t₁, t₂, ht, hs, hf⟩
  · rintro ⟨a, t₁, t₂, ht, hs, hf⟩
    exact .inr ⟨a, t₁, t₂, ht, ⟨a, hs, rfl⟩, hf⟩

theorem follows_run_mk_pure_bind_iff {x : Except ε α} {f : α → ExceptT ε (Script Q A) β}
    {r : Except ε β} :
    Follows ((ExceptT.mk (pure x) : ExceptT ε (Script Q A) α) >>= f).run t r ↔
      (∃ e, x = .error e ∧ t = [] ∧ r = .error e) ∨ ∃ a, x = .ok a ∧ Follows (f a).run t r := by
  rw [follows_run_bind_iff]
  simp only [follows_run_mk_pure_iff]
  constructor
  · rintro (⟨e, ⟨rfl, hx⟩, rfl⟩ | ⟨a, _, t₂, rfl, ⟨rfl, hx⟩, hf⟩)
    · exact .inl ⟨e, hx.symm, rfl, rfl⟩
    · exact .inr ⟨a, hx.symm, hf⟩
  · rintro (⟨e, rfl, rfl, rfl⟩ | ⟨a, rfl, hf⟩)
    · exact .inl ⟨e, ⟨rfl, rfl⟩, rfl⟩
    · exact .inr ⟨a, [], t, rfl, ⟨rfl, rfl⟩, hf⟩

theorem follows_mapError_iff {s : Script Q A (Except ε α)} {f : ε → ε'} {r : Except ε' α} :
    Follows (s >>= fun r => pure (r.mapError f)) t r ↔
      ∃ r₀, Follows s t r₀ ∧ r = r₀.mapError f := by
  rw [follows_bind_iff]
  constructor
  · rintro ⟨a, t₁, t₂, rfl, h₁, h₂⟩
    obtain ⟨rfl, rfl⟩ := follows_pure_iff.1 h₂
    exact ⟨a, by simpa using h₁, rfl⟩
  · rintro ⟨r₀, h, rfl⟩
    exact ⟨r₀, t, [], by simp, h, .done _⟩

/-! ## Loops -/

theorem Follows.forM_ok {xs : List α} {f : α → ExceptT ε (Script Q A) Unit} {x : α}
    (h : Follows (xs.forM f).run t (.ok ())) (hx : x ∈ xs) :
    ∃ tx, tx <:+: t ∧ Follows (f x).run tx (.ok ()) := by
  induction xs generalizing t with
  | nil => cases hx
  | cons y ys ih =>
    obtain ⟨_, t₁, t₂, rfl, h₁, h₂⟩ := follows_run_bind_ok_iff.1 h
    rcases List.mem_cons.1 hx with rfl | hx
    · exact ⟨t₁, (List.prefix_append t₁ t₂).isInfix, h₁⟩
    · obtain ⟨tx, htx, hf⟩ := ih h₂ hx
      exact ⟨tx, htx.trans (List.suffix_append t₁ t₂).isInfix, hf⟩

/-! ## Questions -/

theorem Follows.question {P : Q → Prop} {s : Script Q A α} {a : α} (h : Follows s t a)
    (hs : s.Asks P) : ∀ x ∈ t, P x.question := by
  induction h with
  | done a => simp
  | ask _ ih =>
    intro x hx
    rcases List.mem_cons.1 hx with rfl | hx
    · exact hs.1
    · exact ih (hs.2 _) x hx

theorem Follows.asked_later {x : ExceptT ε (Script Q A) α} {f : α → ExceptT ε (Script Q A) β}
    {r : Except ε β} {e : Exchange Q A} (h : Follows (x >>= f).run t r)
    (hx : x.run.Asks (· ≠ e.question)) (he : e ∈ t) :
    ∃ a t₁ t₂, t = t₁ ++ t₂ ∧ Follows x.run t₁ (.ok a) ∧ Follows (f a).run t₂ r ∧ e ∈ t₂ := by
  obtain ⟨fault, hfirst, -⟩ | ⟨a, t₁, t₂, rfl, hfirst, hrest⟩ := follows_run_bind_iff.1 h
  · exact absurd rfl (hfirst.question hx e he)
  · refine ⟨a, t₁, t₂, rfl, hfirst, hrest, (List.mem_append.1 he).resolve_left fun he => ?_⟩
    exact absurd rfl (hfirst.question hx e he)

theorem asks_of_forall {P : Q → Prop} (hP : ∀ q, P q) (s : Script Q A α) : s.Asks P := by
  induction s with
  | done a => trivial
  | ask q next ih => exact ⟨hP q, ih⟩

section

variable {P : Q → Prop}

theorem Asks.run_bind {x : ExceptT ε (Script Q A) α} {f : α → ExceptT ε (Script Q A) β}
    (hx : x.run.Asks P) (hf : ∀ a, (f a).run.Asks P) : (x >>= f).run.Asks P := by
  rw [ExceptT.run_bind]
  refine hx.bind fun r => ?_
  cases r with
  | error e => trivial
  | ok a => exact hf a

@[simp] theorem asks_run_pure (a : α) : (pure a : ExceptT ε (Script Q A) α).run.Asks P := trivial

@[simp] theorem asks_run_mk_pure (x : Except ε α) :
    (ExceptT.mk (pure x) : ExceptT ε (Script Q A) α).run.Asks P := trivial

@[simp] theorem asks_run_throw (e : ε) : (throw e : ExceptT ε (Script Q A) α).run.Asks P := trivial

theorem Asks.run_lift {s : Script Q A α} (hs : s.Asks P) :
    (ExceptT.lift s : ExceptT ε (Script Q A) α).run.Asks P := by
  rw [ExceptT.run_lift, map_eq_pure_bind]
  exact hs.bind fun _ => trivial

theorem Asks.run_forM {xs : List α} {f : α → ExceptT ε (Script Q A) Unit}
    (hf : ∀ x ∈ xs, (f x).run.Asks P) : (xs.forM f).run.Asks P := by
  induction xs with
  | nil => exact asks_run_pure ()
  | cons x xs ih =>
    exact (hf x List.mem_cons_self).run_bind fun _ =>
      ih fun y hy => hf y (List.mem_cons_of_mem x hy)

theorem Asks.run_mapM {xs : List α} {f : α → ExceptT ε (Script Q A) β}
    (hf : ∀ x ∈ xs, (f x).run.Asks P) : (xs.mapM f).run.Asks P := by
  induction xs with
  | nil => rw [List.mapM_nil]; exact asks_run_pure _
  | cons x xs ih =>
    rw [List.mapM_cons]
    refine (hf x List.mem_cons_self).run_bind fun _ => ?_
    exact (ih fun y hy => hf y (List.mem_cons_of_mem x hy)).run_bind fun _ => asks_run_pure _

end

/-! ## Tables of answers -/

/-- The run of a script whose questions are answered from a table. -/
def play (table : (q : Q) → A q) : Script Q A α → List (Exchange Q A) × α
  | .done a => ([], a)
  | .ask q next =>
    let (t, a) := play table (next (table q))
    (⟨q, table q⟩ :: t, a)

theorem follows_play (table : (q : Q) → A q) (s : Script Q A α) :
    Follows s (s.play table).1 (s.play table).2 := by
  induction s with
  | done a => exact .done a
  | ask q next ih => exact .ask (ih (table q))

theorem exists_of_mem_play {table : (q : Q) → A q} {s : Script Q A α} {x : Exchange Q A}
    (h : x ∈ (s.play table).1) : ∃ q, x = ⟨q, table q⟩ := by
  induction s with
  | done a => cases h
  | ask q next ih =>
    rcases List.mem_cons.1 h with rfl | h
    · exact ⟨q, rfl⟩
    · exact ih _ h

end Script

/-! ## Calls, work and programs -/

open Script

section

variable {α : Type} {t : List (Exchange Request Request.Answer)} {P : Request → Prop}

theorem follows_toWork_iff {c : Call α} {r : Except Fault α} :
    Follows (c.toWork).run t r ↔ ∃ r₀, Follows c.run t r₀ ∧ r = r₀.mapError Fault.runtime :=
  follows_mapError_iff

theorem follows_during_iff {operation : String} {w : Work α} {r : Except Fault α} :
    Follows (during operation w).run t r ↔ ∃ r₀, Follows w.run t r₀ ∧ r = naming operation r₀ :=
  follows_mapError_iff

theorem mapError_eq_ok_iff {ε ε' : Type} {f : ε → ε'} {x : Except ε α} {a : α} :
    x.mapError f = .ok a ↔ x = .ok a := by
  cases x with
  | ok b =>
    show Except.ok b = Except.ok a ↔ _
    simp
  | error e => exact ⟨nofun, nofun⟩

theorem mapError_eq_error_iff {ε ε' : Type} {f : ε → ε'} {x : Except ε α} {e : ε'} :
    x.mapError f = .error e ↔ ∃ e₀, x = .error e₀ ∧ e = f e₀ := by
  cases x with
  | ok b => exact ⟨nofun, nofun⟩
  | error e₀ =>
    show Except.error (f e₀) = Except.error e ↔ _
    simp [eq_comm]

theorem eq_ok_of_toOption {ε : Type} {x : Except ε α} {a : α} (h : x.toOption = some a) :
    x = .ok a := by
  cases x with
  | ok b => exact congrArg Except.ok (Option.some.inj h)
  | error e => cases h

theorem naming_eq_ok_iff {operation : String} {x : Except Fault α} {a : α} :
    naming operation x = .ok a ↔ x = .ok a := mapError_eq_ok_iff

theorem follows_during_ok_iff {operation : String} {w : Work α} {a : α} :
    Follows (during operation w).run t (.ok a) ↔ Follows w.run t (.ok a) := by
  rw [follows_during_iff]
  constructor
  · rintro ⟨r₀, h, hr⟩
    rwa [naming_eq_ok_iff.1 hr.symm] at h
  · exact fun h => ⟨.ok a, h, rfl⟩

theorem follows_during_toWork_iff {operation : String} {c : Call α} {r : Except Fault α} :
    Follows (during operation c.toWork).run t r ↔
      ∃ r₀, Follows c.run t r₀ ∧ r = naming operation (r₀.mapError Fault.runtime) := by
  rw [follows_during_iff]
  constructor
  · rintro ⟨r₁, h, rfl⟩
    obtain ⟨r₀, h₀, rfl⟩ := follows_toWork_iff.1 h
    exact ⟨r₀, h₀, rfl⟩
  · rintro ⟨r₀, h₀, rfl⟩
    exact ⟨_, follows_toWork_iff.2 ⟨r₀, h₀, rfl⟩, rfl⟩

theorem follows_runCommand_iff {c : Command} {r : Except RuntimeFault Output} :
    Follows (runCommand c).run t r ↔ t = [⟨.command c, r⟩] :=
  follows_lift_iff

theorem follows_ofIo_iff {s : Routine (Except IoFault α)} {r : Except Fault α} :
    Follows (do ofIo (← ExceptT.lift s) : Work α).run t r ↔
      ∃ answer, Follows s t answer ∧ r = answer.mapError Fault.io := by
  refine follows_run_judged_iff.trans ⟨?_, ?_⟩
  · rintro ⟨r₀, h, rfl⟩
    obtain ⟨answer, hs, rfl⟩ := follows_run_lift_iff.1 h
    exact ⟨answer, hs, rfl⟩
  · rintro ⟨answer, h, rfl⟩
    exact ⟨.ok answer, follows_run_lift_iff.2 ⟨answer, h, rfl⟩, rfl⟩

theorem asks_toWork {c : Call α} (h : c.run.Asks P) : (c.toWork).run.Asks P :=
  h.bind fun _ => trivial

theorem asks_during {operation : String} {w : Work α} (h : w.run.Asks P) :
    (during operation w).run.Asks P :=
  h.bind fun _ => trivial

theorem asks_runCommand {c : Command} (h : P (.command c)) : (runCommand c).run.Asks P :=
  (asks_lift P _).2 h

/-- Everything is done as asked, and nothing is printed. -/
def Request.compliance : (r : Request) → r.Answer
  | .command _ => .ok {}
  | .listen .. => .ok 1
  | .draw => (0 : Nat)
  | .makeDirs _ | .writeFile .. | .restrict _ => .ok ()
  | .pause _ | .tell _ => ()

/-- Commands are answered by a table, and everything else is done as asked. -/
def answering (reply : Command → Except RuntimeFault Output) : (r : Request) → r.Answer
  | .command c => reply c
  | r => r.compliance

/-- The same for programs: tasks that run side by side all succeed. -/
def Demand.answering (reply : Command → Except RuntimeFault Output) : (d : Demand) → d.Answer
  | .single r => LocalCluster.answering reply r
  | .together .. => .ok ()

/-- An exchange of a task as one of a program. -/
def Script.Exchange.single (x : Exchange Request Request.Answer) : Exchange Demand Demand.Answer :=
  ⟨.single x.question, x.answer⟩

theorem follows_toProgram_iff {s : Routine α} {T : List (Exchange Demand Demand.Answer)} {a : α} :
    Follows s.toProgram T a ↔ ∃ t, Follows s t a ∧ T = t.map Exchange.single := by
  constructor
  · intro h
    induction s generalizing T with
    | done b => cases h; exact ⟨[], .done a, rfl⟩
    | ask q next ih =>
      cases h with
      | @ask _ _ answer _ _ h =>
        obtain ⟨t, ht, rfl⟩ := ih _ h
        exact ⟨⟨q, answer⟩ :: t, .ask ht, rfl⟩
  · rintro ⟨t, h, rfl⟩
    induction h with
    | done a => exact .done a
    | ask _ ih => exact .ask ih

theorem follows_toJob_iff {w : Work α} {T : List (Exchange Demand Demand.Answer)}
    {r : Except Fault α} :
    Follows (w.toJob).run T r ↔ ∃ t, Follows w.run t r ∧ T = t.map Exchange.single :=
  follows_toProgram_iff

end

end LocalCluster
