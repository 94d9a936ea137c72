import LocalCluster.Proofs.Work.Driven
import LocalCluster.Proofs.Work.Serial

/-!
# Waiting for all tasks

A program that starts tasks and only waits for them is at one of three points: it has not begun, it
has been told of some tasks, or it has come to the result of waiting. Where it waits for all of them
to end, nothing that happens in between has a say in the result.

* `Program.await`: such a program; work side by side is one (`run_together`).
* `Awaited`: the three points; **`Awaited.run`**: every run goes from one to the next.
* `Reported`: the faults of tasks by their outcomes, in order; `Gathered`: the result with these.
* **`failures_gathered`**: waiting for all tasks returns when all are done, with the faults of those
  that have failed in the order of their submission.
-/

namespace LocalCluster

open LocalCluster.Cluster Script

variable {p : Policy} {work tasks : List (Routine Outcome)} {L L₁ L₂ turns : List Turn}
variable {k k' : Crew (Except Fault Unit)} {r : Except Fault Unit}
variable {told : List (Nat × Outcome)} {outcomes : List Outcome}

/-! ## A program that only waits -/

/-- The program that starts tasks and waits for them. -/
def Program.await (p : Policy) (work : List (Routine Outcome)) : Program (Except Fault Unit) :=
  Script.lift (Demand.together p work)

theorem run_together {ws : List (Work Unit)} :
    (together p ws).run = Program.await p (ws.map Work.outcome) := rfl

/-- The numbers of the tasks of a program that starts these and no others. -/
abbrev numbersOf (work : List (Routine Outcome)) : List Nat := List.range' 0 work.length

namespace Crew

/-- The program is about to start tasks and wait for them. -/
abbrev beginning (p : Policy) (work : List (Routine Outcome)) : Crew (Except Fault Unit) :=
  ⟨.going (Program.await p work), []⟩

/-- The program waits for its tasks, which have come to this point, and has been told of these. -/
abbrev awaiting (p : Policy) (work : List (Routine Outcome)) (told : List (Nat × Outcome))
    (tasks : List (Routine Outcome)) : Crew (Except Fault Unit) :=
  ⟨.waiting p (numbersOf work) told .done, tasks⟩

/-- The program has come to this result, and its tasks to this point. -/
abbrev returned (r : Except Fault Unit) (tasks : List (Routine Outcome)) :
    Crew (Except Fault Unit) :=
  ⟨.going (.done r), tasks⟩

end Crew

/-- A program that starts tasks and waits for them has come to this point in these turns. Tasks that
are not done when the waiting is over go on. -/
inductive Awaited (p : Policy) (work : List (Routine Outcome)) :
    List Turn → Crew (Except Fault Unit) → Prop where
  | begun : Awaited p work [] (.beginning p work)
  | waiting {L : List Turn} {told : List (Nat × Outcome)} {tasks : List (Routine Outcome)}
      (worked : Worked work L tasks) (known : Told (numbersOf work) tasks told) :
      Awaited p work L (.awaiting p work told tasks)
  | returned {L₁ L₂ : List Turn} {told : List (Nat × Outcome)}
      {waited tasks : List (Routine Outcome)} {r : Except Fault Unit}
      (worked : Worked work L₁ waited) (known : Told (numbersOf work) waited told)
      (verdict : p.verdict? (numbersOf work) told = some r) (after : Worked waited L₂ tasks) :
      Awaited p work (L₁ ++ L₂) (.returned r tasks)

theorem Awaited.step (h : Awaited p work L k) (hs : Crew.Step k turns k') :
    Awaited p work (L ++ turns) k' := by
  cases h with
  | begun =>
    cases hs with
    | start => exact .waiting .refl ⟨List.nodup_nil, nofun⟩
    | work hi => cases hi
  | waiting worked known =>
    cases hs with
    | work hi => exact .waiting (worked.trans (.one hi)) (known.later (.one hi))
    | tell hi hnew hdone =>
      rw [List.append_nil]
      exact .waiting worked (known.tell hi hnew hdone)
    | conclude hv => exact .returned worked known hv .refl
  | returned worked known verdict after =>
    cases hs with
    | work hi =>
      rw [List.append_assoc]
      exact .returned worked known verdict (after.trans (.one hi))

/-- **Every run of a program that only waits goes from one of its points to another.** -/
theorem Awaited.run (h : Awaited p work L₁ k) (hrun : Crew.Run k L₂ k') :
    Awaited p work (L₁ ++ L₂) k' := by
  induction hrun generalizing L₁ with
  | refl =>
    rw [List.append_nil]
    exact h
  | step hs _ ih =>
    rw [← List.append_assoc]
    exact ih (h.step hs)

theorem awaited_of_run (h : Crew.Run (.beginning p work) L k) : Awaited p work L k :=
  Awaited.begun.run h

/-! ## Faults in order -/

/-- The faults of tasks by their outcomes: none for a task that has succeeded, and one for any
other, in the same order. -/
inductive Reported : List Outcome → List Fault → Prop where
  | nil : Reported [] []
  | succeeded {outcomes : List Outcome} {faults : List Fault} (rest : Reported outcomes faults) :
      Reported (.succeeded :: outcomes) faults
  | failed {outcomes : List Outcome} {faults : List Fault} {fault : Fault}
      (rest : Reported outcomes faults) : Reported (.failed fault :: outcomes) (fault :: faults)
  | brokeDown {outcomes : List Outcome} {faults : List Fault} {text : String}
      (rest : Reported outcomes faults) :
      Reported (.brokeDown text :: outcomes) (.task text :: faults)

theorem reported_iff {faults : List Fault} :
    Reported outcomes faults ↔ faults = outcomes.filterMap Outcome.fault? := by
  constructor
  · intro h
    induction h with
    | nil => rfl
    | succeeded _ ih => exact ih
    | failed _ ih => exact congrArg (_ :: ·) ih
    | brokeDown _ ih => exact congrArg (_ :: ·) ih
  · rintro rfl
    induction outcomes with
    | nil => exact .nil
    | cons outcome rest ih =>
      cases outcome with
      | succeeded => exact .succeeded ih
      | failed fault => exact .failed ih
      | brokeDown => exact .brokeDown ih

theorem reported_nil_iff : Reported outcomes [] ↔ ∀ outcome ∈ outcomes, outcome = .succeeded := by
  rw [reported_iff, eq_comm, List.filterMap_eq_nil_iff]
  refine forall₂_congr fun outcome _ => ?_
  cases outcome <;> simp [Outcome.fault?]

/-- The result of waiting for all tasks, by their outcomes: it is well when nothing is to be
reported, and else one fault that holds what is. -/
inductive Gathered (outcomes : List Outcome) : Except Fault Unit → Prop where
  | well (h : Reported outcomes []) : Gathered outcomes (.ok ())
  | faulty {first : Fault} {rest : List Fault} (h : Reported outcomes (first :: rest)) :
      Gathered outcomes (.error (.aggregate first rest))

theorem gathered_iff : Gathered outcomes r ↔ r = allFailures outcomes := by
  constructor
  · rintro (h | h) <;> simp [allFailures, ← reported_iff.1 h, Fault.gather]
  · rintro rfl
    unfold allFailures
    cases hf : outcomes.filterMap Outcome.fault? with
    | nil => exact .well (reported_iff.2 hf.symm)
    | cons first rest => exact .faulty (reported_iff.2 hf.symm)

theorem Gathered.eq_ok_iff (h : Gathered outcomes r) :
    r = .ok () ↔ ∀ outcome ∈ outcomes, outcome = .succeeded := by
  rw [← reported_nil_iff]
  cases h with
  | well h => simp [h]
  | faulty h => simp [reported_iff, ← reported_iff.1 h]

/-! ## The result of waiting for all -/

theorem allDone_iff : AllDone tasks ↔ ∃ outcomes : List Outcome, tasks = outcomes.map .done := by
  constructor
  · intro h
    induction tasks with
    | nil => exact ⟨[], rfl⟩
    | cons task rest ih =>
      obtain ⟨outcome, rfl⟩ := h task List.mem_cons_self
      obtain ⟨outcomes, rfl⟩ := ih fun task ht => h task (List.mem_cons_of_mem _ ht)
      exact ⟨outcome :: outcomes, rfl⟩
  · rintro ⟨outcomes, rfl⟩ task ht
    obtain ⟨outcome, -, rfl⟩ := List.mem_map.1 ht
    exact ⟨outcome, rfl⟩

theorem Told.lookup_eq {group : List Nat} (h : Told group tasks told) {i : Nat} {outcome : Outcome}
    (hi : i ∈ told.map Prod.fst) (hdone : tasks[i]? = some (.done outcome)) :
    told.lookup i = some outcome := by
  obtain ⟨x, hx, rfl⟩ := List.mem_map.1 hi
  have hsame := (h.ended x hx).2.symm.trans hdone
  injection hsame with hsame
  injection hsame with hsame
  rw [← hsame]
  exact lookup_of_mem h.nodup hx

theorem verdict?_of_told {group : List Nat} (h : ∀ i ∈ group, i ∈ told.map Prod.fst) :
    Policy.untilAllEnd.verdict? group told =
      some (allFailures (group.filterMap fun i => told.lookup i)) := by
  have hall : group.all (told.map Prod.fst).contains = true :=
    List.all_eq_true.2 fun i hi => List.contains_iff_mem.2 (h i hi)
  simp only [Policy.verdict?, hall, if_true]

theorem told_of_verdict? {group : List Nat}
    (h : Policy.untilAllEnd.verdict? group told = some r) : ∀ i ∈ group, i ∈ told.map Prod.fst := by
  intro i hi
  simp only [Policy.verdict?] at h
  split at h
  · next hall => exact List.contains_iff_mem.1 (List.all_eq_true.1 hall i hi)
  · cases h

theorem filterMap_getElem? {α : Type} (xs : List α) :
    (List.range' 0 xs.length).filterMap (fun i => xs[i]?) = xs := by
  have hsome : (List.range' 0 xs.length).map (fun i => xs[i]?) = xs.map some := by
    refine List.ext_getElem (by simp) fun i h₁ h₂ => ?_
    have hi : i < xs.length := by simpa using h₂
    simp [hi]
  calc (List.range' 0 xs.length).filterMap (fun i => xs[i]?)
      = ((List.range' 0 xs.length).map fun i => xs[i]?).filterMap id := by
        rw [List.filterMap_map]
        rfl
    _ = xs := by
        rw [hsome, List.filterMap_map]
        exact List.filterMap_some

/-- **The waiting for all tasks is over when all are done**, and their outcomes make its result. -/
theorem gathered_of_verdict? (known : Told (List.range' 0 tasks.length) tasks told)
    (verdict : Policy.untilAllEnd.verdict? (List.range' 0 tasks.length) told = some r) :
    ∃ outcomes : List Outcome, tasks = outcomes.map .done ∧ Gathered outcomes r := by
  have htold := told_of_verdict? verdict
  have hdone : AllDone tasks := by
    intro task htask
    obtain ⟨i, hi, rfl⟩ := List.mem_iff_getElem.1 htask
    obtain ⟨x, hx, rfl⟩ := List.mem_map.1 (htold i (List.mem_range'_1.2 (by omega)))
    have hend := (known.ended x hx).2
    rw [List.getElem?_eq_getElem hi] at hend
    exact ⟨x.2, Option.some.inj hend⟩
  obtain ⟨outcomes, rfl⟩ := allDone_iff.1 hdone
  rw [List.length_map] at known htold verdict
  have hlookup : ∀ i ∈ List.range' 0 outcomes.length, told.lookup i = outcomes[i]? := by
    intro i hi
    have hlt : i < outcomes.length := by simpa using hi
    rw [List.getElem?_eq_getElem hlt]
    exact known.lookup_eq (htold i hi) (by simp [hlt])
  refine ⟨outcomes, rfl, gathered_iff.2 ?_⟩
  rw [verdict?_of_told htold, List.filterMap_congr hlookup, filterMap_getElem?] at verdict
  exact (Option.some.inj verdict).symm

/-- Of tasks that are done, those that have not been told of can be told of in any order. -/
theorem Told.in_order {group : List Nat} (h : Told group (outcomes.map .done) told)
    (order : List Nat) (hnodup : order.Nodup)
    (hin : ∀ i ∈ order, i ∈ group ∧ i < outcomes.length ∧ i ∉ told.map Prod.fst) :
    Told group (outcomes.map .done)
      (told ++ order.map fun i => (i, outcomes[i]?.getD .succeeded)) := by
  refine ⟨?_, fun x hx => ?_⟩
  · rw [List.map_append, List.map_map]
    refine h.nodup.append (by simpa [Function.comp_def] using hnodup) fun i hi ho => ?_
    exact (hin i (by simpa [Function.comp_def] using ho)).2.2 hi
  · rcases List.mem_append.1 hx with hx | hx
    · exact h.ended x hx
    · obtain ⟨i, hi, rfl⟩ := List.mem_map.1 hx
      obtain ⟨hgroup, hlt, -⟩ := hin i hi
      exact ⟨hgroup, by simp [hlt]⟩

theorem run_returned (tasks : List (Routine Outcome))
    (h : ∀ i ∈ numbersOf work, i ∈ told.map Prod.fst) :
    ∃ r, Crew.Run (.awaiting .untilAllEnd work told tasks) [] (.returned r tasks) :=
  ⟨_, .silent (.conclude (verdict?_of_told h)) .refl⟩

theorem Told.complete (h : Told (numbersOf work) (outcomes.map .done) told)
    (hlength : outcomes.length = work.length) :
    ∃ more, Told (numbersOf work) (outcomes.map .done) (told ++ more) ∧
      ∀ i ∈ numbersOf work, i ∈ (told ++ more).map Prod.fst := by
  let order := (numbersOf work).filter fun i => i ∉ told.map Prod.fst
  have hall := h.in_order order (List.Nodup.filter _ List.nodup_range') fun i hi => by
    obtain ⟨hgroup, hnew⟩ := List.mem_filter.1 hi
    refine ⟨hgroup, ?_, by simpa using hnew⟩
    rw [hlength]
    simpa using hgroup
  refine ⟨_, hall, fun i hi => ?_⟩
  by_cases hold : i ∈ told.map Prod.fst
  · rw [List.map_append]
    exact List.mem_append_left _ hold
  · simp only [List.map_append, List.map_map, Function.comp_def, List.map_id', List.mem_append]
    exact .inr (List.mem_filter.2 ⟨hi, by simpa using hold⟩)

/-- Where all tasks are done, the waiting for all of them is never stuck. -/
theorem Awaited.returns (h : Awaited .untilAllEnd work L (.awaiting .untilAllEnd work told tasks))
    (hdone : AllDone tasks) :
    ∃ r, Crew.Run (.awaiting .untilAllEnd work told tasks) [] (.returned r tasks) := by
  cases h with
  | waiting worked known =>
    obtain ⟨outcomes, rfl⟩ := allDone_iff.1 hdone
    obtain ⟨more, hall, htold⟩ := known.complete (by simpa using worked.length_eq)
    obtain ⟨r, hr⟩ := run_returned (outcomes.map .done) htold
    exact ⟨r, (run_told told more hall).trans hr⟩

/-! ## Every order -/

/-- Tasks can end with any outcomes that they can come to, and be told of in any order. -/
theorem run_in_order {order : List Nat} (horder : order.Perm (numbersOf work))
    (hends : List.Forall₂ (fun task outcome => ∃ t, Follows task t outcome) work outcomes) :
    ∃ L told, told.map Prod.fst = order ∧ Crew.Run (.beginning .untilAllEnd work) L
      (.awaiting .untilAllEnd work told (outcomes.map .done)) := by
  obtain ⟨L, worked⟩ := worked_of_follows [] hends
  have known : Told (numbersOf work) (outcomes.map .done) [] := ⟨List.nodup_nil, nofun⟩
  have hall := known.in_order order (horder.nodup_iff.2 List.nodup_range') fun i hi => by
    have hgroup := horder.mem_iff.1 hi
    refine ⟨hgroup, ?_, nofun⟩
    rw [← hends.length_eq]
    simpa using hgroup
  refine ⟨L, order.map fun i => (i, outcomes[i]?.getD Outcome.succeeded),
    by simp [Function.comp_def], .silent .start ?_⟩
  rw [← List.append_nil L]
  exact (worked.run _).trans (run_told [] _ hall)

theorem le_foldl_time (ends : List Completion) (t : Nat) :
    t ≤ ends.foldl (fun t c => max t c.time) t ∧
      ∀ c ∈ ends, c.time ≤ ends.foldl (fun t c => max t c.time) t := by
  induction ends generalizing t with
  | nil => exact ⟨Nat.le_refl t, nofun⟩
  | cons c rest ih =>
    obtain ⟨hstart, hrest⟩ := ih (max t c.time)
    refine ⟨Nat.le_trans (Nat.le_max_left t c.time) hstart, List.forall_mem_cons.2 ⟨?_, hrest⟩⟩
    exact Nat.le_trans (Nat.le_max_right t c.time) hstart

/-- A program that waits for all of its tasks has come to a result: they are all done. -/
theorem done_of_returned (h : Crew.Run (.beginning .untilAllEnd work) L (.returned r tasks)) :
    ∃ outcomes : List Outcome, tasks = outcomes.map .done ∧ Worked work L tasks ∧
      Gathered outcomes r := by
  cases awaited_of_run h with
  | returned worked known verdict after =>
    have hlength := worked.length_eq
    unfold numbersOf at known verdict
    rw [← hlength] at known verdict
    obtain ⟨outcomes, rfl, hgathered⟩ := gathered_of_verdict? known verdict
    obtain ⟨rfl, rfl⟩ := after.idle (allDone_iff.2 ⟨outcomes, rfl⟩)
    rw [List.append_nil]
    exact ⟨outcomes, rfl, worked, hgathered⟩

/-- **Waiting for all tasks returns when all of them are done**, as work side by side does, each
having followed its own description, and the result holds exactly the faults of those that have not
succeeded, in the order of submission. So it is the same whatever the order in which the tasks have
ended and have been told of. They can be told of in every order, and from every point at which all
are done the waiting comes to its result. A host that knows the times of the tasks waits for the
last of them. -/
theorem failures_gathered (work : List (Routine Outcome)) :
    (∀ ws : List (Work Unit), ws.map Work.outcome = work →
      (together .untilAllEnd ws).run = .await .untilAllEnd work) ∧
    (∀ L tasks r, Crew.Run (.beginning .untilAllEnd work) L (.returned r tasks) →
      ∃ outcomes : List Outcome, tasks = outcomes.map .done ∧ outcomes.length = work.length ∧
        (∀ i outcome, outcomes[i]? = some outcome →
          ∃ task, work[i]? = some task ∧ Follows task (exchangesOf (.task i) L) outcome) ∧
        Gathered outcomes r ∧ (r = .ok () ↔ ∀ outcome ∈ outcomes, outcome = .succeeded)) ∧
    (∀ L₁ L₂ tasks r₁ r₂, Crew.Run (.beginning .untilAllEnd work) L₁ (.returned r₁ tasks) →
      Crew.Run (.beginning .untilAllEnd work) L₂ (.returned r₂ tasks) → r₁ = r₂) ∧
    (∀ (outcomes : List Outcome) (order : List Nat), order.Perm (numbersOf work) →
      List.Forall₂ (fun task outcome => ∃ t, Follows task t outcome) work outcomes →
      ∃ L told, told.map Prod.fst = order ∧ Crew.Run (.beginning .untilAllEnd work) L
        (.awaiting .untilAllEnd work told (outcomes.map .done))) ∧
    (∀ L told tasks,
      Crew.Run (.beginning .untilAllEnd work) L (.awaiting .untilAllEnd work told tasks) →
      AllDone tasks →
      ∃ r, Crew.Run (.awaiting .untilAllEnd work told tasks) [] (.returned r tasks)) ∧
    (∀ ends : List Completion,
      Gathered (ends.map Completion.outcome) (Policy.untilAllEnd.result ends) ∧
        ∀ c ∈ ends, c.time ≤ Policy.untilAllEnd.waited ends) := by
  refine ⟨?_, fun L tasks r h => ?_, fun L₁ L₂ tasks r₁ r₂ h₁ h₂ => ?_,
    fun outcomes order horder hends => run_in_order horder hends,
    fun L told tasks h hdone => (awaited_of_run h).returns hdone, fun ends => ?_⟩
  · rintro ws rfl
    exact run_together
  · obtain ⟨outcomes, rfl, worked, hgathered⟩ := done_of_returned h
    refine ⟨outcomes, rfl, by simpa using worked.length_eq, fun i outcome hi => ?_, hgathered,
      hgathered.eq_ok_iff⟩
    exact worked.follows (by simp [hi])
  · obtain ⟨outcomes, rfl, -, hr₁⟩ := done_of_returned h₁
    obtain ⟨outcomes', hsame, -, hr₂⟩ := done_of_returned h₂
    obtain rfl : outcomes = outcomes' :=
      List.map_injective_iff.2 (fun _ _ h => Script.done.inj h) hsame
    rw [gathered_iff.1 hr₁, gathered_iff.1 hr₂]
  · exact ⟨gathered_iff.2 rfl, (le_foldl_time ends 0).2⟩

/-- Three tasks: one fails late, one breaks down at once, and one succeeds. -/
def mixedWork : List (Routine Outcome) :=
  [.ask (.pause 300) fun _ => .done (.failed (.nodeNotFound "late")),
    .done (.brokeDown "task 7 panicked"), .ask (.pause 10) fun _ => .done .succeeded]

/-- The program is told of them in the order opposite to that of their submission. -/
def mixedRun : List Turn × Crew (Except Fault Unit) × Unit :=
  Crew.drive ⟨fun r => pure (r.compliance, 0)⟩ (.beginning .untilAllEnd mixedWork) ()
    [.program, .task 2, .tell 2, .tell 1, .task 0, .tell 0, .program]

/-- What they have failed with, in the order of their submission. -/
def mixedFault : Fault := .aggregate (.nodeNotFound "late") [.task "task 7 panicked"]

theorem mixedWork_gathered : ∃ outcomes : List Outcome,
    mixedRun.2.1 = .returned (.error mixedFault) (outcomes.map .done) ∧
      Gathered outcomes (.error mixedFault) := by
  have hrun : Crew.Run (.beginning .untilAllEnd mixedWork) mixedRun.1
      (.returned (.error mixedFault) mixedRun.2.1.tasks) :=
    Crew.run_drive _ _ _ _
  obtain ⟨outcomes, htasks, -, -, hgathered, -⟩ :=
    (failures_gathered mixedWork).2.1 _ _ _ hrun
  refine ⟨outcomes, ?_, hgathered⟩
  rw [← htasks]
  rfl

end LocalCluster
