import LocalCluster.Proofs.Work.Gathering

/-!
# Waiting for the first failure

A program that waits for the first failure of its tasks has them all started at once. It comes back
with the first failure that it is told of, as soon as that is told, and it comes back well only when
it has been told of all tasks. Tasks that are not done by then go on as if nothing had happened.

* `Earliest`: the result by what has been told; **`earliest_iff`**: it is the verdict.
* `run_awaiting_iff`, `exists_awaiting`: the waiting, and what comes before its end.
* `run_of_returned`: when the waiting is over, only tasks go on; `Awaited.worked`.
* `deliveries_pairwise`, `earliest_completion`: the same where the times of tasks are known.
* **`first_failure_returned`**: waiting for the first failure, in every order of delivery.
-/

namespace LocalCluster

open LocalCluster.Cluster Script

variable {work tasks tasks' : List (Routine Outcome)} {L L' : List Turn}
variable {told more : List (Nat × Outcome)} {outcomes : List Outcome} {group : List Nat}
variable {p : Policy} {r : Except Fault Unit} {fault : Fault}

/-! ## The earliest failure -/

/-- The result of waiting for the first failure of a group, by what has been told of its tasks, in
order: it is well when all have been told of and have succeeded, and else the fault of the first
one that has not. -/
inductive Earliest (group : List Nat) (told : List (Nat × Outcome)) : Except Fault Unit → Prop where
  | well (all : ∀ i ∈ group, i ∈ told.map Prod.fst) (h : Reported (told.map Prod.snd) []) :
      Earliest group told (.ok ())
  | faulty {before after : List (Nat × Outcome)} {i : Nat} {outcome : Outcome} {fault : Fault}
      (split : told = before ++ (i, outcome) :: after) (h : Reported (before.map Prod.snd) [])
      (first : Reported [outcome] [fault]) : Earliest group told (.error fault)

theorem reported_singleton_iff {outcome : Outcome} :
    Reported [outcome] [fault] ↔ outcome.fault? = some fault := by
  rw [reported_iff]
  cases outcome <;> simp [Outcome.fault?, List.filterMap_cons, eq_comm]

theorem reported_nil_iff_fault? :
    Reported outcomes [] ↔ ∀ outcome ∈ outcomes, outcome.fault? = none := by
  rw [reported_iff, eq_comm, List.filterMap_eq_nil_iff]

theorem firstFailure_eq_ok_iff : firstFailure outcomes = .ok () ↔ Reported outcomes [] := by
  rw [reported_nil_iff_fault?, ← List.findSome?_eq_none_iff, firstFailure]
  cases outcomes.findSome? Outcome.fault? <;> simp

theorem firstFailure_eq_error_iff : firstFailure outcomes = .error fault ↔
    ∃ before outcome after, outcomes = before ++ outcome :: after ∧ Reported before [] ∧
      Reported [outcome] [fault] := by
  have hfirst : firstFailure outcomes = .error fault ↔
      outcomes.findSome? Outcome.fault? = some fault := by
    rw [firstFailure]
    cases outcomes.findSome? Outcome.fault? <;> simp
  rw [hfirst, List.findSome?_eq_some_iff]
  simp only [reported_nil_iff_fault?, reported_singleton_iff]
  constructor
  · rintro ⟨before, outcome, after, hsplit, hfault, hnone⟩
    exact ⟨before, outcome, after, hsplit, hnone, hfault⟩
  · rintro ⟨before, outcome, after, hsplit, hnone, hfault⟩
    exact ⟨before, outcome, after, hsplit, hfault, hnone⟩

/-- **What ends the waiting for the first failure.** -/
theorem earliest_iff :
    Earliest group told r ↔ Policy.untilFirstFailure.verdict? group told = some r := by
  have hall : group.all (told.map Prod.fst).contains = true ↔
      ∀ i ∈ group, i ∈ told.map Prod.fst := by
    simp only [List.all_eq_true, List.contains_iff_mem]
  constructor
  · rintro (⟨all, h⟩ | ⟨rfl, h, first⟩)
    · simp only [Policy.verdict?, firstFailure_eq_ok_iff.2 h, hall.2 all, if_true]
    · rw [Policy.verdict?, firstFailure_eq_error_iff.2 ⟨_, _, _, List.map_append, h, first⟩]
  · intro h
    simp only [Policy.verdict?] at h
    cases hfirst : firstFailure (told.map Prod.snd) with
    | error fault =>
      rw [hfirst] at h
      obtain rfl := Option.some.inj h
      obtain ⟨before, outcome, after, hsplit, hnone, hfault⟩ := firstFailure_eq_error_iff.1 hfirst
      obtain ⟨before, rest, rfl, rfl, hrest⟩ := List.map_eq_append_iff.1 hsplit
      obtain ⟨⟨i, outcome⟩, after, rfl, rfl, -⟩ := List.map_eq_cons_iff.1 hrest
      exact .faulty rfl hnone hfault
    | ok u =>
      rw [hfirst] at h
      dsimp only at h
      split at h
      · next hgroup =>
        obtain rfl := Option.some.inj h
        exact .well (hall.1 hgroup) (firstFailure_eq_ok_iff.1 hfirst)
      · cases h

theorem Earliest.later (h : Earliest group told (.error fault)) :
    Earliest group (told ++ more) (.error fault) := by
  cases h with
  | faulty split h first => exact .faulty (by rw [split, List.append_assoc]; rfl) h first

theorem Earliest.unique {r' : Except Fault Unit} (h : Earliest group told r)
    (h' : Earliest group told r') : r = r' :=
  Option.some.inj ((earliest_iff.1 h).symm.trans (earliest_iff.1 h'))

theorem exists_earliest (h : ∀ i ∈ group, i ∈ told.map Prod.fst) : ∃ r, Earliest group told r := by
  cases hfirst : firstFailure (told.map Prod.snd) with
  | error fault =>
    refine ⟨.error fault, earliest_iff.2 ?_⟩
    rw [Policy.verdict?, hfirst]
  | ok u => exact ⟨.ok (), .well h (firstFailure_eq_ok_iff.1 hfirst)⟩

/-! ## The waiting and its end -/

/-- Tasks get to any point that they can get to on their own, and those that are done by then can be
told of in any order. -/
theorem run_awaiting_iff : Crew.Run (.beginning p work) L (.awaiting p work told tasks) ↔
    Worked work L tasks ∧ Told (numbersOf work) tasks told := by
  constructor
  · intro h
    cases awaited_of_run h with
    | waiting worked known => exact ⟨worked, known⟩
  · rintro ⟨worked, known⟩
    refine .silent .start ?_
    rw [← List.append_nil L]
    exact (worked.run _).trans (run_told [] told known)

theorem step_beginning {turns : List Turn} {k : Crew (Except Fault Unit)}
    (h : Crew.Step (.beginning p work) turns k) : turns = [] ∧ k = .awaiting p work [] work := by
  cases h with
  | start => exact ⟨rfl, rfl⟩
  | work hi => cases hi

theorem exists_awaiting (h : Crew.Run (.beginning p work) L (.returned r tasks)) :
    ∃ L₁ L₂ told waited, L = L₁ ++ L₂ ∧
      Crew.Run (.beginning p work) L₁ (.awaiting p work told waited) ∧
      p.verdict? (numbersOf work) told = some r ∧ Worked waited L₂ tasks := by
  cases awaited_of_run h with
  | returned worked known verdict after =>
    exact ⟨_, _, _, _, rfl, run_awaiting_iff.2 ⟨worked, known⟩, verdict, after⟩

/-- **When the waiting is over, its result stays, and only the tasks go on.** -/
theorem run_of_returned {k : Crew (Except Fault Unit)} (h : Crew.Run (.returned r tasks) L k) :
    ∃ tasks', k = .returned r tasks' ∧ Worked tasks L tasks' := by
  generalize hk : (Crew.returned r tasks) = first at h
  induction h generalizing tasks with
  | refl => exact ⟨tasks, hk.symm, .refl⟩
  | step hs _ ih =>
    subst hk
    cases hs with
    | work hi =>
      obtain ⟨tasks', rfl, worked⟩ := ih rfl
      exact ⟨tasks', rfl, .turn hi worked⟩

theorem Awaited.worked (h : Awaited p work L (.returned r tasks)) : Worked work L tasks := by
  cases h with
  | returned worked _ _ after => exact worked.trans after

theorem exists_told (h : Crew.Run (.awaiting p work told tasks) L (.returned r tasks')) :
    ∃ more, p.verdict? (numbersOf work) (told ++ more) = some r := by
  generalize hfirst : (Crew.awaiting p work told tasks) = first at h
  generalize hlast : (Crew.returned r tasks') = last at h
  induction h generalizing told tasks with
  | refl =>
    subst hfirst
    cases hlast
  | step hs rest ih =>
    subst hfirst
    cases hs with
    | work hi => exact ih rfl hlast
    | @tell _ _ _ _ _ i outcome hi hnew hdone =>
      obtain ⟨more, hmore⟩ := ih rfl hlast
      rw [List.append_assoc] at hmore
      exact ⟨_, hmore⟩
    | conclude hv =>
      subst hlast
      obtain ⟨tasks'', he, -⟩ := run_of_returned rest
      cases he
      exact ⟨[], by rw [List.append_nil]; exact hv⟩

theorem Earliest.succeeded (h : Earliest (numbersOf work) told (.ok ()))
    (known : Told (numbersOf work) tasks told) (hlength : tasks.length = work.length) :
    ∃ outcomes : List Outcome, tasks = outcomes.map .done ∧
      ∀ outcome ∈ outcomes, outcome = .succeeded := by
  cases h with
  | well all hnone =>
    have hdone : ∀ task ∈ tasks, task = Script.done Outcome.succeeded := by
      intro task htask
      obtain ⟨i, hi, rfl⟩ := List.mem_iff_getElem.1 htask
      obtain ⟨x, hx, rfl⟩ := List.mem_map.1 (all i (List.mem_range'_1.2 (by omega)))
      have hend := (known.ended x hx).2
      rw [List.getElem?_eq_getElem hi,
        reported_nil_iff.1 hnone x.2 (List.mem_map_of_mem hx)] at hend
      exact Option.some.inj hend
    refine ⟨List.replicate tasks.length .succeeded, ?_,
      fun outcome ho => List.eq_of_mem_replicate ho⟩
    rw [List.map_replicate]
    exact List.eq_replicate_iff.2 ⟨rfl, hdone⟩

theorem Earliest.failed (h : Earliest group told (.error fault)) (known : Told group tasks told) :
    ∃ (i : Nat) (outcome : Outcome), tasks[i]? = some (.done outcome) ∧ outcome ≠ .succeeded := by
  cases h with
  | @faulty before after i outcome _ split _ first =>
    have hmem : (i, outcome) ∈ told := by simp [split]
    refine ⟨i, outcome, (known.ended _ hmem).2, ?_⟩
    rintro rfl
    simp [reported_singleton_iff, Outcome.fault?] at first

theorem ok_iff_of_returned
    (h : Crew.Run (.beginning .untilFirstFailure work) L (.returned r (outcomes.map .done))) :
    r = .ok () ↔ ∀ outcome ∈ outcomes, outcome = .succeeded := by
  obtain ⟨L₁, L₂, told, waited, rfl, hwait, hverdict, after⟩ := exists_awaiting h
  obtain ⟨worked, known⟩ := run_awaiting_iff.1 hwait
  have hearliest := earliest_iff.2 hverdict
  cases r with
  | ok u =>
    obtain ⟨outcomes', rfl, hall⟩ := hearliest.succeeded known worked.length_eq
    obtain ⟨-, hsame⟩ := after.idle (allDone_iff.2 ⟨outcomes', rfl⟩)
    obtain rfl : outcomes = outcomes' :=
      List.map_injective_iff.2 (fun _ _ h => Script.done.inj h) hsame
    exact ⟨fun _ => hall, fun _ => rfl⟩
  | error fault =>
    refine ⟨nofun, fun hall => ?_⟩
    obtain ⟨i, outcome, hdone, hne⟩ := hearliest.failed known
    have hend := after.done hdone
    rw [List.getElem?_map] at hend
    obtain ⟨outcome', hi, he⟩ := Option.map_eq_some_iff.1 hend
    obtain rfl := Script.done.inj he
    exact absurd (hall _ (List.mem_of_getElem? hi)) hne

theorem exists_follows (task : Routine Outcome) : ∃ t outcome, Follows task t outcome :=
  ⟨_, _, follows_play Request.compliance task⟩

theorem exists_done (tasks : List (Routine Outcome)) :
    ∃ L, ∃ outcomes : List Outcome, Worked tasks L (outcomes.map .done) := by
  have hends : ∃ outcomes, List.Forall₂ (fun task outcome => ∃ t, Follows task t outcome) tasks
      outcomes := by
    induction tasks with
    | nil => exact ⟨[], .nil⟩
    | cons task rest ih =>
      obtain ⟨t, outcome, ht⟩ := exists_follows task
      obtain ⟨outcomes, hrest⟩ := ih
      exact ⟨outcome :: outcomes, .cons ⟨t, ht⟩ hrest⟩
  obtain ⟨outcomes, hends⟩ := hends
  obtain ⟨L, hL⟩ := worked_of_follows [] hends
  exact ⟨L, outcomes, hL⟩

/-! ## Times -/

theorem insertDelivery_pairwise (c : Completion) {cs : List Completion}
    (h : cs.Pairwise (·.time ≤ ·.time)) : (insertDelivery c cs).Pairwise (·.time ≤ ·.time) := by
  induction cs with
  | nil => exact List.pairwise_singleton _ _
  | cons d rest ih =>
    obtain ⟨hfirst, hrest⟩ := List.pairwise_cons.1 h
    unfold insertDelivery
    split
    · next hlt =>
      refine List.pairwise_cons.2 ⟨fun e he => ?_, ih hrest⟩
      rcases List.mem_cons.1 ((insertDelivery_perm c rest).mem_iff.1 he) with rfl | he
      · exact Nat.le_of_lt hlt
      · exact hfirst e he
    · next hle =>
      refine List.pairwise_cons.2 ⟨fun e he => ?_, h⟩
      rcases List.mem_cons.1 he with rfl | he
      · exact Nat.le_of_not_lt hle
      · exact Nat.le_trans (Nat.le_of_not_lt hle) (hfirst e he)

theorem deliveries_pairwise (cs : List Completion) :
    (deliveries cs).Pairwise (·.time ≤ ·.time) := by
  induction cs with
  | nil => exact List.Pairwise.nil
  | cons c cs ih => exact insertDelivery_pairwise c ih

/-- The result of waiting for the first failure, and how long the waiting takes, for tasks whose
times are known. -/
inductive Timed (ends : List Completion) : Except Fault Unit → Nat → Prop where
  | well {time : Nat} (all : ∀ c ∈ ends, c.outcome = .succeeded)
      (last : ∀ c ∈ ends, c.time ≤ time) :
      Timed ends (.ok ()) time
  | faulty {before after : List Completion} {c : Completion} {fault : Fault}
      (split : deliveries ends = before ++ c :: after)
      (h : Reported (before.map Completion.outcome) []) (first : Reported [c.outcome] [fault])
      (soon : ∀ d ∈ ends, d.outcome ≠ .succeeded → c.time ≤ d.time) :
      Timed ends (.error fault) c.time

/-- **A host that knows the times of tasks comes back at the time of the earliest failure**, or else
when the last task is done. -/
theorem earliest_completion (ends : List Completion) :
    Timed ends (Policy.untilFirstFailure.result ends) (Policy.untilFirstFailure.waited ends) := by
  cases hfirst : firstFailure ((deliveries ends).map Completion.outcome) with
  | ok u =>
    have hnone := firstFailure_eq_ok_iff.1 hfirst
    have hall : ∀ c ∈ ends, c.outcome = .succeeded := fun c hc =>
      reported_nil_iff.1 hnone _ (List.mem_map_of_mem ((deliveries_perm ends).mem_iff.2 hc))
    have hwaited : Policy.untilFirstFailure.waited ends = lastTime ends := by
      have hfind : (deliveries ends).find? (·.outcome.fault?.isSome) = none :=
        List.find?_eq_none.2 fun c hc => by
          simp [hall c ((deliveries_perm ends).mem_iff.1 hc), Outcome.fault?]
      simp only [Policy.waited, hfind]
    rw [Policy.result, hfirst, hwaited]
    exact .well hall (le_foldl_time ends 0).2
  | error fault =>
    obtain ⟨before, outcome, after, hsplit, hnone, hfault⟩ := firstFailure_eq_error_iff.1 hfirst
    obtain ⟨before, rest, hdeliveries, rfl, hrest⟩ := List.map_eq_append_iff.1 hsplit
    obtain ⟨c, after, rfl, rfl, -⟩ := List.map_eq_cons_iff.1 hrest
    have hbefore : ∀ d ∈ before, d.outcome = .succeeded := fun d hd =>
      reported_nil_iff.1 hnone _ (List.mem_map_of_mem hd)
    have hwaited : Policy.untilFirstFailure.waited ends = c.time := by
      have hskip : before.find? (·.outcome.fault?.isSome) = none :=
        List.find?_eq_none.2 fun d hd => by simp [hbefore d hd, Outcome.fault?]
      have hfind : (deliveries ends).find? (·.outcome.fault?.isSome) = some c := by
        rw [hdeliveries, List.find?_append, hskip, Option.none_or,
          List.find?_cons_of_pos (by rw [reported_singleton_iff.1 hfault]; rfl)]
      simp only [Policy.waited, hfind]
    rw [Policy.result, hfirst, hwaited]
    refine .faulty hdeliveries hnone hfault fun d hd hne => ?_
    have horder := deliveries_pairwise ends
    rw [hdeliveries] at horder
    rw [← (deliveries_perm ends).mem_iff, hdeliveries] at hd
    rcases List.mem_append.1 hd with hd | hd
    · exact absurd (hbefore d hd) hne
    · rcases List.mem_cons.1 hd with rfl | hd
      · exact Nat.le_refl _
      · exact (List.pairwise_cons.1 (List.pairwise_append.1 horder).2.1).1 d hd

/-! ## The result -/

/-- **Waiting for the first failure comes back with the first failure that is delivered**, as work
side by side does. All tasks are started before anything else. They get to any point on their own,
and those that are done are told of in any order. The waiting comes back with the earliest failure
told, or well when all have been told of, which is when all are done; so it comes back well just
when all succeed. From the moment at which a failure has been told, it can come back without any
further turn, and with nothing else. Where all tasks are done, it is never stuck. After it has come
back, every task that is not done goes on to any end that it can come to, and in the end each has
followed its own description once. A host that knows the times of the tasks comes back at that of
the earliest failure. -/
theorem first_failure_returned (work : List (Routine Outcome)) :
    (∀ ws : List (Work Unit), ws.map Work.outcome = work →
      (together .untilFirstFailure ws).run = .await .untilFirstFailure work) ∧
    (∀ turns k, Crew.Step (.beginning .untilFirstFailure work) turns k →
      turns = [] ∧ k = .awaiting .untilFirstFailure work [] work) ∧
    (∀ L told tasks, Crew.Run (.beginning .untilFirstFailure work) L
        (.awaiting .untilFirstFailure work told tasks) ↔
      Worked work L tasks ∧ Told (numbersOf work) tasks told) ∧
    (∀ L r tasks, Crew.Run (.beginning .untilFirstFailure work) L (.returned r tasks) →
      (∃ L₁ L₂ told waited, L = L₁ ++ L₂ ∧
        Crew.Run (.beginning .untilFirstFailure work) L₁
          (.awaiting .untilFirstFailure work told waited) ∧
        Earliest (numbersOf work) told r ∧ (r = .ok () → AllDone waited) ∧
        Worked waited L₂ tasks) ∧
      ∀ outcomes : List Outcome, tasks = outcomes.map .done →
        (r = .ok () ↔ ∀ outcome ∈ outcomes, outcome = .succeeded)) ∧
    (∀ told tasks fault, Earliest (numbersOf work) told (.error fault) →
      Crew.Run (.awaiting .untilFirstFailure work told tasks) [] (.returned (.error fault) tasks) ∧
      ∀ L r tasks', Crew.Run (.awaiting .untilFirstFailure work told tasks) L (.returned r tasks') →
        r = .error fault) ∧
    (∀ L told tasks, Crew.Run (.beginning .untilFirstFailure work) L
        (.awaiting .untilFirstFailure work told tasks) → AllDone tasks →
      ∃ r, Crew.Run (.awaiting .untilFirstFailure work told tasks) [] (.returned r tasks)) ∧
    (∀ L r tasks, Crew.Run (.beginning .untilFirstFailure work) L (.returned r tasks) →
      (∀ i task t outcome, tasks[i]? = some task → Follows task t outcome →
        Crew.Run (.returned r tasks) (t.map fun x => ⟨.task i, x⟩)
          (.returned r (tasks.set i (.done outcome)))) ∧
      (∃ L', ∃ outcomes : List Outcome,
        Crew.Run (.returned r tasks) L' (.returned r (outcomes.map .done))) ∧
      ∀ L' k, Crew.Run (.returned r tasks) L' k →
        ∃ tasks', k = .returned r tasks' ∧ tasks'.length = work.length ∧
          ∀ i outcome, tasks'[i]? = some (.done outcome) → ∃ task, work[i]? = some task ∧
            Follows task (exchangesOf (.task i) (L ++ L')) outcome) ∧
    (∀ ends : List Completion,
      Timed ends (Policy.untilFirstFailure.result ends)
        (Policy.untilFirstFailure.waited ends)) := by
  refine ⟨?_, fun _ _ h => step_beginning h, fun _ _ _ => run_awaiting_iff,
    fun L r tasks h => ⟨?_, ?_⟩, fun told tasks fault h => ⟨?_, fun L r tasks' hrun => ?_⟩,
    fun L told tasks h hdone => ?_, fun L r tasks h => ⟨?_, ?_, fun L' k hrun => ?_⟩,
    earliest_completion⟩
  · rintro ws rfl
    exact run_together
  · obtain ⟨L₁, L₂, told, waited, rfl, hwait, hverdict, after⟩ := exists_awaiting h
    have hearliest := earliest_iff.2 hverdict
    refine ⟨L₁, L₂, told, waited, rfl, hwait, hearliest, ?_, after⟩
    rintro rfl
    obtain ⟨worked, known⟩ := run_awaiting_iff.1 hwait
    obtain ⟨outcomes, rfl, -⟩ := hearliest.succeeded known worked.length_eq
    exact allDone_iff.2 ⟨outcomes, rfl⟩
  · rintro outcomes rfl
    exact ok_iff_of_returned h
  · exact .silent (.conclude (earliest_iff.1 h)) .refl
  · obtain ⟨more, hmore⟩ := exists_told hrun
    exact (earliest_iff.2 hmore).unique h.later
  · obtain ⟨worked, known⟩ := run_awaiting_iff.1 h
    obtain ⟨outcomes, rfl⟩ := allDone_iff.1 hdone
    obtain ⟨more, hall, htold⟩ := known.complete (by simpa using worked.length_eq)
    obtain ⟨r, hr⟩ := exists_earliest htold
    exact ⟨r, (run_told told more hall).trans (.silent (.conclude (earliest_iff.1 hr)) .refl)⟩
  · intro i task t outcome hi ht
    exact (Worked.alone ht hi).run _
  · obtain ⟨L', outcomes, worked⟩ := exists_done tasks
    exact ⟨L', outcomes, worked.run _⟩
  · obtain ⟨tasks', rfl, worked⟩ := run_of_returned hrun
    have hall := (awaited_of_run h).worked.trans worked
    exact ⟨tasks', rfl, hall.length_eq, fun i outcome hi => hall.follows hi⟩

/-- Two tasks: one succeeds late, and the other one fails early. -/
def hastyWork : List (Routine Outcome) :=
  [.ask (.pause 500) fun _ => .done .succeeded,
    .ask (.pause 10) fun _ => .done (.failed (.nodeNotFound "early"))]

/-- The program comes back with the failure, and the late task goes on. -/
def hastyRun : List Turn × Crew (Except Fault Unit) × Unit :=
  Crew.drive ⟨fun r => pure (r.compliance, 0)⟩ (.beginning .untilFirstFailure hastyWork) ()
    [.program, .task 1, .tell 1, .program]

theorem hastyWork_returned : hastyRun.2.1 =
      .returned (.error (.nodeNotFound "early")) [hastyWork[0],
        .done (.failed (.nodeNotFound "early"))] ∧
    (∃ L₁ L₂ told waited, hastyRun.1 = L₁ ++ L₂ ∧
      Crew.Run (.beginning .untilFirstFailure hastyWork) L₁
        (.awaiting .untilFirstFailure hastyWork told waited) ∧
      Earliest (numbersOf hastyWork) told (.error (.nodeNotFound "early"))) ∧
    Crew.Run hastyRun.2.1 [⟨.task 0, ⟨.pause 500, ()⟩⟩] (.returned (.error (.nodeNotFound "early"))
      [.done .succeeded, .done (.failed (.nodeNotFound "early"))]) := by
  have hrun : Crew.Run (.beginning .untilFirstFailure hastyWork) hastyRun.1
      (.returned (.error (.nodeNotFound "early")) [hastyWork[0],
        .done (.failed (.nodeNotFound "early"))]) := Crew.run_drive _ _ _ _
  obtain ⟨-, -, -, hback, -, -, hafter, -⟩ := first_failure_returned hastyWork
  obtain ⟨⟨L₁, L₂, told, waited, hsplit, hwait, hearliest, -, -⟩, -⟩ := hback _ _ _ hrun
  refine ⟨rfl, ⟨L₁, L₂, told, waited, hsplit, hwait, hearliest⟩, ?_⟩
  exact (hafter _ _ _ hrun).1 0 hastyWork[0] [⟨.pause 500, ()⟩] .succeeded rfl (.ask (.done _))

end LocalCluster
