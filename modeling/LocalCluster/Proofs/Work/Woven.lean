import LocalCluster.Proofs.Work.Crew
import Mathlib.Data.List.Nodup

/-!
# Runs of programs with their tasks taken apart

A program sees of its tasks only what it has been told of them. A run of a program with its tasks is
therefore a run of the program on its own, with the turns of the tasks woven into it.

* `Worked`: tasks take some turns; **`Worked.follows`**: each of them follows its own description.
* `Delivered`: a result of waiting, for tasks at this point.
* `Weave`: the turns of tasks woven into a run of a program; `weave_append_iff`, `Weave.idle`.
* **`runs_iff_weave`**: the runs of a program with its tasks are the weaves of its own runs.
-/

namespace LocalCluster

open LocalCluster.Cluster Script

variable {α : Type} {tasks tasks' mid work : List (Routine Outcome)} {L L₁ L₂ : List Turn}
variable {T T₁ T₂ : List (Exchange Demand Demand.Answer)}

/-! ## Tasks at work -/

/-- In these turns, which are all turns of tasks, the tasks get from one point to another. -/
inductive Worked : List (Routine Outcome) → List Turn → List (Routine Outcome) → Prop where
  | refl {tasks : List (Routine Outcome)} : Worked tasks [] tasks
  | turn {tasks tasks' : List (Routine Outcome)} {i : Nat} {r : Request}
      {next : r.Answer → Routine Outcome} {answer : r.Answer} {L : List Turn}
      (h : tasks[i]? = some (.ask r next)) (rest : Worked (tasks.set i (next answer)) L tasks') :
      Worked tasks (⟨.task i, ⟨r, answer⟩⟩ :: L) tasks'

namespace Worked

theorem trans (h₁ : Worked tasks L₁ mid) (h₂ : Worked mid L₂ tasks') :
    Worked tasks (L₁ ++ L₂) tasks' := by
  induction h₁ with
  | refl => exact h₂
  | turn h _ ih => exact .turn h (ih h₂)

theorem one {i : Nat} {r : Request} {next : r.Answer → Routine Outcome} {answer : r.Answer}
    (h : tasks[i]? = some (.ask r next)) :
    Worked tasks [⟨.task i, ⟨r, answer⟩⟩] (tasks.set i (next answer)) := .turn h .refl

theorem length_eq (h : Worked tasks L tasks') : tasks'.length = tasks.length := by
  induction h with
  | refl => rfl
  | turn _ _ ih => rw [ih, List.length_set]

theorem asker (h : Worked tasks L tasks') :
    ∀ turn ∈ L, ∃ i < tasks.length, turn.asker = .task i := by
  induction h with
  | refl => nofun
  | @turn tasks _ i r next answer L h _ ih =>
    intro turn hturn
    rcases List.mem_cons.1 hturn with rfl | hturn
    · exact ⟨i, (List.getElem?_eq_some_iff.1 h).1, rfl⟩
    · simpa using ih turn hturn

theorem exchangesOf_program (h : Worked tasks L tasks') : exchangesOf .program L = [] := by
  rw [exchangesOf, List.map_eq_nil_iff, List.filter_eq_nil_iff]
  intro turn hturn
  obtain ⟨i, -, hi⟩ := h.asker turn hturn
  simp [hi]

theorem done {i : Nat} {outcome : Outcome} (h : Worked tasks L tasks')
    (hi : tasks[i]? = some (.done outcome)) : tasks'[i]? = some (.done outcome) := by
  induction h with
  | refl => exact hi
  | @turn tasks _ j r next answer L h _ ih =>
    have hne : j ≠ i := by
      rintro rfl
      rw [h] at hi
      cases hi
    exact ih (by rwa [List.getElem?_set_ne hne])

/-- **A task that has come to its end has followed its description**, whatever turns the others have
taken in between. -/
theorem follows {i : Nat} {outcome : Outcome} (h : Worked tasks L tasks')
    (hi : tasks'[i]? = some (.done outcome)) :
    ∃ task, tasks[i]? = some task ∧ Follows task (exchangesOf (.task i) L) outcome := by
  induction h with
  | refl => exact ⟨_, hi, .done outcome⟩
  | @turn tasks _ j r next answer L h _ ih =>
    obtain ⟨task, htask, hfollows⟩ := ih hi
    by_cases hij : j = i
    · subst hij
      rw [List.getElem?_set_self (List.getElem?_eq_some_iff.1 h).1] at htask
      obtain rfl := Option.some.inj htask
      rw [exchangesOf_cons_self]
      exact ⟨_, h, .ask hfollows⟩
    · rw [List.getElem?_set_ne hij] at htask
      rw [exchangesOf_cons_ne (fun he => hij (Asker.task.inj he))]
      exact ⟨task, htask, hfollows⟩

/-- **What holds of a task and its past, and is kept by each of its turns**, is kept by the turns of
all tasks. -/
theorem keeps {P : List (Exchange Request Request.Answer) → Routine Outcome → Prop}
    (step : ∀ past r next answer, P past (.ask r next) → P (past ++ [⟨r, answer⟩]) (next answer))
    (h : Worked tasks L tasks') {i : Nat} {task : Routine Outcome}
    {past : List (Exchange Request Request.Answer)} (hi : tasks[i]? = some task)
    (hp : P past task) :
    ∃ task', tasks'[i]? = some task' ∧ P (past ++ exchangesOf (.task i) L) task' := by
  induction h generalizing task past with
  | refl =>
    refine ⟨task, hi, ?_⟩
    rwa [show exchangesOf (.task i) [] = [] from rfl, List.append_nil]
  | @turn tasks _ j r next answer L h _ ih =>
    by_cases hij : j = i
    · subst hij
      obtain rfl := Option.some.inj (h.symm.trans hi)
      obtain ⟨task', hi', hp'⟩ := ih (List.getElem?_set_self (List.getElem?_eq_some_iff.1 h).1)
        (step past r next answer hp)
      refine ⟨task', hi', ?_⟩
      rwa [exchangesOf_cons_self, List.append_cons]
    · rw [exchangesOf_cons_ne (fun he => hij (Asker.task.inj he))]
      exact ih (by rwa [List.getElem?_set_ne hij]) hp

theorem idle (h : Worked tasks L tasks') (hdone : AllDone tasks) : L = [] ∧ tasks' = tasks := by
  cases h with
  | refl => exact ⟨rfl, rfl⟩
  | turn h _ =>
    obtain ⟨outcome, hd⟩ := hdone _ (List.mem_of_getElem? h)
    cases hd

theorem alone {i : Nat} {task : Routine Outcome} {t : List (Exchange Request Request.Answer)}
    {outcome : Outcome} (h : Follows task t outcome) (hi : tasks[i]? = some task) :
    Worked tasks (t.map fun x => ⟨.task i, x⟩) (tasks.set i (.done outcome)) := by
  induction h generalizing tasks with
  | done a =>
    have hset : tasks.set i (.done a) = tasks := by
      obtain ⟨hlt, he⟩ := List.getElem?_eq_some_iff.1 hi
      rw [← he, List.set_getElem_self]
    rw [hset]
    exact .refl
  | ask h ih =>
    have hlt := (List.getElem?_eq_some_iff.1 hi).1
    have hrest := ih (List.getElem?_set_self hlt)
    rw [List.set_set] at hrest
    exact .turn hi hrest

theorem run (h : Worked tasks L tasks') (stand : Stand α) :
    Crew.Run ⟨stand, tasks⟩ L ⟨stand, tasks'⟩ := by
  induction h with
  | refl => exact .refl
  | turn h _ ih => exact .step (.work h) ih

end Worked

/-- Tasks that can all come to these outcomes do so one after the other, while others rest. -/
theorem worked_of_follows {outcomes : List Outcome} (before : List (Routine Outcome))
    (h : List.Forall₂ (fun task outcome => ∃ t, Follows task t outcome) work outcomes) :
    ∃ L, Worked (before ++ work) L (before ++ outcomes.map .done) := by
  induction h generalizing before with
  | nil => exact ⟨[], .refl⟩
  | @cons task outcome work outcomes hfirst _ ih =>
    obtain ⟨t, ht⟩ := hfirst
    have hat : (before ++ task :: work)[before.length]? = some task := by simp
    have hone := Worked.alone ht hat
    rw [List.set_append_right _ _ (Nat.le_refl _), Nat.sub_self, List.set_cons_zero] at hone
    obtain ⟨L, hrest⟩ := ih (before ++ [.done outcome])
    rw [List.append_assoc, List.append_assoc] at hrest
    exact ⟨_, hone.trans hrest⟩

/-! ## Results of waiting -/

/-- What has been told of tasks in a group is how they have ended, and nothing is told twice. -/
structure Told (group : List Nat) (tasks : List (Routine Outcome)) (told : List (Nat × Outcome)) :
    Prop where
  nodup : (told.map Prod.fst).Nodup
  ended : ∀ x ∈ told, x.1 ∈ group ∧ tasks[x.1]? = some (.done x.2)

/-- Waiting for the group can have this result, for tasks that have come to this point. -/
def Delivered (p : Policy) (group : List Nat) (tasks : List (Routine Outcome))
    (r : Except Fault Unit) : Prop :=
  ∃ told, Told group tasks told ∧ p.verdict? group told = some r

section

variable {p : Policy} {group : List Nat} {r : Except Fault Unit} {fault : Fault}

theorem Told.later {told : List (Nat × Outcome)} (h : Told group tasks told)
    (hw : Worked tasks L tasks') : Told group tasks' told :=
  ⟨h.nodup, fun x hx => ⟨(h.ended x hx).1, hw.done (h.ended x hx).2⟩⟩

theorem Told.tell {told : List (Nat × Outcome)} {i : Nat} {outcome : Outcome}
    (h : Told group tasks told) (hi : i ∈ group) (hnew : i ∉ told.map Prod.fst)
    (hdone : tasks[i]? = some (.done outcome)) : Told group tasks (told ++ [(i, outcome)]) := by
  refine ⟨?_, fun x hx => ?_⟩
  · rw [List.map_append]
    exact h.nodup.append (by simp) (by simpa using hnew)
  · rcases List.mem_append.1 hx with hx | hx
    · exact h.ended x hx
    · obtain rfl := List.mem_singleton.1 hx
      exact ⟨hi, hdone⟩

theorem Delivered.later (h : Delivered p group tasks r) (hw : Worked tasks L tasks') :
    Delivered p group tasks' r := by
  obtain ⟨told, htold, hv⟩ := h
  exact ⟨told, htold.later hw, hv⟩

theorem firstFailure_eq_error {outcomes : List Outcome} (h : firstFailure outcomes = .error fault) :
    ∃ outcome ∈ outcomes, outcome.fault? = some fault := by
  unfold firstFailure at h
  split at h
  · next found hfound =>
    obtain rfl := Except.error.inj h
    exact List.exists_of_findSome?_eq_some hfound
  · cases h

theorem firstFailure_eq_ok {outcomes : List Outcome} (h : firstFailure outcomes = .ok ()) :
    ∀ outcome ∈ outcomes, outcome.fault? = none := by
  unfold firstFailure at h
  split at h
  · cases h
  · next hnone => exact List.findSome?_eq_none_iff.1 hnone

theorem Delivered.failed (h : Delivered .untilFirstFailure group tasks (.error fault)) :
    ∃ i ∈ group, ∃ outcome, tasks[i]? = some (.done outcome) ∧ outcome.fault? = some fault := by
  obtain ⟨told, htold, hv⟩ := h
  simp only [Policy.verdict?] at hv
  cases hfirst : firstFailure (told.map Prod.snd) with
  | error fault' =>
    rw [hfirst] at hv
    obtain rfl := Except.error.inj (Option.some.inj hv)
    obtain ⟨outcome, hmem, hfault⟩ := firstFailure_eq_error hfirst
    obtain ⟨x, hx, rfl⟩ := List.mem_map.1 hmem
    exact ⟨x.1, (htold.ended x hx).1, x.2, (htold.ended x hx).2, hfault⟩
  | ok u =>
    rw [hfirst] at hv
    dsimp only at hv
    split at hv <;> cases hv

theorem Delivered.succeeded (h : Delivered .untilFirstFailure group tasks (.ok ())) :
    ∀ i ∈ group, ∃ outcome, tasks[i]? = some (.done outcome) ∧ outcome.fault? = none := by
  obtain ⟨told, htold, hv⟩ := h
  simp only [Policy.verdict?] at hv
  cases hfirst : firstFailure (told.map Prod.snd) with
  | error fault =>
    rw [hfirst] at hv
    cases hv
  | ok u =>
    rw [hfirst] at hv
    dsimp only at hv
    split at hv
    · next hall =>
      intro i hi
      have hmem : i ∈ told.map Prod.fst := by
        simpa only [List.contains_iff_mem] using List.all_eq_true.1 hall i hi
      obtain ⟨x, hx, rfl⟩ := List.mem_map.1 hmem
      exact ⟨x.2, (htold.ended x hx).2, firstFailure_eq_ok hfirst _ (List.mem_map_of_mem hx)⟩
    · cases hv

theorem Delivered.allDone
    (h : Delivered .untilFirstFailure (List.range' 0 tasks.length) tasks (.ok ())) :
    AllDone tasks := by
  intro task htask
  obtain ⟨i, hi, rfl⟩ := List.mem_iff_getElem.1 htask
  obtain ⟨outcome, hend, -⟩ := h.succeeded i (List.mem_range'_1.2 (by omega))
  rw [List.getElem?_eq_getElem hi] at hend
  exact ⟨outcome, Option.some.inj hend⟩

end

/-! ## Weaves -/

/-- A run of a program, with the turns of its tasks woven in: given the tasks at the beginning and
those at the end. While a program waits, only tasks take turns. -/
inductive Weave : List (Routine Outcome) → List (Exchange Demand Demand.Answer) → List Turn →
    List (Routine Outcome) → Prop where
  | rest {tasks tasks' : List (Routine Outcome)} {L : List Turn} (h : Worked tasks L tasks') :
      Weave tasks [] L tasks'
  | single {tasks mid tasks' : List (Routine Outcome)} {r : Request} {answer : r.Answer}
      {T : List (Exchange Demand Demand.Answer)} {L L' : List Turn} (before : Worked tasks L mid)
      (rest : Weave mid T L' tasks') :
      Weave tasks (⟨.single r, answer⟩ :: T) (L ++ .own ⟨r, answer⟩ :: L') tasks'
  | together {tasks mid waited tasks' work : List (Routine Outcome)} {p : Policy}
      {v : Except Fault Unit} {T : List (Exchange Demand Demand.Answer)} {L L' L'' : List Turn}
      (before : Worked tasks L mid) (waiting : Worked (mid ++ work) L' waited)
      (delivered : Delivered p (List.range' mid.length work.length) waited v)
      (rest : Weave waited T L'' tasks') :
      Weave tasks (⟨.together p work, v⟩ :: T) (L ++ (L' ++ L'')) tasks'

theorem Weave.before (h : Weave mid T L₂ tasks') (hw : Worked tasks L₁ mid) :
    Weave tasks T (L₁ ++ L₂) tasks' := by
  cases h with
  | rest h => exact .rest (hw.trans h)
  | single before rest =>
    rw [← List.append_assoc]
    exact .single (hw.trans before) rest
  | together before waiting delivered rest =>
    rw [← List.append_assoc]
    exact .together (hw.trans before) waiting delivered rest

theorem weave_append_iff : Weave tasks (T₁ ++ T₂) L tasks' ↔
    ∃ L₁ L₂ mid, L = L₁ ++ L₂ ∧ Weave tasks T₁ L₁ mid ∧ Weave mid T₂ L₂ tasks' := by
  constructor
  · intro h
    induction T₁ generalizing tasks L with
    | nil => exact ⟨[], L, tasks, rfl, .rest .refl, h⟩
    | cons x T₁ ih =>
      cases h with
      | single before rest =>
        obtain ⟨L₁, L₂, mid, rfl, h₁, h₂⟩ := ih rest
        exact ⟨_, L₂, mid, by simp, .single before h₁, h₂⟩
      | together before waiting delivered rest =>
        obtain ⟨L₁, L₂, mid, rfl, h₁, h₂⟩ := ih rest
        exact ⟨_, L₂, mid, by simp, .together before waiting delivered h₁, h₂⟩
  · rintro ⟨L₁, L₂, mid, rfl, h₁, h₂⟩
    induction h₁ with
    | rest h => exact h₂.before h
    | single before _ ih =>
      rw [List.append_assoc]
      exact .single before (ih h₂)
    | together before waiting delivered _ ih =>
      rw [List.append_assoc, List.append_assoc]
      exact .together before waiting delivered (ih h₂)

theorem Weave.idle {t : List (Exchange Request Request.Answer)} (hdone : AllDone tasks)
    (h : Weave tasks (t.map Exchange.single) L tasks') : L = t.map Turn.own ∧ tasks' = tasks := by
  induction t generalizing L with
  | nil =>
    cases h with
    | rest h => exact h.idle hdone
  | cons x t ih =>
    cases h with
    | single before rest =>
      obtain ⟨rfl, rfl⟩ := before.idle hdone
      obtain ⟨rfl, htasks⟩ := ih rest
      exact ⟨rfl, htasks⟩

theorem Weave.begin {p : Policy} {v : Except Fault Unit}
    (h : Weave [] [⟨.together p work, v⟩] L tasks') :
    Worked work L tasks' ∧ Delivered p (List.range' 0 work.length) tasks' v := by
  cases h with
  | together before waiting delivered rest =>
    obtain ⟨rfl, rfl⟩ := before.idle allDone_nil
    cases rest with
    | rest h => exact ⟨waiting.trans h, delivered.later h⟩

/-! ## Turns of all tasks -/

/-- The turns of tasks are those of the first one, those of the second one, and so on, in some
order. -/
theorem perm_flatMap_exchangesOf {n : Nat} (h : ∀ turn ∈ L, ∃ i < n, turn.asker = .task i) :
    (L.map Turn.exchange).Perm ((List.range n).flatMap fun i => exchangesOf (.task i) L) := by
  induction n generalizing L with
  | zero =>
    have hnil : L = [] := List.eq_nil_iff_forall_not_mem.2 fun turn hturn => by
      obtain ⟨i, hi, -⟩ := h turn hturn
      omega
    rw [hnil]
    exact List.Perm.nil
  | succ n ih =>
    let others := L.filter fun turn => ! decide (turn.asker = .task n)
    have hothers : ∀ turn ∈ others, ∃ i < n, turn.asker = .task i := by
      intro turn hturn
      obtain ⟨hmem, hne⟩ := List.mem_filter.1 hturn
      obtain ⟨i, hi, hasker⟩ := h turn hmem
      have hin : i ≠ n := by
        rintro rfl
        simp [hasker] at hne
      exact ⟨i, by omega, hasker⟩
    have hsame : ∀ i ∈ List.range n,
        exchangesOf (.task i) others = exchangesOf (.task i) L := by
      intro i hi
      have hin : i ≠ n := by
        have := List.mem_range.1 hi
        omega
      rw [exchangesOf, List.filter_filter, exchangesOf]
      congr 1
      refine List.filter_congr fun turn _ => ?_
      by_cases hasker : turn.asker = .task i
      · simp [hasker, hin]
      · simp [hasker]
    have hsplit : (L.filter (·.asker = .task n) ++ others).Perm L := List.filter_append_perm _ L
    rw [List.range_succ, List.flatMap_append, List.flatMap_singleton, ← List.flatMap_congr hsame]
    refine (hsplit.symm.map _).trans ?_
    rw [List.map_append]
    exact List.perm_append_comm.trans ((ih hothers).append_right _)

/-- If something is found once in the turns of every task, then in all turns it is found once for
each of the tasks. -/
theorem perm_of_tasks {β γ : Type} {xs : List β} {f : β → γ}
    {F : List (Exchange Request Request.Answer) → List γ}
    (hperm : ∀ {s t}, s.Perm t → (F s).Perm (F t))
    (hflat : ∀ (is : List Nat) t, F (is.flatMap t) = is.flatMap fun i => F (t i))
    (haskers : ∀ turn ∈ L, ∃ i < xs.length, turn.asker = .task i)
    (hone : ∀ i x, xs[i]? = some x → F (exchangesOf (.task i) L) = [f x]) :
    (F (L.map Turn.exchange)).Perm (xs.map f) := by
  have hnumbers : List.range xs.length = xs.zipIdx.map Prod.snd := by
    rw [List.zipIdx_map_snd, List.range_eq_range']
  have hall : F ((List.range xs.length).flatMap fun i => exchangesOf (.task i) L) =
      xs.map f := by
    conv => rhs; rw [← List.zipIdx_map_fst 0 xs]
    rw [hflat, hnumbers, List.flatMap_map, List.map_map, List.flatMap_congr fun x hx =>
      hone x.2 x.1 (List.mk_mem_zipIdx_iff_getElem?.1 hx)]
    exact (List.map_eq_flatMap ..).symm
  rw [← hall]
  exact hperm (perm_flatMap_exchangesOf haskers)

/-! ## Runs are weaves -/

/-- The ways in which a crew can go on to the end of its program. -/
def Ends : Stand α → List (Routine Outcome) → List Turn → α → List (Routine Outcome) → Prop
  | .going p, tasks, L, a, tasks' => ∃ T, Follows p T a ∧ Weave tasks T L tasks'
  | .waiting policy group told next, tasks, L, a, tasks' => ∃ L₁ L₂ waited more v T,
      L = L₁ ++ L₂ ∧ Worked tasks L₁ waited ∧ Told group waited (told ++ more) ∧
      policy.verdict? group (told ++ more) = some v ∧ Follows (next v) T a ∧
      Weave waited T L₂ tasks'

theorem ends_of_run {k : Crew α} {a : α} (h : Crew.Run k L ⟨.going (.done a), tasks'⟩)
    (htold : ∀ policy group told next, k.stand = .waiting policy group told next →
      Told group k.tasks told) : Ends k.stand k.tasks L a tasks' := by
  generalize hk : (⟨.going (.done a), tasks'⟩ : Crew α) = last at h
  induction h with
  | refl =>
    subst hk
    exact ⟨[], .done a, .rest .refl⟩
  | @step k k' k'' turn L h _ ih =>
    cases h with
    | ask =>
      obtain ⟨T, hT, hweave⟩ := ih nofun hk
      exact ⟨_, .ask hT, .single .refl hweave⟩
    | start =>
      have hnone : ∀ {group tasks}, Told group tasks [] := ⟨List.nodup_nil, nofun⟩
      obtain ⟨L₁, L₂, waited, more, v, T, rfl, hworked, htold', hv, hT, hweave⟩ := ih (by
        rintro _ _ _ _ ⟨⟩
        exact hnone) hk
      exact ⟨_, .ask hT, .together .refl hworked ⟨_, htold', hv⟩ hweave⟩
    | @work stand tasks i r next answer hi =>
      have hstep : Worked tasks [⟨.task i, ⟨r, answer⟩⟩] (tasks.set i (next answer)) := .one hi
      have hends := ih (fun _ _ _ _ hs => (htold _ _ _ _ hs).later hstep) hk
      cases stand with
      | going p =>
        obtain ⟨T, hT, hweave⟩ := hends
        exact ⟨T, hT, hweave.before hstep⟩
      | waiting policy group told next' =>
        obtain ⟨L₁, L₂, waited, more, v, T, rfl, hworked, hrest⟩ := hends
        exact ⟨_, L₂, waited, more, v, T, by simp, hstep.trans hworked, hrest⟩
    | @tell policy group told next tasks i outcome hi hnew hdone =>
      have hmore : Told group tasks (told ++ [(i, outcome)]) :=
        (htold _ _ _ _ rfl).tell hi hnew hdone
      obtain ⟨L₁, L₂, waited, more, v, T, rfl, hworked, hrest⟩ := ih (by
        rintro _ _ _ _ ⟨⟩
        exact hmore) hk
      rw [List.append_assoc] at hrest
      exact ⟨L₁, L₂, waited, _, v, T, rfl, hworked, hrest⟩
    | conclude hv =>
      obtain ⟨T, hT, hweave⟩ := ih nofun hk
      refine ⟨[], _, _, [], _, T, rfl, .refl, ?_, ?_, hT, hweave⟩
      · rw [List.append_nil]
        exact htold _ _ _ _ rfl
      · rw [List.append_nil]
        exact hv

theorem run_told {policy : Policy} {group : List Nat} {next : Except Fault Unit → Program α}
    (told more : List (Nat × Outcome)) (h : Told group tasks (told ++ more)) :
    Crew.Run ⟨.waiting policy group told next, tasks⟩ []
      ⟨.waiting policy group (told ++ more) next, tasks⟩ := by
  induction more generalizing told with
  | nil =>
    rw [List.append_nil]
    exact .refl
  | cons x more ih =>
    have hx := h.ended x (by simp)
    have hnew : x.1 ∉ told.map Prod.fst := by
      have hnodup := h.nodup
      rw [List.map_append] at hnodup
      exact fun hmem => List.disjoint_of_nodup_append hnodup hmem (by simp)
    rw [List.append_cons] at h ⊢
    exact .silent (.tell hx.1 hnew hx.2) (ih _ h)

theorem run_of_weave {p : Program α} {a : α} (h : Follows p T a) (hweave : Weave tasks T L tasks') :
    Crew.Run ⟨.going p, tasks⟩ L ⟨.going (.done a), tasks'⟩ := by
  induction hweave generalizing p with
  | rest hworked =>
    cases h
    exact hworked.run _
  | single before _ ih =>
    cases h with
    | ask h => exact (before.run _).trans (.step .ask (ih h))
  | together before waiting delivered _ ih =>
    cases h with
    | ask h =>
      obtain ⟨told, htold, hv⟩ := delivered
      have hwaiting := (run_told [] told htold).trans (.silent (.conclude hv) (ih h))
      exact (before.run _).trans (.silent .start ((waiting.run _).trans hwaiting))

/-- **The runs of a program with its tasks are its own runs with the turns of the tasks woven
in.** -/
theorem runs_iff_weave {p : Program α} {a : α} : p.Runs L a ↔
    ∃ T tasks, Follows p T a ∧ Weave [] T L tasks ∧ AllDone tasks := by
  constructor
  · rintro ⟨tasks, h, hdone⟩
    obtain ⟨T, hT, hweave⟩ := ends_of_run h nofun
    exact ⟨T, tasks, hT, hweave, hdone⟩
  · rintro ⟨T, tasks, hT, hweave, hdone⟩
    exact ⟨tasks, run_of_weave hT hweave, hdone⟩

end LocalCluster
