import LocalCluster.Proofs.Work.Follows

/-!
# Programs beside their tasks

A program that has started tasks may be told of some of them, go on, and leave the others at work.
Here a program and its tasks take turns in any order, and each turn is one exchange. Nothing stops a
task once it has been started.

* `Asker`, `Turn`: who asked what; `exchangesOf`: the turns of one asker.
* `Policy.verdict?`: the result of waiting, once what has been told is enough for it.
* `Crew.Step`: what can happen next; `Crew.Run`: one thing after the other.
* `Program.Runs`: a program comes to its end in these turns, and so do all tasks it has started.
-/

namespace LocalCluster

open LocalCluster.Cluster Script

/-! ## Turns -/

/-- Whoever takes a turn: the program, or the task of some number. -/
inductive Asker where
  | program
  | task (i : Nat)
  deriving DecidableEq, Repr

/-- An exchange, with the one who asked. -/
structure Turn where
  asker : Asker
  exchange : Exchange Request Request.Answer

/-- A turn of the program. -/
def Turn.own (x : Exchange Request Request.Answer) : Turn := ⟨.program, x⟩

theorem map_exchange_own (t : List (Exchange Request Request.Answer)) :
    (t.map Turn.own).map Turn.exchange = t := by
  simp [Turn.own, Function.comp_def]

/-- What an asker has exchanged, in order. -/
def exchangesOf (a : Asker) (L : List Turn) : List (Exchange Request Request.Answer) :=
  (L.filter (·.asker = a)).map Turn.exchange

section

variable {a b : Asker} {x : Exchange Request Request.Answer} {L L₁ L₂ : List Turn}

@[simp] theorem exchangesOf_append :
    exchangesOf a (L₁ ++ L₂) = exchangesOf a L₁ ++ exchangesOf a L₂ := by
  simp [exchangesOf]

@[simp] theorem exchangesOf_cons_self : exchangesOf a (⟨a, x⟩ :: L) = x :: exchangesOf a L := by
  simp [exchangesOf]

theorem exchangesOf_cons_ne (h : b ≠ a) : exchangesOf a (⟨b, x⟩ :: L) = exchangesOf a L := by
  simp [exchangesOf, h]

theorem mem_exchangesOf : x ∈ exchangesOf a L ↔ ⟨a, x⟩ ∈ L := by
  rw [exchangesOf, List.mem_map]
  constructor
  · rintro ⟨⟨b, y⟩, hfilter, rfl⟩
    obtain ⟨hmem, hb⟩ := List.mem_filter.1 hfilter
    obtain rfl : b = a := of_decide_eq_true hb
    exact hmem
  · exact fun h => ⟨⟨a, x⟩, List.mem_filter.2 ⟨h, decide_eq_true rfl⟩, rfl⟩

theorem exchangesOf_subset (a : Asker) (L : List Turn) :
    exchangesOf a L ⊆ L.map Turn.exchange := fun _ hx =>
  List.mem_map_of_mem (mem_exchangesOf.1 hx)

theorem exchangesOf_eq_append_cons {before after : List (Exchange Request Request.Answer)}
    (h : exchangesOf a L = before ++ x :: after) :
    ∃ L₁ L₂, L = L₁ ++ ⟨a, x⟩ :: L₂ ∧ exchangesOf a L₁ = before ∧ exchangesOf a L₂ = after := by
  obtain ⟨F₁, F₂, hfilter, rfl, h₂⟩ := List.map_eq_append_iff.1 h
  obtain ⟨⟨b, y⟩, F₃, rfl, rfl, rfl⟩ := List.map_eq_cons_iff.1 h₂
  obtain ⟨L₁, L₂, rfl, rfl, hrest⟩ := List.filter_eq_append_iff.1 hfilter
  obtain ⟨skipped, L₃, rfl, hskip, hb, rfl⟩ := List.filter_eq_cons_iff.1 hrest
  obtain rfl : b = a := of_decide_eq_true hb
  refine ⟨L₁ ++ skipped, L₃, by simp, ?_, rfl⟩
  have hnone : skipped.filter (·.asker = b) = [] := List.filter_eq_nil_iff.2 hskip
  rw [exchangesOf_append, exchangesOf, exchangesOf, hnone]
  simp

end

/-! ## Waiting -/

/-- The result of waiting for a group of tasks, given what has been told of them in the order of its
delivery. A first failure is enough for the policy that waits for one; otherwise all of the group
have to be told of, and their failures are taken in the order of submission. -/
def Policy.verdict? (p : Policy) (group : List Nat) (told : List (Nat × Outcome)) :
    Option (Except Fault Unit) :=
  match p with
  | .untilFirstFailure =>
    match firstFailure (told.map Prod.snd) with
    | .error fault => some (.error fault)
    | .ok () => if group.all (told.map Prod.fst).contains then some (.ok ()) else none
  | .untilAllEnd =>
    if group.all (told.map Prod.fst).contains then
      some (allFailures (group.filterMap fun i => told.lookup i))
    else none

/-- How a program stands: it goes on, or it waits for a group of tasks and has been told of some. -/
inductive Stand (α : Type) where
  | going (p : Program α)
  | waiting (policy : Policy) (group : List Nat) (told : List (Nat × Outcome))
      (next : Except Fault Unit → Program α)

/-- A program, and all tasks that it has started, by number. -/
structure Crew (α : Type) where
  stand : Stand α
  tasks : List (Routine Outcome)

namespace Crew

variable {α : Type}

/-- What can happen next, with the turn that it takes, if it takes one. Tasks go on whether they are
waited for or not. -/
inductive Step : Crew α → List Turn → Crew α → Prop where
  | ask {r : Request} {next : r.Answer → Program α} {answer : r.Answer}
      {tasks : List (Routine Outcome)} :
      Step ⟨.going (.ask (.single r) next), tasks⟩ [.own ⟨r, answer⟩] ⟨.going (next answer), tasks⟩
  | start {policy : Policy} {work : List (Routine Outcome)}
      {next : Except Fault Unit → Program α} {tasks : List (Routine Outcome)} :
      Step ⟨.going (.ask (.together policy work) next), tasks⟩ []
        ⟨.waiting policy (List.range' tasks.length work.length) [] next, tasks ++ work⟩
  | work {stand : Stand α} {tasks : List (Routine Outcome)} {i : Nat} {r : Request}
      {next : r.Answer → Routine Outcome} {answer : r.Answer}
      (h : tasks[i]? = some (.ask r next)) :
      Step ⟨stand, tasks⟩ [⟨.task i, ⟨r, answer⟩⟩] ⟨stand, tasks.set i (next answer)⟩
  | tell {policy : Policy} {group : List Nat} {told : List (Nat × Outcome)}
      {next : Except Fault Unit → Program α} {tasks : List (Routine Outcome)} {i : Nat}
      {outcome : Outcome} (hi : i ∈ group) (hnew : i ∉ told.map Prod.fst)
      (h : tasks[i]? = some (.done outcome)) :
      Step ⟨.waiting policy group told next, tasks⟩ []
        ⟨.waiting policy group (told ++ [(i, outcome)]) next, tasks⟩
  | conclude {policy : Policy} {group : List Nat} {told : List (Nat × Outcome)}
      {next : Except Fault Unit → Program α} {tasks : List (Routine Outcome)}
      {r : Except Fault Unit} (h : policy.verdict? group told = some r) :
      Step ⟨.waiting policy group told next, tasks⟩ [] ⟨.going (next r), tasks⟩

/-- One thing happens after the other, in these turns. -/
inductive Run : Crew α → List Turn → Crew α → Prop where
  | refl {k : Crew α} : Run k [] k
  | step {k k' k'' : Crew α} {turn L : List Turn} (h : Step k turn k') (rest : Run k' L k'') :
      Run k (turn ++ L) k''

theorem Run.silent {k k' k'' : Crew α} {L : List Turn} (h : Step k [] k') (rest : Run k' L k'') :
    Run k L k'' := .step h rest

theorem Run.trans {k k' k'' : Crew α} {L₁ L₂ : List Turn} (h₁ : Run k L₁ k')
    (h₂ : Run k' L₂ k'') : Run k (L₁ ++ L₂) k'' := by
  induction h₁ with
  | refl => exact h₂
  | step h _ ih =>
    rw [List.append_assoc]
    exact .step h (ih h₂)

end Crew

/-- All these tasks have come to their ends. -/
def AllDone (tasks : List (Routine Outcome)) : Prop :=
  ∀ task ∈ tasks, ∃ outcome, task = .done outcome

theorem allDone_nil : AllDone [] := nofun

/-- The program comes to an end with this value, and all the tasks that it has started come to
theirs, in these turns. -/
def Program.Runs {α : Type} (p : Program α) (L : List Turn) (a : α) : Prop :=
  ∃ tasks, Crew.Run ⟨.going p, []⟩ L ⟨.going (.done a), tasks⟩ ∧ AllDone tasks

end LocalCluster
