import LocalCluster.Cluster.Fault

/-!
# Tasks side by side

Several tasks run at the same time, and every one of them runs to its own end. There are two ways to
wait for them.

* `Policy.untilFirstFailure`: the first failure that is delivered is the result, at once.
* `Policy.untilAllEnd`: all tasks are awaited, and all failures together are the result.
* `Outcome`: how a task ended; `firstFailure`, `allFailures`: the two results.
* `Completion`, `Policy.result`, `Policy.waited`: the same for tasks whose running times are known.
-/

namespace LocalCluster

open LocalCluster.Cluster

/-- How a task ended. -/
inductive Outcome where
  | succeeded
  | failed (fault : Fault)
  /-- It broke down without reporting a fault; the text is what is known of that. -/
  | brokeDown (text : String)
  deriving Repr

namespace Outcome

/-- What a task has failed with. -/
def fault? : Outcome → Option Fault
  | .succeeded => none
  | .failed fault => some fault
  | .brokeDown text => some (.task text)

/-- The outcome of a task that reports its faults. -/
def ofExcept : Except Fault Unit → Outcome
  | .ok () => .succeeded
  | .error fault => .failed fault

/-- The task came to its end. -/
def isFinished : Outcome → Bool
  | .brokeDown _ => false
  | _ => true

end Outcome

/-- The result of waiting for the first failure, given the outcomes in the order of their
delivery. -/
def firstFailure (delivered : List Outcome) : Except Fault Unit :=
  match delivered.findSome? Outcome.fault? with
  | some fault => .error fault
  | none => .ok ()

/-- The result of waiting for all tasks, given the outcomes in the order of submission. -/
def allFailures (submitted : List Outcome) : Except Fault Unit :=
  match Fault.gather (submitted.filterMap Outcome.fault?) with
  | some fault => .error fault
  | none => .ok ()

/-- A way to wait for tasks. -/
inductive Policy where
  | untilFirstFailure
  | untilAllEnd
  deriving DecidableEq, Repr

/-- The end of a task, with the milliseconds it took. -/
structure Completion where
  outcome : Outcome
  time : Nat
  deriving Repr

/-- A completion put after those that are delivered earlier or at the same time. -/
def insertDelivery (c : Completion) : List Completion → List Completion
  | [] => [c]
  | d :: rest => if d.time < c.time then d :: insertDelivery c rest else c :: d :: rest

/-- Completions in the order of their delivery; those of one moment come as they were submitted. -/
def deliveries (submitted : List Completion) : List Completion :=
  submitted.foldr insertDelivery []

/-- The time of the last completion. -/
def lastTime (submitted : List Completion) : Nat :=
  submitted.foldl (fun t c => max t c.time) 0

namespace Policy

/-- The result of waiting, given the completions in the order of submission. -/
def result (p : Policy) (submitted : List Completion) : Except Fault Unit :=
  match p with
  | .untilFirstFailure => firstFailure ((deliveries submitted).map Completion.outcome)
  | .untilAllEnd => allFailures (submitted.map Completion.outcome)

/-- How long the waiting takes. -/
def waited (p : Policy) (submitted : List Completion) : Nat :=
  match p with
  | .untilFirstFailure =>
    match (deliveries submitted).find? (·.outcome.fault?.isSome) with
    | some c => c.time
    | none => lastTime submitted
  | .untilAllEnd => lastTime submitted

end Policy

/-! ## Laws -/

theorem insertDelivery_perm (c : Completion) (cs : List Completion) :
    (insertDelivery c cs).Perm (c :: cs) := by
  induction cs with
  | nil => exact List.Perm.refl _
  | cons d rest ih =>
    unfold insertDelivery
    split
    · exact (ih.cons d).trans (List.Perm.swap c d rest)
    · exact List.Perm.refl _

/-- Every completion is delivered, and none twice. -/
theorem deliveries_perm (cs : List Completion) : (deliveries cs).Perm cs := by
  induction cs with
  | nil => exact List.Perm.refl _
  | cons c cs ih => exact (insertDelivery_perm c _).trans (ih.cons c)

end LocalCluster
