import LocalCluster.Work.Program

/-!
# Carrying out programs

A host answers requests, keeps a state of its own and says how long each answer took. Tasks that run
side by side begin at the same moment; the host serves them one after the other, each on a clock of
its own, so that what they ask of it arrives in the order in which they were submitted.

* `Host`; `Host.runRoutine`, `Host.runProgram`: carry out a task or a program from some `Moment` on.
* `Host.completions`: how and when tasks that run side by side end.
-/

namespace LocalCluster

open LocalCluster.Cluster LocalCluster.Container

/-- Whoever answers requests: the answer and the milliseconds it took. -/
structure Host (σ : Type) where
  answer : (r : Request) → StateM σ (r.Answer × Nat)

/-- The state of a host and the milliseconds that have passed. -/
structure Moment (σ : Type) where
  clock : Nat
  state : σ

namespace Host

variable {σ α : Type}

/-- The answer to a request, with the time it takes. -/
def serve (h : Host σ) (r : Request) (m : Moment σ) : r.Answer × Moment σ :=
  let ((answer, time), state) := (h.answer r).run m.state
  (answer, ⟨m.clock + time, state⟩)

/-- Carries out a task. -/
def runRoutine (h : Host σ) : Routine α → Moment σ → α × Moment σ
  | .done a, m => (a, m)
  | .ask r next, m =>
    let (answer, m) := h.serve r m
    runRoutine h (next answer) m

/-- Carries out tasks that begin at the same moment: how each ended, and the state afterwards. -/
def completions (h : Host σ) : List (Routine Outcome) → σ → List Completion × σ
  | [], state => ([], state)
  | task :: rest, state =>
    let (outcome, m) := h.runRoutine task ⟨0, state⟩
    let (later, state) := completions h rest m.state
    (⟨outcome, m.clock⟩ :: later, state)

/-- The answer to a demand. -/
def meet (h : Host σ) : (d : Demand) → Moment σ → d.Answer × Moment σ
  | .single r, m => h.serve r m
  | .together p tasks, m =>
    let (ends, state) := h.completions tasks m.state
    (p.result ends, ⟨m.clock + p.waited ends, state⟩)

/-- Carries out a program. -/
def runProgram (h : Host σ) : Program α → Moment σ → α × Moment σ
  | .done a, m => (a, m)
  | .ask d next, m =>
    let (answer, m) := h.meet d m
    runProgram h (next answer) m

end Host

end LocalCluster
