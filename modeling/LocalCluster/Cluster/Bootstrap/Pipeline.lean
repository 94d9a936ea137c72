import LocalCluster.Cluster.Bootstrap.Steps

/-!
# Pipelines

A pipeline runs its steps in order and stops at the first that fails. It runs only once.

* `State`: where a pipeline stands; `State.display`: the same as text.
* `Pipeline.run`: runs the steps on a context.
-/

namespace LocalCluster.Cluster.Bootstrap

open LocalCluster.Text

/-- Where a pipeline stands. -/
inductive State where
  | pending
  /-- The step of this number is being run. -/
  | running (step : Nat)
  | succeeded
  /-- The step of this number has failed. -/
  | failed (step : Nat) (cause : String)
  deriving DecidableEq, Repr

/-- A state as reports write it. -/
def State.display : State → String
  | .pending => "Pending"
  | .running step => "Running(" ++ toString step ++ ")"
  | .succeeded => "Succeeded"
  | .failed step cause =>
    "Failed \x7b step: " ++ toString step ++ ", cause: " ++ quote cause ++ " \x7d"

/-- Steps in order, and where they stand. -/
structure Pipeline where
  steps : List Step
  state : State := .pending

/-- Whoever is told when steps begin and end. A receiver takes notice of an event in any way but
one: it runs no command. -/
structure Status where
  notice : Event → Routine Unit
  runsNothing : ∀ event, (notice event).Asks (¬ Request.isCommand ·)

instance : CoeFun Status fun _ => Event → Routine Unit := ⟨Status.notice⟩

/-- Passes every event on. -/
def Status.telling : Status := ⟨tell, fun _ => by simp [tell, Request.isCommand]⟩

/-- Keeps every event to itself. -/
def Status.silent : Status := ⟨fun _ => return, fun _ => trivial⟩

/-- The standard pipeline. -/
def Pipeline.standard : Pipeline := { steps := standardSteps }

/-- A result, with where the pipeline and the context stand afterwards. -/
structure Progress where
  result : Except Fault Unit
  state : State
  context : Context

/-- Runs steps in order, of which the first has number `index`. -/
def runSteps (report : Status) (p : Provider) (index : Nat) :
    List Step → Context → Routine Progress
  | [], ctx => return ⟨.ok (), .succeeded, ctx⟩
  | step :: rest, ctx => do
    report (.stepBegan step.label)
    match ← (step.run p).run ctx with
    | (.error fault, ctx) =>
      report (.stepEnded false)
      return ⟨.error (.step step.label fault), .failed index fault.message, ctx⟩
    | (.ok (), ctx) =>
      report (.stepEnded true)
      runSteps report p (index + 1) rest ctx

/-- Runs a pipeline, unless it has been run already. -/
def Pipeline.run (report : Status) (p : Provider) (pipeline : Pipeline) (ctx : Context) :
    Routine Progress :=
  match pipeline.state with
  | .pending => runSteps report p 0 pipeline.steps ctx
  | state =>
    return ⟨.error (.validation ("pipeline already ran (" ++ state.display ++ ")")), state, ctx⟩

end LocalCluster.Cluster.Bootstrap
