import LocalCluster.Work.Request
import LocalCluster.Work.Script
import LocalCluster.Work.Together

/-!
# Programs

* `Routine`: work that asks one thing after the other. `Call` is a task that ends well or with the
  fault of a command, `Work` one that ends well or with any fault.
* `Program`: work that may also start tasks side by side and wait for them; `Job` is a program that
  ends well or with a fault.
* `Call.toWork`, `Work.toJob`: each kind of work is also work of the next kind.
-/

namespace LocalCluster

open LocalCluster.Container LocalCluster.Cluster LocalCluster.Text

/-- Work that asks one thing after the other. -/
abbrev Routine : Type → Type := Script Request Request.Answer

/-- What a program may ask: one request, or tasks to be run side by side. -/
inductive Demand where
  | single (r : Request)
  | together (p : Policy) (tasks : List (Routine Outcome))

/-- What a demand is answered with. -/
abbrev Demand.Answer : Demand → Type
  | .single r => r.Answer
  | .together .. => Except Fault Unit

/-- Work that may start tasks side by side. -/
abbrev Program : Type → Type := Script Demand Demand.Answer

/-- A task as a program. -/
def Routine.toProgram {α : Type} : Routine α → Program α
  | .done a => .done a
  | .ask r next => .ask (.single r) fun answer => Routine.toProgram (next answer)

/-- A task that can end with the fault of a command. -/
abbrev Call : Type → Type := ExceptT RuntimeFault Routine

/-- A task that can end with a fault. -/
abbrev Work : Type → Type := ExceptT Fault Routine

/-- A program that can end with a fault. -/
abbrev Job : Type → Type := ExceptT Fault Program

/-- A call as a part of work. -/
def Call.toWork {α : Type} (c : Call α) : Work α :=
  ExceptT.mk (c.run >>= fun r => pure (r.mapError Fault.runtime))

/-- Work as a part of a job. -/
def Work.toJob {α : Type} (w : Work α) : Job α := ExceptT.mk (Routine.toProgram w.run)

instance : MonadLift Call Work := ⟨Call.toWork⟩
instance : MonadLift Work Job := ⟨Work.toJob⟩

/-- Says of the fault of some work what was being tried. -/
def during {m : Type → Type} [Monad m] {α : Type} (operation : String) (w : ExceptT Fault m α) :
    ExceptT Fault m α :=
  ExceptT.mk (w.run >>= fun r => pure (naming operation r))

/-- The outcome of some work, for a task of its own. -/
def Work.outcome (w : Work Unit) : Routine Outcome :=
  w.run >>= fun r => pure (Outcome.ofExcept r)

/-- Work side by side. -/
def together (p : Policy) (work : List (Work Unit)) : Job Unit :=
  ExceptT.mk (Script.lift (Demand.together p (work.map Work.outcome)))

/-! ## Requests -/

/-- Runs a command. -/
def runCommand (c : Command) : Call Output := ExceptT.mk (Script.lift (Request.command c))

/-- Lets time pass. -/
def pause (milliseconds : Nat) : Call Unit :=
  ExceptT.lift (Script.lift (Request.pause milliseconds))

/-- What came of an operation of the operating system, as a part of work. -/
def ofIo {α : Type} (r : Except IoFault α) : Work α := ExceptT.mk (pure (r.mapError Fault.io))

/-- Makes a directory and those above it. -/
def makeDirs (path : String) : Work Unit := do
  ofIo (← ExceptT.lift (Script.lift (Request.makeDirs path)))

/-- Puts bytes into a file. -/
def writeFile (path : String) (contents : Bytes) : Work Unit := do
  ofIo (← ExceptT.lift (Script.lift (Request.writeFile path contents)))

/-- Makes a file private to its owner. -/
def restrict (path : String) : Work Unit := do
  ofIo (← ExceptT.lift (Script.lift (Request.restrict path)))

/-- Occupies any free port of an address. -/
def listen (held : List Listener) (address : String) : Work Port := do
  ofIo (← ExceptT.lift (Script.lift (Request.listen held address)))

/-- Draws a random number. -/
def draw : Routine Nat := Script.lift Request.draw

/-- Tells an event. -/
def tell (event : Event) : Routine Unit := Script.lift (Request.tell event)

end LocalCluster
