import LocalCluster.Container.Engine
import LocalCluster.Proofs.Work.Follows

/-!
# The commands of a run

Of everything that a run asks, its commands are what other programs get to see.

* `Executed`, `commandsOf`: the commands of a run and what came of them, in order.
* `Command.inside?`: the container that a command works in and what it runs there;
  **`inside?_execution`**: commands made to work in a container are read back.
* `Command.runsKubeadm`, `Command.isListing`, `Command.isStart`, `Command.isRemoval`: kinds of
  commands; `Ordinary`: requests of no such kind; `LeavesContainers`: requests that neither start
  nor remove a container.
* `startsOf`: the commands of a run that start a container.
* `Demand.Issues`: the commands that a demand of a program can lead to; `RemovesNothing`.
-/

namespace LocalCluster

open LocalCluster.Container Script

/-- A command that has been run, and what came of it. -/
structure Executed where
  command : Command
  result : Except RuntimeFault Output

/-- The command of an exchange, if it is one. -/
def executed? : Exchange Request Request.Answer → Option Executed
  | ⟨.command c, result⟩ => some ⟨c, result⟩
  | _ => none

/-- The commands of a run, in order. -/
def commandsOf (t : List (Exchange Request Request.Answer)) : List Executed :=
  t.filterMap executed?

section

variable {t t₁ t₂ : List (Exchange Request Request.Answer)} {c : Command}
  {r : Except RuntimeFault Output}

theorem executed?_eq_some_iff {x : Exchange Request Request.Answer} {e : Executed} :
    executed? x = some e ↔ x = ⟨.command e.command, e.result⟩ := by
  constructor
  · intro h
    obtain ⟨q, a⟩ := x
    cases q <;> simp [executed?] at h
    subst h
    rfl
  · rintro rfl
    rfl

@[simp] theorem commandsOf_append : commandsOf (t₁ ++ t₂) = commandsOf t₁ ++ commandsOf t₂ :=
  List.filterMap_append

theorem mem_commandsOf {e : Executed} :
    e ∈ commandsOf t ↔ ⟨.command e.command, e.result⟩ ∈ t := by
  simp [commandsOf, List.mem_filterMap, executed?_eq_some_iff]

theorem commandsOf_eq_nil (h : ∀ x ∈ t, x.question.isCommand = false) : commandsOf t = [] := by
  rw [commandsOf, List.filterMap_eq_nil_iff]
  intro x hx
  have hq := h x hx
  obtain ⟨q, a⟩ := x
  cases q <;> simp_all [executed?, Request.isCommand]

theorem commandsOf_eq_append_cons {before after : List Executed} {e : Executed}
    (h : commandsOf t = before ++ e :: after) :
    ∃ tb ta, t = tb ++ ⟨.command e.command, e.result⟩ :: ta ∧ commandsOf tb = before ∧
      commandsOf ta = after := by
  obtain ⟨tb, tr, rfl, hb, hr⟩ := List.filterMap_eq_append_iff.1 h
  obtain ⟨skipped, x, ta, rfl, hskip, hx, ha⟩ := List.filterMap_eq_cons_iff.1 hr
  obtain rfl := executed?_eq_some_iff.1 hx
  refine ⟨tb ++ skipped, ta, by simp, ?_, ha⟩
  have : commandsOf skipped = [] := List.filterMap_eq_nil_iff.2 hskip
  rw [commandsOf_append, this, List.append_nil]
  exact hb

end

/-! ## Kinds of commands -/

namespace Container.Command

/-- The container that a command works in, and what it runs there. -/
def inside? (c : Command) : Option (String × List String) :=
  match c.stdin, c.args with
  | none, "exec" :: container :: argv => some (container, argv)
  | some _, "exec" :: "-i" :: container :: argv => some (container, argv)
  | _, _ => none

/-- The command runs `kubeadm` in some container, with this verb. -/
def runsKubeadm (verb : String) (c : Command) : Bool :=
  match c.inside? with
  | some (_, program :: first :: _) => program == "kubeadm" && first == verb
  | _ => false

/-- The command starts a container. -/
def isStart (c : Command) : Bool := c.args.head? == some "run"

/-- The command removes containers. -/
def isRemoval (c : Command) : Bool := c.args.head? == some "rm"

/-- The command lists containers. -/
def isListing (c : Command) : Bool := c.args.head? == some "ps"

end Container.Command

section

variable {e : Engine} {container : String} {argv : List String} {stdin : Option Text.Bytes}

theorem inside?_execution :
    (e.execution container argv stdin).inside? = some (container, argv) := by
  cases stdin <;> rfl

theorem isStart_execution : (e.execution container argv stdin).isStart = false := by
  cases stdin <;> rfl

theorem isRemoval_execution : (e.execution container argv stdin).isRemoval = false := by
  cases stdin <;> rfl

theorem isListing_execution : (e.execution container argv stdin).isListing = false := by
  cases stdin <;> rfl

theorem runsKubeadm_execution {verb : String} (h : argv.head? ≠ some "kubeadm") :
    (e.execution container argv stdin).runsKubeadm verb = false := by
  rw [Command.runsKubeadm, inside?_execution]
  match argv with
  | [] | [_] => rfl
  | program :: first :: rest =>
    have hp : program ≠ "kubeadm" := by simpa using h
    simp [hp]

end

/-- The request neither starts nor removes a container. -/
def LeavesContainers (r : Request) : Prop :=
  ∀ c, r = .command c → c.isStart = false ∧ c.isRemoval = false

theorem leavesContainers_execution {e : Engine} {container : String} {argv : List String}
    {stdin : Option Text.Bytes} :
    LeavesContainers (.command (e.execution container argv stdin)) := by
  rintro c ⟨⟩
  exact ⟨isStart_execution, isRemoval_execution⟩

theorem LeavesContainers.of_mem {t : List (Exchange Request Request.Answer)} {e : Executed}
    (h : ∀ x ∈ t, LeavesContainers x.question) (he : e ∈ commandsOf t) :
    e.command.isStart = false ∧ e.command.isRemoval = false :=
  h _ (mem_commandsOf.1 he) _ rfl

/-- The request leaves containers, and it neither lists them nor runs `kubeadm`. -/
def Ordinary (r : Request) : Prop :=
  LeavesContainers r ∧
    ∀ c, r = .command c → c.isListing = false ∧ ∀ verb, c.runsKubeadm verb = false

theorem ordinary_of_not_command {r : Request} (h : r.isCommand = false) : Ordinary r := by
  refine ⟨?_, ?_⟩ <;>
  · rintro c rfl
    cases h

theorem leavesContainers_of_not_command {r : Request} (h : r.isCommand = false) :
    LeavesContainers r :=
  (ordinary_of_not_command h).1

/-- The starts of containers, in order. -/
def startsOf (t : List (Exchange Request Request.Answer)) : List Executed :=
  (commandsOf t).filter (·.command.isStart)

theorem startsOf_flatMap {α : Type} {xs : List α}
    {f : α → List (Exchange Request Request.Answer)} :
    startsOf (xs.flatMap f) = xs.flatMap fun x => startsOf (f x) := by
  rw [startsOf, commandsOf, List.filterMap_flatMap, List.filter_flatMap]
  rfl

theorem startsOf_eq_nil {t : List (Exchange Request Request.Answer)}
    (h : ∀ x ∈ t, LeavesContainers x.question) : startsOf t = [] :=
  List.filter_eq_nil_iff.2 fun e he => by simp [(LeavesContainers.of_mem h he).1]

/-! ## Programs -/

/-- The demand can lead to this command: it is demanded, or some run of a task comes to it. -/
inductive Demand.Issues : Demand → Command → Prop where
  | single (c : Command) : Issues (.single (.command c)) c
  | together {p : Policy} {tasks : List (Routine Outcome)} {task : Routine Outcome}
      {t : List (Exchange Request Request.Answer)} {outcome : Outcome} {e : Executed}
      (htask : task ∈ tasks) (run : Follows task t outcome) (he : e ∈ commandsOf t) :
      Issues (.together p tasks) e.command

/-- Nothing that is demanded can remove a container. -/
def RemovesNothing (T : List (Exchange Demand Demand.Answer)) : Prop :=
  ∀ x ∈ T, ∀ c, x.question.Issues c → c.isRemoval = false

section

variable {T T₁ T₂ : List (Exchange Demand Demand.Answer)}

theorem RemovesNothing.append (h₁ : RemovesNothing T₁) (h₂ : RemovesNothing T₂) :
    RemovesNothing (T₁ ++ T₂) := fun x hx =>
  (List.mem_append.1 hx).elim (h₁ x) (h₂ x)

theorem removesNothing_single {t : List (Exchange Request Request.Answer)}
    (h : ∀ x ∈ t, LeavesContainers x.question) : RemovesNothing (t.map Exchange.single) := by
  intro x hx c hc
  obtain ⟨y, hy, rfl⟩ := List.mem_map.1 hx
  refine (h y hy c ?_).2
  generalize hq : (Exchange.single y).question = q at hc
  cases hc with
  | single => exact Demand.single.inj hq
  | together => cases hq

theorem removesNothing_together {p : Policy} {tasks : List (Routine Outcome)}
    {answer : Except Cluster.Fault Unit} (h : ∀ task ∈ tasks, ∀ t outcome,
      Follows task t outcome → ∀ e ∈ commandsOf t, e.command.isRemoval = false) :
    RemovesNothing [⟨.together p tasks, answer⟩] := by
  intro x hx c hc
  obtain rfl := List.mem_singleton.1 hx
  cases hc with
  | together htask run he =>
    exact h _ htask _ _ run _ he

end

end LocalCluster
