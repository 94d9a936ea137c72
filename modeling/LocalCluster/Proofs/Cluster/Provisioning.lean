import LocalCluster.Proofs.Cluster.Preparation
import LocalCluster.Proofs.Work.Serial

/-!
# Containers are created side by side

Once all is ready, every planned container is created by a task of its own, and nothing stops a task
because of another one. The tasks can take their turns in any order.

* `Joined`, `Made`: what the creation of one container runs; **`follows_createNode`**.
* `AllSucceeded`: no command has failed.
* `Created`: what all creations together run, and what becomes of them; **`created_of_worked`**.
* **`provisioned_or_stopped`**: every run that provisions the containers of a cluster.
-/

namespace LocalCluster.Cluster

open LocalCluster.Container LocalCluster.Text Script Containers

variable {c : Containers} {s : Spec} {creation : Creation} {creations : List Creation}
variable {t : List (Exchange Request Request.Answer)} {L W : List Turn} {r : Except Fault Unit}

/-! ## Creating one container -/

/-- A container is put into networks in their order, up to the first failure. -/
inductive Joined (e : Engine) (container : String) :
    List String → List (Exchange Request Request.Answer) → Prop where
  | all : Joined e container [] []
  | next {network : String} {networks : List String} {o : Output}
      {t : List (Exchange Request Request.Answer)} (rest : Joined e container networks t) :
      Joined e container (network :: networks)
        (⟨.command (e.connecting network container), .ok o⟩ :: t)
  | failed {network : String} {networks : List String} {fault : RuntimeFault} :
      Joined e container (network :: networks)
        [⟨.command (e.connecting network container), .error fault⟩]

/-- A container is started, and if that went well, it is put into its further networks. -/
inductive Made (e : Engine) (creation : Creation) :
    List (Exchange Request Request.Answer) → Prop where
  | started {o : Output} {t : List (Exchange Request Request.Answer)}
      (joined : Joined e creation.name creation.extraNetworks t) :
      Made e creation (⟨.command (e.command creation.args), .ok o⟩ :: t)
  | failed {fault : RuntimeFault} :
      Made e creation [⟨.command (e.command creation.args), .error fault⟩]

/-- No command has failed. -/
def AllSucceeded (t : List (Exchange Request Request.Answer)) : Prop :=
  ∀ e ∈ commandsOf t, e.result.isOk = true

theorem allSucceeded_cons {command : Command} {answer : Except RuntimeFault Output} :
    AllSucceeded (⟨.command command, answer⟩ :: t) ↔ answer.isOk = true ∧ AllSucceeded t :=
  List.forall_mem_cons

theorem follows_silent {operation : String} {args : List String}
    (h : Follows (during operation (c.engine.start args).toWork).run t r) :
    ∃ answer, t = [⟨.command (c.engine.command args), answer⟩] ∧
      (r = .ok () ↔ answer.isOk = true) := by
  obtain ⟨_, hwork, rfl⟩ := follows_during_iff.1 h
  obtain ⟨_, hstart, rfl⟩ := follows_toWork_iff.1 hwork
  obtain ⟨fault, hask, rfl⟩ | ⟨o, t₁, t₂, rfl, hask, hend⟩ := follows_run_bind_iff.1 hstart
  · exact ⟨.error fault, follows_runCommand_iff.1 hask, iff_of_false nofun nofun⟩
  · obtain rfl := follows_runCommand_iff.1 hask
    obtain ⟨rfl, rfl⟩ := follows_run_pure_iff.1 hend
    exact ⟨.ok o, rfl, iff_of_true rfl rfl⟩

theorem joined_of_follows {networks : List String} {container operation : String}
    (h : Follows (networks.forM fun network =>
      (during operation (c.engine.connectNetwork network container).toWork : Work Unit)).run t r) :
    Joined c.engine container networks t ∧ (r = .ok () ↔ AllSucceeded t) := by
  induction networks generalizing t with
  | nil =>
    obtain ⟨rfl, rfl⟩ := follows_run_pure_iff.1 h
    exact ⟨.all, iff_of_true rfl nofun⟩
  | cons network networks ih =>
    obtain ⟨fault, hfirst, rfl⟩ | ⟨_, t₁, t₂, rfl, hfirst, hrest⟩ := follows_run_bind_iff.1 h
    · obtain ⟨answer, rfl, hanswer⟩ := follows_silent hfirst
      rw [allSucceeded_cons, ← hanswer]
      cases answer with
      | ok o => cases hanswer.2 rfl
      | error fault => exact ⟨.failed, iff_of_false nofun fun hall => nomatch hall.1⟩
    · obtain ⟨answer, rfl, hanswer⟩ := follows_silent hfirst
      cases answer with
      | error fault => cases hanswer.1 rfl
      | ok o =>
        obtain ⟨hjoined, hr⟩ := ih hrest
        refine ⟨.next hjoined, ?_⟩
        rw [List.singleton_append, allSucceeded_cons, hr]
        exact ⟨fun hall => ⟨rfl, hall⟩, And.right⟩

/-- **Creating a container starts it and then puts it into its networks**, and it ends well if all
this does. -/
theorem follows_createNode (h : Follows (c.createNode creation).run t r) :
    Made c.engine creation t ∧ (r = .ok () ↔ AllSucceeded t) := by
  obtain ⟨fault, hstart, rfl⟩ | ⟨_, t₁, t₂, rfl, hstart, hjoin⟩ := follows_run_bind_iff.1 h
  · obtain ⟨answer, rfl, hanswer⟩ := follows_silent hstart
    rw [allSucceeded_cons, ← hanswer]
    cases answer with
    | ok o => cases hanswer.2 rfl
    | error fault => exact ⟨.failed, iff_of_false nofun fun hall => nomatch hall.1⟩
  · obtain ⟨answer, rfl, hanswer⟩ := follows_silent hstart
    cases answer with
    | error fault => cases hanswer.1 rfl
    | ok o =>
      obtain ⟨hjoined, hr⟩ := joined_of_follows hjoin
      refine ⟨.started hjoined, ?_⟩
      rw [List.singleton_append, allSucceeded_cons, hr]
      exact ⟨fun hall => ⟨rfl, hall⟩, And.right⟩

theorem follows_outcome {outcome : LocalCluster.Outcome}
    (h : Follows (c.createNode creation).outcome t outcome) :
    Made c.engine creation t ∧ (outcome.fault? = none ↔ AllSucceeded t) := by
  obtain ⟨result, t₁, t₂, rfl, hcreate, hout⟩ := follows_bind_iff.1 h
  obtain ⟨rfl, rfl⟩ := follows_pure_iff.1 hout
  rw [List.append_nil]
  obtain ⟨hmade, hresult⟩ := follows_createNode hcreate
  refine ⟨hmade, Iff.trans ?_ hresult⟩
  cases result with
  | ok u => exact iff_of_true rfl rfl
  | error fault => exact iff_of_false nofun nofun

/-! ## Creating all of them -/

theorem allSucceeded_flatMap {α : Type} {xs : List α}
    {f : α → List (Exchange Request Request.Answer)} :
    AllSucceeded (xs.flatMap f) ↔ ∀ x ∈ xs, AllSucceeded (f x) := by
  simp only [AllSucceeded, commandsOf, List.filterMap_flatMap, List.mem_flatMap]
  constructor
  · intro h x hx e he
    exact h e ⟨x, hx, he⟩
  · rintro h e ⟨x, hx, he⟩
    exact h x hx e he

/-- Nothing has failed exactly when none of the tasks has run a command that failed. -/
theorem allSucceeded_turns_iff {n : Nat} (haskers : ∀ turn ∈ W, ∃ i < n, turn.asker = .task i) :
    AllSucceeded (W.map Turn.exchange) ↔ ∀ i < n, AllSucceeded (exchangesOf (.task i) W) := by
  have hperm := (perm_flatMap_exchangesOf haskers).filterMap executed?
  simp only [← List.mem_range, ← allSucceeded_flatMap]
  exact forall_congr' fun e => imp_congr_left hperm.mem_iff

/-- What the tasks that create these containers run, and what becomes of them: each container is
made by a task of its own, so it is started once, whatever becomes of the others. -/
structure Created (c : Containers) (creations : List Creation) (W : List Turn)
    (r : Except Fault Unit) : Prop where
  askers : ∀ turn ∈ W, ∃ i < creations.length, turn.asker = .task i
  made : ∀ i creation, creations[i]? = some creation →
    Made c.engine creation (exchangesOf (.task i) W)
  starts : ((startsOf (W.map Turn.exchange)).map Executed.command).Perm
    (creations.map fun creation => c.engine.command creation.args)
  result : r = .ok () ↔ AllSucceeded (W.map Turn.exchange)

/-- The tasks that create these containers. -/
def creatingTasks (c : Containers) (creations : List Creation) :
    List (Routine LocalCluster.Outcome) :=
  (creations.map c.createNode).map Work.outcome

theorem length_creatingTasks : (creatingTasks c creations).length = creations.length := by
  simp [creatingTasks]

theorem Joined.leavesContainers {e : Engine} {container : String} {networks : List String}
    (h : Joined e container networks t) : ∀ x ∈ t, LeavesContainers x.question := by
  have hconnect : ∀ network, LeavesContainers (.command (e.connecting network container)) := by
    rintro network command ⟨⟩
    exact ⟨rfl, rfl⟩
  induction h with
  | all => nofun
  | next _ ih => exact List.forall_mem_cons.2 ⟨hconnect _, ih⟩
  | failed => exact List.forall_mem_singleton.2 (hconnect _)

theorem Made.starts {e : Engine} (h : Made e creation t) (hrun : creation.args.head? = some "run") :
    (startsOf t).map Executed.command = [e.command creation.args] := by
  have hstart : (e.command creation.args).isStart = true := by
    simp [Command.isStart, Engine.command, hrun]
  have hfirst : ∀ (answer : Except RuntimeFault Output) {t},
      (∀ x ∈ t, LeavesContainers x.question) →
      (startsOf (⟨.command (e.command creation.args), answer⟩ :: t)).map Executed.command =
        [e.command creation.args] := by
    intro answer t hrest
    have hnone := startsOf_eq_nil hrest
    rw [startsOf] at hnone
    show (((⟨e.command creation.args, answer⟩ : Executed) :: commandsOf t).filter
      (·.command.isStart)).map _ = _
    rw [List.filter_cons, if_pos hstart, hnone]
    rfl
  cases h with
  | started joined => exact hfirst _ joined.leavesContainers
  | failed => exact hfirst _ (by simp)

theorem starts_of_made (hrun : ∀ creation ∈ creations, creation.args.head? = some "run")
    (haskers : ∀ turn ∈ W, ∃ i < creations.length, turn.asker = .task i)
    (hmade : ∀ i creation, creations[i]? = some creation →
      Made c.engine creation (exchangesOf (.task i) W)) :
    ((startsOf (W.map Turn.exchange)).map Executed.command).Perm
      (creations.map fun creation => c.engine.command creation.args) := by
  refine perm_of_tasks (F := fun t => (startsOf t).map Executed.command)
    (fun h => ((h.filterMap _).filter _).map _) (fun is t => ?_) haskers fun i creation hi => ?_
  · rw [startsOf_flatMap, List.map_flatMap]
  · exact (hmade i creation hi).starts (hrun creation (List.mem_of_getElem? hi))

section

variable {tasks : List (Routine LocalCluster.Outcome)}

theorem made_of_worked (h : Worked (creatingTasks c creations) W tasks) {i : Nat}
    (hi : creations[i]? = some creation) {outcome : LocalCluster.Outcome}
    (hend : tasks[i]? = some (.done outcome)) :
    Made c.engine creation (exchangesOf (.task i) W) ∧
      (outcome.fault? = none ↔ AllSucceeded (exchangesOf (.task i) W)) := by
  obtain ⟨task, htask, hfollows⟩ := h.follows hend
  obtain rfl : (c.createNode creation).outcome = task := by
    simpa [creatingTasks, hi] using htask
  exact follows_outcome hfollows

/-- **Whatever the order of their turns**, the tasks make every container, and starting each of them
once is all that they start. -/
theorem created_of_worked (hrun : ∀ creation ∈ creations, creation.args.head? = some "run")
    (h : Worked (creatingTasks c creations) W tasks) (hdone : AllDone tasks)
    (hr : Delivered .untilFirstFailure (List.range' 0 creations.length) tasks r) :
    Created c creations W r := by
  have haskers : ∀ turn ∈ W, ∃ i < creations.length, turn.asker = .task i := by
    have := h.asker
    rwa [length_creatingTasks] at this
  have hmade : ∀ i creation, creations[i]? = some creation →
      Made c.engine creation (exchangesOf (.task i) W) := by
    intro i creation hi
    have hlt : i < tasks.length := by
      rw [h.length_eq, length_creatingTasks]
      exact (List.getElem?_eq_some_iff.1 hi).1
    obtain ⟨outcome, hend⟩ := hdone _ (List.getElem_mem hlt)
    exact (made_of_worked h hi (List.getElem?_eq_some_iff.2 ⟨hlt, hend⟩)).1
  refine ⟨haskers, hmade, starts_of_made hrun haskers hmade, ?_⟩
  have hnumber : ∀ i, i ∈ List.range' 0 creations.length ↔ i < creations.length := fun i => by
    rw [← List.range_eq_range', List.mem_range]
  rw [allSucceeded_turns_iff haskers]
  cases r with
  | ok u =>
    refine iff_of_true rfl fun i hi => ?_
    obtain ⟨outcome, hend, hnone⟩ := hr.succeeded i ((hnumber i).2 hi)
    exact (made_of_worked h (List.getElem?_eq_getElem hi) hend).2.1 hnone
  | error fault =>
    refine iff_of_false nofun fun hgood => ?_
    obtain ⟨i, hi, outcome, hend, hfault⟩ := hr.failed
    have hi := (hnumber i).1 hi
    have hnone := (made_of_worked h (List.getElem?_eq_getElem hi) hend).2.2 (hgood i hi)
    rw [hnone] at hfault
    cases hfault

end

/-! ## Provisioning -/

/-- A program that provisions containers prepares them, and then it only waits for the tasks that
create them. -/
theorem follows_provision {T : List (Exchange Demand Demand.Answer)}
    (h : Follows (c.provision s).run T r) :
    (∃ t fault, Follows (c.prepare s).run t (.error fault) ∧ T = t.map Exchange.single ∧
      r = .error fault) ∨
    ∃ t creations, Follows (c.prepare s).run t (.ok creations) ∧ T = t.map Exchange.single ++
      [⟨.together .untilFirstFailure (creatingTasks c creations), r⟩] := by
  obtain ⟨fault, hprepare, rfl⟩ | ⟨creations, T₁, T₂, rfl, hprepare, htogether⟩ :=
    follows_run_bind_iff.1 h
  · obtain ⟨t, ht, rfl⟩ := follows_toJob_iff.1 hprepare
    exact .inl ⟨t, fault, ht, rfl, rfl⟩
  · obtain ⟨t, ht, rfl⟩ := follows_toJob_iff.1 hprepare
    obtain rfl := follows_lift_iff.1 htogether
    exact .inr ⟨t, creations, ht, rfl⟩

/-- At any point after the provisioning, its own turns have been those of the preparation, and all
others those of tasks that create containers. -/
theorem provisioned_of_weave {T : List (Exchange Demand Demand.Answer)}
    {tasks : List (Routine LocalCluster.Outcome)} (h : Follows (c.provision s).run T r)
    (hw : Weave [] T L tasks) :
    (∃ t fault, Follows (c.prepare s).run t (.error fault) ∧ L = t.map Turn.own ∧ tasks = [] ∧
      r = .error fault) ∨
    ∃ t creations W, Follows (c.prepare s).run t (.ok creations) ∧ L = t.map Turn.own ++ W ∧
      Worked (creatingTasks c creations) W tasks ∧
      Delivered .untilFirstFailure (List.range' 0 creations.length) tasks r := by
  obtain ⟨t, fault, ht, rfl, rfl⟩ | ⟨t, creations, ht, rfl⟩ := follows_provision h
  · obtain ⟨rfl, rfl⟩ := hw.idle allDone_nil
    exact .inl ⟨t, fault, ht, rfl, rfl, rfl⟩
  · obtain ⟨L₁, W, mid, rfl, hown, hbegin⟩ := weave_append_iff.1 hw
    obtain ⟨rfl, rfl⟩ := hown.idle allDone_nil
    obtain ⟨hworked, hdelivered⟩ := hbegin.begin
    rw [length_creatingTasks] at hdelivered
    exact .inr ⟨t, creations, W, ht, rfl, hworked, hdelivered⟩

theorem Made.isRemoval {e : Engine} (h : Made e creation t)
    (hrun : creation.args.head? = some "run") :
    ∀ x ∈ commandsOf t, x.command.isRemoval = false := by
  have hstart : (e.command creation.args).isRemoval = false := by
    simp [Command.isRemoval, Engine.command, hrun]
  cases h with
  | started joined =>
    exact List.forall_mem_cons.2
      ⟨hstart, fun x hx => (LeavesContainers.of_mem joined.leavesContainers hx).2⟩
  | failed => exact List.forall_mem_singleton.2 hstart

theorem Created.isRemoval (h : Created c creations W r)
    (hrun : ∀ creation ∈ creations, creation.args.head? = some "run") :
    ∀ e ∈ commandsOf (W.map Turn.exchange), e.command.isRemoval = false := by
  intro e he
  obtain ⟨⟨asker, x⟩, hturn, hx⟩ := List.mem_map.1 (mem_commandsOf.1 he)
  obtain ⟨i, hi, hasker⟩ := h.askers _ hturn
  dsimp only at hx hasker
  rw [hx, hasker] at hturn
  have hmade := h.made i _ (List.getElem?_eq_getElem hi)
  have hmem := mem_commandsOf.2 (mem_exchangesOf.2 hturn)
  exact hmade.isRemoval (hrun _ (List.getElem_mem hi)) e hmem

/-- A cluster of two nodes, one of them in a further network. -/
def pairSpec : Spec where
  name := "demo"
  nodes := [{ role := .controlPlane, image := "node" },
    { role := .worker, image := "node", networks := ["kind", "extra"] }]
  networking := .ofFamily .ipv4
  network := "kind"

/-- A host that does everything as it is asked. -/
def complyingHost : Host Unit := ⟨fun r => pure (r.compliance, 0)⟩

end LocalCluster.Cluster
