import LocalCluster.Proofs.Bootstrap.Steps
import LocalCluster.Proofs.Cluster.Selection

/-!
# The order of a bootstrap

The schedule, said of the commands alone: which node is started, which nodes join, and what has been
done before.

* `listed_once`: the standard pipeline lists the nodes, and from then on it knows them.
* `Permitted`: what may be run after some commands; `Complete`: all that was to be run has been run.
* `Scheduled.permitted`, `Stage.complete`: the schedule brings this about.
* `standard_leavesContainers`: the standard pipeline starts and removes no container.
* **`standard_in_order`**: every run of the standard pipeline is in order, wherever it stops.
-/

namespace LocalCluster.Cluster.Bootstrap

open LocalCluster.Container LocalCluster.Text Script

variable {nodes : List Node} {first n m : Node} {past work : List Executed}

/-! ## Commands that count -/

theorem joining_inside : n.joining.inside? = some (n.name, joinArgv) := inside?_execution

theorem initialising_runsKubeadm {verb : String} :
    n.initialising.runsKubeadm verb = (verb == "init") := by
  rw [Command.runsKubeadm, Node.initialising, Node.running, inside?_execution]
  simp [initArgv, Bool.beq_comm]

theorem joining_runsKubeadm {verb : String} : n.joining.runsKubeadm verb = (verb == "join") := by
  rw [Command.runsKubeadm, joining_inside]
  simp [joinArgv, Bool.beq_comm]

theorem initialising_ne_joining : n.initialising ≠ m.joining := by
  intro h
  have hk := congrArg (Command.runsKubeadm "init") h
  rw [initialising_runsKubeadm, joining_runsKubeadm] at hk
  exact absurd hk (by decide)

theorem name_eq_of_joining_eq (h : n.joining = m.joining) : n.name = m.name := by
  have hi := congrArg Command.inside? h
  rw [joining_inside, joining_inside] at hi
  exact (Prod.mk.inj (Option.some.inj hi)).1

theorem mem_milestones {e : Executed} {verb : String} (hverb : verb = "init" ∨ verb = "join")
    (he : e ∈ past) (hk : e.command.runsKubeadm verb = true) : e.command ∈ milestones past := by
  refine List.mem_filter.2 ⟨List.mem_map_of_mem he, ?_⟩
  rcases hverb with rfl | rfl <;> simp [hk]

/-! ## What may be run -/

/-- **What may be run after the commands `past`** by a bootstrap that begins with the node
`first`. -/
structure Permitted (nodes : List Node) (first : Node) (past : List Executed) (c : Command) :
    Prop where
  /-- The nodes are not listed again. -/
  listing : c.isListing = false
  /-- Only the first node is started, when it has been configured. -/
  init : c.runsKubeadm "init" = true → c = first.initialising ∧ Configured past first
  /-- Another node joins when it has been configured and the cluster has been started: a control
  plane with the keys and before all workers, or else a worker. -/
  join : c.runsKubeadm "join" = true → ∃ n ∈ nodes, n ≠ first ∧ c = n.joining ∧
    Configured past n ∧ Initialised past first ∧
    (n.role = .controlPlane ∧ HasKeys past first n ∧
        (∀ m ∈ nodes, m.role = .worker → ∀ r, ⟨m.joining, r⟩ ∉ past) ∨
      n.role = .worker)

/-- Everything that was to be run has been run: the first node was started once, and every other
control plane and every worker joined once. -/
structure Complete (nodes : List Node) (first : Node) (work : List Executed) : Prop where
  init : (work.map Executed.command).countP (·.runsKubeadm "init") = 1
  join : ∀ n ∈ nodes, n ≠ first → n.role ≠ .externalLoadBalancer →
    (work.map Executed.command).count n.joining = 1

section

variable (hdistinct : (nodes.map Node.name).Nodup)
  (hfirst : bootstrapControlPlane nodes = .ok first)
include hdistinct hfirst

theorem no_worker_joined {before : List Node}
    (hb : ∀ k ∈ before, k ∈ secondaryControlPlanes nodes)
    (stage : Stage nodes first (first.initialising :: before.map Node.joining) past)
    (hm : m ∈ nodes) (hr : m.role = .worker) (r : Except RuntimeFault Output) :
    ⟨m.joining, r⟩ ∉ past := by
  intro hpast
  have hmile := mem_milestones (.inr rfl) hpast (by rw [joining_runsKubeadm]; rfl)
  rw [stage.milestones] at hmile
  rcases List.mem_cons.1 hmile with he | he
  · exact initialising_ne_joining he.symm
  · obtain ⟨k, hk, hkm⟩ := List.mem_map.1 he
    obtain ⟨hkn, hkr, -⟩ := (mem_secondaryControlPlanes hdistinct hfirst).1 (hb k hk)
    obtain rfl := eq_of_name_eq hdistinct hkn hm (name_eq_of_joining_eq hkm)
    rw [hkr] at hr
    cases hr

/-- **What is scheduled is permitted.** -/
theorem Scheduled.permitted {c : Command} (h : Scheduled nodes past (.command c)) :
    Permitted nodes first past c := by
  obtain ⟨hin, hrole⟩ := bootstrapControlPlane_mem hfirst
  cases h with
  | ordinary h =>
    obtain ⟨hlist, hk⟩ := h.2 c rfl
    exact ⟨hlist, by simp [hk], by simp [hk]⟩
  | start hf stage =>
    obtain rfl := Except.ok.inj (hfirst.symm.trans hf)
    have hconf := stage.configured first hin (by simp [hrole])
    exact ⟨isListing_execution, fun _ => ⟨rfl, hconf⟩, by simp [initialising_runsKubeadm]⟩
  | @secondary _ n before after hf split stage keys =>
    obtain rfl := Except.ok.inj (hfirst.symm.trans hf)
    have hsec : ∀ k, k ∈ before ∨ k = n → k ∈ secondaryControlPlanes nodes := fun k hk => by
      rw [split]
      rcases hk with hk | rfl
      · exact List.mem_append_left _ hk
      · exact List.mem_append_right _ List.mem_cons_self
    obtain ⟨hn, hr, hne⟩ := (mem_secondaryControlPlanes hdistinct hfirst).1 (hsec n (.inr rfl))
    refine ⟨isListing_execution, by simp [joining_runsKubeadm], fun _ => ⟨n, hn, hne, rfl, ?_⟩⟩
    refine ⟨stage.configured n hn (by simp [hr]), stage.initialised (List.cons_ne_nil _ _), ?_⟩
    exact .inl ⟨hr, keys, fun m hm hw r =>
      no_worker_joined hdistinct hfirst (fun k hk => hsec k (.inl hk)) stage hm hw r⟩
  | @worker _ n before after hf split stage =>
    obtain rfl := Except.ok.inj (hfirst.symm.trans hf)
    obtain ⟨hn, hr⟩ := mem_workers.1 (by
      rw [split]; exact List.mem_append_right before List.mem_cons_self : n ∈ workers nodes)
    have hne : n ≠ first := by
      rintro rfl
      rw [hrole] at hr
      cases hr
    refine ⟨isListing_execution, by simp [joining_runsKubeadm], fun _ => ⟨n, hn, hne, rfl, ?_⟩⟩
    exact ⟨stage.configured n hn (by simp [hr]), stage.initialised (List.cons_ne_nil _ _), .inr hr⟩

omit hfirst in
theorem nodup_joining :
    ((secondaryControlPlanes nodes ++ workers nodes).map Node.joining).Nodup := by
  refine List.Nodup.map_on (fun k hk l hl he => ?_) (nodup_joining_order hdistinct)
  have hmem : ∀ k ∈ secondaryControlPlanes nodes ++ workers nodes, k ∈ nodes := fun k hk => by
    rcases List.mem_append.1 hk with hk | hk
    · exact (mem_controlPlanes.1 (List.mem_of_mem_tail hk)).1
    · exact (mem_workers.1 hk).1
  exact eq_of_name_eq hdistinct (hmem k hk) (hmem l hl) (name_eq_of_joining_eq he)

/-- **At the end of the schedule everything has been run.** -/
theorem Stage.complete (stage : Stage nodes first
    (first.initialising :: (secondaryControlPlanes nodes ++ workers nodes).map Node.joining) work) :
    Complete nodes first work where
  init := by
    have hcount : (Bootstrap.milestones work).countP (·.runsKubeadm "init") =
        (work.map Executed.command).countP (·.runsKubeadm "init") := by
      rw [Bootstrap.milestones, List.countP_filter]
      refine List.countP_congr fun c _ => ?_
      simp only [Bool.and_eq_true, Bool.or_eq_true]
      exact ⟨And.left, fun h => ⟨h, .inl h⟩⟩
    rw [← hcount, stage.milestones, List.countP_cons_of_pos (by simp [initialising_runsKubeadm]),
      List.countP_eq_zero.2]
    intro c hc
    obtain ⟨k, -, rfl⟩ := List.mem_map.1 hc
    simp [joining_runsKubeadm]
  join n hn hne hr := by
    have hjoins : n ∈ secondaryControlPlanes nodes ++ workers nodes := by
      rw [List.mem_append, mem_secondaryControlPlanes hdistinct hfirst, mem_workers]
      cases hrole : n.role with
      | controlPlane => exact .inl ⟨hn, rfl, hne⟩
      | worker => exact .inr ⟨hn, rfl⟩
      | externalLoadBalancer => exact absurd hrole hr
    have hcount : (Bootstrap.milestones work).count n.joining =
        (work.map Executed.command).count n.joining :=
      List.count_filter (by simp [joining_runsKubeadm])
    rw [← hcount, stage.milestones, List.count_cons_of_ne initialising_ne_joining]
    exact List.count_eq_one_of_mem (nodup_joining hdistinct) (List.mem_map_of_mem hjoins)

end

/-! ## Runs -/

variable {report : Status} {p : Provider} {ctx : Context} {trace : History} {progress : Progress}

theorem commandsOf_notice {t : History} {event : Event} (h : Follows (report event) t ()) :
    commandsOf t = [] :=
  commandsOf_eq_nil fun x hx => by simpa using h.question (report.runsNothing event) x hx

/-- **The standard pipeline lists the nodes**: either that fails and nothing else is run, or they
are known from then on. -/
theorem listed_once (hfresh : ctx.known = none)
    (run : Follows (runSteps report p 0 standardSteps ctx) trace progress) :
    ∃ told listing reported rest, trace = told ++ (listing ++ rest) ∧ commandsOf told = [] ∧
      Follows (p.listNodes ctx.clusterName).run listing reported ∧
      match reported with
      | .error fault =>
        commandsOf rest = [] ∧ progress.result = .error (.step configStep.label fault)
      | .ok found => Follows (runSteps report p 0 standardSteps { ctx with known := some found })
          (told ++ rest) progress := by
  obtain ⟨_, told, t, rfl, htold, h⟩ := follows_bind_iff.1 run
  change Follows ((configure p).run ctx >>= _) t progress at h
  rw [configure, run_nodes_bind_listed hfresh, bind_assoc] at h
  obtain ⟨reported, listing, rest, rfl, hlisting, h⟩ := follows_bind_iff.1 h
  refine ⟨told, listing, reported, rest, rfl, commandsOf_notice htold, hlisting, ?_⟩
  cases reported with
  | error fault =>
    change Follows (report (.stepEnded false) >>= fun _ => pure _) rest progress at h
    obtain ⟨_, ended, t, rfl, hended, h⟩ := follows_bind_iff.1 h
    obtain ⟨rfl, rfl⟩ := follows_pure_iff.1 h
    exact ⟨by rw [List.append_nil]; exact commandsOf_notice hended, rfl⟩
  | ok found => exact follows_bind_iff.2 ⟨(), told, rest, rfl, htold, h⟩

/-- The standard pipeline starts and removes no container, if listing the nodes does not. -/
theorem standard_leavesContainers (hfresh : ctx.known = none)
    (hlist : (p.listNodes ctx.clusterName).run.Asks LeavesContainers)
    (run : Follows (Pipeline.standard.run report p ctx) trace progress) :
    ∀ x ∈ trace, LeavesContainers x.question := by
  obtain ⟨told, listing, reported, rest, rfl, htold, hlisting, h⟩ := listed_once hfresh run
  have hquiet : ∀ {t : History}, commandsOf t = [] → ∀ x ∈ t, LeavesContainers x.question := by
    rintro t ht ⟨_, answer⟩ hx c rfl
    have hmem : (⟨c, answer⟩ : Executed) ∈ commandsOf t := mem_commandsOf.2 hx
    simp [ht] at hmem
  have hrest : ∀ x ∈ rest, LeavesContainers x.question := by
    cases reported with
    | error fault => exact hquiet h.1
    | ok found =>
      have hu : Untouched found { ctx with known := some found } [] := ⟨rfl, rfl⟩
      obtain ⟨-, hguard⟩ := (standard_scheduled report p hu).sound h
      intro x hx
      obtain ⟨before, after, hsplit⟩ := List.append_of_mem (List.mem_append_right told hx)
      exact (hguard before x after hsplit).leavesContainers
  intro x hx
  rcases List.mem_append.1 hx with hx | hx
  · exact hquiet htold x hx
  · exact (List.mem_append.1 hx).elim (hlisting.question hlist x) (hrest x)

/-- **Every run of the standard pipeline is in order.** The nodes are listed once, and after that,
wherever the run stops, every command is permitted by those before it; a run that succeeds is
complete. -/
theorem standard_in_order (report : Status) (p : Provider) (ctx : Context)
    (hfresh : ctx.known = none)
    (run : Follows (Pipeline.standard.run report p ctx) trace progress) :
    ∃ listing reported work, Follows (p.listNodes ctx.clusterName).run listing reported ∧
      commandsOf trace = commandsOf listing ++ work ∧
      (∀ fault, reported = .error fault →
        work = [] ∧ progress.result = .error (.step configStep.label fault)) ∧
      ∀ nodes, reported = .ok nodes → (nodes.map Node.name).Nodup →
        (∃ n ∈ nodes, n.role = .controlPlane) →
        ∃ first ∈ nodes, first.role = .controlPlane ∧
          (∀ n ∈ nodes, n.role = .controlPlane → first.name ≤ n.name) ∧
          (∀ before e after, work = before ++ e :: after →
            Permitted nodes first before e.command) ∧
          (progress.result = .ok () → Complete nodes first work) := by
  obtain ⟨told, listing, reported, rest, rfl, htold, hlisting, h⟩ := listed_once hfresh run
  refine ⟨listing, reported, commandsOf rest, hlisting, by simp [htold], ?_, ?_⟩
  · rintro fault rfl
    exact h
  · rintro nodes rfl hdistinct hcp
    obtain ⟨first, hfirst⟩ := exists_bootstrapControlPlane hcp
    obtain ⟨hin, hrole⟩ := bootstrapControlPlane_mem hfirst
    refine ⟨first, hin, hrole, fun n => bootstrapControlPlane_le hfirst, ?_⟩
    have hu : Untouched nodes { ctx with known := some nodes } [] := ⟨rfl, rfl⟩
    obtain ⟨hend, hguard⟩ := (standard_scheduled report p hu).sound h
    have hcommands : commandsOf (told ++ rest) = commandsOf rest := by simp [htold]
    rw [List.nil_append, hcommands] at hend
    constructor
    · intro before e after hsplit
      obtain ⟨tb, ta, hta, rfl, -⟩ := commandsOf_eq_append_cons (hcommands.trans hsplit)
      exact Scheduled.permitted hdistinct hfirst (hguard tb _ ta hta)
    · intro hok
      obtain ⟨first', hfirst', stage⟩ := hend hok
      obtain rfl := Except.ok.inj (hfirst.symm.trans hfirst')
      exact stage.complete hdistinct hfirst

def trioFirst : Node := ⟨"t-control-plane", .controlPlane, {}⟩

def trioSecond : Node := ⟨"t-control-plane2", .controlPlane, {}⟩

def trioWorker : Node := ⟨"t-worker", .worker, {}⟩

/-- Three nodes, not in the order in which they join. -/
def trio : List Node := [trioWorker, trioSecond, trioFirst]

/-- What a bootstrap of three nodes begins with. -/
def trioContext : Context where
  clusterName := "t"
  kubeconfigPath := "/tmp/t"
  spec := { name := "t", nodes := [], networking := .ofFamily .ipv4, network := "kind" }
  token := "abcdef.0123456789abcdef"

/-- What a machine replies on which these nodes become a cluster: it tells a version and where the
API server is published, its credentials name the cluster, and any other file holds its own path. -/
def trioReply (c : Command) : Except RuntimeFault Output :=
  match c.args with
  | ["inspect", _, _, _] => .ok (.ofText "127.0.0.1\t39999\n")
  | ["exec", _, "cat", path] =>
    .ok (.ofText (if path = versionFilePath then "v1.29.2\n"
      else if path = adminKubeconfigPath then "clusters: [\x7bname: t, cluster: \x7b\x7d\x7d]"
      else path))
  | _ => .ok {}

/-- The bootstrap of three nodes on that machine. -/
def trioRun : History × Progress :=
  (Pipeline.standard.run .silent (.fixed "there" trio) trioContext).play (answering trioReply)

theorem trioRun_ok : trioRun.2.result = .ok () := eq_ok_of_toOption (by decide +kernel)

theorem trioRun_milestones : milestones (commandsOf trioRun.1) =
    [trioFirst.initialising, trioSecond.joining, trioWorker.joining] := by
  decide +kernel

theorem trio_in_order : trioRun.2.result = .ok () ∧ Complete trio trioFirst (commandsOf trioRun.1) ∧
    (∀ before e after, commandsOf trioRun.1 = before ++ e :: after →
      Permitted trio trioFirst before e.command) ∧
    ∃ before e after, commandsOf trioRun.1 = before ++ e :: after ∧
      e.command = trioSecond.joining ∧ Configured before trioSecond ∧
      Initialised before trioFirst ∧ HasKeys before trioFirst trioSecond := by
  obtain ⟨listing, reported, work, hlisting, hwork, -, hall⟩ :=
    standard_in_order .silent (.fixed "there" trio) trioContext rfl (follows_play _ _)
  change Follows (.ask (.tell (.membersRead "t")) fun _ => .done (.ok trio)) listing reported
    at hlisting
  obtain ⟨⟩ | ⟨⟨⟩⟩ := hlisting
  obtain ⟨first, hin, hrole, hmin, hpermitted, hcomplete⟩ := hall trio rfl (by decide) (by decide)
  obtain rfl : trioFirst = first := by
    have hle := hmin trioFirst (by decide) rfl
    revert hle hrole
    exact (by decide : ∀ n ∈ trio, n.role = .controlPlane → n.name ≤ "t-control-plane" →
      trioFirst = n) first hin
  obtain rfl : commandsOf trioRun.1 = work := hwork
  refine ⟨trioRun_ok, hcomplete trioRun_ok, hpermitted, ?_⟩
  have hjoined : trioSecond.joining ∈ milestones (commandsOf trioRun.1) := by
    simp [trioRun_milestones]
  obtain ⟨e, he, hjoining⟩ := List.mem_map.1 (List.mem_of_mem_filter hjoined)
  obtain ⟨before, after, hsplit⟩ := List.append_of_mem he
  obtain ⟨n, hn, -, hcommand, hconfigured, hstarted, hcases⟩ :=
    (hpermitted before e after hsplit).join (by rw [hjoining, joining_runsKubeadm]; rfl)
  have hdistinct : (trio.map Node.name).Nodup := by decide
  have hsecond : trioSecond ∈ trio := by decide
  obtain rfl : trioSecond = n :=
    eq_of_name_eq hdistinct hsecond hn (name_eq_of_joining_eq (hjoining.symm.trans hcommand))
  refine ⟨before, e, after, hsplit, hjoining, hconfigured, hstarted, ?_⟩
  rcases hcases with ⟨-, hkeys, -⟩ | hworker
  · exact hkeys
  · cases hworker

end LocalCluster.Cluster.Bootstrap
