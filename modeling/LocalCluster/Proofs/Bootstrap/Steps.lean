import LocalCluster.Proofs.Bootstrap.Schedule

/-!
# The standard steps keep to the schedule

One fact for each step of the standard pipeline: from where on the schedule it starts and how far it
takes the bootstrap when it succeeds. The nodes are known already; ordinary work changes nothing
about the schedule (`Lasting`), so only the commands that count have to be looked at.

* `configure_leads`, `balance_leads`, `start_leads`, `joinSecondaries_leads`, `joinWorkers_leads`.
* **`standard_scheduled`**: all of them, one after the other.
-/

namespace LocalCluster.Cluster.Bootstrap

open LocalCluster.Container LocalCluster.Text Script

variable {nodes : List Node} {α : Type}

/-- What the schedule allows. -/
abbrev allowed (nodes : List Node) (h : History) (r : Request) : Prop :=
  Scheduled nodes (commandsOf h) r

theorem allowed_of_ordinary (h : History) (r : Request) (hr : Ordinary r) : allowed nodes h r :=
  .ordinary hr

theorem admitsNodeWork_ordinary : AdmitsNodeWork Ordinary where
  exec e container argv stdin hargv := by
    refine ⟨leavesContainers_execution, ?_⟩
    rintro c ⟨⟩
    exact ⟨isListing_execution, fun verb => runsKubeadm_execution hargv⟩
  inspect e target format := by
    refine ⟨?_, ?_⟩ <;> rintro c ⟨⟩
    · exact ⟨rfl, rfl⟩
    · exact ⟨rfl, fun verb => rfl⟩
  other r hr := ordinary_of_not_command hr

/-! ## What ordinary work leaves alone -/

/-- A stance that knows the nodes and that ordinary work leaves alone. -/
structure Lasting (nodes : List Node) (I : Stance) : Prop where
  known : ∀ ctx h, I ctx h → ctx.known = some nodes
  version : ∀ ctx h v, I ctx h → I { ctx with version := v } h
  ordinary : ∀ ctx h t, I ctx h → (∀ x ∈ t, Ordinary x.question) → I ctx (h ++ t)

namespace Lasting

variable {I : Stance} (hI : Lasting nodes I)
include hI

theorem ofWork {w : Work α} (hw : w.run.Asks Ordinary) :
    (Action.ofWork w).Leads (allowed nodes) I fun _ => I :=
  .ofAsks hw allowed_of_ordinary fun ctx h t _ hp ht => hI.ordinary ctx h t hp (ht.question hw)

theorem readVersion (n : Node) :
    (Bootstrap.version n).Leads (allowed nodes) I fun _ => I := by
  refine Action.Leads.context_bind fun seen => ?_
  split
  · exact .pure fun _ _ hp => hp
  · refine (hI.ofWork (admitsNodeWork_ordinary.versionText n)).bind fun text => ?_
    refine Action.Leads.check_bind fun v _ => ?_
    have hknown : (remember fun ctx => { ctx with version := some v }).Leads (allowed nodes) I
        fun _ => I := .remember fun ctx h hp => hI.version ctx h (some v) hp
    exact hknown.bind fun _ => .pure fun _ _ hp => hp

end Lasting

/-- The bootstrap of known nodes has reached the milestones that `reached` says for the first
node. -/
def Reached (nodes : List Node) (reached : Node → List Command) : Stance := fun ctx h =>
  ctx.known = some nodes ∧ ∃ first, bootstrapControlPlane nodes = .ok first ∧
    Stage nodes first (reached first) (commandsOf h)

/-- The nodes are known and nothing has been reached. -/
def Untouched (nodes : List Node) : Stance := fun ctx h =>
  ctx.known = some nodes ∧ milestones (commandsOf h) = []

theorem lasting_reached (nodes : List Node) (reached : Node → List Command) :
    Lasting nodes (Reached nodes reached) where
  known _ _ h := h.1
  version _ _ _ h := h
  ordinary ctx h t := by
    rintro ⟨hk, first, hfirst, stage⟩ ht
    exact ⟨hk, first, hfirst, by rw [commandsOf_append]; exact stage.ordinary ht⟩

theorem lasting_untouched (nodes : List Node) : Lasting nodes (Untouched nodes) where
  known _ _ h := h.1
  version _ _ _ h := h
  ordinary ctx h t := by
    rintro ⟨hk, hm⟩ ht
    refine ⟨hk, ?_⟩
    rw [commandsOf_append, milestones_append, hm, milestones_ordinary ht]
    rfl

/-! ## The steps -/

/-- Writing the configuration reaches no milestone and leaves every node configured. -/
theorem configure_leads (p : Provider) :
    (configure p).Leads (allowed nodes) (Untouched nodes) fun _ => Reached nodes fun _ => [] := by
  have hI := lasting_untouched nodes
  refine .nodes_bind hI.known (.check_bind fun first hfirst => ?_)
  refine (Action.Leads.during (hI.readVersion first)).bind fun v => ?_
  refine .check_bind fun endpoint _ => .context_bind fun seen => ?_
  -- the nodes that the loop has behind it are configured
  refine Action.Leads.imp (.forM (fun done ctx h => Untouched nodes ctx h ∧
    ∀ n ∈ done, Configured (commandsOf h) n) fun before n after _ => ?_)
    (fun ctx h hp => ⟨hp, by simp⟩) ?_
  · refine .check_bind fun config _ => .during ?_
    have hw := admitsNodeWork_ordinary.store n kubeadmConfigPath (encode config)
    refine .ofAsks hw allowed_of_ordinary fun ctx h t _ hp ht => ?_
    refine ⟨hI.ordinary ctx h t hp.1 (ht.question hw), fun m hm => ?_⟩
    rw [commandsOf_append]
    rcases List.mem_append.1 hm with hm | hm
    · exact (hp.2 m hm).mono (List.sublist_append_left _ _)
    · obtain rfl := List.mem_singleton.1 hm
      obtain ⟨o, ho⟩ := writing_of_store_ok ht
      exact ⟨encode config, o, List.mem_append_right _ (mem_commandsOf.2 ho)⟩
  · rintro - ctx h ⟨⟨hk, hm⟩, hdone⟩
    refine ⟨hk, first, hfirst, hm, fun n hn hr => hdone n ?_, fun hne => absurd rfl hne⟩
    exact List.mem_filter.2 ⟨hn, by simpa using hr⟩

theorem asks_backendOf (seen : Context) (n : Node) : (backendOf seen n).run.Asks Ordinary := by
  refine (asks_during (admitsNodeWork_ordinary.addresses n _)).run_bind fun found => ?_
  dsimp only
  repeat' split
  all_goals trivial

theorem balance_leads (p : Provider) (reached : Node → List Command) :
    (balance p).Leads (allowed nodes) (Reached nodes reached) fun _ => Reached nodes reached := by
  have hI := lasting_reached nodes reached
  refine .nodes_bind hI.known (.check_bind fun found _ => ?_)
  match found with
  | none => exact .pure fun _ _ hp => hp
  | some balancer =>
    refine .context_bind fun seen => ?_
    have hbackends : ((controlPlanes nodes).mapM (backendOf seen)).run.Asks Ordinary :=
      Asks.run_mapM fun n _ => asks_backendOf seen n
    refine (hI.ofWork hbackends).bind fun backends => ?_
    have hstore := admitsNodeWork_ordinary.store balancer Balancer.configPath
      (encode (Balancer.render backends seen.spec.isV6))
    have hreload := admitsNodeWork_ordinary.run balancer ["kill", "-s", "HUP", "1"]
      (by simp)
    exact (Action.Leads.during (hI.ofWork hstore)).bind fun _ =>
      (Action.Leads.during (hI.ofWork hreload)).bind fun _ => .pure fun _ _ hp => hp

theorem asks_apiServerHostPort (all : List Node) :
    (apiServerHostPort all).run.Asks Ordinary := by
  refine (asks_run_mk_pure _).run_bind fun found => ?_
  match found with
  | some balancer => exact admitsNodeWork_ordinary.hostPort balancer _
  | none =>
    exact (asks_run_mk_pure _).run_bind fun first => admitsNodeWork_ordinary.hostPort first _

theorem exec_leads {n : Node} {argv : List String} {pre : Stance} (post : Output → Stance)
    (hok : ∀ ctx h, pre ctx h → allowed nodes h (.command (n.running argv)))
    (hpost : ∀ ctx h o, pre ctx h → post o ctx (h ++ [⟨.command (n.running argv), .ok o⟩])) :
    (Action.ofWork (n.exec argv)).Leads (allowed nodes) pre post := by
  refine .ofWork fun ctx h hp => ?_
  refine ensures_bind_iff.2 (ensures_lift_iff.2 ⟨hok ctx h hp, fun r o ho => ?_⟩)
  obtain rfl := mapError_eq_ok_iff.1 ho
  exact hpost ctx h o hp

theorem start_leads (p : Provider) :
    (start p).Leads (allowed nodes) (Reached nodes fun _ => [])
      fun _ => Reached nodes fun first => [first.initialising] := by
  have hI := lasting_reached nodes fun first => [first.initialising]
  refine .nodes_bind (lasting_reached _ _).known (.check_bind fun first hfirst => ?_)
  have hlast : ((do
      let port ← during "failed to get api server port" (liftM (apiServerHostPort nodes))
      let ctx ← context
      liftM (Kubeconfig.copyOut first ctx.kubeconfigPath port ctx.clusterName)) : Action Unit).Leads
      (allowed nodes) (Reached nodes fun first => [first.initialising])
      fun _ => Reached nodes fun first => [first.initialising] :=
    (Action.Leads.during (hI.ofWork (asks_apiServerHostPort nodes))).bind fun port =>
      .context_bind fun seen => hI.ofWork (admitsNodeWork_ordinary.copyOut first _ port _)
  refine (Action.Leads.during (exec_leads (fun _ => Reached nodes fun first =>
    [first.initialising]) ?_ ?_)).bind fun _ => ?_
  · rintro ctx h ⟨-, first', hfirst', stage⟩
    obtain rfl := Except.ok.inj (hfirst.symm.trans hfirst')
    exact .start hfirst stage
  · rintro ctx h o ⟨hk, first', hfirst', stage⟩
    obtain rfl := Except.ok.inj (hfirst.symm.trans hfirst')
    exact ⟨hk, first, hfirst, by rw [commandsOf_append]; exact stage.start⟩
  dsimp only
  split
  · refine (hI.readVersion first).bind fun v => ?_
    have huntaint := admitsNodeWork_ordinary.run first (untaintArgv v) (by simp [untaintArgv])
    exact (Action.Leads.during (hI.ofWork huntaint)).bind fun _ => hlast
  · exact hlast

/-- Keys that are said to be copied have been read and written as they were read. -/
theorem hasKeys_of_copyKeys {first n : Node} {t : History}
    (h : Follows (copyKeys first n).run t (.ok ())) : HasKeys (commandsOf t) first n := by
  intro path hpath
  obtain ⟨tx, htx, hx⟩ := h.forM_ok hpath
  obtain ⟨contents, t₁, t₂, rfl, hread, hwrite⟩ := follows_run_bind_ok_iff.1 hx
  obtain ⟨read, rfl, rfl⟩ := follows_fetch_ok_iff.1 (follows_during_ok_iff.1 hread)
  obtain ⟨written, hw⟩ := writing_of_store_ok (follows_during_ok_iff.1 hwrite)
  refine ⟨read, written, List.Sublist.trans ?_ (htx.sublist.filterMap executed?)⟩
  exact List.Sublist.cons_cons _ (List.singleton_sublist.2 (mem_commandsOf.2 hw))

theorem asks_copyKeys (first n : Node) : (copyKeys first n).run.Asks Ordinary :=
  Asks.run_forM fun path _ => (asks_during (admitsNodeWork_ordinary.fetch first path)).run_bind
    fun contents => asks_during (admitsNodeWork_ordinary.store n path contents)

/-- A node that joins, where the schedule lets it, takes the bootstrap one milestone on. -/
theorem join_leads {n : Node} {pre : Stance} {reached : Node → List Command}
    (hreached : ∀ first, reached first ≠ [])
    (hpre : ∀ ctx h, pre ctx h → Reached nodes reached ctx h)
    (hok : ∀ ctx h, pre ctx h → allowed nodes h (.command n.joining)) :
    (Action.ofWork (join n)).Leads (allowed nodes) pre
      fun _ => Reached nodes fun first => reached first ++ [n.joining] := by
  refine .ofWork fun ctx h hp => ?_
  rw [join, ExceptT.run_bind, ensures_bind_iff]
  refine ensures_bind_iff.2 (ensures_bind_iff.2 (ensures_lift_iff.2 ⟨hok ctx h hp, fun r => ?_⟩))
  cases r with
  | error e => rintro x ⟨⟩
  | ok o =>
    rintro x -
    obtain ⟨hk, first, hfirst, stage⟩ := hpre ctx h hp
    exact ⟨hk, first, hfirst, by rw [commandsOf_append]; exact stage.join (hreached first)⟩

/-- The other control planes join in their order, each after it has been given the keys. -/
theorem joinSecondaries_leads (p : Provider) :
    (joinSecondaries p).Leads (allowed nodes) (Reached nodes fun first => [first.initialising])
      fun _ => Reached nodes fun first =>
        first.initialising :: (secondaryControlPlanes nodes).map Node.joining := by
  refine .nodes_bind (lasting_reached _ _).known ?_
  dsimp only
  split
  · next hempty =>
    exact .pure fun ctx h hp => by simpa [List.isEmpty_iff.1 hempty] using hp
  refine .check_bind fun first hfirst => ?_
  refine Action.Leads.forM (fun done => Reached nodes fun first =>
    first.initialising :: done.map Node.joining) fun before n after hsplit => ?_
  have hI := lasting_reached nodes fun first =>
    first.initialising :: before.map Node.joining
  have hkeys : (Action.ofWork (copyKeys first n)).Leads (allowed nodes)
      (Reached nodes fun first => first.initialising :: before.map Node.joining)
      fun _ ctx h => Reached nodes (fun first =>
        first.initialising :: before.map Node.joining) ctx h ∧
          HasKeys (commandsOf h) first n := by
    refine .ofAsks (asks_copyKeys first n) allowed_of_ordinary ?_
    intro ctx h t x hp ht
    refine ⟨hI.ordinary ctx h t hp (ht.question (asks_copyKeys first n)), ?_⟩
    rw [commandsOf_append]
    exact (hasKeys_of_copyKeys ht).mono (List.sublist_append_right _ _)
  refine hkeys.bind fun _ => ?_
  refine (join_leads (fun _ => List.cons_ne_nil _ _) (fun _ _ hp => hp.1) ?_).imp
    (fun _ _ hp => hp) fun _ _ _ hp => by simpa using hp
  rintro ctx h ⟨⟨-, first', hfirst', stage⟩, keys⟩
  obtain rfl := Except.ok.inj (hfirst.symm.trans hfirst')
  exact .secondary hfirst hsplit stage keys

theorem joinWorkers_leads (p : Provider) :
    (joinWorkers.run p).Leads (allowed nodes)
      (Reached nodes fun first =>
        first.initialising :: (secondaryControlPlanes nodes).map Node.joining)
      fun _ => Reached nodes fun first =>
        first.initialising :: (secondaryControlPlanes nodes ++ workers nodes).map Node.joining := by
  refine .nodes_bind (lasting_reached _ _).known ?_
  refine Action.Leads.imp (.forM (fun done => Reached nodes fun first =>
    first.initialising :: (secondaryControlPlanes nodes ++ done).map Node.joining)
    fun before n after hsplit => ?_) (fun _ _ hp => by simpa using hp) fun _ _ _ hp => hp
  refine (join_leads (fun _ => List.cons_ne_nil _ _) (fun _ _ hp => hp) ?_).imp
    (fun _ _ hp => hp) fun _ _ _ hp => by simpa using hp
  rintro ctx h ⟨-, first, hfirst, stage⟩
  exact .worker hfirst hsplit stage

/-! ## The whole pipeline -/

variable (report : Status) (p : Provider)

/-- **The standard pipeline keeps to the schedule**, and when it succeeds it has gone through all of
it. -/
theorem standard_scheduled {ctx : Context} {h : History} (hu : Untouched nodes ctx h) :
    Ensures (allowed nodes) (fun h progress => progress.result = .ok () →
      ∃ first, bootstrapControlPlane nodes = .ok first ∧ Stage nodes first
        (first.initialising :: (secondaryControlPlanes nodes ++ workers nodes).map Node.joining)
        (commandsOf h)) h (runSteps report p 0 standardSteps ctx) := by
  have hok : ∀ h (r : Request), r.isCommand = false → allowed nodes h r := fun h r hr =>
    .ordinary (ordinary_of_not_command hr)
  have hlast : ∀ {I : Stance}, Lasting nodes I → ∀ ctx h t, I ctx h →
      (∀ x ∈ t, x.question.isCommand = false) → I ctx (h ++ t) := fun hI ctx h t hp ht =>
    hI.ordinary ctx h t hp fun x hx => ordinary_of_not_command (ht x hx)
  have hr := fun reached => hlast (lasting_reached nodes reached)
  refine ensures_runSteps_cons hok (hlast (lasting_untouched nodes)) (hr _) (configure_leads p)
    (fun _ _ hne hr => absurd hr hne) (fun ctx h hp => ?_) hu
  refine ensures_runSteps_cons hok (hr _) (hr _) (balance_leads p _)
    (fun _ _ hne hr => absurd hr hne) (fun ctx h hp => ?_) hp
  refine ensures_runSteps_cons hok (hr _) (hr _) (start_leads p)
    (fun _ _ hne hr => absurd hr hne) (fun ctx h hp => ?_) hp
  refine ensures_runSteps_cons hok (hr _) (hr _) (joinSecondaries_leads p)
    (fun _ _ hne hr => absurd hr hne) (fun ctx h hp => ?_) hp
  refine ensures_runSteps_cons hok (hr _) (hr _) (joinWorkers_leads p)
    (fun _ _ hne hr => absurd hr hne) (fun ctx h hp => ?_) hp
  exact fun _ => hp.2

end LocalCluster.Cluster.Bootstrap
