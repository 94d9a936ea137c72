import LocalCluster.Proofs.Cluster.Credentials
import LocalCluster.Proofs.Cluster.Roster

/-!
# Listings in any order

An engine lists the nodes of a cluster in an order of its own. Two runs of one step that find the
same nodes in different orders run the same commands, as long as every command is answered as it
always is. What the machine answers besides, when files are written, does not matter either.

* `InStep`: two scripts side by side; `InStep.bind`, `InStep.refl`: its rules.
* `Action.Unswayed`: an action that does not look at which nodes are known, with the same rules.
* `Finds`, `Step.SameCommands`: what it is that two runs of a step have in common.
* **`relisting_changes_nothing`**: no choice among the nodes and no command of these steps depends
  on the order.
-/

namespace LocalCluster.Cluster.Bootstrap

open LocalCluster.Container LocalCluster.Text Script

variable {α β γ δ : Type} {s : Routine α} {s' : Routine β} {R : α → β → Prop}
variable {reply : Command → Except RuntimeFault Output} {t t' : History}

/-! ## Two scripts side by side -/

/-- If one table answers all commands of a run of each script, then both run the same commands, and
they end with values that are related. -/
def InStep (R : α → β → Prop) (s : Routine α) (s' : Routine β) : Prop :=
  ∀ ⦃reply t t' a b⦄, Steady reply t → Steady reply t' → Follows s t a → Follows s' t' b →
    commandsOf t = commandsOf t' ∧ R a b

theorem InStep.pure {a : α} {b : β} (h : R a b) : InStep R (Pure.pure a) (Pure.pure b) := by
  intro reply t t' a' b' _ _ hs hs'
  obtain ⟨rfl, rfl⟩ := follows_pure_iff.1 hs
  obtain ⟨rfl, rfl⟩ := follows_pure_iff.1 hs'
  exact ⟨rfl, h⟩

theorem InStep.bind {S : γ → δ → Prop} {f : α → Routine γ} {g : β → Routine δ}
    (h : InStep R s s') (hf : ∀ a b, R a b → InStep S (f a) (g b)) :
    InStep S (s >>= f) (s' >>= g) := by
  intro reply t t' c d ht ht' hs hs'
  obtain ⟨a, t₁, t₂, rfl, h₁, h₂⟩ := follows_bind_iff.1 hs
  obtain ⟨b, u₁, u₂, rfl, h₁', h₂'⟩ := follows_bind_iff.1 hs'
  rw [Steady, commandsOf_append, List.forall_mem_append] at ht ht'
  obtain ⟨hfirst, hab⟩ := h ht.1 ht'.1 h₁ h₁'
  obtain ⟨hsecond, hcd⟩ := hf a b hab ht.2 ht'.2 h₂ h₂'
  exact ⟨by rw [commandsOf_append, commandsOf_append, hfirst, hsecond], hcd⟩

theorem InStep.refl (h : s.Asks (·.isCommand)) : InStep Eq s s := by
  induction s with
  | done a => exact .pure rfl
  | ask q next ih =>
    intro reply t t' a b ht ht' hs hs'
    cases hs with
    | @ask _ _ answer rest _ hs =>
      cases hs' with
      | @ask _ _ answer' rest' _ hs' =>
        match q, h.1 with
        | .command c, _ =>
          obtain rfl : answer = answer' :=
            (ht.result List.mem_cons_self).trans (ht'.result List.mem_cons_self).symm
          have hrest : Steady reply rest := fun e he => ht e (List.mem_cons_of_mem _ he)
          have hrest' : Steady reply rest' := fun e he => ht' e (List.mem_cons_of_mem _ he)
          obtain ⟨hcommands, hab⟩ := ih answer (h.2 answer) hrest hrest' hs hs'
          exact ⟨congrArg (Executed.mk c answer :: ·) hcommands, hab⟩

/-! ## Actions -/

/-- The contexts differ at most in which nodes are known. -/
def Context.Alike (ctx ctx' : Context) : Prop := ∃ known, ctx' = { ctx with known := known }

/-- Whatever nodes are known, the action runs the same commands; and if `ends` holds, then it comes
to the same result in contexts that are alike again. -/
def Action.Unswayed (ends : Prop) (a : Action α) : Prop :=
  ∀ ⦃ctx ctx' : Context⦄, ctx.Alike ctx' →
    InStep (fun p q : Except Fault α × Context => ends → p.1 = q.1 ∧ p.2.Alike q.2)
      (a.run ctx : Routine (Except Fault α × Context))
      (a.run ctx' : Routine (Except Fault α × Context))

namespace Action.Unswayed

variable {ends : Prop} {a : Action α} {w : Work α}

theorem bind {f : α → Action β} (ha : a.Unswayed True) (hf : ∀ x, (f x).Unswayed ends) :
    (a >>= f).Unswayed ends := by
  intro ctx ctx' halike
  rw [run_bind, run_bind]
  refine (ha halike).bind ?_
  rintro ⟨r, ctx⟩ ⟨r', ctx'⟩ h
  obtain ⟨hr, halike⟩ := h trivial
  dsimp only at hr halike
  subst hr
  cases r with
  | error fault => exact .pure fun _ => ⟨rfl, halike⟩
  | ok x => exact hf x halike

theorem pure {x : α} : (Pure.pure x : Action α).Unswayed ends :=
  fun _ _ halike => .pure fun _ => ⟨rfl, halike⟩

theorem check {r : Except Fault α} : (Bootstrap.check r).Unswayed ends :=
  fun _ _ halike => .pure fun _ => ⟨rfl, halike⟩

theorem context_bind {f : Context → Action α}
    (hf : ∀ seen known, f { seen with known := known } = f seen)
    (h : ∀ seen, (f seen).Unswayed ends) : (Bootstrap.context >>= f).Unswayed ends := by
  rintro ctx ctx' ⟨known, rfl⟩
  change InStep _ ((f ctx).run ctx) ((f { ctx with known := known }).run _)
  rw [hf ctx known]
  exact h ctx ⟨known, rfl⟩

theorem remember {f : Context → Context}
    (hf : ∀ ctx ctx', ctx.Alike ctx' → (f ctx).Alike (f ctx')) :
    (Bootstrap.remember f).Unswayed ends :=
  fun ctx ctx' halike => .pure fun _ => ⟨rfl, hf ctx ctx' halike⟩

theorem ofWork (h : w.run.Asks (·.isCommand)) : (Action.ofWork w).Unswayed ends := by
  intro ctx ctx' halike
  refine (InStep.refl h).bind ?_
  rintro r _ rfl
  exact .pure fun _ => ⟨rfl, halike⟩

theorem during {operation : String} (ha : a.Unswayed True) :
    Action.Unswayed ends (LocalCluster.during operation a) := by
  intro ctx ctx' halike
  refine InStep.bind (s := (a.run ctx : Routine (Except Fault α × Context))) (ha halike) ?_
  rintro ⟨r, ctx⟩ ⟨r', ctx'⟩ h
  obtain ⟨hr, halike⟩ := h trivial
  exact .pure fun _ => ⟨congrArg (naming operation) hr, halike⟩

theorem forM {xs : List α} {f : α → Action Unit} (hf : ∀ x, (f x).Unswayed True) :
    (xs.forM f).Unswayed ends := by
  induction xs with
  | nil => exact .pure
  | cons x xs ih => exact (hf x).bind fun _ => ih

end Action.Unswayed

/-! ## Work in nodes -/

section

variable (n first : Node)

/-- The work asks nothing but commands. -/
abbrev OnlyCommands (w : Work α) : Prop := w.run.Asks (·.isCommand)

theorem onlyCommands_exec (argv : List String) : OnlyCommands (n.exec argv) :=
  asks_toWork (asks_runCommand rfl)

theorem onlyCommands_fetch (path : String) : OnlyCommands (n.fetch path) :=
  (onlyCommands_exec n _).run_bind fun _ => asks_run_pure _

theorem onlyCommands_store (path : String) (contents : Bytes) :
    OnlyCommands (n.store path contents) := by
  have hcopy : OnlyCommands (do
      let _ ← n.execFed ["cp", "/dev/stdin", path] contents
      pure ()) := Asks.run_bind (asks_toWork (asks_runCommand rfl)) fun _ => asks_run_pure _
  unfold Node.store
  split
  · exact (onlyCommands_exec n _).run_bind fun _ => hcopy
  · exact hcopy

theorem onlyCommands_hostPort (p : Port) : OnlyCommands (n.hostPort p) := by
  refine Asks.run_bind (Asks.run_bind ?_ fun _ => asks_run_mk_pure _) fun _ => asks_run_pure _
  exact asks_toWork (Asks.run_bind (asks_runCommand rfl) fun _ => asks_run_mk_pure _)

theorem onlyCommands_addresses (network : String) : OnlyCommands (n.addresses network) := by
  refine Asks.run_bind ?_ fun _ => asks_run_mk_pure _
  exact asks_toWork (Asks.run_bind (asks_runCommand rfl) fun _ => asks_run_pure _)

theorem onlyCommands_versionText : OnlyCommands n.versionText :=
  (onlyCommands_fetch n _).run_bind fun _ => asks_run_mk_pure _

theorem onlyCommands_backendOf (ctx : Context) : OnlyCommands (backendOf ctx n) := by
  refine (asks_during (onlyCommands_addresses n _)).run_bind fun found => ?_
  dsimp only
  repeat' split
  all_goals trivial

theorem onlyCommands_apiServerHostPort (all : List Node) :
    OnlyCommands (apiServerHostPort all) := by
  rw [apiServerHostPort_eq]
  exact (asks_run_mk_pure _).run_bind fun node => onlyCommands_hostPort node _

theorem onlyCommands_join : OnlyCommands (join n) :=
  (asks_during (onlyCommands_exec n _)).run_bind fun _ => asks_run_pure _

theorem onlyCommands_copyKeys : OnlyCommands (copyKeys first n) :=
  Asks.run_forM fun path _ => (asks_during (onlyCommands_fetch first path)).run_bind fun contents =>
    asks_during (onlyCommands_store n path contents)

theorem unswayed_version {ends : Prop} : (version n).Unswayed ends := by
  refine .context_bind (fun _ _ => rfl) fun seen => ?_
  split
  · exact .pure
  · refine (Action.Unswayed.ofWork (onlyCommands_versionText n)).bind fun text => ?_
    refine Action.Unswayed.check.bind fun v => ?_
    have hknown : (remember fun ctx => { ctx with version := some v }).Unswayed True := by
      refine .remember ?_
      rintro ctx _ ⟨known, rfl⟩
      exact ⟨known, rfl⟩
    exact hknown.bind fun _ => .pure

theorem commandsOf_copyOut {dest cluster : String} {port : Port} {r : Except Fault Unit}
    (h : Follows (Kubeconfig.copyOut n dest port cluster).run t r) :
    ∃ answer, commandsOf t = [⟨n.reading adminKubeconfigPath, answer⟩] := by
  have hfilled : ∀ {contents u r}, Kubeconfig.Filled dest contents u r → commandsOf u = [] := by
    intro contents u r hf
    cases hf <;> rfl
  have hstored : ∀ {contents u r}, Kubeconfig.Stored dest contents u r → commandsOf u = [] := by
    intro contents u r hs
    cases hs with
    | homeless => rfl
    | @housed _ u _ _ hf =>
      change commandsOf u = []
      exact hfilled hf
    | here _ hf => exact hfilled hf
  cases Kubeconfig.follows_copyOut_iff.1 h with
  | @unread fault => exact ⟨.error fault, rfl⟩
  | @unusable o => exact ⟨.ok o, rfl⟩
  | @bundled o _ _ _ _ stored =>
    exact ⟨.ok o, congrArg (Executed.mk _ (.ok o) :: ·) (hstored stored)⟩

theorem unswayed_copyOut {dest cluster : String} {port : Port} :
    (Action.ofWork (Kubeconfig.copyOut n dest port cluster)).Unswayed False := by
  rintro ctx ctx' - reply t t' ⟨r, d⟩ ⟨r', d'⟩ ht ht' hrun hrun'
  obtain ⟨answer, hcommands⟩ := commandsOf_copyOut n (follows_ofWork_iff.1 hrun).1
  obtain ⟨answer', hcommands'⟩ := commandsOf_copyOut n (follows_ofWork_iff.1 hrun').1
  have hanswer : answer = reply _ := ht ⟨_, answer⟩ (by rw [hcommands]; exact List.mem_cons_self)
  have hanswer' : answer' = reply _ :=
    ht' ⟨_, answer'⟩ (by rw [hcommands']; exact List.mem_cons_self)
  rw [hcommands, hcommands', hanswer, hanswer']
  exact ⟨rfl, False.elim⟩

end

/-! ## Two runs of a step -/

/-- How an action finds the nodes of a cluster: it knows them, or the provider lists them. -/
inductive Finds (p : Provider) (ctx : Context) : History → List Node → Prop where
  | known {xs : List Node} (h : ctx.known = some xs) : Finds p ctx [] xs
  | listed {l : History} {xs : List Node} (h : ctx.known = none)
      (run : Follows (p.listNodes ctx.clusterName).run l (.ok xs)) : Finds p ctx l xs

/-- Two runs of a step, of any providers, that find the nodes of a cluster in these two orders: when
they have found them, both run the same commands, if one table answers these. -/
def Step.SameCommands (step : Step) (xs ys : List Node) : Prop :=
  ∀ ⦃p q : Provider⦄ ⦃ctx ctx' : Context⦄ ⦃l l' t t' : History⦄
    ⦃x x' : Except Fault Unit × Context⦄ ⦃reply : Command → Except RuntimeFault Output⦄,
    ctx.Alike ctx' → Finds p ctx l xs → Finds q ctx' l' ys →
    Follows ((step.run p).run ctx : Routine (Except Fault Unit × Context)) (l ++ t) x →
    Follows ((step.run q).run ctx' : Routine (Except Fault Unit × Context)) (l' ++ t') x' →
    Steady reply t → Steady reply t' → commandsOf t = commandsOf t'

variable {p : Provider} {ctx : Context} {l : History} {xs ys : List Node}

theorem Finds.follows {f : List Node → Action α} {x : Except Fault α × Context}
    (h : Finds p ctx l xs)
    (run : Follows ((nodes p >>= f).run ctx : Routine (Except Fault α × Context)) (l ++ t) x) :
    Follows ((f xs).run { ctx with known := some xs } : Routine (Except Fault α × Context)) t
      x := by
  cases h with
  | known hk =>
    rw [run_nodes_bind_known hk] at run
    rwa [← hk]
  | listed hk hlist =>
    rw [run_nodes_bind_fresh hk, follows_bind_iff] at run
    obtain ⟨r, t₁, t₂, ht, h₁, h₂⟩ := run
    obtain ⟨rfl, rfl, rfl⟩ := hlist.eq_of_append_eq h₁ ht
    exact h₂

/-- **Two runs of an action that does the same with the nodes in both orders.** -/
theorem sameCommands_of_unswayed {step : Step} {f : List Node → Action Unit}
    (hstep : ∀ p, step.run p = nodes p >>= f) (hsame : f xs = f ys)
    (hf : (f xs).Unswayed False) : step.SameCommands xs ys := by
  rintro p q ctx _ l l' t t' x x' reply ⟨known, rfl⟩ hfinds hfinds' run run' ht ht'
  rw [hstep] at run run'
  have hrest := hfinds.follows run
  have hrest' := hfinds'.follows run'
  rw [← hsame] at hrest'
  exact (hf ⟨some ys, rfl⟩ ht ht' hrest hrest').1

section

variable (h : Relisted xs ys)
include h

theorem balancerStep_sameCommands : balancerStep.SameCommands xs ys := by
  refine sameCommands_of_unswayed (fun p => rfl) ?_ ?_
  · simp only [h.externalLoadBalancer_eq, h.controlPlanes_eq]
  · refine Action.Unswayed.check.bind fun found => ?_
    match found with
    | none => exact .pure
    | some balancer =>
      refine .context_bind (fun _ _ => rfl) fun seen => ?_
      have hbackends : OnlyCommands ((controlPlanes xs).mapM (backendOf seen)) :=
        Asks.run_mapM fun n _ => onlyCommands_backendOf n seen
      refine (Action.Unswayed.ofWork hbackends).bind fun backends => ?_
      exact (Action.Unswayed.ofWork (onlyCommands_store balancer _ _)).during.bind fun _ =>
        (Action.Unswayed.ofWork (onlyCommands_exec balancer _)).during.bind fun _ => .pure

theorem initStep_sameCommands : initStep.SameCommands xs ys := by
  refine sameCommands_of_unswayed (fun p => rfl) ?_ ?_
  · have hport : apiServerHostPort xs = apiServerHostPort ys := by
      rw [apiServerHostPort_eq, h.endpointNode_eq, ← apiServerHostPort_eq]
    simp only [h.bootstrapControlPlane_eq, h.perm.length_eq, hport]
  · refine Action.Unswayed.check.bind fun first => ?_
    refine (Action.Unswayed.ofWork (onlyCommands_exec first _)).during.bind fun _ => ?_
    have hlast : ((do
        let port ← during "failed to get api server port" (liftM (apiServerHostPort xs))
        let ctx ← context
        liftM (Kubeconfig.copyOut first ctx.kubeconfigPath port ctx.clusterName)) :
        Action Unit).Unswayed False :=
      (Action.Unswayed.ofWork (onlyCommands_apiServerHostPort xs)).during.bind fun port =>
        .context_bind (fun _ _ => rfl) fun seen => unswayed_copyOut first
    dsimp only
    split
    · exact (unswayed_version first).bind fun v =>
        (Action.Unswayed.ofWork (onlyCommands_exec first _)).during.bind fun _ => hlast
    · exact hlast

theorem joinControlPlanes_sameCommands : joinControlPlanes.SameCommands xs ys := by
  refine sameCommands_of_unswayed (fun p => rfl) ?_ ?_
  · simp only [h.secondaryControlPlanes_eq, h.bootstrapControlPlane_eq]
  · dsimp only
    split
    · exact .pure
    · exact Action.Unswayed.check.bind fun first => .forM fun n =>
        (Action.Unswayed.ofWork (onlyCommands_copyKeys n first)).bind fun _ =>
          .ofWork (onlyCommands_join n)

theorem joinWorkers_sameCommands : joinWorkers.SameCommands xs ys := by
  refine sameCommands_of_unswayed (fun p => rfl) ?_ ?_
  · simp only [h.workers_eq]
  · exact .forM fun n => .ofWork (onlyCommands_join n)

/-- **The order in which nodes are listed changes nothing.** -/
theorem relisting_changes_nothing :
    (controlPlanes xs = controlPlanes ys ∧
      bootstrapControlPlane xs = bootstrapControlPlane ys ∧
      secondaryControlPlanes xs = secondaryControlPlanes ys ∧ workers xs = workers ys ∧
      externalLoadBalancer xs = externalLoadBalancer ys ∧ endpointNode xs = endpointNode ys) ∧
    (controlPlanes xs =
        (bootstrapControlPlane xs).toOption.toList ++ secondaryControlPlanes xs ∧
      (controlPlanes xs).Pairwise (·.name < ·.name)) ∧
    (∀ n ∈ xs, ∃! duty : Duty, n ∈ duty.members xs) ∧
    ((∃ fault, endpointNode xs = .error fault) ↔
      2 ≤ xs.countP (·.role = .externalLoadBalancer) ∨
        (∀ n ∈ xs, n.role ≠ .externalLoadBalancer) ∧ ∀ n ∈ xs, n.role ≠ .controlPlane) ∧
    ∀ step ∈ [balancerStep, initStep, joinControlPlanes, joinWorkers],
      step.SameCommands xs ys := by
  refine ⟨⟨h.controlPlanes_eq, h.bootstrapControlPlane_eq, h.secondaryControlPlanes_eq,
    h.workers_eq, h.externalLoadBalancer_eq, h.endpointNode_eq⟩,
    ⟨controlPlanes_eq_append, controlPlanes_pairwise_lt h.distinct⟩,
    fun n hn => exists_unique_duty h.distinct hn, endpointNode_fails_iff, ?_⟩
  simp only [List.forall_mem_cons, List.not_mem_nil, false_implies, implies_true, and_true]
  exact ⟨balancerStep_sameCommands h, initStep_sameCommands h, joinControlPlanes_sameCommands h,
    joinWorkers_sameCommands h⟩

end

/-! ## A cluster that is listed backwards -/

/-- The nodes of a cluster behind a load balancer. -/
def balancedRoster : List Node :=
  [⟨"d-worker", .worker, {}⟩, ⟨"d-control-plane2", .controlPlane, {}⟩,
    ⟨"d-control-plane", .controlPlane, {}⟩,
    ⟨"d-external-load-balancer", .externalLoadBalancer, {}⟩]

/-- The start of a cluster of these nodes. -/
def startAmong (nodes : List Node) : History × Except Fault Unit × Context :=
  ((initStep.run (.ofContainers {})).run { desktopContext with known := some nodes } :
    Routine (Except Fault Unit × Context)).play (answering desktopReply)

theorem relisted_backwards : Relisted balancedRoster balancedRoster.reverse :=
  ⟨(List.reverse_perm _).symm, by decide⟩

theorem backwards_starts_alike : Relisted balancedRoster balancedRoster.reverse ∧
    endpointNode balancedRoster = endpointNode balancedRoster.reverse ∧
    commandsOf (startAmong balancedRoster).1 = commandsOf (startAmong balancedRoster.reverse).1 ∧
    ((commandsOf (startAmong balancedRoster).1).map fun e => e.command.args.head?.toList ++
      e.command.args.filter (· ∈ balancedRoster.map Node.name)) =
      [["exec", "d-control-plane"], ["inspect", "d-external-load-balancer"],
        ["exec", "d-control-plane"]] := by
  obtain ⟨⟨-, -, -, -, -, hendpoint⟩, -, -, -, hsteps⟩ :=
    relisting_changes_nothing relisted_backwards
  have hrun : ∀ nodes, Follows ((initStep.run (.ofContainers {})).run
      { desktopContext with known := some nodes } : Routine (Except Fault Unit × Context))
      ([] ++ (startAmong nodes).1) (startAmong nodes).2 := fun nodes => follows_play _ _
  have hsteady : ∀ nodes, Steady desktopReply (startAmong nodes).1 := fun nodes => steady_play _
  have hcommands := hsteps initStep (by simp) ⟨_, rfl⟩ (.known rfl) (.known rfl)
    (hrun balancedRoster) (hrun balancedRoster.reverse) (hsteady _) (hsteady _)
  exact ⟨relisted_backwards, hendpoint, hcommands, by decide +kernel⟩

end LocalCluster.Cluster.Bootstrap
