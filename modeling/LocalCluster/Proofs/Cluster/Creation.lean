import LocalCluster.Cluster.Manager
import LocalCluster.Proofs.Bootstrap.Order
import LocalCluster.Proofs.Cluster.Listing
import LocalCluster.Proofs.Cluster.Provisioning

/-!
# The creation of a cluster

A cluster is created by provisioning its containers and bootstrapping them. When that fails, the
failure is the result, and what is cleaned up afterwards does not change it.

* `Built`: a run that provisions and bootstraps; `Built.removesNothing`: it removes nothing.
* `Cleaned`: a run that cleans up; `Attempted`: the ways in which a whole creation can go.
* **`create_keeps_cause`**: every run that creates a cluster, whatever its commands bring.
-/

namespace LocalCluster.Cluster

open LocalCluster.Container LocalCluster.Text Script Bootstrap Containers

variable {c : Containers} {s : Spec} {report : Status} {path : String}
variable {T : List (Exchange Demand Demand.Answer)} {r : Except Fault Unit}

/-! ## Provisioning -/

theorem provision_removesNothing (h : Follows (c.provision s).run T r) : RemovesNothing T := by
  obtain ⟨t, fault, ht, rfl, -⟩ | ⟨t, creations, ht, rfl⟩ := follows_provision h
  · exact removesNothing_single (prepare_leavesContainers ht)
  · refine (removesNothing_single (prepare_leavesContainers ht)).append ?_
    refine removesNothing_together fun task htask t outcome hfollows => ?_
    obtain ⟨_, hw, rfl⟩ := List.mem_map.1 htask
    obtain ⟨creation, hc, rfl⟩ := List.mem_map.1 hw
    exact (follows_outcome hfollows).1.isRemoval ((ready_of_prepare ht).head? creation hc)

/-! ## Building -/

/-- What the bootstrap of a cluster begins with. -/
def bootstrapContext (s : Spec) (path : String) (drawn : Nat) : Context where
  clusterName := s.name
  kubeconfigPath := path
  spec := s
  token := Token.ofNat drawn

/-- A run that provisions the containers of a cluster and then bootstraps it, with its result: the
fault of the provisioning, or else the result of the pipeline. -/
inductive Built (c : Containers) (report : Status) (s : Spec) (path : String) :
    List (Exchange Demand Demand.Answer) → Except Fault Unit → Prop where
  | unprovisioned {T : List (Exchange Demand Demand.Answer)} {fault : Fault}
      (provisioned : Follows (c.provision s).run T (.error fault)) :
      Built c report s path T (.error fault)
  | bootstrapped {T : List (Exchange Demand Demand.Answer)} {drawn : Nat} {t : History}
      {progress : Progress} (provisioned : Follows (c.provision s).run T (.ok ()))
      (run : Follows (Pipeline.standard.run report (.ofContainers c)
        (bootstrapContext s path drawn)) t progress) :
      Built c report s path (T ++ ⟨.single .draw, drawn⟩ :: t.map Exchange.single) progress.result

theorem built_of_follows
    (h : Follows (Manager.build ⟨.ofContainers c, report⟩ s path).run T r) :
    Built c report s path T r := by
  obtain ⟨fault, h₁, rfl⟩ | ⟨⟨⟩, T₁, T₂, rfl, h₁, h₂⟩ := follows_run_bind_iff.1 h
  · exact .unprovisioned h₁
  · obtain ⟨t, ht, rfl⟩ := follows_toJob_iff.1 h₂
    obtain ⟨token, t₁, t₂, rfl, hdraw, hrest⟩ := follows_bind_iff.1 ht
    obtain ⟨drawn, t₃, t₄, rfl, hlift, htoken⟩ := follows_bind_iff.1 hdraw
    obtain rfl := follows_lift_iff.1 hlift
    obtain ⟨rfl, rfl⟩ := follows_pure_iff.1 htoken
    obtain ⟨progress, t₅, t₆, rfl, hrun, hresult⟩ := follows_bind_iff.1 hrest
    obtain ⟨rfl, rfl⟩ := follows_pure_iff.1 hresult
    simp only [List.append_nil]
    exact .bootstrapped h₁ hrun

theorem bootstrap_leavesContainers {drawn : Nat} {t : History} {progress : Progress}
    (h : Follows (Pipeline.standard.run report (.ofContainers c)
      (bootstrapContext s path drawn)) t progress) : ∀ x ∈ t, LeavesContainers x.question := by
  refine standard_leavesContainers rfl ?_ h
  refine (asks_during (asks_toWork (asks_list ?_))).run_bind fun _ => asks_run_mk_pure _
  rintro command ⟨⟩
  exact ⟨rfl, rfl⟩

theorem Built.removesNothing (h : Built c report s path T r) : RemovesNothing T := by
  cases h with
  | unprovisioned provisioned => exact provision_removesNothing provisioned
  | @bootstrapped T drawn t progress provisioned run =>
    refine (provision_removesNothing provisioned).append ?_
    refine removesNothing_single (t := ⟨.draw, drawn⟩ :: t) fun x hx => ?_
    rcases List.mem_cons.1 hx with rfl | hx
    · exact leavesContainers_of_not_command rfl
    · exact bootstrap_leavesContainers run x hx

/-! ## Cleaning up -/

/-- A run that cleans up after a failed creation. It lists the nodes of the cluster, and if that
tells of any, it removes exactly these by force, with one command. -/
inductive Cleaned (c : Containers) (cluster : String) :
    List (Exchange Demand Demand.Answer) → Prop where
  | unlisted {answer : Except RuntimeFault Output} {fault : Fault}
      (h : c.nodesIn answer = .error fault) :
      Cleaned c cluster [⟨.single (.command (c.nodeListing cluster)), answer⟩]
  | nobody {answer : Except RuntimeFault Output} (h : c.nodesIn answer = .ok []) :
      Cleaned c cluster [⟨.single (.command (c.nodeListing cluster)), answer⟩]
  | removed {answer removal : Except RuntimeFault Output} {nodes : List Node}
      (h : c.nodesIn answer = .ok nodes) (hne : nodes ≠ []) :
      Cleaned c cluster [⟨.single (.command (c.nodeListing cluster)), answer⟩,
        ⟨.single (.command (c.removing nodes)), removal⟩]

theorem cleaned_of_delete {t : History}
    (h : Follows (Manager.delete ⟨.ofContainers c, report⟩ s.name).run t r) :
    Cleaned c s.name (t.map Exchange.single) := by
  obtain ⟨fault, h₁, rfl⟩ | ⟨nodes, t₁, t₂, rfl, h₁, h₂⟩ := follows_run_bind_iff.1 h
  · obtain ⟨answer, rfl, hanswer⟩ := follows_listNodes_iff.1 h₁
    exact .unlisted hanswer.symm
  · obtain ⟨answer, rfl, hanswer⟩ := follows_listNodes_iff.1 h₁
    by_cases hne : nodes = []
    · subst hne
      obtain ⟨rfl, -⟩ := follows_run_pure_iff.1 h₂
      exact .nobody hanswer.symm
    · rw [if_neg (by simpa using hne)] at h₂
      obtain ⟨removal, rfl⟩ := follows_deleteNodes h₂ hne
      exact .removed hanswer.symm hne

/-! ## Creating -/

/-- The ways in which a creation can go. -/
inductive Attempted (c : Containers) (report : Status) (s : Spec) (o : Manager.Options) :
    List (Exchange Demand Demand.Answer) → Except Fault Unit → Prop where
  | invalid {fault : Fault} (h : s.validate = .error fault) :
      Attempted c report s o [] (.error fault)
  | unlisted {answer : Except RuntimeFault Output} {fault : Fault} (hv : s.validate = .ok ())
      (h : clustersIn answer = .error fault) :
      Attempted c report s o [⟨.single (.command c.clusterListing), answer⟩] (.error fault)
  | present {answer : Except RuntimeFault Output} {names : List String}
      (hv : s.validate = .ok ()) (h : clustersIn answer = .ok names) (hin : s.name ∈ names) :
      Attempted c report s o [⟨.single (.command c.clusterListing), answer⟩]
        (.error (.clusterExists s.name))
  | ended {answer : Except RuntimeFault Output} {names : List String}
      {built cleaning : List (Exchange Demand Demand.Answer)} {r : Except Fault Unit}
      (hv : s.validate = .ok ()) (h : clustersIn answer = .ok names) (hnot : s.name ∉ names)
      (hbuilt : Built c report s o.kubeconfigPath built r)
      (hok : r = .ok () → cleaning = [])
      (hfault : ∀ fault, r = .error fault →
        if o.retain then cleaning = [] else Cleaned c s.name cleaning) :
      Attempted c report s o (⟨.single (.command c.clusterListing), answer⟩ :: (built ++ cleaning))
        r

theorem attempted_of_follows {o : Manager.Options}
    (run : Follows (Manager.create ⟨.ofContainers c, report⟩ s o).run T r) :
    Attempted c report s o T r := by
  obtain ⟨fault, hv, rfl, rfl⟩ | ⟨⟨⟩, hv, hlist⟩ := follows_run_mk_pure_bind_iff.1 run
  · exact .invalid hv
  obtain ⟨fault, h, rfl⟩ | ⟨names, T₁, T₂, rfl, h, hrest⟩ := follows_run_bind_iff.1 hlist
  · obtain ⟨t, ht, rfl⟩ := follows_toJob_iff.1 h
    obtain ⟨answer, rfl, ha⟩ := follows_listClusters_iff.1 ht
    exact .unlisted hv ha.symm
  obtain ⟨t, ht, rfl⟩ := follows_toJob_iff.1 h
  obtain ⟨answer, rfl, ha⟩ := follows_listClusters_iff.1 ht
  by_cases hin : s.name ∈ names
  · rw [if_pos (by simpa using hin)] at hrest
    obtain ⟨rfl, rfl⟩ := follows_run_throw_iff.1 hrest
    exact .present hv ha.symm hin
  rw [if_neg (by simpa using hin)] at hrest
  obtain ⟨result, built, cleaning, rfl, hbuild, hend⟩ := follows_run_lift_bind_iff.1 hrest
  have hended := fun r hr hok hfault => @Attempted.ended c report s o answer names built cleaning r
    hv ha.symm hin hr hok hfault
  have hbuilt := built_of_follows hbuild
  cases result with
  | ok u =>
    obtain ⟨hnil, rfl⟩ := follows_run_pure_iff.1 hend
    exact hended _ hbuilt (fun _ => hnil) (fun _ => nofun)
  | error fault =>
    dsimp only at hend
    cases hr : o.retain with
    | true =>
      rw [hr] at hend
      obtain ⟨hnil, rfl⟩ := follows_run_throw_iff.1 hend
      exact hended _ hbuilt nofun fun _ _ => by rw [hr]; exact hnil
    | false =>
      rw [hr] at hend
      obtain ⟨deleted, T₁, T₂, rfl, hdelete, hthrow⟩ := follows_run_lift_bind_iff.1 hend
      obtain ⟨rfl, rfl⟩ := follows_run_throw_iff.1 hthrow
      obtain ⟨t, ht, rfl⟩ := follows_toJob_iff.1 hdelete
      refine hended _ hbuilt nofun fun _ _ => ?_
      rw [hr, List.append_nil]
      exact cleaned_of_delete ht

theorem removesNothing_clusterListing {answer : Except RuntimeFault Output} :
    RemovesNothing [⟨.single (.command c.clusterListing), answer⟩] := by
  refine removesNothing_single (t := [⟨.command c.clusterListing, answer⟩]) fun x hx => ?_
  obtain rfl := List.mem_singleton.1 hx
  rintro c ⟨⟩
  exact ⟨rfl, rfl⟩

/-- **A creation that fails keeps its cause.** An invalid specification is reported before anything
is asked. Otherwise the clusters are listed first, and if that fails or the cluster is there,
nothing more is asked. Otherwise the cluster is built, which removes nothing, and the result is that
of the building: after a success, or when nodes are retained, nothing more is asked, and after a
failure the nodes are cleaned up. -/
theorem create_keeps_cause (c : Containers) (report : Status) (s : Spec) (o : Manager.Options)
    (run : Follows (Manager.create ⟨.ofContainers c, report⟩ s o).run T r) :
    (∀ fault, s.validate = .error fault → r = .error fault ∧ T = []) ∧
    (s.validate = .ok () → ∃ answer rest,
      T = ⟨.single (.command c.clusterListing), answer⟩ :: rest ∧
      (∀ fault, clustersIn answer = .error fault → r = .error fault ∧ rest = []) ∧
      ∀ names, clustersIn answer = .ok names →
        (s.name ∈ names → r = .error (.clusterExists s.name) ∧ rest = []) ∧
        (s.name ∉ names → ∃ built cleaning, rest = built ++ cleaning ∧
          Built c report s o.kubeconfigPath built r ∧ RemovesNothing built ∧
          (r = .ok () → cleaning = []) ∧
          (∀ fault, r = .error fault →
            if o.retain then cleaning = [] else Cleaned c s.name cleaning))) ∧
    (r = .ok () ∨ o.retain = true → RemovesNothing T) := by
  cases attempted_of_follows run with
  | invalid h =>
    refine ⟨fun fault hf => ?_, fun hv => ?_, fun _ => nofun⟩
    · rw [h] at hf
      exact ⟨hf, rfl⟩
    · rw [h] at hv
      cases hv
  | @unlisted answer fault hv h =>
    refine ⟨fun _ hf => by simp [hv] at hf, fun _ => ⟨answer, [], rfl, ?_, ?_⟩,
      fun _ => removesNothing_clusterListing⟩
    · intro fault' hf
      rw [h] at hf
      exact ⟨congrArg Except.error (Except.error.inj hf), rfl⟩
    · intro names hnames
      rw [h] at hnames
      cases hnames
  | @present answer names hv h hin =>
    refine ⟨fun _ hf => by simp [hv] at hf, fun _ => ⟨answer, [], rfl, ?_, ?_⟩,
      fun _ => removesNothing_clusterListing⟩
    · intro fault hf
      rw [h] at hf
      cases hf
    · intro names' hnames
      obtain rfl := Except.ok.inj (h.symm.trans hnames)
      exact ⟨fun _ => ⟨rfl, rfl⟩, fun hnot => absurd hin hnot⟩
  | @ended answer names built cleaning _ hv h hnot hbuilt hok hfault =>
    refine ⟨fun _ hf => by simp [hv] at hf, fun _ => ⟨answer, built ++ cleaning, rfl, ?_, ?_⟩, ?_⟩
    · intro fault hf
      rw [h] at hf
      cases hf
    · intro names' hnames
      obtain rfl := Except.ok.inj (h.symm.trans hnames)
      exact ⟨fun hin => absurd hin hnot, fun _ =>
        ⟨built, cleaning, rfl, hbuilt, hbuilt.removesNothing, hok, hfault⟩⟩
    · intro hquiet
      have hnil : cleaning = [] := by
        cases r with
        | ok u => exact hok rfl
        | error fault => simpa [hquiet.resolve_left nofun] using hfault fault rfl
      rw [hnil, List.append_nil]
      exact removesNothing_clusterListing.append hbuilt.removesNothing

/-- A cluster of one node. -/
def loneSpec : Spec where
  name := "lone"
  nodes := [{ role := .controlPlane, image := "node" }]
  networking := .ofFamily .ipv4
  network := "kind"

/-- Its node. -/
def loneNode : Node := ⟨"lone-control-plane", .controlPlane, {}⟩

/-- What is replied to commands in that cluster. -/
def loneReply (c : Command) : Output :=
  match c.args with
  | ["inspect", _, _, _] => .ofText "127.0.0.1\t39999\n"
  | ["exec", _, "cat", path] =>
    .ofText (if path = versionFilePath then "v1.29.2\n"
      else "clusters: [\x7bname: lone, cluster: \x7b\x7d\x7d]")
  | _ => {}

/-- A machine on which there is no cluster at first, and then that node. If it has no space left,
nothing can be started inside the node, and the node cannot be removed. -/
def loneAnswer (hasSpace : Bool) (c : Command) : Except RuntimeFault Output :=
  match c.args with
  | ["ps", _, _, filter, _, _] =>
    .ok (.ofText (if filter = "label=" ++ clusterLabel then ""
      else "lone-control-plane\tcontrol-plane\n"))
  | "exec" :: _ :: "kubeadm" :: _ | "rm" :: _ =>
    if hasSpace then .ok {} else .error (.invocation c.display (some 1) "no space left on device")
  | _ => .ok (loneReply c)

/-- The creation of that cluster. -/
def loneCreation : Program (Except Fault Unit) :=
  (Manager.create ⟨.ofContainers {}, .silent⟩ loneSpec ⟨"/tmp/config", false⟩).run

/-- The creation of that cluster on such a machine. -/
def loneAttempt (hasSpace : Bool) : List (Exchange Demand Demand.Answer) × Except Fault Unit :=
  loneCreation.play (Demand.answering (loneAnswer hasSpace))

theorem loneAttempt_ok : (loneAttempt true).2 = .ok () := eq_ok_of_toOption (by decide +kernel)

/-- Why the cluster cannot be started inside that node. -/
def noSpace : RuntimeFault :=
  .invocation loneNode.initialising.display (some 1) "no space left on device"

theorem loneAttempt_fails :
    ∃ fault, (loneAttempt false).2 = .error fault ∧ fault.runtime? = some noSpace := by
  have hcause : (loneAttempt false).2.mapError Fault.runtime? = .error (some noSpace) := by
    decide +kernel
  cases hr : (loneAttempt false).2 with
  | ok u => simp [hr, Except.mapError] at hcause
  | error fault => exact ⟨fault, rfl, by simpa [hr, Except.mapError] using hcause⟩

theorem loneAttempt_keeps_cause :
    ((loneAttempt true).2 = .ok () ∧ RemovesNothing (loneAttempt true).1) ∧
    ∃ fault listing built listed removal, (loneAttempt false).2 = .error fault ∧
      fault.runtime? = some noSpace ∧
      (loneAttempt false).1 = ⟨.single (.command (clusterListing {})), listing⟩ :: (built ++
        [⟨.single (.command (nodeListing {} "lone")), listed⟩,
          ⟨.single (.command (removing {} [loneNode])), .error removal⟩]) ∧
      Built {} .silent loneSpec "/tmp/config" built (.error fault) ∧ RemovesNothing built := by
  have hruns : ∀ hasSpace, Follows loneCreation (loneAttempt hasSpace).1 (loneAttempt hasSpace).2 :=
    fun _ => follows_play _ _
  refine ⟨⟨loneAttempt_ok, (create_keeps_cause _ _ _ _ (hruns true)).2.2 (.inl loneAttempt_ok)⟩, ?_⟩
  obtain ⟨fault, hfault, hcause⟩ := loneAttempt_fails
  have hrun : Follows loneCreation (loneAttempt false).1 (.error fault) := hfault ▸ hruns false
  have hanswer : ∀ {c : Command} {answer : Except RuntimeFault Output},
      ⟨.single (.command c), answer⟩ ∈ (loneAttempt false).1 → answer = loneAnswer false c := by
    intro c answer hmem
    obtain ⟨d, hd⟩ := exists_of_mem_play hmem
    obtain ⟨rfl, hanswer⟩ := Exchange.mk.inj hd
    exact eq_of_heq hanswer
  obtain ⟨listing, rest, hsplit, -, hall⟩ :=
    (create_keeps_cause _ _ _ _ hrun).2.1 (Spec.validate_eq_ok_iff.2 (by decide))
  obtain rfl : listing = loneAnswer false (clusterListing {}) :=
    hanswer (by rw [hsplit]; exact List.mem_cons_self)
  have hnone : clustersIn (loneAnswer false (clusterListing {})) = .ok [] :=
    eq_ok_of_toOption (by decide +kernel)
  obtain ⟨built, cleaning, rfl, hbuilt, hquiet, -, hcleaned⟩ := (hall [] hnone).2 (by decide)
  have hclean : Cleaned {} "lone" cleaning := hcleaned fault rfl
  have hthere : ∀ {listed}, ⟨.single (.command (nodeListing {} "lone")), listed⟩ ∈ cleaning →
      nodesIn {} listed = .ok [loneNode] := by
    intro listed hmem
    obtain rfl : listed = loneAnswer false (nodeListing {} "lone") :=
      hanswer (by rw [hsplit]; simp [hmem])
    exact eq_ok_of_toOption (by decide +kernel)
  cases hclean with
  | unlisted h =>
    rw [hthere List.mem_cons_self] at h
    cases h
  | nobody h =>
    rw [hthere List.mem_cons_self] at h
    cases h
  | @removed listed removal nodes h =>
    obtain rfl := Except.ok.inj ((hthere List.mem_cons_self).symm.trans h)
    obtain rfl : removal = loneAnswer false (removing {} [loneNode]) :=
      hanswer (by rw [hsplit]; simp)
    exact ⟨fault, _, built, listed, _, hfault, hcause, hsplit, hbuilt, hquiet⟩

end LocalCluster.Cluster
