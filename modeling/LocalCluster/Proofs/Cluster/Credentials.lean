import LocalCluster.Cluster.Manager
import LocalCluster.Proofs.Bootstrap.Action
import LocalCluster.Proofs.Cluster.Copying
import LocalCluster.Proofs.Cluster.Kubeconfig
import LocalCluster.Proofs.Cluster.Listing
import LocalCluster.Proofs.Cluster.Naming
import LocalCluster.Proofs.Cluster.NodeWork
import LocalCluster.Proofs.Work.Commands

/-!
# The server in the credentials

The credentials of a cluster reach the host in two ways. When the cluster is started they are
written into a file, pointed at the port that publishes the API server; later on they are printed,
pointed at its endpoint. A desktop engine may tell of an endpoint of its own, and only the second
way asks for that.

* `Steady`: every command is answered as it always is.
* `Node.portIn`, `desktopIn`: what inspections say; `follows_apiServerHostPort_ok`,
  `follows_externalEndpoint_ok`: how the two ways use them.
* `Published`, `Saved`: the port that is found out, and the file that is written;
  **`saved_of_start`**: the start of a cluster does both.
* **`servers_of_steady`**: the servers that the two ways name; `desktop_servers_differ`: they can
  differ.
-/

namespace LocalCluster.Cluster

open LocalCluster.Container LocalCluster.Text Script Bootstrap Containers

variable {c : Containers} {cluster : String} {nodes : List Node} {n first : Node} {port : Port}
variable {t t₁ t₂ : History} {reply : Command → Except RuntimeFault Output}

/-! ## Steady answers -/

/-- Every command of a run is answered as `reply` says, whenever it is run. -/
def Steady (reply : Command → Except RuntimeFault Output) (t : History) : Prop :=
  ∀ e ∈ commandsOf t, e.result = reply e.command

theorem Steady.result {command : Command} {r : Except RuntimeFault Output} (h : Steady reply t)
    (hmem : ⟨.command command, r⟩ ∈ t) : r = reply command :=
  h ⟨command, r⟩ (mem_commandsOf.2 hmem)

theorem steady_play {α : Type} (w : Routine α) : Steady reply (w.play (answering reply)).1 := by
  intro e he
  obtain ⟨r, hr⟩ := exists_of_mem_play (mem_commandsOf.1 he)
  obtain ⟨rfl, hanswer⟩ := Exchange.mk.inj hr
  exact eq_of_heq hanswer

/-! ## Published ports -/

/-- The command that asks where a port of a node is published. -/
def Node.portInspection (n : Node) (p : Port) : Command :=
  n.engine.inspection n.name (portFormat p)

/-- Where a port of a node is published, by the answer to that. -/
def Node.portIn (n : Node) (p : Port) (answer : Except RuntimeFault Output) :
    Except Fault (String × Port) :=
  match answer with
  | .ok output =>
    match singleLine (n.portInspection p) output with
    | .ok line => n.bindingOfLine line
    | .error fault => .error (.runtime fault)
  | .error fault => .error (.runtime fault)

theorem Node.portIn_eq {p : Port} {answer : Except RuntimeFault Output} : n.portIn p answer =
    ((answer.bind (singleLine (n.portInspection p))).mapError Fault.runtime).bind
      n.bindingOfLine := by
  cases answer with
  | error fault => rfl
  | ok output =>
    unfold Node.portIn
    dsimp only [Except.bind]
    cases singleLine (n.portInspection p) output <;> rfl

/-- A port is looked up with one command, and its answer says where the port is published. -/
theorem follows_portBinding {p : Port} {r : Except Fault (String × Port)}
    (h : Follows (n.portBinding p).run t r) :
    ∃ answer, t = [⟨.command (n.portInspection p), answer⟩] ∧ r = n.portIn p answer := by
  obtain ⟨line, hline, rfl⟩ := follows_run_judged_iff.1 h
  obtain ⟨told, hcall, rfl⟩ := follows_toWork_iff.1 hline
  obtain ⟨answer, hrun, rfl⟩ := follows_run_judged_iff.1 hcall
  exact ⟨answer, follows_runCommand_iff.1 hrun, Node.portIn_eq.symm⟩

theorem follows_portBinding_ok {p : Port} {binding : String × Port}
    (h : Follows (n.portBinding p).run t (.ok binding)) :
    ∃ answer, t = [⟨.command (n.portInspection p), answer⟩] ∧ n.portIn p answer = .ok binding := by
  obtain ⟨answer, rfl, hr⟩ := follows_portBinding h
  exact ⟨answer, rfl, hr.symm⟩

/-- The port of the API server is that of the node through which it is reached. -/
theorem apiServerHostPort_eq : apiServerHostPort nodes = (do
    let node ← ExceptT.mk (pure (endpointNode nodes))
    node.hostPort apiServerPort : Work Port) := by
  unfold apiServerHostPort endpointNode
  cases externalLoadBalancer nodes with
  | error fault => rfl
  | ok found =>
    cases found with
    | some balancer => rfl
    | none => cases bootstrapControlPlane nodes <;> rfl

theorem follows_apiServerHostPort_ok (h : Follows (apiServerHostPort nodes).run t (.ok port)) :
    ∃ (node : Node) (answer : Except RuntimeFault Output) (host : String),
      endpointNode nodes = .ok node ∧
      t = [⟨.command (node.portInspection apiServerPort), answer⟩] ∧
      node.portIn apiServerPort answer = .ok (host, port) := by
  rw [apiServerHostPort_eq] at h
  obtain ⟨node, t₁, t₂, rfl, hchoose, hport⟩ := follows_run_bind_ok_iff.1 h
  obtain ⟨rfl, hnode⟩ := follows_run_mk_pure_iff.1 hchoose
  obtain ⟨⟨host, found⟩, t₃, t₄, rfl, hbinding, hlast⟩ := follows_run_bind_ok_iff.1 hport
  obtain ⟨rfl, hfound⟩ := follows_run_pure_iff.1 hlast
  cases hfound
  obtain ⟨answer, rfl, hanswer⟩ := follows_portBinding_ok hbinding
  exact ⟨node, answer, host, hnode.symm, rfl, hanswer⟩

/-! ## Desktop engines -/

/-- The command that asks a desktop engine for the endpoint of a node. -/
def Containers.desktopInspection (c : Containers) (n : Node) : Command :=
  c.engine.inspection n.name desktopFormat

/-- The endpoint that a desktop engine tells of, if it does. -/
def desktopIn (n : Node) (answer : Except RuntimeFault Output) : Except Fault (Option Endpoint) :=
  match answer with
  | .ok output => desktopEndpoint? n output.lines
  | .error fault => .error (.context "failed to get api server port" (.runtime fault))

/-- The endpoint of a cluster is what a desktop engine tells of, or else where the port of the node
is published. -/
theorem follows_externalEndpoint_ok {e : Endpoint}
    (h : Follows (c.externalEndpoint cluster).run t (.ok e)) :
    ∃ (listing labels : Except RuntimeFault Output) (nodes : List Node) (node : Node)
      (told : Option Endpoint) (rest : History),
      t = ⟨.command (c.nodeListing cluster), listing⟩ ::
        ⟨.command (c.desktopInspection node), labels⟩ :: rest ∧
      c.nodesIn listing = .ok nodes ∧ endpointNode nodes = .ok node ∧
      desktopIn node labels = .ok told ∧
      match told with
      | some endpoint => e = endpoint
      | none => ∃ answer, rest = [⟨.command (node.portInspection apiServerPort), answer⟩] ∧
          node.portIn apiServerPort answer = .ok (e.host, e.port) := by
  obtain ⟨node, t₁, t₂, rfl, hchoose, hask⟩ := follows_run_bind_ok_iff.1 h
  obtain ⟨nodes, t₃, t₄, rfl, hlist, hpick⟩ := follows_run_bind_ok_iff.1 hchoose
  obtain ⟨listing, rfl, hlisting⟩ := follows_listNodes_iff.1 hlist
  obtain ⟨rfl, hnode⟩ := follows_run_mk_pure_iff.1 (follows_during_ok_iff.1 hpick)
  obtain ⟨lines, t₅, t₆, rfl, hlabels, hread⟩ := follows_run_bind_ok_iff.1 hask
  obtain ⟨r, hcall, hr⟩ := follows_toWork_iff.1 (follows_during_ok_iff.1 hlabels)
  obtain rfl := mapError_eq_ok_iff.1 hr.symm
  obtain ⟨output, t₇, t₈, rfl, hrun, hpure⟩ := follows_run_bind_ok_iff.1 hcall
  obtain ⟨rfl, hlines⟩ := follows_run_pure_iff.1 hpure
  obtain rfl := Except.ok.inj hlines
  obtain rfl := follows_runCommand_iff.1 hrun
  obtain ⟨told, t₉, rest, rfl, hcheck, hlast⟩ := follows_run_bind_ok_iff.1 hread
  obtain ⟨rfl, htold⟩ := follows_run_mk_pure_iff.1 hcheck
  refine ⟨listing, .ok output, nodes, node, told, rest, rfl, hlisting.symm, hnode.symm,
    htold.symm, ?_⟩
  cases told with
  | some endpoint =>
    obtain ⟨-, he⟩ := follows_run_pure_iff.1 hlast
    exact Except.ok.inj he
  | none =>
    obtain ⟨⟨host, port⟩, t₁, t₂, rfl, hbinding, hpure⟩ := follows_run_bind_ok_iff.1 hlast
    obtain ⟨rfl, hreturn⟩ := follows_run_pure_iff.1 hpure
    obtain rfl := Except.ok.inj hreturn
    obtain ⟨answer, rfl, hanswer⟩ := follows_portBinding_ok (follows_during_ok_iff.1 hbinding)
    exact ⟨answer, List.append_nil _, hanswer⟩

/-! ## Credentials -/

theorem follows_adminOf_ok {raw : Bytes} (h : Follows (Kubeconfig.adminOf n).run t (.ok raw)) :
    ∃ o : Output, t = [⟨.command (n.reading adminKubeconfigPath), .ok o⟩] ∧ raw = o.stdout :=
  follows_fetch_ok_iff.1 (follows_during_ok_iff.1 h)

/-- The port of the API server has been looked up at the node through which it is reached. -/
def Published (nodes : List Node) (port : Port) (t : History) : Prop :=
  ∃ (node : Node) (answer : Except RuntimeFault Output) (host : String),
    endpointNode nodes = .ok node ∧ ⟨.command (node.portInspection apiServerPort), answer⟩ ∈ t ∧
    node.portIn apiServerPort answer = .ok (host, port)

/-- The credentials of the first control plane have been read and, pointed at a port of the host,
written into a file. -/
def Saved (nodes : List Node) (name path : String) (port : Port) (t : History) : Prop :=
  ∃ (first : Node) (o : Output) (bundle : String), bootstrapControlPlane nodes = .ok first ∧
    ⟨.command (first.reading adminKubeconfigPath), .ok o⟩ ∈ t ∧
    Kubeconfig.redirect o.stdout name (Kubeconfig.hostServer port.toNat) = .ok bundle ∧
    ⟨.writeFile path (encode bundle), .ok ()⟩ ∈ t

theorem Published.mono (h : Published nodes port t₁) (hsub : t₁ ⊆ t₂) :
    Published nodes port t₂ := by
  obtain ⟨node, answer, host, hnode, hasked, hport⟩ := h
  exact ⟨node, answer, host, hnode, hsub hasked, hport⟩

theorem Saved.mono {name path : String} (h : Saved nodes name path port t₁) (hsub : t₁ ⊆ t₂) :
    Saved nodes name path port t₂ := by
  obtain ⟨first, o, bundle, hfirst, hread, hbundle, hwrite⟩ := h
  exact ⟨first, o, bundle, hfirst, hsub hread, hbundle, hsub hwrite⟩

theorem saved_of_copyOut {name path : String} (hfirst : bootstrapControlPlane nodes = .ok first)
    (h : Follows (Kubeconfig.copyOut first path port name).run t (.ok ())) :
    Saved nodes name path port t := by
  generalize hr : Except.ok () = r at h
  cases Kubeconfig.follows_copyOut_iff.1 h with
  | unread => cases hr
  | unusable => cases hr
  | bundled hbundle stored =>
    exact ⟨first, _, _, hfirst, List.mem_cons_self, hbundle,
      List.mem_cons_of_mem _ (stored.writing_of_ok hr.symm)⟩

/-! ## The start of a cluster -/

/-- The context is one of this cluster, of which the nodes are known. -/
def Of (nodes : List Node) (name path : String) : Stance := fun ctx _ =>
  ctx.clusterName = name ∧ ctx.kubeconfigPath = path ∧ ctx.known = some nodes

/-- **A cluster that has been started has its credentials on the host**, pointed at the port that
publishes its API server. -/
theorem start_takes (p : Provider) (nodes : List Node) (name path : String) :
    (start p).Leads (fun _ _ => True) (Of nodes name path)
      fun _ _ past => ∃ port, Published nodes port past ∧ Saved nodes name path port past := by
  have hkeep : ∀ {α : Type} (w : Work α), (Action.ofWork w).Leads (fun _ _ => True)
      (Of nodes name path) fun _ => Of nodes name path :=
    fun w => .ofFollows fun _ _ _ _ hp _ => hp
  have hversion : ∀ n : Node, (version n).Leads (fun _ _ => True) (Of nodes name path)
      fun _ => Of nodes name path := by
    refine fun n => .context_bind fun seen => ?_
    split
    · exact .pure fun _ _ hp => hp
    · have hknown : ∀ v, (remember fun ctx => { ctx with version := some v }).Leads
          (fun _ _ => True) (Of nodes name path) fun _ => Of nodes name path :=
        fun v => .remember fun _ _ hp => hp
      exact (hkeep _).bind fun text => .check_bind fun v _ => (hknown v).bind fun _ =>
        .pure fun _ _ hp => hp
  refine .nodes_bind (fun _ _ hp => hp.2.2) (.check_bind fun first hfirst => ?_)
  have hlast : ((do
      let port ← during "failed to get api server port" (liftM (apiServerHostPort nodes))
      let ctx ← context
      liftM (Kubeconfig.copyOut first ctx.kubeconfigPath port ctx.clusterName)) : Action Unit).Leads
      (fun _ _ => True) (Of nodes name path)
      fun _ _ past => ∃ port, Published nodes port past ∧ Saved nodes name path port past := by
    have hport : (Action.ofWork (apiServerHostPort nodes)).Leads (fun _ _ => True)
        (Of nodes name path) fun port ctx past =>
          Of nodes name path ctx past ∧ Published nodes port past := by
      refine .ofFollows fun ctx past t port hp ht => ?_
      obtain ⟨node, answer, host, hnode, rfl, hport⟩ := follows_apiServerHostPort_ok ht
      exact ⟨hp, node, answer, host, hnode, by simp, hport⟩
    refine (Action.Leads.during hport).bind fun port => .see_bind fun seen => .ofFollows ?_
    rintro ctx past t ⟨⟩ ⟨rfl, ⟨rfl, rfl, -⟩, node, answer, host, hnode, hasked, hport⟩ ht
    exact ⟨port, ⟨node, answer, host, hnode, List.mem_append_left t hasked, hport⟩,
      (saved_of_copyOut hfirst ht).mono (List.subset_append_right _ _)⟩
  refine (Action.Leads.during (hkeep _)).bind fun _ => ?_
  dsimp only
  split
  · exact (hversion first).bind fun v => (Action.Leads.during (hkeep _)).bind fun _ => hlast
  · exact hlast

theorem saved_of_start {ctx ctx' : Context}
    (h : Follows ((start (.ofContainers c)).run ctx : Routine (Except Fault Unit × Context)) t
      (.ok (), ctx')) :
    ∃ nodes port, Published nodes port t ∧ Saved nodes ctx.clusterName ctx.kubeconfigPath port t ∧
      (ctx.known = some nodes ∨ ctx.known = none ∧
        ∃ listing, ⟨.command (c.nodeListing ctx.clusterName), listing⟩ ∈ t ∧
          c.nodesIn listing = .ok nodes) := by
  have hknown : ∀ (ctx : Context) (nodes : List Node) {t : History}, ctx.known = some nodes →
      Follows ((start (.ofContainers c)).run ctx : Routine (Except Fault Unit × Context)) t
        (.ok (), ctx') →
      ∃ port, Published nodes port t ∧ Saved nodes ctx.clusterName ctx.kubeconfigPath port t :=
    fun ctx nodes t hk h => ((start_takes (.ofContainers c) nodes _ _ ctx []
      ⟨rfl, rfl, hk⟩).sound h).1 () rfl
  cases hk : ctx.known with
  | some nodes =>
    obtain ⟨port, hpublished, hsaved⟩ := hknown ctx nodes hk h
    exact ⟨nodes, port, hpublished, hsaved, .inl rfl⟩
  | none =>
    rw [start, run_nodes_bind_listed hk] at h
    obtain ⟨reported, t₁, t₂, rfl, hlist, hrest⟩ := follows_bind_iff.1 h
    obtain ⟨listing, rfl, rfl⟩ := follows_listNodes_iff.1 hlist
    cases hnodes : c.nodesIn listing with
    | error fault =>
      rw [hnodes] at hrest
      obtain ⟨-, he⟩ := follows_pure_iff.1 hrest
      cases he
    | ok nodes =>
      rw [hnodes] at hrest
      obtain ⟨port, hpublished, hsaved⟩ := hknown { ctx with known := some nodes } nodes rfl hrest
      exact ⟨nodes, port, hpublished.mono (List.subset_append_right _ _),
        hsaved.mono (List.subset_append_right _ _), .inr ⟨rfl, listing, by simp, hnodes⟩⟩

/-! ## Credentials that are printed -/

theorem printed_of_kubeconfig {report : Status} {name printed : String}
    (h : Follows (Manager.kubeconfig ⟨.ofContainers c, report⟩ name false).run t (.ok printed)) :
    ∃ (listing : Except RuntimeFault Output) (nodes : List Node) (first : Node) (o : Output)
      (e : Endpoint) (rest : History),
      t = ⟨.command (c.nodeListing name), listing⟩ ::
        ⟨.command (first.reading adminKubeconfigPath), .ok o⟩ :: rest ∧
      c.nodesIn listing = .ok nodes ∧ bootstrapControlPlane nodes = .ok first ∧
      Follows (c.externalEndpoint name).run rest (.ok e) ∧
      Kubeconfig.redirect o.stdout name (Kubeconfig.hostServer e.port.toNat) = .ok printed := by
  obtain ⟨nodes, t₁, t₂, rfl, hlist, hrest⟩ := follows_run_bind_ok_iff.1 h
  obtain ⟨listing, rfl, hlisting⟩ := follows_listNodes_iff.1 hlist
  obtain ⟨first, t₃, t₄, rfl, hcheck, hraw⟩ := follows_run_bind_ok_iff.1 hrest
  obtain ⟨rfl, hfirst⟩ := follows_run_mk_pure_iff.1 hcheck
  obtain ⟨raw, t₅, t₆, rfl, hread, hserver⟩ := follows_run_bind_ok_iff.1 hraw
  obtain ⟨o, rfl, rfl⟩ := follows_adminOf_ok hread
  obtain ⟨server, t₇, t₈, rfl, hendpoint, hlast⟩ := follows_run_bind_ok_iff.1 hserver
  obtain ⟨e, t₉, t₁₀, rfl, hexternal, hpure⟩ := follows_run_bind_ok_iff.1 hendpoint
  obtain ⟨rfl, hreturn⟩ := follows_run_pure_iff.1 hpure
  obtain rfl := Except.ok.inj hreturn
  obtain ⟨rfl, hprinted⟩ := follows_run_mk_pure_iff.1 hlast
  refine ⟨listing, nodes, first, o, e, _, rfl, hlisting.symm, hfirst.symm, ?_, hprinted.symm⟩
  rw [List.append_nil, List.append_nil]
  exact hexternal

theorem hostServer_inj {j k : Nat} (h : Kubeconfig.hostServer j = Kubeconfig.hostServer k) :
    j = k := by
  unfold Kubeconfig.hostServer at h
  exact toString_nat_inj ((String.append_right_inj _).1 h)

/-- **The servers in the two credentials.** An engine answers every command as it always does, a
cluster is started, and its credentials are printed. Then the file that the start has written names
the port at which the node's API server is published, and so does what is printed unless a desktop
engine tells of an endpoint: then it names that endpoint's port. So the two name the same server
just if a desktop engine tells of no other port, and then they are the same text. -/
theorem servers_of_steady {report : Status} {ctx ctx' : Context} {u : History} {printed : String}
    (known : ∀ nodes, ctx.known = some nodes →
      c.nodesIn (reply (c.nodeListing ctx.clusterName)) = .ok nodes)
    (started : Follows ((start (.ofContainers c)).run ctx :
      Routine (Except Fault Unit × Context)) t (.ok (), ctx'))
    (asked : Follows (Manager.kubeconfig ⟨.ofContainers c, report⟩ ctx.clusterName false).run u
      (.ok printed))
    (ht : Steady reply t) (hu : Steady reply u) :
    ∃ (nodes : List Node) (node : Node) (host : String) (port : Port) (told : Option Endpoint)
      (written server : String),
      c.nodesIn (reply (c.nodeListing ctx.clusterName)) = .ok nodes ∧
      endpointNode nodes = .ok node ∧
      node.portIn apiServerPort (reply (node.portInspection apiServerPort)) = .ok (host, port) ∧
      desktopIn node (reply (c.desktopInspection node)) = .ok told ∧
      ⟨.writeFile ctx.kubeconfigPath (encode written), .ok ()⟩ ∈ t ∧
      Kubeconfig.PointsAt ctx.clusterName (Kubeconfig.hostServer port.toNat) written ∧
      Kubeconfig.PointsAt ctx.clusterName server printed ∧
      (server = Kubeconfig.hostServer port.toNat ↔ ∀ e, told = some e → e.port = port) ∧
      (server = Kubeconfig.hostServer port.toNat → printed = written) := by
  obtain ⟨nodes, port, ⟨node, answer, host, hnode, hasked, hport⟩,
    ⟨first, o, written, hfirst, hread, hwritten, hwrite⟩, hnodes⟩ := saved_of_start started
  have hlisted : c.nodesIn (reply (c.nodeListing ctx.clusterName)) = .ok nodes := by
    rcases hnodes with hk | ⟨-, listing, hmem, hlisting⟩
    · exact known nodes hk
    · rw [← ht.result hmem, hlisting]
  obtain ⟨listing, nodes', first', o', e, rest, rfl, hlisting, hfirst', hexternal, hprinted⟩ :=
    printed_of_kubeconfig asked
  obtain rfl : nodes = nodes' := by
    rw [hu.result List.mem_cons_self, hlisted] at hlisting
    exact Except.ok.inj hlisting
  obtain rfl : first = first' := Except.ok.inj (hfirst.symm.trans hfirst')
  obtain rfl : o = o' := by
    have hagain := hu.result (List.mem_cons_of_mem _ List.mem_cons_self)
    exact Except.ok.inj ((ht.result hread).trans hagain.symm)
  obtain ⟨again, labels, nodes', node', told, rest, rfl, hagain, hnode', htold, hcases⟩ :=
    follows_externalEndpoint_ok hexternal
  have hlisting : again = reply (c.nodeListing ctx.clusterName) := hu.result (by simp)
  obtain rfl : nodes = nodes' := by
    rw [hlisting, hlisted] at hagain
    exact Except.ok.inj hagain
  obtain rfl : node = node' := Except.ok.inj (hnode.symm.trans hnode')
  have hlabels : labels = reply (c.desktopInspection node) := hu.result (by simp)
  rw [ht.result hasked] at hport
  rw [hlabels] at htold
  have hagree : e.port = port ↔ ∀ e', told = some e' → e'.port = port := by
    cases told with
    | some endpoint =>
      obtain rfl := hcases
      simp
    | none =>
      obtain ⟨answer', rfl, hbinding⟩ := hcases
      have hanswer : answer' = reply (node.portInspection apiServerPort) := hu.result (by simp)
      rw [hanswer, hport] at hbinding
      have hsame := (Prod.mk.inj (Except.ok.inj hbinding)).2
      simp [hsame]
  have hserver : Kubeconfig.hostServer e.port.toNat = Kubeconfig.hostServer port.toNat ↔
      e.port = port := by
    refine ⟨fun h => UInt16.toNat_inj.1 (hostServer_inj h), fun h => by rw [h]⟩
  refine ⟨nodes, node, host, port, told, written, _, hlisted, hnode, hport, htold, hwrite,
    Kubeconfig.pointsAt_of_redirect hwritten, Kubeconfig.pointsAt_of_redirect hprinted,
    hserver.trans hagree, fun h => ?_⟩
  rw [h, hwritten] at hprinted
  exact (Except.ok.inj hprinted).symm

/-! ## A desktop engine -/

/-- What a desktop engine answers about a cluster of one node: the API server is published at port
39999, and the desktop tells of port 45678. -/
def desktopReply (c : Command) : Except RuntimeFault Output :=
  match c.args with
  | "ps" :: _ => .ok (.ofText "d-control-plane\tcontrol-plane\n")
  | ["inspect", _, format, _] =>
    .ok (.ofText (if format = desktopFormat then "127.0.0.1:45678\n" else "127.0.0.1\t39999\n"))
  | ["exec", _, "cat", path] =>
    .ok (.ofText (if path = versionFilePath then "v1.29.2\n"
      else "clusters: [\x7bname: d, cluster: \x7b\x7d\x7d]"))
  | _ => .ok {}

/-- What the start of that cluster begins with. -/
def desktopContext : Context where
  clusterName := "d"
  kubeconfigPath := "config"
  spec := { name := "d", nodes := [], networking := .ofFamily .ipv4, network := "kind" }
  token := "abcdef.0123456789abcdef"

/-- The start of that cluster. -/
def desktopStart : History × Except Fault Unit × Context :=
  ((start (.ofContainers {})).run desktopContext : Routine (Except Fault Unit × Context)).play
    (answering desktopReply)

/-- The printing of its credentials. -/
def desktopPrint : History × Except Fault String :=
  (Manager.kubeconfig ⟨.ofContainers {}, .silent⟩ "d" false).run.play (answering desktopReply)

/-- The credentials of that cluster, pointed at a server. -/
def desktopCredentials (server : String) : String :=
  "clusters:\n- name: d\n  cluster:\n    server: " ++ server ++ "\n"

/-- What has been written into files. -/
def writtenIn (t : History) : List (String × Bytes) :=
  t.filterMap fun x => match x with
    | ⟨.writeFile path contents, .ok ()⟩ => some (path, contents)
    | _ => none

theorem desktopStart_ok : desktopStart.2.1 = .ok () := eq_ok_of_toOption (by decide +kernel)

theorem desktopStart_writes : writtenIn desktopStart.1 =
    [("config", encode (desktopCredentials "https://localhost:39999"))] := by
  decide +kernel

theorem desktopPrint_ok : desktopPrint.2 = .ok (desktopCredentials "https://localhost:45678") :=
  eq_ok_of_toOption (by decide +kernel)

theorem desktop_servers : ∃ (port : Port) (told : Option Endpoint) (written server : String),
    ⟨.writeFile "config" (encode written), .ok ()⟩ ∈ desktopStart.1 ∧
    Kubeconfig.PointsAt "d" (Kubeconfig.hostServer port.toNat) written ∧
    Kubeconfig.PointsAt "d" server (desktopCredentials "https://localhost:45678") ∧
    (server = Kubeconfig.hostServer port.toNat ↔ ∀ e, told = some e → e.port = port) := by
  have started : Follows
      ((start (.ofContainers {})).run desktopContext : Routine (Except Fault Unit × Context))
      desktopStart.1 (.ok (), desktopStart.2.2) := by
    rw [← desktopStart_ok, Prod.eta]
    exact follows_play _ _
  have asked : Follows (Manager.kubeconfig ⟨.ofContainers {}, .silent⟩ "d" false).run
      desktopPrint.1 (.ok (desktopCredentials "https://localhost:45678")) := by
    rw [← desktopPrint_ok]
    exact follows_play _ _
  have hfresh : ∀ nodes, desktopContext.known = some nodes →
      Containers.nodesIn {} (desktopReply (nodeListing {} "d")) = .ok nodes := nofun
  obtain ⟨nodes, node, host, port, told, written, server, -, -, -, -, hwrite, hwritten, hprinted,
    hagree, -⟩ := servers_of_steady hfresh started asked (steady_play _) (steady_play _)
  exact ⟨port, told, written, server, hwrite, hwritten, hprinted, hagree⟩

/-- **The two credentials can name different servers**, although every command is answered as it
always is. -/
theorem desktop_servers_differ :
    Follows ((start (.ofContainers {})).run desktopContext : Routine (Except Fault Unit × Context))
      desktopStart.1 desktopStart.2 ∧
    Follows (Manager.kubeconfig ⟨.ofContainers {}, .silent⟩ "d" false).run
      desktopPrint.1 desktopPrint.2 ∧
    Steady desktopReply desktopStart.1 ∧ Steady desktopReply desktopPrint.1 ∧
    desktopStart.2.1 = .ok () ∧ writtenIn desktopStart.1 =
      [("config", encode (desktopCredentials "https://localhost:39999"))] ∧
    desktopPrint.2 = .ok (desktopCredentials "https://localhost:45678") :=
  ⟨follows_play _ _, follows_play _ _, steady_play _, steady_play _, desktopStart_ok,
    desktopStart_writes, desktopPrint_ok⟩

end LocalCluster.Cluster
