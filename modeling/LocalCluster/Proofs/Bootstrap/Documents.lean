import LocalCluster.Proofs.Cluster.Credentials

/-!
# The documents of a cluster agree

Every node that kubeadm manages is given documents of its own. They differ in the name of the node
and in what a control plane adds; all else is said to every node in the same way, and the endpoint
that they name is the one that credentials are pointed at among the nodes.

* `Value.at?`, `Value.textAt?`: what stands in a document under several keys, each in the one
  before.
* `Command.written?`, `writesOf`: the files that commands write in containers.
* `Tells`, `Documented`: what the documents of a node say; **`documented_of_render`**.
* **`configure_hands`**: the configuration of every node that kubeadm manages is written once.
* `ListsAs`: listings that tell of the same nodes; `internalEndpoint_of_listed`,
  `pointsAt_of_internal`: the endpoint among the nodes, and the credentials that name it.
* **`configuration_agrees`**: the documents of a cluster agree with each other and with these.
-/

namespace LocalCluster

open LocalCluster.Container LocalCluster.Text LocalCluster.Yaml Script

/-! ## What is looked up and written -/

/-- What stands in a document under these keys, each inside the one before. -/
def Yaml.Value.at? : List String → Value → Option Value
  | [], v => some v
  | key :: path, v => v.entry? key >>= Value.at? path

/-- The text that stands there. -/
def Yaml.Value.textAt? (path : List String) (v : Value) : Option String :=
  (v.at? path).bind Value.text?

/-- The container and the contents of a file of this path that a command writes there. -/
def Container.Command.written? (path : String) (c : Command) : Option (String × Bytes) :=
  match c.inside?, c.stdin with
  | some (container, argv), some contents =>
    if argv = ["cp", "/dev/stdin", path] then some (container, contents) else none
  | _, _ => none

/-- The files of this path that are written in containers, in order: the container, the contents,
and whether that succeeded. -/
def writesOf (path : String) (past : List Executed) : List (String × Bytes × Bool) :=
  past.filterMap fun e => (e.command.written? path).map fun (container, contents) =>
    (container, contents, e.result.isOk)

@[simp] theorem writesOf_append {path : String} {past more : List Executed} :
    writesOf path (past ++ more) = writesOf path past ++ writesOf path more :=
  List.filterMap_append

namespace Cluster

variable {n : Node} {path : String} {t : List (Exchange Request Request.Answer)}

theorem written?_writing {contents : Bytes} :
    (n.writing path contents).written? path = some (n.name, contents) := by
  rw [Command.written?, Node.writing, inside?_execution]
  exact if_pos rfl

theorem writesOf_outside {path : String} {past : List Executed}
    (h : ∀ e ∈ past, e.command.inside? = none) : writesOf path past = [] := by
  refine List.filterMap_eq_nil_iff.2 fun e he => ?_
  rw [Command.written?, h e he]
  rfl

theorem writesOf_writing {path : String} {contents : Bytes}
    {result : Except RuntimeFault Output} {past : List Executed} :
    writesOf path (⟨n.writing path contents, result⟩ :: past) =
      (n.name, contents, result.isOk) :: writesOf path past := by
  simp only [writesOf, List.filterMap_cons, written?_writing, Option.map_some]

theorem writesOf_running {path : String} {argv : List String}
    {result : Except RuntimeFault Output} {past : List Executed} :
    writesOf path (⟨n.running argv, result⟩ :: past) = writesOf path past := rfl

theorem writesOf_store_ok {contents : Bytes}
    (h : Follows (n.store path contents).run t (.ok ())) :
    writesOf path (commandsOf t) = [(n.name, contents, true)] := by
  obtain ⟨before, o, rfl, hbefore⟩ := follows_store_ok h
  have hnone : writesOf path (commandsOf before) = [] := by
    refine List.filterMap_eq_nil_iff.2 fun e he => ?_
    obtain ⟨argv, answer, hx⟩ := hbefore _ (mem_commandsOf.1 he)
    rw [Request.command.inj (Exchange.mk.inj hx).1]
    rfl
  rw [commandsOf_append, writesOf_append, hnone]
  exact writesOf_writing

theorem writesOf_versionText_ok {text : String} (h : Follows n.versionText.run t (.ok text)) :
    writesOf path (commandsOf t) = [] := by
  obtain ⟨raw, t₁, t₂, rfl, hfetch, hread⟩ := follows_run_bind_ok_iff.1 h
  obtain ⟨o, rfl, -⟩ := follows_fetch_ok_iff.1 hfetch
  obtain ⟨rfl, -⟩ := follows_run_mk_pure_iff.1 hread
  rfl

end Cluster

namespace Cluster.Bootstrap

open Cluster.Containers

/-! ## What the documents say -/

/-- The tokens that a document about starting a cluster lets nodes join with. -/
def tokensIn (init : Value) : Option (List (Option String)) :=
  ((init.at? ["bootstrapTokens"]).bind Value.items?).map (List.map (Value.textAt? ["token"]))

/-- What the documents of a node say, by the keys in them. Only the name and the role of the node
differ from node to node. -/
structure Tells (s : Spec) (token : String) (v : Version) (endpoint : String) (n : Node)
    (cluster init join : Value) : Prop where
  kinds : [cluster, init, join].map (Value.textAt? ["kind"]) =
    [some "ClusterConfiguration", some "InitConfiguration", some "JoinConfiguration"]
  apiVersion : ∀ doc ∈ [cluster, init, join],
    doc.textAt? ["apiVersion"] = some (Kubeadm.apiVersion v)
  clusterName : cluster.textAt? ["clusterName"] = some s.name
  kubernetes : cluster.textAt? ["kubernetesVersion"] = some v.display
  podSubnet : cluster.textAt? ["networking", "podSubnet"] = some s.networking.podSubnet
  serviceSubnet : cluster.textAt? ["networking", "serviceSubnet"] = some s.networking.serviceSubnet
  reached : cluster.textAt? ["controlPlaneEndpoint"] = some endpoint
  found : join.textAt? ["discovery", "bootstrapToken", "apiServerEndpoint"] = some endpoint
  tokens : tokensIn init = some [some token]
  joinToken : join.textAt? ["discovery", "bootstrapToken", "token"] = some token
  named : ∀ doc ∈ [init, join], doc.textAt? ["nodeRegistration", "name"] = some n.name
  joins : (join.at? ["controlPlane"]).isSome ↔ n.role = .controlPlane

/-- The text is that of three documents which say so. -/
def Documented (s : Spec) (token : String) (v : Version) (endpoint : String) (n : Node)
    (text : String) : Prop :=
  ∃ (cluster init join : Value) (texts : List String),
    [cluster, init, join].mapM Value.print? = some texts ∧ text = Text.join "---\n" texts ∧
    Tells s token v endpoint n cluster init join

section

variable (p : Kubeadm.Params)

open Kubeadm.Params

theorem entry?_fields {entries : List (String × Value)} {key : String} :
    Value.entry? key (fields entries) = entries.lookup key := by
  change Value.lookup? key (entries.map fun entry => (.string entry.1, entry.2)) = _
  induction entries with
  | nil => rfl
  | cons entry rest ih =>
    obtain ⟨k, value⟩ := entry
    have hkey : (Value.string k).isKey key = (key == k) := Bool.beq_comm
    rw [List.lookup_cons, ← ih, List.map_cons, Value.lookup?, hkey]
    cases key == k <;> rfl

/-- The documents of a node say what it is to be told. -/
theorem tells_documents {n : Node} (hname : n.name = p.nodeName) (hrole : n.role = p.role) :
    Tells p.spec p.token p.version p.controlPlaneEndpoint n
      p.clusterDocument p.initDocument p.joinDocument := by
  -- a document about joining has an entry more in a control plane
  by_cases hr : p.role = .controlPlane <;> constructor <;>
    simp [Value.textAt?, Value.at?, tokensIn, entry?_fields, clusterDocument, initDocument,
      joinDocument, discovery, registration, List.lookup_cons, Value.text?, Value.bare,
      Value.items?, hname, hrole, hr]

/-- **A text that has been rendered for a node says what the node is to be told.** -/
theorem documented_of_render {n : Node} {text : String} (hname : n.name = p.nodeName)
    (hrole : n.role = p.role) (h : p.render = .ok text) :
    Documented p.spec p.token p.version p.controlPlaneEndpoint n text := by
  unfold render at h
  split at h
  · next texts htexts =>
    obtain rfl := Except.ok.inj h
    exact ⟨_, _, _, texts, htexts, rfl, tells_documents p hname hrole⟩
  · cases h

end

/-! ## What is handed out -/

variable {s : Spec} {token path name : String} {nodes : List Node} {ctx ctx' : Context}
variable {v : Version} {node endpoint : Node} {p : Provider} {c : Containers} {t u : History}

/-- The nodes that kubeadm manages. -/
def managed (nodes : List Node) : List Node := nodes.filter (·.role ≠ .externalLoadBalancer)

/-- These nodes have been given their configuration, each once and no other node, and of the context
at most the version has been found out. -/
structure Handed (ctx : Context) (v : Version) (endpoint : Node) (text : Node → String)
    (done : List Node) (ctx' : Context) (h : History) : Prop where
  context : ctx' = { ctx with version := some v }
  rendered : ∀ n ∈ done, (kubeadmParams ctx v endpoint n).render = .ok (text n)
  written : writesOf kubeadmConfigPath (commandsOf h) =
    done.map fun n => (n.name, encode (text n), true)

theorem version_leads (n : Node) : (version n).Leads (fun _ _ => True)
    (fun ctx' h => ctx' = ctx ∧ h = []) fun v ctx' h => ctx' = { ctx with version := some v } ∧
      writesOf kubeadmConfigPath (commandsOf h) = [] := by
  refine .see_bind fun seen => ?_
  split
  · next v hv =>
    refine .pure fun ctx' h => ?_
    rintro ⟨rfl, rfl, rfl⟩
    refine ⟨?_, rfl⟩
    rw [← hv]
  · have hread : (Action.ofWork n.versionText).Leads (fun _ _ => True)
        (fun ctx' h => seen = ctx' ∧ ctx' = ctx ∧ h = [])
        fun _ ctx' h => ctx' = ctx ∧ writesOf kubeadmConfigPath (commandsOf h) = [] := by
      refine .ofFollows fun ctx' past t text => ?_
      rintro ⟨-, rfl, rfl⟩ ht
      exact ⟨rfl, writesOf_versionText_ok ht⟩
    refine hread.bind fun text => .check_bind fun v _ => ?_
    have hknown : (remember fun ctx => { ctx with version := some v }).Leads (fun _ _ => True)
        (fun ctx' h => ctx' = ctx ∧ writesOf kubeadmConfigPath (commandsOf h) = [])
        fun _ ctx' h => ctx' = { ctx with version := some v } ∧
          writesOf kubeadmConfigPath (commandsOf h) = [] := by
      refine .remember fun ctx' h => ?_
      rintro ⟨rfl, hwrites⟩
      exact ⟨rfl, hwrites⟩
    exact hknown.bind fun _ => .pure fun _ _ hp => hp

/-- Every node that kubeadm manages is given what is rendered for it. -/
theorem handing_leads (text : Node → String)
    (htext : ∀ n config, (kubeadmParams ctx v endpoint n).render = .ok config → config = text n) :
    (nodes.forM fun n => do
      let config ← check (kubeadmParams ctx v endpoint n).render
      during ("failed to copy kubeadm config to node " ++ n.name)
        (n.store kubeadmConfigPath (encode config)) : Action Unit).Leads (fun _ _ => True)
      (Handed ctx v endpoint text []) fun _ => Handed ctx v endpoint text nodes := by
  refine .forM (Handed ctx v endpoint text) fun before n after _ => ?_
  refine .check_bind fun config hconfig => .during (.ofFollows ?_)
  obtain rfl := htext n config hconfig
  rintro ctx' past t ⟨⟩ hp ht
  refine ⟨hp.context, fun m hm => ?_, ?_⟩
  · rcases List.mem_append.1 hm with hm | hm
    · exact hp.rendered m hm
    · obtain rfl := List.mem_singleton.1 hm
      exact hconfig
  · rw [commandsOf_append, writesOf_append, hp.written, writesOf_store_ok ht, List.map_append]
    rfl

/-- **The configuration of every node that kubeadm manages is written once**, and no other. -/
theorem configure_hands (hknown : ctx.known = some nodes) :
    (configure p).Leads (fun _ _ => True) (fun ctx' h => ctx' = ctx ∧ h = [])
      fun _ ctx' h => ∃ v endpoint text, endpointNode nodes = .ok endpoint ∧
        Handed ctx v endpoint text (managed nodes) ctx' h := by
  refine .nodes_bind (fun ctx' h hp => hp.1 ▸ hknown) (.check_bind fun first _ => ?_)
  refine (Action.Leads.during (version_leads first)).bind fun v => ?_
  refine .check_bind fun endpoint hendpoint => .see_bind fun seen => ?_
  -- what is rendered hangs on the node alone
  let text : Node → String := fun n => match (kubeadmParams ctx v endpoint n).render with
    | .ok config => config
    | .error _ => ""
  have htext : ∀ n config, (kubeadmParams ctx v endpoint n).render = .ok config →
      config = text n := fun n config h => by simp only [text, h]
  intro ctx' h
  rintro ⟨rfl, rfl, hwrites⟩
  have hbegun : Handed ctx v endpoint text [] { ctx with version := some v } h :=
    ⟨rfl, by simp, by simpa using hwrites⟩
  exact (handing_leads text htext _ h hbegun).imp fun _ _ hp x hx =>
    ⟨v, endpoint, text, hendpoint, hp x hx⟩

theorem handed_of_configure
    (h : Follows ((configure p).run ctx : Routine (Except Fault Unit × Context)) t (.ok (), ctx')) :
    ∃ nodes v endpoint text listing rest, t = listing ++ rest ∧
      (ctx.known = some nodes ∧ listing = [] ∨
        ctx.known = none ∧ Follows (p.listNodes ctx.clusterName).run listing (.ok nodes)) ∧
      endpointNode nodes = .ok endpoint ∧
      Handed { ctx with known := some nodes } v endpoint text (managed nodes) ctx' rest := by
  have hhands : ∀ {ctx : Context} {nodes : List Node} {t : History}, ctx.known = some nodes →
      Follows ((configure p).run ctx : Routine (Except Fault Unit × Context)) t (.ok (), ctx') →
      ∃ v endpoint text, endpointNode nodes = .ok endpoint ∧
        Handed ctx v endpoint text (managed nodes) ctx' t :=
    fun hk h => ((configure_hands (p := p) hk _ [] ⟨rfl, rfl⟩).sound h).1 () rfl
  cases hk : ctx.known with
  | some nodes =>
    obtain ⟨v, endpoint, text, hendpoint, hgiven⟩ := hhands hk h
    refine ⟨nodes, v, endpoint, text, [], t, rfl, .inl ⟨rfl, rfl⟩, hendpoint, ?_⟩
    rwa [← hk]
  | none =>
    rw [configure, run_nodes_bind_listed hk] at h
    obtain ⟨listed, t₁, t₂, rfl, hlist, hrest⟩ := follows_bind_iff.1 h
    cases listed with
    | error fault =>
      obtain ⟨-, he⟩ := follows_pure_iff.1 hrest
      cases he
    | ok nodes =>
      obtain ⟨v, endpoint, text, hendpoint, hgiven⟩ := hhands rfl hrest
      exact ⟨nodes, v, endpoint, text, t₁, t₂, rfl, .inr ⟨rfl, hlist⟩, hendpoint, hgiven⟩

/-! ## The endpoint among the nodes -/

/-- Whenever the nodes of a cluster are listed, these are found. -/
def ListsAs (c : Containers) (name : String) (nodes : List Node) (t : History) : Prop :=
  ∀ e ∈ commandsOf t, e.command = c.nodeListing name → c.nodesIn e.result = .ok nodes

theorem ListsAs.nodesIn {listing : Except RuntimeFault Output}
    (h : ListsAs c name nodes t) (hmem : ⟨.command (c.nodeListing name), listing⟩ ∈ t) :
    c.nodesIn listing = .ok nodes :=
  h ⟨_, listing⟩ (mem_commandsOf.2 hmem) rfl

/-- The endpoint of a cluster among its nodes is the node through which it is reached. -/
theorem internalEndpoint_of_listed (hnode : endpointNode nodes = .ok node)
    {r : Except Fault Endpoint} (h : Follows (c.internalEndpoint name).run u r)
    (hlists : ListsAs c name nodes u) : r = .ok ⟨node.name, apiServerPort⟩ := by
  have hchosen : ∀ {u : History} {r : Except Fault Node}, ListsAs c name nodes u →
      Follows (c.endpointNodeOf name).run u r → r = .ok node := by
    intro u r hlists h
    obtain ⟨fault, hlist, -⟩ | ⟨found, t₁, t₂, rfl, hlist, hpick⟩ := follows_run_bind_iff.1 h
    · obtain ⟨listing, rfl, hlisting⟩ := follows_listNodes_iff.1 hlist
      rw [hlists.nodesIn List.mem_cons_self] at hlisting
      cases hlisting
    · obtain ⟨listing, rfl, hlisting⟩ := follows_listNodes_iff.1 hlist
      rw [hlists.nodesIn (by simp)] at hlisting
      obtain rfl := Except.ok.inj hlisting
      obtain ⟨r₀, hpicked, rfl⟩ := follows_during_iff.1 hpick
      obtain ⟨-, rfl⟩ := follows_run_mk_pure_iff.1 hpicked
      rw [hnode]
      rfl
  obtain ⟨fault, hchoose, -⟩ | ⟨found, t₁, t₂, rfl, hchoose, hlast⟩ := follows_run_bind_iff.1 h
  · cases hchosen hlists hchoose
  · obtain ⟨rfl, rfl⟩ := follows_run_pure_iff.1 hlast
    rw [List.append_nil] at hlists
    cases hchosen hlists hchoose
    rfl

theorem pointsAt_of_internal (hnode : endpointNode nodes = .ok node) {report : Status}
    {printed : String}
    (h : Follows (Manager.kubeconfig ⟨.ofContainers c, report⟩ name true).run u (.ok printed))
    (hlists : ListsAs c name nodes u) : Kubeconfig.PointsAt name
      ("https://" ++ (Endpoint.mk node.name apiServerPort).display) printed := by
  obtain ⟨_, t₁, t₂, rfl, hlist, hrest⟩ := follows_run_bind_ok_iff.1 h
  obtain ⟨first, t₃, t₄, rfl, -, hraw⟩ := follows_run_bind_ok_iff.1 hrest
  obtain ⟨raw, t₅, t₆, rfl, -, hserver⟩ := follows_run_bind_ok_iff.1 hraw
  obtain ⟨server, t₇, t₈, rfl, hendpoint, hlast⟩ := follows_run_bind_ok_iff.1 hserver
  obtain ⟨e, t₉, t₁₀, rfl, hinternal, hpure⟩ := follows_run_bind_ok_iff.1 hendpoint
  obtain ⟨-, hreturn⟩ := follows_run_pure_iff.1 hpure
  obtain ⟨-, hprinted⟩ := follows_run_mk_pure_iff.1 hlast
  have hsub : commandsOf t₉ ⊆ commandsOf (t₁ ++ (t₃ ++ (t₅ ++ (t₉ ++ t₁₀ ++ t₈)))) := by
    intro e he
    simp [he]
  have he := internalEndpoint_of_listed hnode hinternal fun e he => hlists e (hsub he)
  obtain rfl := Except.ok.inj he
  obtain rfl := Except.ok.inj hreturn
  exact Kubeconfig.pointsAt_of_redirect hprinted.symm

/-- What the steps for a specification share, whatever of the version and the nodes is known. -/
def contextOf (s : Spec) (path token : String) (version : Option Version)
    (known : Option (List Node)) : Context :=
  { clusterName := s.name, kubeconfigPath := path, spec := s, token, version, known }

/-- **The documents of a cluster agree.** When its configuration has been written, it has been
written once to each node that kubeadm manages and to no other, and what these nodes are told
differs in their names and roles only. The endpoint that it names is the one that the cluster has
among its nodes, which the credentials for use there name; and the cluster is named as it is looked
up in the credentials, there and at the start. -/
theorem configuration_agrees {known : Option (List Node)} {seen : Option Version}
    (h : Follows ((configure p).run (contextOf s path token seen known) :
      Routine (Except Fault Unit × Context)) t (.ok (), ctx')) :
    ∃ (nodes : List Node) (node : Node) (v : Version) (text : Node → String)
      (listing rest : History),
      t = listing ++ rest ∧
      (known = some nodes ∧ listing = [] ∨
        known = none ∧ Follows (p.listNodes s.name).run listing (.ok nodes)) ∧
      ctx' = contextOf s path token (some v) (some nodes) ∧
      endpointNode nodes = .ok node ∧
      writesOf kubeadmConfigPath (commandsOf rest) =
        (nodes.filter (·.role ≠ .externalLoadBalancer)).map
          (fun n => (n.name, encode (text n), true)) ∧
      (∀ n ∈ nodes, n.role ≠ .externalLoadBalancer →
        Documented s token v (Endpoint.mk node.name apiServerPort).display n (text n)) ∧
      (∀ c u r, Follows (Containers.internalEndpoint c s.name).run u r →
        ListsAs c s.name nodes u → r = .ok ⟨node.name, apiServerPort⟩) ∧
      (∀ c report u printed,
        Follows (Manager.kubeconfig ⟨.ofContainers c, report⟩ s.name true).run u (.ok printed) →
        ListsAs c s.name nodes u → Kubeconfig.PointsAt s.name
          ("https://" ++ (Endpoint.mk node.name apiServerPort).display) printed) ∧
      (∀ c u last, Follows ((start (.ofContainers c)).run ctx' :
        Routine (Except Fault Unit × Context)) u (.ok (), last) →
        ∃ port, Saved nodes s.name path port u) := by
  obtain ⟨nodes, v, node, text, listing, rest, rfl, hlisted, hnode, hgiven⟩ :=
    handed_of_configure h
  refine ⟨nodes, node, v, text, listing, rest, rfl, hlisted, hgiven.context, hnode,
    hgiven.written, fun n hn hr => ?_, fun c u r => internalEndpoint_of_listed hnode,
    fun c report u printed => pointsAt_of_internal hnode, fun c u last hstart => ?_⟩
  · exact documented_of_render _ rfl rfl
      (hgiven.rendered n (List.mem_filter.2 ⟨hn, by simpa using hr⟩))
  · obtain ⟨nodes', port, -, hsaved, hk⟩ := saved_of_start hstart
    obtain rfl : nodes = nodes' := by simpa [hgiven.context] using hk
    exact ⟨port, by simpa [hgiven.context, contextOf] using hsaved⟩

def wideFirst : Node := ⟨"w-control-plane", .controlPlane, {}⟩

def wideSecond : Node := ⟨"w-control-plane2", .controlPlane, {}⟩

def wideBalancer : Node := ⟨"w-external-load-balancer", .externalLoadBalancer, {}⟩

def wideWorker : Node := ⟨"w-worker", .worker, {}⟩

/-- The nodes of a cluster with a load balancer, as they are listed. -/
def wideNodes : List Node := [wideFirst, wideSecond, wideBalancer, wideWorker]

/-- The specification of that cluster. -/
def wideSpec : Spec where
  name := "w"
  nodes := []
  networking := .ofFamily .ipv4
  network := "kind"

/-- The token with which its nodes join. -/
def wideToken : String := "abcdef.0123456789abcdef"

/-- What is replied to commands there: the engine lists the containers in an order of its own. -/
def wideReply (c : Command) : Except RuntimeFault Output :=
  match c.args with
  | "ps" :: _ =>
    .ok (.ofText ("w-worker\tworker\nw-external-load-balancer\texternal-load-balancer\n" ++
      "w-control-plane2\tcontrol-plane\nw-control-plane\tcontrol-plane\n"))
  | ["inspect", _, _, _] => .ok (.ofText "127.0.0.1\t39999\n")
  | ["exec", _, "cat", path] =>
    .ok (.ofText (if path = versionFilePath then "v1.29.2\n"
      else "clusters: [\x7bname: w, cluster: \x7b\x7d\x7d]"))
  | _ => .ok {}

/-- The writing of its configuration. -/
def wideConfiguration : History × Except Fault Unit × Context :=
  ((configure (.ofContainers {})).run (contextOf wideSpec "config" wideToken none none) :
    Routine (Except Fault Unit × Context)).play (answering wideReply)

/-- The start of that cluster, once its configuration has been written. -/
def wideStart : History × Except Fault Unit × Context :=
  ((start (.ofContainers {})).run wideConfiguration.2.2 :
    Routine (Except Fault Unit × Context)).play (answering wideReply)

/-- The look-up of its endpoint among its nodes. -/
def wideEndpoint : History × Except Fault Endpoint :=
  (Containers.internalEndpoint {} "w").run.play (answering wideReply)

/-- The printing of its credentials for use among its nodes. -/
def widePrint : History × Except Fault String :=
  (Manager.kubeconfig ⟨.ofContainers {}, .silent⟩ "w" true).run.play (answering wideReply)

/-- These credentials. -/
def wideCredentials : String :=
  "clusters:\n- name: w\n  cluster:\n    server: https://w-external-load-balancer:6443\n"

theorem wideConfiguration_ok : wideConfiguration.2.1 = .ok () :=
  eq_ok_of_toOption (by decide +kernel)

theorem wideConfiguration_version : wideConfiguration.2.2.version = some ⟨1, 29, 2⟩ := by
  decide +kernel

theorem wideConfiguration_known : wideConfiguration.2.2.known = some wideNodes := by
  decide +kernel

theorem wideStart_ok : wideStart.2.1 = .ok () := eq_ok_of_toOption (by decide +kernel)

theorem widePrint_ok : widePrint.2 = .ok wideCredentials := eq_ok_of_toOption (by decide +kernel)

theorem wide_listsAs {u : History} (h : Steady wideReply u) : ListsAs {} "w" wideNodes u := by
  intro e he hcommand
  rw [h e he, hcommand]
  exact eq_ok_of_toOption (by decide +kernel)

theorem wide_agree :
    (∃ (text : Node → String) (rest : History), rest <:+ wideConfiguration.1 ∧
      writesOf kubeadmConfigPath (commandsOf rest) =
        [("w-control-plane", encode (text wideFirst), true),
          ("w-control-plane2", encode (text wideSecond), true),
          ("w-worker", encode (text wideWorker), true)] ∧
      ∀ n ∈ wideNodes, n.role ≠ .externalLoadBalancer →
        Documented wideSpec wideToken ⟨1, 29, 2⟩ "w-external-load-balancer:6443" n (text n)) ∧
    wideEndpoint.2 = .ok ⟨"w-external-load-balancer", 6443⟩ ∧
    Kubeconfig.PointsAt "w" "https://w-external-load-balancer:6443" wideCredentials ∧
    ∃ port, Saved wideNodes "w" "config" port wideStart.1 := by
  have h : Follows ((configure (.ofContainers {})).run
      (contextOf wideSpec "config" wideToken none none) : Routine (Except Fault Unit × Context))
      wideConfiguration.1 (.ok (), wideConfiguration.2.2) := by
    rw [← wideConfiguration_ok, Prod.eta]
    exact follows_play _ _
  have hstart : Follows ((start (.ofContainers {})).run wideConfiguration.2.2 :
      Routine (Except Fault Unit × Context)) wideStart.1 (.ok (), wideStart.2.2) := by
    rw [← wideStart_ok, Prod.eta]
    exact follows_play _ _
  have hprint : Follows (Manager.kubeconfig ⟨.ofContainers {}, .silent⟩ "w" true).run widePrint.1
      (.ok wideCredentials) := by
    rw [← widePrint_ok]
    exact follows_play _ _
  obtain ⟨nodes, node, v, text, listing, rest, ht, -, hctx, hnode, hwrites, hsays, hendpoint,
    hpoints, hsaved⟩ := configuration_agrees h
  obtain rfl : nodes = wideNodes := by
    simpa [contextOf, wideConfiguration_known] using (congrArg Context.known hctx).symm
  obtain rfl : v = ⟨1, 29, 2⟩ := by
    simpa [contextOf, wideConfiguration_version] using (congrArg Context.version hctx).symm
  obtain rfl : node = wideBalancer :=
    Except.ok.inj (hnode.symm.trans (eq_ok_of_toOption (by decide +kernel)))
  refine ⟨⟨text, rest, ⟨listing, ht.symm⟩, hwrites, hsays⟩, ?_, ?_, hsaved _ _ _ hstart⟩
  · exact hendpoint {} _ _ (follows_play _ _) (wide_listsAs (steady_play _))
  · exact hpoints {} .silent _ _ hprint (wide_listsAs (steady_play _))

end Cluster.Bootstrap

end LocalCluster
