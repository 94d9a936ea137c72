import LocalCluster.Proofs.Cluster.Bindings
import LocalCluster.Proofs.Cluster.Parts
import LocalCluster.Proofs.Cluster.Proxies
import LocalCluster.Proofs.Container.Grammar

/-!
# What planned containers say

The argument vectors of a plan, taken apart by the grammar, say of each container what its node and
its cluster were wished to be: nothing is lost, and no text of a user becomes an option.

* `Depiction`, `Depicts`: what an argument vector says of a container; **`Depicts.iff`**: it says
  one thing only.
* `nodeItems`, `balancerItems`: the options of planned containers; `written_nodeCreation`,
  `written_balancerCreation`: they are written in the grammar.
* `nodeDepiction`, `balancerDepiction`; **`shows_node`**, **`shows_balancer`**: what they say.
* **`vectors_depict_nodes`**: what the containers of a planned cluster say.
* `not_mem_of_environment`: the names of proxies that an environment has hold no equals sign.
-/

namespace LocalCluster.Cluster

open LocalCluster.Container LocalCluster.Text Script Plan

/-! ## Depictions -/

/-- What an argument vector says of a container. -/
structure Depiction where
  /-- The options, as they are spelt, in order. -/
  options : List String
  hostname : String
  name : String
  labels : List (String × String)
  mounts : List Mount
  ports : List PortMapping
  environment : List (String × String)
  network : String
  image : String
  deriving DecidableEq, Repr

/-- These options say what the depiction says. -/
structure Shows (items : List Item) (d : Depiction) : Prop where
  options : items.map (·.setting.1) = d.options
  hostname : valuesOf "--hostname" items = [d.hostname]
  name : valuesOf "--name" items = [d.name]
  labels : (valuesOf "--label" items).map (cutAt? '=') = d.labels.map some
  mounts : (valuesOf "--volume=" items).map readMount? = d.mounts.map some
  ports : (valuesOf "--publish=" items).map readBinding? = d.ports.map some
  environment : (valuesOf "-e" items).map (cutAt? '=') = d.environment.map some
  network : valuesOf "--network" items = [d.network]

/-- The argument vector is written in the grammar and says what the depiction says. Reading it from
the left brings these options and this image and no others (`readArgv?_eq_some_iff`). -/
def Depicts (argv : List String) (d : Depiction) : Prop :=
  ∃ items, Written items d.image argv ∧ Shows items d

theorem Shows.unique {items : List Item} {d d' : Depiction} (himage : d.image = d'.image)
    (h : Shows items d) (h' : Shows items d') : d = d' := by
  have hsome : ∀ {α : Type} {xs ys : List α}, xs.map some = ys.map some → xs = ys :=
    fun h => List.map_injective_iff.2 (fun _ _ => Option.some.inj) h
  obtain ⟨options, hostname, name, labels, mounts, ports, environment, network, image⟩ := d
  obtain ⟨options', hostname', name', labels', mounts', ports', environment', network', image'⟩ :=
    d'
  obtain rfl : options = options' := h.options.symm.trans h'.options
  obtain rfl : hostname = hostname' := List.singleton_inj.1 (h.hostname.symm.trans h'.hostname)
  obtain rfl : name = name' := List.singleton_inj.1 (h.name.symm.trans h'.name)
  obtain rfl : labels = labels' := hsome (h.labels.symm.trans h'.labels)
  obtain rfl : mounts = mounts' := hsome (h.mounts.symm.trans h'.mounts)
  obtain rfl : ports = ports' := hsome (h.ports.symm.trans h'.ports)
  obtain rfl : environment = environment' := hsome (h.environment.symm.trans h'.environment)
  obtain rfl : network = network' := List.singleton_inj.1 (h.network.symm.trans h'.network)
  obtain rfl : image = image' := himage
  rfl

/-- **An argument vector says one thing of a container.** -/
theorem Depicts.iff {argv : List String} {d d' : Depiction} (h : Depicts argv d) :
    Depicts argv d' ↔ d' = d := by
  constructor
  · rintro ⟨items', hwritten', hshows'⟩
    obtain ⟨items, hwritten, hshows⟩ := h
    obtain ⟨rfl, himage⟩ := hwritten'.unique hwritten
    exact hshows'.unique himage hshows
  · rintro rfl
    exact h

/-! ## Planned containers -/

variable {s : Spec} {proxies : Settings} {remapped : Bool} {name : String} {n : NodeSpec}
variable {common : List String} {shared : List Item}

/-- The options that all containers share. -/
def sharedItems (s : Spec) (proxies : Settings) (remapped : Bool) : List Item :=
  [.spaced "--label" (clusterLabel ++ "=" ++ s.name)] ++
    (if s.isV6 then
      [.joined "--sysctl" "net.ipv6.conf.all.disable_ipv6=0",
        .joined "--sysctl" "net.ipv6.conf.all.forwarding=1"]
    else []) ++
    proxies.map (fun (name, value) => .spaced "-e" (name ++ "=" ++ value)) ++
    (if remapped then [.joined "--userns" "host"] else [])

theorem readItems?_commonArgs :
    readItems? (commonArgs s proxies remapped) = some (sharedItems s proxies remapped) := by
  refine readItems?_eq_some_iff.2 ⟨?_, ?_⟩
  · simp only [sharedItems, List.forall_mem_append, List.forall_mem_map]
    cases s.isV6 <;> cases remapped <;> simp [Item.Proper, valuedOptions, joinedOptions]
  · cases hv6 : s.isV6 <;> cases remapped <;>
      simp [sharedItems, commonArgs, Item.words, hv6, ipv6Args, RunOption.args,
        List.flatMap_map]

/-- The options of the container of a declared node. -/
def nodeItems (s : Spec) (shared : List Item) (name : String) (n : NodeSpec)
    (published : List PortMapping) : List Item :=
  [.lone "--detach", .lone "--tty", .spaced "--hostname" name, .spaced "--name" name,
    .spaced "--label" (roleLabel ++ "=" ++ n.role.name), .lone "--privileged",
    .spaced "--security-opt" "seccomp=unconfined", .spaced "--security-opt" "apparmor=unconfined",
    .spaced "--tmpfs" "/tmp", .spaced "--tmpfs" "/run", .spaced "--volume" "/var",
    .spaced "--volume" "/lib/modules:/lib/modules:ro"] ++ shared ++
    n.mounts.map (fun m => .joined "--volume" m.binding) ++
    (n.ports ++ published).map (fun p => .joined "--publish" p.binding) ++
    [.spaced "--network" (n.networks.headD s.network)]

/-- The options of the container of a load balancer. -/
def balancerItems (s : Spec) (shared : List Item) (name : String) (port : Port) : List Item :=
  [.lone "--detach", .lone "--tty", .spaced "--hostname" name, .spaced "--name" name,
    .spaced "--label" (roleLabel ++ "=" ++ Role.externalLoadBalancer.name)] ++ shared ++
    [.joined "--publish"
        (PortMapping.tcp s.networking.apiServerAddress port Balancer.port).binding,
      .spaced "--network" s.network]

/-- Words that are shared by all containers are among their options as they are read. -/
theorem written_of_shared {r : RunArgs} {items : List Item} (h : readItems? common = some shared)
    (hverbatim : ∀ args, .verbatim args ∈ r.options → args = common)
    (hitems : .lone "--detach" :: .lone "--tty" :: r.options.flatMap RunOption.items = items) :
    Written items r.image r.argv := by
  rw [← hitems]
  refine written_argv fun args hargs => ?_
  rw [hverbatim args hargs, h]
  rfl

theorem written_nodeCreation (h : readItems? common = some shared) (published : List PortMapping) :
    Written (nodeItems s shared name n published) n.image
      (nodeCreation s common name n published).args := by
  have hmounts : (n.mounts.map RunOption.mount).flatMap RunOption.items =
      n.mounts.map fun m => .joined "--volume" m.binding := flatMap_items fun _ => rfl
  have hports : ((n.ports ++ published).map RunOption.publish).flatMap RunOption.items =
      (n.ports ++ published).map fun p => .joined "--publish" p.binding :=
    flatMap_items fun _ => rfl
  unfold nodeCreation
  refine written_of_shared h (by simp) ?_
  simp only [List.flatMap_append, hmounts, hports]
  simp [nodeItems, RunOption.items, h]

theorem written_balancerCreation (h : readItems? common = some shared) (port : Port) :
    Written (balancerItems s shared name port) Balancer.image
      (balancerCreation s common name port).args := by
  unfold balancerCreation
  refine written_of_shared h (by simp) ?_
  simp [balancerItems, RunOption.items, h]

/-! ## What is shown -/

theorem valuesOf_proxies {spelling : String} : valuesOf spelling (proxies.map fun (name, value) =>
    Item.spaced "-e" (name ++ "=" ++ value)) =
      if "-e" = spelling then proxies.map fun (name, value) => name ++ "=" ++ value else [] :=
  valuesOf_map fun _ => rfl

theorem valuesOf_sharedItems {spelling : String}
    (h : spelling ∉ ["--label", "--sysctl=", "-e", "--userns="]) :
    valuesOf spelling (sharedItems s proxies remapped) = [] := by
  simp only [List.mem_cons, List.not_mem_nil, or_false, not_or] at h
  simp only [sharedItems, valuesOf_append, valuesOf_proxies, if_neg (Ne.symm h.2.2.1)]
  cases s.isV6 <;> cases remapped <;>
    simp [valuesOf, values, Item.setting, Ne.symm h.1, Ne.symm h.2.1, Ne.symm h.2.2.2]

theorem valuesOf_label_sharedItems :
    valuesOf "--label" (sharedItems s proxies remapped) = [clusterLabel ++ "=" ++ s.name] := by
  simp only [sharedItems, valuesOf_append, valuesOf_proxies]
  cases s.isV6 <;> cases remapped <;> rfl

theorem valuesOf_env_sharedItems : valuesOf "-e" (sharedItems s proxies remapped) =
    proxies.map fun (name, value) => name ++ "=" ++ value := by
  simp only [sharedItems, valuesOf_append, valuesOf_proxies]
  cases s.isV6 <;> cases remapped <;> simp [valuesOf, values, Item.setting]

/-- What the container of a declared node has beside what all containers share. -/
theorem valuesOf_nodeItems {spelling : String} (published : List PortMapping) :
    valuesOf spelling (nodeItems s shared name n published) =
      valuesOf spelling
        [.lone "--detach", .lone "--tty", .spaced "--hostname" name, .spaced "--name" name,
          .spaced "--label" (roleLabel ++ "=" ++ n.role.name), .lone "--privileged",
          .spaced "--security-opt" "seccomp=unconfined",
          .spaced "--security-opt" "apparmor=unconfined", .spaced "--tmpfs" "/tmp",
          .spaced "--tmpfs" "/run", .spaced "--volume" "/var",
          .spaced "--volume" "/lib/modules:/lib/modules:ro"] ++ valuesOf spelling shared ++
        (if "--volume=" = spelling then n.mounts.map Mount.binding else []) ++
        (if "--publish=" = spelling then (n.ports ++ published).map PortMapping.binding else []) ++
        valuesOf spelling [.spaced "--network" (n.networks.headD s.network)] := by
  have hmounts : valuesOf spelling (n.mounts.map fun m => Item.joined "--volume" m.binding) =
      if "--volume=" = spelling then n.mounts.map Mount.binding else [] := valuesOf_map fun _ => rfl
  have hports : valuesOf spelling
      ((n.ports ++ published).map fun p => Item.joined "--publish" p.binding) =
      if "--publish=" = spelling then (n.ports ++ published).map PortMapping.binding else [] :=
    valuesOf_map fun _ => rfl
  rw [nodeItems, valuesOf_append, valuesOf_append, valuesOf_append, valuesOf_append, hmounts,
    hports]

theorem valuesOf_publish_nodeItems (published : List PortMapping) :
    valuesOf "--publish=" (nodeItems s (sharedItems s proxies remapped) name n published) =
      (n.ports ++ published).map PortMapping.binding := by
  rw [valuesOf_nodeItems, valuesOf_sharedItems (by decide)]
  simp [valuesOf, values, Item.setting]

theorem valuesOf_publish_balancerItems (port : Port) :
    valuesOf "--publish=" (balancerItems s (sharedItems s proxies remapped) name port) =
      [(PortMapping.tcp s.networking.apiServerAddress port apiServerPort).binding] := by
  rw [balancerItems, valuesOf_append, valuesOf_append, valuesOf_sharedItems (by decide)]
  rfl

/-- How the options that all containers share are spelt, with that many variables. -/
def sharedSpellings (s : Spec) (count : Nat) (remapped : Bool) : List String :=
  ["--label"] ++ (if s.isV6 then ["--sysctl=", "--sysctl="] else []) ++
    List.replicate count "-e" ++ (if remapped then ["--userns="] else [])

/-- What the container of a declared node is to say. Its options hang on how many mounts, ports and
variables there are, and not on what they are. -/
def nodeDepiction (s : Spec) (proxies : Settings) (remapped : Bool) (name : String) (n : NodeSpec)
    (published : List PortMapping) : Depiction where
  options :=
    ["--detach", "--tty", "--hostname", "--name", "--label", "--privileged", "--security-opt",
      "--security-opt", "--tmpfs", "--tmpfs", "--volume", "--volume"] ++
      sharedSpellings s proxies.length remapped ++
      List.replicate n.mounts.length "--volume=" ++
      List.replicate (n.ports ++ published).length "--publish=" ++ ["--network"]
  hostname := name
  name := name
  labels := [(roleLabel, n.role.name), (clusterLabel, s.name)]
  mounts := n.mounts
  ports := (n.ports ++ published).map PortMapping.unbracketed
  environment := proxies
  network := n.networks.headD s.network
  image := n.image

/-- What the container of a load balancer is to say. -/
def balancerDepiction (s : Spec) (proxies : Settings) (remapped : Bool) (name : String)
    (port : Port) : Depiction where
  options :=
    ["--detach", "--tty", "--hostname", "--name", "--label"] ++
      sharedSpellings s proxies.length remapped ++ ["--publish=", "--network"]
  hostname := name
  name := name
  labels := [(roleLabel, Role.externalLoadBalancer.name), (clusterLabel, s.name)]
  mounts := []
  ports := [(PortMapping.tcp s.networking.apiServerAddress port apiServerPort).unbracketed]
  environment := proxies
  network := s.network
  image := Balancer.image

theorem map_spelling_sharedItems : (sharedItems s proxies remapped).map (·.setting.1) =
    sharedSpellings s proxies.length remapped := by
  cases hv6 : s.isV6 <;> cases remapped <;>
    simp [sharedItems, sharedSpellings, Item.setting, hv6, Function.comp_def]

theorem labels_read {role : Role} :
    [roleLabel ++ "=" ++ role.name, clusterLabel ++ "=" ++ s.name].map (cutAt? '=') =
      [(roleLabel, role.name), (clusterLabel, s.name)].map some := by
  have hrole : cutAt? '=' (roleLabel ++ "=" ++ role.name) = some (roleLabel, role.name) :=
    cutAt?_equals (by decide)
  have hcluster : cutAt? '=' (clusterLabel ++ "=" ++ s.name) = some (clusterLabel, s.name) :=
    cutAt?_equals (by decide)
  rw [List.map_cons, List.map_cons, hrole, hcluster]
  rfl

theorem environment_read (h : ∀ x ∈ proxies, '=' ∉ x.1.toList) :
    (proxies.map fun (name, value) => name ++ "=" ++ value).map (cutAt? '=') =
      proxies.map some := by
  rw [List.map_map]
  exact List.map_congr_left fun x hx => cutAt?_equals (h x hx)

theorem shows_node
    (hmounts : ∀ m ∈ n.mounts, ':' ∉ m.hostPath.toList ∧ ':' ∉ m.containerPath.toList)
    (hproxies : ∀ x ∈ proxies, '=' ∉ x.1.toList) (published : List PortMapping) :
    Shows (nodeItems s (sharedItems s proxies remapped) name n published)
      (nodeDepiction s proxies remapped name n published) := by
  have hshared : ∀ {spelling}, spelling ∉ ["--label", "--sysctl=", "-e", "--userns="] →
      valuesOf spelling (sharedItems s proxies remapped) = [] := valuesOf_sharedItems
  constructor
  · simp only [nodeItems, List.map_append, List.map_map, map_spelling_sharedItems]
    simp [nodeDepiction, Item.setting, Function.comp_def]
  · rw [valuesOf_nodeItems, hshared (by decide)]
    rfl
  · rw [valuesOf_nodeItems, hshared (by decide)]
    rfl
  · rw [valuesOf_nodeItems, valuesOf_label_sharedItems]
    exact labels_read
  · have hvalues : valuesOf "--volume=" (nodeItems s (sharedItems s proxies remapped) name n
        published) = n.mounts.map Mount.binding := by
      rw [valuesOf_nodeItems, hshared (by decide)]
      simp [valuesOf, values, Item.setting]
    rw [hvalues, List.map_map]
    exact List.map_congr_left fun m hm => readMount?_binding (hmounts m hm).1 (hmounts m hm).2
  · rw [valuesOf_publish_nodeItems, nodeDepiction, List.map_map, List.map_map]
    exact List.map_congr_left fun m _ => readBinding?_binding m
  · have hvalues : valuesOf "-e" (nodeItems s (sharedItems s proxies remapped) name n published) =
        proxies.map fun (name, value) => name ++ "=" ++ value := by
      rw [valuesOf_nodeItems, valuesOf_env_sharedItems]
      simp [valuesOf, values, Item.setting]
    rw [hvalues]
    exact environment_read hproxies
  · rw [valuesOf_nodeItems, hshared (by decide)]
    rfl

theorem shows_balancer (hproxies : ∀ x ∈ proxies, '=' ∉ x.1.toList) (port : Port) :
    Shows (balancerItems s (sharedItems s proxies remapped) name port)
      (balancerDepiction s proxies remapped name port) := by
  have hshared : ∀ {spelling}, spelling ∉ ["--label", "--sysctl=", "-e", "--userns="] →
      valuesOf spelling (sharedItems s proxies remapped) = [] := valuesOf_sharedItems
  constructor
  · simp only [balancerItems, List.map_append, map_spelling_sharedItems]
    rfl
  · rw [balancerItems, valuesOf_append, valuesOf_append, hshared (by decide)]
    rfl
  · rw [balancerItems, valuesOf_append, valuesOf_append, hshared (by decide)]
    rfl
  · rw [balancerItems, valuesOf_append, valuesOf_append, valuesOf_label_sharedItems]
    exact labels_read
  · rw [balancerItems, valuesOf_append, valuesOf_append, hshared (by decide)]
    rfl
  · rw [valuesOf_publish_balancerItems]
    exact congrArg (fun read => [read]) (readBinding?_binding _)
  · have hvalues : valuesOf "-e" (balancerItems s (sharedItems s proxies remapped) name port) =
        proxies.map fun (name, value) => name ++ "=" ++ value := by
      rw [balancerItems, valuesOf_append, valuesOf_append, valuesOf_env_sharedItems]
      simp [valuesOf, values, Item.setting]
    rw [hvalues]
    exact environment_read hproxies
  · rw [balancerItems, valuesOf_append, valuesOf_append, hshared (by decide)]
    rfl

/-- **The argument vector of a declared node says what its container is to say.** -/
theorem depicts_node
    (hmounts : ∀ m ∈ n.mounts, ':' ∉ m.hostPath.toList ∧ ':' ∉ m.containerPath.toList)
    (hproxies : ∀ x ∈ proxies, '=' ∉ x.1.toList) (published : List PortMapping) :
    Depicts (nodeCreation s (commonArgs s proxies remapped) name n published).args
      (nodeDepiction s proxies remapped name n published) :=
  ⟨_, written_nodeCreation readItems?_commonArgs published, shows_node hmounts hproxies published⟩

/-- **The argument vector of a load balancer says what its container is to say.** -/
theorem depicts_balancer (hproxies : ∀ x ∈ proxies, '=' ∉ x.1.toList) (port : Port) :
    Depicts (balancerCreation s (commonArgs s proxies remapped) name port).args
      (balancerDepiction s proxies remapped name port) :=
  ⟨_, written_balancerCreation readItems?_commonArgs port, shows_balancer hproxies port⟩

/-! ## Planned clusters -/

/-- **What the containers of a planned cluster say.** Read by the grammar, the argument vector of
each container says one thing: the name of the container, twice; its role and its cluster, as its
only labels; the mounts of its node and its ports, and after them the port of the API server if it
has one, in order; its network, the variables of the proxies, and its image. Which options there are
hangs on how many of these things there are, and not on what they are.

Without the condition on names two settings could be one word; those of an environment meet it, by
`not_mem_of_environment`. -/
theorem vectors_depict_nodes (p : PlannedCluster)
    (hmounts : ∀ n ∈ p.spec.nodes, ∀ m ∈ n.mounts,
      ':' ∉ m.hostPath.toList ∧ ':' ∉ m.containerPath.toList)
    (hproxies : ∀ x ∈ p.proxies, '=' ∉ x.1.toList) :
    p.creations = p.balancer?.toList ++ p.declared ∧
    (p.balancer?.isSome ↔ 1 < p.spec.controlPlaneCount) ∧
    (∀ b, p.balancer? = some b → b.role = .externalLoadBalancer ∧ ∃ port own,
      Settles ⟨p.spec.networking.apiServerAddress, p.spec.networking.apiServerPort⟩ port own ∧
      ∀ d, Depicts b.args d ↔ d = balancerDepiction p.spec p.proxies p.remapped b.name port) ∧
    List.Forall₂ (fun n c => c.role = n.role ∧ ∃ published own,
      Own (publication p.spec) n published own ∧
      ∀ d, Depicts c.args d ↔ d = nodeDepiction p.spec p.proxies p.remapped c.name n published)
      p.spec.nodes p.declared := by
  obtain ⟨hfronted, hcreations, namer, granted, -, -, hlaid⟩ := p.parts
  refine ⟨hcreations, p.isSome_balancer?, fun b hb => ?_,
    hlaid.forall₂ fun n hn name published own hown => ?_⟩
  · rw [hb] at hfronted
    cases hfronted with
    | balanced _ settled =>
      exact ⟨rfl, _, _, settled, fun d => (depicts_balancer hproxies _).iff⟩
  · exact ⟨rfl, published, own, hown, fun d => (depicts_node (hmounts n hn) hproxies _).iff⟩

/-! ## The proxies of an environment -/

theorem mem_set {name value : String} {settings : Settings} {x : String × String}
    (h : x ∈ settings.set name value) : x = (name, value) ∨ x ∈ settings := by
  induction settings with
  | nil => exact .inl (List.mem_singleton.1 h)
  | cons setting rest ih =>
    unfold Settings.set at h
    split at h
    · exact List.mem_cons.1 h
    · split at h
      · exact (List.mem_cons.1 h).imp_right (List.mem_cons_of_mem _)
      · rcases List.mem_cons.1 h with rfl | h
        · exact .inr List.mem_cons_self
        · exact (ih h).imp_right (List.mem_cons_of_mem _)

theorem not_mem_of_environment (find : String → Option String) (subnets : List String) :
    ∀ x ∈ exceptSubnets subnets (Id.run (proxySettings find)), '=' ∉ x.1.toList := by
  have hfound : ∀ x ∈ Id.run (proxySettings find), '=' ∉ x.1.toList := by
    intro x hx
    have hname : x.1 ∈ proxyNames := name_mem_of_mem_proxySettings hx
    exact (by decide : ∀ name ∈ proxyNames, '=' ∉ name.toList) x.1 hname
  intro x hx
  unfold exceptSubnets at hx
  split at hx
  · exact hfound x hx
  · rcases mem_set hx with rfl | hx
    · exact (by decide : '=' ∉ "no_proxy".toList)
    · rcases mem_set hx with rfl | hx
      · exact (by decide : '=' ∉ "NO_PROXY".toList)
      · exact hfound x hx

/-! ## A furnished cluster -/

/-- A control plane with a mount and two ports. -/
def furnishedNode : NodeSpec where
  role := .controlPlane
  image := "node"
  mounts := [⟨"/--volume=/data", "/data", true, true, .bidirectional⟩]
  ports := [⟨"::1", 8080, 80, .udp⟩, ⟨"", 9090, 90, .tcp⟩]

/-- A cluster of that node. -/
def furnishedSpec : Spec where
  name := "furnished"
  nodes := [furnishedNode]
  networking := { Networking.ofFamily .ipv6 with apiServerPort := 7443 }
  network := "--privileged"

/-- An environment with one proxy. -/
def furnishedEnvironment (name : String) : Option String :=
  if name = "http_proxy" then some "http://proxy=a" else none

/-- The settings of that environment, with a subnet put in. -/
def furnishedProxies : Settings :=
  exceptSubnets ["fc00::/64"] (Id.run (proxySettings furnishedEnvironment))

/-- The plan for that cluster. -/
def furnishedCluster : PlannedCluster where
  spec := furnishedSpec
  proxies := furnishedProxies
  remapped := true
  ports := {}
  creations := ((plan furnishedSpec (commonArgs furnishedSpec furnishedProxies true)
    {}).play Request.compliance).2.1.toOption.getD []
  planned := ⟨_, _, follows_play Request.compliance _⟩

theorem furnishedCluster_names :
    furnishedCluster.declared.map Creation.name = ["furnished-control-plane"] := by
  decide +kernel

theorem furnished_depicted : ∃ c, furnishedCluster.declared = [c] ∧ ∀ d, Depicts c.args d ↔ d =
    { options :=
        ["--detach", "--tty", "--hostname", "--name", "--label", "--privileged", "--security-opt",
          "--security-opt", "--tmpfs", "--tmpfs", "--volume", "--volume", "--label", "--sysctl=",
          "--sysctl=", "-e", "-e", "-e", "--userns=", "--volume=", "--publish=", "--publish=",
          "--publish=", "--network"]
      hostname := "furnished-control-plane"
      name := "furnished-control-plane"
      labels :=
        [("io.x-k8s.kind.role", "control-plane"), ("io.x-k8s.kind.cluster", "furnished")]
      mounts := [⟨"/--volume=/data", "/data", true, true, .bidirectional⟩]
      ports := [⟨"::1", 8080, 80, .udp⟩, ⟨"", 9090, 90, .tcp⟩, ⟨"::1", 7443, 6443, .tcp⟩]
      environment :=
        [("HTTP_PROXY", "http://proxy=a"), ("NO_PROXY", "fc00::/64"), ("no_proxy", "fc00::/64")]
      network := "--privileged"
      image := "node" } := by
  have hmounts : ∀ n ∈ furnishedCluster.spec.nodes, ∀ m ∈ n.mounts,
      ':' ∉ m.hostPath.toList ∧ ':' ∉ m.containerPath.toList := by
    change ∀ n ∈ [furnishedNode], _
    decide
  obtain ⟨-, -, -, hnodes⟩ := vectors_depict_nodes furnishedCluster hmounts
    (not_mem_of_environment furnishedEnvironment ["fc00::/64"])
  have hnames := furnishedCluster_names
  generalize furnishedCluster.declared = declared at hnodes hnames
  change List.Forall₂ _ [furnishedNode] declared at hnodes
  cases hnodes with
  | @cons _ c _ _ hc hrest =>
    cases hrest
    obtain ⟨-, published, own, hown, hdepicts⟩ := hc
    have hname : c.name = "furnished-control-plane" := by simpa using hnames
    refine ⟨c, rfl, fun d => (hdepicts d).trans (Eq.congr_right ?_)⟩
    rw [hname]
    cases hown with
    | worker hr => cases hr
    | controlPlane _ settled =>
      obtain ⟨rfl, -⟩ := settled
      decide +kernel

end LocalCluster.Cluster
