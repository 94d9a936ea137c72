import LocalCluster.Proofs.Cluster.Layout
import LocalCluster.Proofs.Container.Reading

/-!
# What a plan publishes

The argument vectors of a plan, read as an engine reads them. With a single control plane its API
server is published where the specification says; with several, the load balancer is published there
and every control plane on a port of its own that nothing outside the host reaches.

* `Publishes`: the ports that a container publishes; `Placed`: those of all declared nodes.
* `readOptions?_commonArgs`: what all containers share can be read, and it publishes nothing.
* **`planned_or_refused`**: the outcome of every plan.
-/

namespace LocalCluster.Cluster

open LocalCluster.Container Script Plan

variable {s : Spec} {common : List String} {n : NodeSpec} {name : String}

/-! ## Reading containers -/

/-- What all containers share, read as an engine reads it. -/
def sharedSettings (s : Spec) (proxies : Settings) (remapped : Bool) : List (String × String) :=
  [("--label", clusterLabel ++ "=" ++ s.name)] ++
    (if s.isV6 then
      [("--sysctl", "net.ipv6.conf.all.disable_ipv6=0"),
        ("--sysctl", "net.ipv6.conf.all.forwarding=1")]
    else []) ++
    (proxies.map fun (name, value) => RunOption.env name value).flatMap RunOption.settings ++
    (if remapped then [("--userns", "host")] else [])

/-- **What all containers share can be read.** -/
theorem readOptions?_commonArgs (s : Spec) (proxies : Settings) (remapped : Bool) :
    readOptions? (commonArgs s proxies remapped) = some (sharedSettings s proxies remapped) := by
  have hlabel : readOptions? (RunOption.label clusterLabel s.name).args =
      some [("--label", clusterLabel ++ "=" ++ s.name)] :=
    readOptions?_args (o := .label clusterLabel s.name) fun args ha => by simp at ha
  have hv6 : readOptions? (if s.isV6 then ipv6Args else []) = some (if s.isV6 then
      [("--sysctl", "net.ipv6.conf.all.disable_ipv6=0"),
        ("--sysctl", "net.ipv6.conf.all.forwarding=1")] else []) := by
    cases s.isV6 <;> decide
  have hproxies :
      readOptions? (proxies.flatMap fun (name, value) => (RunOption.env name value).args) =
        some ((proxies.map fun (name, value) => RunOption.env name value).flatMap
          RunOption.settings) := by
    rw [← readOptions?_flatMap fun args ha => by simp at ha, List.flatMap_map]
  have hmapped : readOptions? (if remapped then ["--userns=host"] else []) =
      some (if remapped then [("--userns", "host")] else []) := by
    cases remapped <;> decide
  unfold commonArgs sharedSettings
  have h₁ := readOptions?_append (b := if s.isV6 then ipv6Args else []) hlabel
  rw [hv6] at h₁
  have h₂ := readOptions?_append
    (b := proxies.flatMap fun (name, value) => (RunOption.env name value).args) h₁
  rw [hproxies] at h₂
  rw [readOptions?_append h₂, hmapped]
  rfl

theorem readable_of_common {shared : List (String × String)} {os : List RunOption}
    (h : readOptions? common = some shared) (hos : ∀ args, .verbatim args ∈ os → args = common) :
    Readable os := by
  intro args ha
  rw [hos args ha, h]
  rfl

theorem read?_nodeCreation {shared : List (String × String)}
    (h : readOptions? common = some shared) (published : List PortMapping) :
    read? (nodeCreation s common name n published).args = some
      ([("--detach", ""), ("--tty", ""), ("--hostname", name), ("--name", name),
        ("--label", roleLabel ++ "=" ++ n.role.name), ("--privileged", ""),
        ("--security-opt", "seccomp=unconfined"), ("--security-opt", "apparmor=unconfined"),
        ("--tmpfs", "/tmp"), ("--tmpfs", "/run"), ("--volume", "/var"),
        ("--volume", "/lib/modules:/lib/modules:ro")] ++ shared ++
        (n.mounts.map RunOption.mount).flatMap RunOption.settings ++
        ((n.ports ++ published).map RunOption.publish).flatMap RunOption.settings ++
        [("--network", n.networks.headD s.network)], n.image) := by
  unfold nodeCreation
  rw [read?_argv (readable_of_common h fun args ha => by simpa using ha)]
  simp [RunOption.settings, h]

theorem read?_balancerCreation {shared : List (String × String)}
    (h : readOptions? common = some shared) (port : Port) :
    read? (balancerCreation s common name port).args = some
      ([("--detach", ""), ("--tty", ""), ("--hostname", name), ("--name", name),
        ("--label", roleLabel ++ "=" ++ Role.externalLoadBalancer.name)] ++ shared ++
        [("--publish", (PortMapping.tcp s.networking.apiServerAddress port Balancer.port).binding),
          ("--network", s.network)], Balancer.image) := by
  unfold balancerCreation
  rw [read?_argv (readable_of_common h fun args ha => by simpa using ha)]
  simp [RunOption.settings, h]

theorem values_flatMap_map {α : Type} (option : String) (wish : α → RunOption) (xs : List α)
    (h : ∀ x, values option (wish x).settings = []) :
    values option ((xs.map wish).flatMap RunOption.settings) = [] := by
  induction xs with
  | nil => rfl
  | cons x xs ih => rw [List.map_cons, List.flatMap_cons, values_append, h, ih]; rfl

/-- What all containers share sets a label, kernel settings, variables and names of users only. -/
theorem values_sharedSettings {option : String} (s : Spec) (proxies : Settings) (remapped : Bool)
    (h : option ∉ ["--label", "--sysctl", "-e", "--userns"]) :
    values option (sharedSettings s proxies remapped) = [] := by
  simp only [List.mem_cons, List.not_mem_nil, or_false, not_or] at h
  have henv : ∀ x : String × String, values option (RunOption.env x.1 x.2).settings = [] :=
    fun _ => values_cons_ne (Ne.symm h.2.2.1)
  have hproxies := values_flatMap_map option _ proxies henv
  simp only [sharedSettings, values_append, hproxies]
  cases s.isV6 <;> cases remapped <;> simp [values_cons_ne, Ne.symm h.1, Ne.symm h.2.1,
    Ne.symm h.2.2.2]

theorem values_label_sharedSettings (s : Spec) (proxies : Settings) (remapped : Bool) :
    values "--label" (sharedSettings s proxies remapped) = [clusterLabel ++ "=" ++ s.name] := by
  have hproxies := values_flatMap_map "--label" (fun (name, value) => RunOption.env name value)
    proxies fun _ => rfl
  simp only [sharedSettings, values_append, hproxies]
  cases s.isV6 <;> cases remapped <;> rfl

/-! ## Published ports -/

/-- Read as an engine reads it, the container publishes what the words shared by all containers
publish, and after that exactly these ports. -/
def Publishes (common : List String) (c : Creation) (mappings : List PortMapping) : Prop :=
  ∀ shared, readOptions? common = some shared →
    ∃ options image, read? c.args = some (options, image) ∧
      values "--publish" options = values "--publish" shared ++ mappings.map PortMapping.binding

theorem values_publish (mappings : List PortMapping) :
    values "--publish" ((mappings.map RunOption.publish).flatMap RunOption.settings) =
      mappings.map PortMapping.binding := by
  induction mappings with
  | nil => rfl
  | cons p rest ih => exact values_cons_eq.trans (congrArg _ ih)

theorem publishes_nodeCreation (published : List PortMapping) :
    Publishes common (nodeCreation s common name n published) (n.ports ++ published) := by
  intro shared h
  refine ⟨_, _, read?_nodeCreation h published, ?_⟩
  have hmounts := values_flatMap_map "--publish" RunOption.mount n.mounts fun _ => rfl
  simp only [values_append, values_publish, hmounts, List.append_nil]
  exact List.append_nil _

theorem publishes_balancerCreation (port : Port) :
    Publishes common (balancerCreation s common name port)
      [.tcp s.networking.apiServerAddress port Balancer.port] := by
  intro shared h
  refine ⟨_, _, read?_balancerCreation h port, ?_⟩
  simp only [values_append]
  rfl

/-- The containers of declared nodes, in order. Each has the role of its node and publishes the
ports of its node; the API server of a control plane comes last, at an address and a port that `p`
settles, and what has to be granted for that is granted in order. -/
inductive Placed (common : List String) (p : Publication) :
    List NodeSpec → List Creation → List Listener → Prop where
  | nil : Placed common p [] [] []
  | worker {n : NodeSpec} {c : Creation} {rest : List NodeSpec} {creations : List Creation}
      {granted : List Listener} (hn : n.role = .worker) (hc : c.role = .worker)
      (ports : Publishes common c n.ports) (placed : Placed common p rest creations granted) :
      Placed common p (n :: rest) (c :: creations) granted
  | controlPlane {n : NodeSpec} {c : Creation} {rest : List NodeSpec} {creations : List Creation}
      {port : Port} {own granted : List Listener} (hn : n.role = .controlPlane)
      (hc : c.role = .controlPlane) (settled : Settles p port own)
      (ports : Publishes common c (n.ports ++ [.tcp p.address port 6443]))
      (placed : Placed common p rest creations granted) :
      Placed common p (n :: rest) (c :: creations) (own ++ granted)

theorem Laid.placed {nodes : List NodeSpec} {namer : Namer} {creations : List Creation}
    {granted : List Listener} (h : Laid s common nodes namer creations granted) :
    Placed common (publication s) nodes creations granted := by
  induction h with
  | nil => exact .nil
  | cons own _ ih =>
    cases own with
    | worker hr => exact .worker hr hr (by simpa using publishes_nodeCreation []) ih
    | controlPlane hr settled => exact .controlPlane hr hr settled (publishes_nodeCreation _) ih

/-! ## Outcomes -/

/-- **The outcome of every plan.** An invalid specification is reported before anything is asked. A
valid one either is refused a port or becomes one container for each node, in order: a single
control plane is published as the specification says, and of several ones each on a port that was
granted on the loopback address, behind a load balancer that is published as the specification
says. What the containers of a cluster share publishes nothing besides. -/
theorem planned_or_refused {ports ports' : Ports} {t : List (Exchange Request Request.Answer)}
    {r : Except Fault (List Creation)} (run : Follows (plan s common ports) t (r, ports')) :
    (∀ fault, s.validate = .error fault → r = .error fault ∧ t = []) ∧
    (s.validate = .ok () →
      (∀ fault, r = .error fault → Refused t fault) ∧
      ∀ creations, r = .ok creations →
        (s.controlPlaneCount ≤ 1 → s.controlPlaneCount = 1 ∧
          Placed common ⟨s.networking.apiServerAddress, s.networking.apiServerPort⟩
            s.nodes creations (grants t)) ∧
        (1 < s.controlPlaneCount → ∃ balancer nodes port own granted,
          creations = balancer :: nodes ∧ balancer.role = .externalLoadBalancer ∧
          Settles ⟨s.networking.apiServerAddress, s.networking.apiServerPort⟩ port own ∧
          Publishes common balancer [.tcp s.networking.apiServerAddress port 6443] ∧
          Placed common ⟨s.networking.family.loopback, 0⟩ s.nodes nodes granted ∧
          grants t = own ++ granted)) ∧
    ∀ proxies remapped, ∃ shared, readOptions? (commonArgs s proxies remapped) = some shared ∧
      values "--publish" shared = [] := by
  refine ⟨fun fault hv => follows_plan_invalid hv run, ?_, fun proxies remapped =>
    ⟨_, readOptions?_commonArgs s proxies remapped, values_sharedSettings s proxies remapped
      (by decide)⟩⟩
  intro hv
  have hvalid := Spec.validate_eq_ok_iff.1 hv
  have houtcome := plan_arranged hvalid run
  refine ⟨?_, ?_⟩
  · rintro fault rfl
    exact houtcome
  · rintro creations rfl
    have hcount := (Spec.valid_iff.1 hvalid).2.2.2.2.1
    change Arranged s common creations (grants t) at houtcome
    generalize grants t = granted at houtcome ⊢
    cases houtcome with
    | single hb laid =>
      have hle : ¬ 1 < s.controlPlaneCount := by simpa [Spec.hasBalancer] using hb
      have hplaced := laid.placed
      rw [publication, hb] at hplaced
      exact ⟨fun _ => ⟨by omega, hplaced⟩, fun h => absurd h hle⟩
    | balanced hb settled laid =>
      have hlt : 1 < s.controlPlaneCount := by simpa [Spec.hasBalancer] using hb
      have hplaced := laid.placed
      rw [publication, hb] at hplaced
      exact ⟨fun h => by omega, fun _ => ⟨_, _, _, _, _, rfl, rfl, settled,
        publishes_balancerCreation _, hplaced, rfl⟩⟩

/-- Two control planes, with a worker between them. -/
def mixedSpec : Spec where
  name := "mixed"
  nodes := [{ role := .controlPlane, image := "node" }, { role := .worker, image := "node" },
    { role := .controlPlane, image := "node" }]
  networking := .ofFamily .ipv4
  network := "kind"

/-- The plan for two control planes and a worker, on a machine that does as it is asked. -/
def mixedPlan : List (Exchange Request Request.Answer) × Except Fault (List Creation) × Ports :=
  (plan mixedSpec [] {}).play Request.compliance

theorem mixedPlan_placed : ∃ balancer nodes own granted,
    mixedPlan.2.1 = .ok (balancer :: nodes) ∧ balancer.role = .externalLoadBalancer ∧
      Placed [] ⟨"127.0.0.1", 0⟩ mixedSpec.nodes nodes granted ∧
      grants mixedPlan.1 = own ++ granted := by
  obtain ⟨creations, hc⟩ : ∃ creations, mixedPlan.2.1 = .ok creations := by
    cases h : mixedPlan.2.1 with
    | ok creations => exact ⟨creations, rfl⟩
    | error fault =>
      have hok : mixedPlan.2.1.toBool = true := by rfl
      simp [h, Except.toBool] at hok
  have hv : mixedSpec.validate = .ok () := Spec.validate_eq_ok_iff.2 (by decide)
  obtain ⟨balancer, nodes, port, own, granted, rfl, hrole, -, -, hplaced, hgranted⟩ :=
    (((planned_or_refused (follows_play Request.compliance (plan mixedSpec [] {}))).2.1 hv).2
      creations hc).2 (by decide)
  exact ⟨balancer, nodes, own, granted, hc, hrole, hplaced, hgranted⟩

end LocalCluster.Cluster
