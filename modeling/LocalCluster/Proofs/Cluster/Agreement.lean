import LocalCluster.Proofs.Cluster.Credentials
import LocalCluster.Proofs.Cluster.Depictions
import LocalCluster.Proofs.Container.Outputs

/-!
# Selection agrees with the plan

A plan numbers nodes in the order in which they are declared; all that comes later chooses them by
role and name out of what an engine lists. As texts, names do not come in the order of their
numbers, but the first name of a role comes before the others, and that is enough: what is chosen is
what was planned to be chosen.

* `created_perm`: of all containers, those of one planned cluster.
* **`bootstrapControlPlane_of_perm`**, **`externalLoadBalancer_of_perm`**,
  `endpointNode_of_perm`: what is chosen among the nodes of a plan, in any order.
* `publishedBy`, `firstPublished?`: the ports that an argument vector publishes;
  `PlannedCluster.endpoint_publishes`.
* `ReportsFirst`: an engine that reports the first of them; `apiServerHostPort_reported`.
* **`selection_agrees`**: selection on listed nodes agrees with the plan.
-/

namespace LocalCluster.Cluster

open LocalCluster.Container LocalCluster.Text Script Plan Bootstrap Containers

variable {c : Containers} {p : PlannedCluster} {nodes : List Node} {first : Creation}

/-! ## The containers of one cluster -/

/-- Of all containers that have been created, those of a cluster that has been created as a whole
are the planned ones. -/
theorem created_perm {family : List PlannedCluster} {created : List (String × Creation)}
    (hnames : (family.map (·.spec.name)).Nodup) (hp : p ∈ family)
    (hcreated : created.Subperm (operationsOf family)) (hall : ∀ x ∈ p.operations, x ∈ created) :
    (created.filter (·.1 = p.spec.name)).Perm p.operations := by
  have hsub : (created.filter (·.1 = p.spec.name)).Subperm p.operations := by
    rw [← filter_operationsOf hnames hp]
    exact hcreated.filter _
  refine hsub.antisymm (List.subperm_of_subset (List.Nodup.of_map _ p.nodup_names) fun x hx => ?_)
  obtain ⟨_, -, rfl⟩ := List.mem_map.1 hx
  exact List.mem_filter.2 ⟨hall _ hx, by simp⟩

/-! ## Selection -/

namespace PlannedCluster

variable (p)

theorem exists_first : ∃ n published own,
    (p.spec.nodes.zip p.declared).find? (·.1.role = .controlPlane) =
      some (n, nodeCreation p.spec (commonArgs p.spec p.proxies p.remapped)
        (nodeName p.spec.name .controlPlane 1) n published) ∧
    n.role = .controlPlane ∧ Own (publication p.spec) n published own := by
  obtain ⟨-, -, namer, granted, hcluster, hnamed, hlaid⟩ := p.parts
  have hcount : p.spec.controlPlaneCount ≠ 0 := (Spec.valid_iff.1 p.valid).2.2.2.2.1
  rw [← hcluster]
  refine hlaid.find?_first hnamed ?_
  simpa using List.countP_pos_iff.1 (Nat.pos_of_ne_zero hcount)

theorem nodup_creations : (p.creations.map Creation.name).Nodup := by
  simpa [operations, Function.comp_def] using p.nodup_names

theorem filter_balancer :
    p.creations.filter (·.role = .externalLoadBalancer) = p.balancer?.toList := by
  obtain ⟨hfronted, hcreations, -⟩ := p.parts
  have hdeclared : p.declared.filter (·.role = .externalLoadBalancer) = [] :=
    List.filter_eq_nil_iff.2 fun creation h => by simpa using (List.mem_filter.1 h).2
  rw [hcreations, List.filter_append, hdeclared, List.append_nil]
  generalize p.balancer? = front at hfronted
  cases hfronted with
  | bare _ => rfl
  | balanced _ _ => rfl

theorem endpoint_mem (h : first ∈ p.declared) : p.balancer?.getD first ∈ p.creations := by
  obtain ⟨-, hcreations, -⟩ := p.parts
  rw [hcreations]
  cases p.balancer? with
  | none => exact h
  | some creation => exact List.mem_cons_self

end PlannedCluster

/-- **The cluster begins with the control plane that has no number in its name.** -/
theorem bootstrapControlPlane_of_perm (hperm : nodes.Perm (p.creations.map c.nodeOf))
    (hfirst : first ∈ p.declared) (hrole : first.role = .controlPlane)
    (hname : first.name = nodeName p.spec.name .controlPlane 1) :
    bootstrapControlPlane nodes = .ok (c.nodeOf first) := by
  obtain ⟨-, hcreations, namer, granted, hcluster, -, hlaid⟩ := p.parts
  have hmem : c.nodeOf first ∈ nodes :=
    hperm.mem_iff.2 (List.mem_map_of_mem (hcreations ▸ List.mem_append_right _ hfirst))
  obtain ⟨chosen, hchosen⟩ := exists_bootstrapControlPlane ⟨_, hmem, hrole⟩
  obtain ⟨hin, hplane⟩ := bootstrapControlPlane_mem hchosen
  obtain ⟨creation, hcreation, rfl⟩ := List.mem_map.1 (hperm.mem_iff.1 hin)
  have hdeclared : creation ∈ p.declared := List.mem_filter.2 ⟨hcreation, by
    rw [decide_eq_true_eq]
    exact fun h => by cases h.symm.trans hplane⟩
  have hdistinct : (nodes.map Node.name).Nodup := by
    rw [(hperm.map _).nodup_iff, List.map_map]
    exact p.nodup_creations
  -- the chosen control plane is the least by name, and the first one has the least name there is
  obtain ⟨k, hk⟩ := hlaid.name_eq creation hdeclared
  have hle : (c.nodeOf creation).name ≤ (c.nodeOf first).name :=
    bootstrapControlPlane_le hchosen hmem hrole
  have hge : (c.nodeOf first).name ≤ (c.nodeOf creation).name := by
    change first.name ≤ creation.name
    rw [hname, hk, hcluster, show creation.role = .controlPlane from hplane]
    exact nodeName_one_le
  rw [hchosen, eq_of_name_eq hdistinct hin hmem (String.le_antisymm hle hge)]

/-- **The load balancer of a plan is found**, and no other. -/
theorem externalLoadBalancer_of_perm (hperm : nodes.Perm (p.creations.map c.nodeOf)) :
    externalLoadBalancer nodes = .ok (p.balancer?.map c.nodeOf) := by
  have hbalancers : (withRole .externalLoadBalancer nodes).Perm
      (p.balancer?.toList.map c.nodeOf) := by
    have hfilter := hperm.filter fun n => decide (n.role = .externalLoadBalancer)
    rw [List.filter_map] at hfilter
    rw [← p.filter_balancer]
    exact (sortOn_perm _ _).trans hfilter
  unfold externalLoadBalancer
  generalize p.balancer? = front at hbalancers
  cases front with
  | none => rw [List.perm_nil.1 hbalancers]; rfl
  | some creation => rw [List.perm_singleton.1 hbalancers]; rfl

theorem endpointNode_of_perm (hperm : nodes.Perm (p.creations.map c.nodeOf))
    (hfirst : bootstrapControlPlane nodes = .ok (c.nodeOf first)) :
    endpointNode nodes = .ok (c.nodeOf (p.balancer?.getD first)) := by
  rw [endpointNode, externalLoadBalancer_of_perm hperm]
  cases p.balancer? with
  | none => exact hfirst
  | some creation => rfl

/-! ## Published ports -/

/-- The ports that an argument vector publishes, as it is read. -/
def publishedBy (argv : List String) : List PortMapping :=
  ((readArgv? argv).map fun (items, _) =>
    (valuesOf "--publish=" items).filterMap readBinding?).getD []

/-- The first of them for a port of the container. -/
def firstPublished? (port : Port) (argv : List String) : Option PortMapping :=
  (publishedBy argv).find? fun m => m.containerPort = port ∧ m.protocol = .tcp

theorem publishedBy_of_written {items : List Item} {image : String} {argv : List String}
    {mappings : List PortMapping} (h : Written items image argv)
    (hvalues : valuesOf "--publish=" items = mappings.map PortMapping.binding) :
    publishedBy argv = mappings.map PortMapping.unbracketed := by
  rw [publishedBy, readArgv?_eq_some_iff.2 h]
  dsimp only [Option.map_some, Option.getD_some]
  rw [hvalues, List.filterMap_map]
  exact (List.filterMap_congr fun m _ => readBinding?_binding m).trans
    (congrFun List.filterMap_eq_map' mappings)

theorem Settles.port_eq {q : Publication} {port : Port} {granted : List Listener}
    (h : Settles q port granted) (hq : q.port ≠ 0) : port = q.port := by
  rw [Settles, if_neg hq] at h
  exact h.1

namespace PlannedCluster

variable (p)

/-- The ports that are declared for the endpoint: those of the first control plane, if there is no
load balancer before it. -/
def endpointPorts (n : NodeSpec) : List PortMapping := if p.balancer?.isSome then [] else n.ports

/-- **What the endpoint of a plan publishes**: the ports that are declared for it, and after them
that of the API server, which is the one wished for if there is one. -/
theorem endpoint_publishes {name : String} {n : NodeSpec} {published : List PortMapping}
    {own : List Listener} (hr : n.role = .controlPlane)
    (hown : Own (publication p.spec) n published own) : ∃ port : Port,
    (p.spec.networking.apiServerPort ≠ 0 → port = p.spec.networking.apiServerPort) ∧
    publishedBy (p.balancer?.getD (nodeCreation p.spec (commonArgs p.spec p.proxies p.remapped)
      name n published)).args =
      (p.endpointPorts n ++
        [PortMapping.tcp p.spec.networking.apiServerAddress port apiServerPort]).map
        PortMapping.unbracketed := by
  obtain ⟨hfronted, -⟩ := p.parts
  unfold endpointPorts
  generalize p.balancer? = front at hfronted
  cases hfronted with
  | bare h =>
    have hpublication : publication p.spec =
        ⟨p.spec.networking.apiServerAddress, p.spec.networking.apiServerPort⟩ := by
      rw [publication, h]
      rfl
    rw [hpublication] at hown
    cases hown with
    | worker hworker => cases hr.symm.trans hworker
    | @controlPlane _ port _ settled =>
      exact ⟨port, settled.port_eq, publishedBy_of_written
        (written_nodeCreation readItems?_commonArgs _) (valuesOf_publish_nodeItems _)⟩
  | @balanced port _ _ settled =>
    exact ⟨port, settled.port_eq, publishedBy_of_written
      (written_balancerCreation readItems?_commonArgs _) (valuesOf_publish_balancerItems _)⟩

end PlannedCluster

theorem firstPublished?_concat {argv : List String} {declared : List PortMapping}
    {m : PortMapping} (h : publishedBy argv = (declared ++ [m]).map PortMapping.unbracketed)
    (hm : m.protocol = .tcp)
    (hothers : ∀ d ∈ declared, ¬ (d.containerPort = m.containerPort ∧ d.protocol = .tcp)) :
    firstPublished? m.containerPort argv = some m.unbracketed := by
  have hnone : (declared.map PortMapping.unbracketed).find? (fun d =>
      decide (d.containerPort = m.containerPort ∧ d.protocol = .tcp)) = none := by
    rw [List.find?_map, Option.map_eq_none_iff]
    exact List.find?_eq_none.2 fun d hd h => hothers d hd (of_decide_eq_true h)
  rw [firstPublished?, h, List.map_append, List.find?_append, hnone]
  simp [PortMapping.unbracketed, hm]

/-! ## Reports -/

/-- The answer is one of an engine that has these containers and publishes their ports: where a port
is published is answered with the first argument for it, at any address. -/
def ReportsFirst (port : Port) (creations : List Creation) :
    Exchange Request Request.Answer → Prop
  | ⟨.command c, answer⟩ => ∀ creation ∈ creations,
    c.args = ["inspect", "--format", Node.portFormat port, creation.name] →
      ∀ m, firstPublished? port creation.args = some m →
        ∃ (host : String) (stderr : Bytes), (∀ ch ∈ host.toList, IsPlain ch) ∧
          answer = .ok ⟨encode (printLines "\n"
            [host ++ String.singleton '\t' ++ toString m.hostPort.toNat]), stderr⟩
  | _ => True

/-- The answers of an engine that publishes ports at these containers at the loopback address. -/
def reportsOf (port : Port) (creations : List Creation) : (r : Request) → r.Answer
  | .command c =>
    match c.args with
    | ["inspect", "--format", _, name] =>
      match (creations.find? (·.name = name)).bind (firstPublished? port ·.args) with
      | some m => .ok ⟨encode (printLines "\n"
          ["127.0.0.1" ++ String.singleton '\t' ++ toString m.hostPort.toNat]), []⟩
      | none => .ok {}
    | _ => .ok {}
  | r => r.compliance

theorem reportsFirst_reportsOf {port : Port} {creations : List Creation}
    (hnodup : (creations.map Creation.name).Nodup) (r : Request) :
    ReportsFirst port creations ⟨r, reportsOf port creations r⟩ := by
  cases r with
  | command c =>
    intro creation hc hargs m hm
    have hfind : creations.find? (·.name = creation.name) = some creation := by
      have hsome : (creations.find? (·.name = creation.name)).isSome :=
        List.find?_isSome.2 ⟨creation, hc, by simp⟩
      obtain ⟨found, hfound⟩ := Option.isSome_iff_exists.1 hsome
      have hname : found.name = creation.name := by simpa using List.find?_some hfound
      rw [hfound, List.inj_on_of_nodup_map hnodup (List.mem_of_find?_eq_some hfound) hc hname]
    have hloopback : "127.0.0.1".toList.all Spec.isNameChar = true := by decide
    refine ⟨"127.0.0.1", [], fun ch hch =>
      isPlain_of_isNameChar (List.all_eq_true.1 hloopback ch hch), ?_⟩
    simp [reportsOf, hargs, hfind, hm]
  | _ => trivial

theorem trim_toString {n : Nat} : trim (toString n) = toString n := by
  have hblank : ∀ ch ∈ (toString n).toList, isBlank ch = false := fun ch hch =>
    isBlank_of_isDigit (isDigit_of_mem_toString hch)
  have hpad := trimChars_pad [] (toString n).toList [] (by simp) (by simp)
    toString_nat_toList_ne_nil (hblank _ (List.head_mem _)) (hblank _ (List.getLast_mem _))
  rw [List.nil_append, List.append_nil] at hpad
  rw [trim, hpad, String.ofList_toList]

theorem portIn_reported {n : Node} {inside port : Port} {host : String} {stderr : Bytes}
    (h : ∀ ch ∈ host.toList, IsPlain ch) :
    n.portIn inside (.ok ⟨encode (printLines "\n"
      [host ++ String.singleton '\t' ++ toString port.toNat]), stderr⟩) = .ok (host, port) := by
  have hdigits : ∀ ch ∈ (toString port.toNat).toList, IsPlain ch := fun ch hch =>
    isPlain_of_isDigit (isDigit_of_mem_toString hch)
  have hread : trim (toString port.toNat) = toString port.toNat ∧
      Node.readPort? (toString port.toNat) = some port := ⟨trim_toString, readPort?_toString port⟩
  generalize toString port.toNat = digits at hdigits hread
  obtain ⟨hfeed, hreturn, htab⟩ := not_mem_of_isPlain h
  obtain ⟨hfeed', hreturn', htab'⟩ := not_mem_of_isPlain hdigits
  generalize hline : host ++ String.singleton '\t' ++ digits = line
  have hsingle : singleLine (n.portInspection inside) ⟨encode (printLines "\n" [line]), stderr⟩ =
      .ok line := by
    refine singleLine_eq_ok_iff.2 (linesOfBytes_printLines fun l hl => ?_)
    obtain rfl := List.mem_singleton.1 hl
    subst hline
    exact ⟨by simp, by simp [hfeed, hfeed'], by simp [hreturn, hreturn']⟩
  have hbinding : n.bindingOfLine line = .ok (host, port) := by
    rw [← hline, Node.bindingOfLine, split_field htab htab']
    simp only [hread]
  simp only [Node.portIn, hsingle, hbinding]

/-- **The port of the API server is the reported one.** -/
theorem apiServerHostPort_reported {creations : List Creation} {creation : Creation}
    {m : PortMapping} {t : History} {r : Except Fault Port}
    (hnode : endpointNode nodes = .ok (c.nodeOf creation)) (hcreation : creation ∈ creations)
    (hm : firstPublished? apiServerPort creation.args = some m)
    (h : Follows (apiServerHostPort nodes).run t r)
    (reports : ∀ x ∈ t, ReportsFirst apiServerPort creations x) : r = .ok m.hostPort := by
  have hbinding : ∀ {t : History} {r : Except Fault (String × Port)},
      Follows ((c.nodeOf creation).portBinding apiServerPort).run t r →
      (∀ x ∈ t, ReportsFirst apiServerPort creations x) → ∃ host, r = .ok (host, m.hostPort) := by
    intro t r h reports
    obtain ⟨answer, rfl, rfl⟩ := follows_portBinding h
    obtain ⟨host, stderr, hplain, rfl⟩ :=
      reports _ List.mem_cons_self creation hcreation rfl m hm
    exact ⟨host, portIn_reported hplain⟩
  rw [apiServerHostPort_eq, hnode] at h
  change Follows ((c.nodeOf creation).hostPort apiServerPort).run t r at h
  rcases follows_run_bind_iff.1 h with ⟨fault, hasked, -⟩ | ⟨found, t₁, t₂, rfl, hasked, hlast⟩
  · obtain ⟨host, hr⟩ := hbinding hasked reports
    cases hr
  · obtain ⟨host, hr⟩ := hbinding hasked fun x hx => reports x (List.mem_append_left _ hx)
    obtain ⟨rfl, rfl⟩ := follows_run_pure_iff.1 hlast
    cases hr
    rfl

/-! ## Agreement -/

/-- **Selection agrees with the plan.** In an engine that keeps names and labels, let all containers
of a planned cluster have been created, and perhaps some of others. Listed in any order, its nodes
are those of the planned containers. The cluster begins with the first declared control plane,
however many there are; a load balancer is found if it has been planned, which is so with several
control planes; and the endpoint is the load balancer, or else the first control plane. What the
endpoint publishes last is the API server, at the port wished for if there is one; and unless a port
declared for it takes that place, an engine that reports what is published first tells this port. -/
theorem selection_agrees (c : Containers) (family : List PlannedCluster)
    (hnames : (family.map (·.spec.name)).Nodup) (p : PlannedCluster) (hp : p ∈ family)
    (created : List (String × Creation)) (hcreated : created.Subperm (operationsOf family))
    (hall : ∀ x ∈ p.operations, x ∈ created) {t : List (Exchange Request Request.Answer)}
    {r : Except Fault (List Node)} (h : Follows (c.listNodes p.spec.name).run t r)
    (honest : ∀ x ∈ t, Honest (storeOf created) x) :
    (p.creations = p.balancer?.toList ++ p.declared ∧
      p.declared.map Creation.role = p.spec.nodes.map NodeSpec.role ∧
      (p.balancer?.isSome ↔ 1 < p.spec.controlPlaneCount)) ∧
    ∃ nodes n first port, r = .ok nodes ∧ nodes.Perm (p.creations.map c.nodeOf) ∧
      (p.spec.nodes.zip p.declared).find? (·.1.role = .controlPlane) = some (n, first) ∧
      bootstrapControlPlane nodes = .ok (c.nodeOf first) ∧
      externalLoadBalancer nodes = .ok (p.balancer?.map c.nodeOf) ∧
      endpointNode nodes = .ok (c.nodeOf (p.balancer?.getD first)) ∧
      (p.spec.networking.apiServerPort ≠ 0 → port = p.spec.networking.apiServerPort) ∧
      publishedBy (p.balancer?.getD first).args =
        (p.endpointPorts n ++
          [PortMapping.tcp p.spec.networking.apiServerAddress port apiServerPort]).map
          PortMapping.unbracketed ∧
      ((∀ m ∈ p.endpointPorts n, ¬ (m.containerPort = apiServerPort ∧ m.protocol = .tcp)) →
        ∀ u asked, Follows (apiServerHostPort nodes).run u asked →
          (∀ x ∈ u, ReportsFirst apiServerPort p.creations x) → asked = .ok port) := by
  have hmarked : ∀ x ∈ created, Marked x := fun x hx => by
    obtain ⟨q, -, hq⟩ := List.mem_flatMap.1 (hcreated.subset hx)
    exact q.marked hq
  have hown := created_perm hnames hp hcreated hall
  have hnodup := ((hown.map fun x => x.2.name).nodup_iff).2 p.nodup_names
  obtain ⟨nodes, rfl, hperm, -⟩ := listNodes_perm hmarked hnodup h honest
  have hplanned : nodes.Perm (p.creations.map c.nodeOf) := by
    have hmap := hperm.trans (hown.map fun x => c.nodeOf x.2)
    rwa [PlannedCluster.operations, List.map_map] at hmap
  obtain ⟨-, hcreations, _, _, -, -, hlaid⟩ := p.parts
  obtain ⟨n, published, own, hfind, hr, hpublished⟩ := p.exists_first
  obtain ⟨port, hport, hpublishes⟩ := p.endpoint_publishes hr hpublished
  have hfirst := List.of_mem_zip (List.mem_of_find?_eq_some hfind)
  have hbootstrap := bootstrapControlPlane_of_perm hplanned hfirst.2 hr rfl
  have hendpoint := endpointNode_of_perm hplanned hbootstrap
  refine ⟨⟨hcreations, hlaid.roles, p.isSome_balancer?⟩, nodes, n, _, port, rfl, hplanned, hfind,
    hbootstrap, externalLoadBalancer_of_perm hplanned, hendpoint, hport, hpublishes,
    fun hothers u asked hasked reports => ?_⟩
  exact apiServerHostPort_reported hendpoint (p.endpoint_mem hfirst.2)
    (firstPublished?_concat hpublishes rfl hothers) hasked reports

/-- Eleven control planes and a worker before them. -/
def crowdSpec : Spec where
  name := "crowd"
  nodes := { role := .worker, image := "node" } ::
    List.replicate 11 { role := .controlPlane, image := "node" }
  networking := { Networking.ofFamily .ipv4 with apiServerPort := 7443 }
  network := "kind"

/-- The plan for these, as a planned cluster. -/
def crowdCluster : PlannedCluster where
  spec := crowdSpec
  proxies := []
  remapped := false
  ports := {}
  creations := ((plan crowdSpec (commonArgs crowdSpec [] false)
    {}).play Request.compliance).2.1.toOption.getD []
  planned := ⟨_, _, follows_play Request.compliance _⟩

theorem crowdCluster_first : ((crowdCluster.spec.nodes.zip crowdCluster.declared).find?
    (·.1.role = .controlPlane)).map (·.2.name) = some "crowd-control-plane" := by
  decide +kernel

theorem crowd_selected : ∃ nodes first,
    (((({} : Containers).listNodes "crowd").run).play
      (answersOf (storeOf crowdCluster.operations.reverse))).2 = .ok nodes ∧
    first.name = "crowd-control-plane" ∧
    bootstrapControlPlane nodes = .ok (({} : Containers).nodeOf first) ∧
    ((apiServerHostPort nodes).run.play (reportsOf apiServerPort crowdCluster.creations)).2 =
      .ok 7443 := by
  have hcreated : crowdCluster.operations.reverse.Subperm (operationsOf [crowdCluster]) := by
    rw [operationsOf, List.flatMap_cons, List.flatMap_nil, List.append_nil]
    exact (List.reverse_perm _).subperm
  have hhonest : ∀ x ∈ (((({} : Containers).listNodes "crowd").run).play
      (answersOf (storeOf crowdCluster.operations.reverse))).1,
      Honest (storeOf crowdCluster.operations.reverse) x := fun x hx => by
    obtain ⟨q, rfl⟩ := exists_of_mem_play hx
    exact honest_answersOf _ q
  obtain ⟨⟨-, -, hbalancer⟩, nodes, n, first, port, hnodes, -, hfind, hbootstrap, -, -, hport, -,
    hasked⟩ := selection_agrees {} [crowdCluster] (by simp) crowdCluster List.mem_cons_self _
      hcreated (fun x hx => List.mem_reverse.2 hx) (follows_play _ _) hhonest
  have hname := crowdCluster_first
  rw [hfind] at hname
  have hextra : crowdCluster.endpointPorts n = [] := if_pos (hbalancer.2 (by decide))
  refine ⟨nodes, first, hnodes, by simpa using hname, hbootstrap, ?_⟩
  rw [← show port = 7443 from hport (by decide)]
  refine hasked (by simp [hextra]) _ _ (follows_play _ _) fun x hx => ?_
  obtain ⟨q, rfl⟩ := exists_of_mem_play hx
  exact reportsFirst_reportsOf crowdCluster.nodup_creations q

end LocalCluster.Cluster
