import LocalCluster.Proofs.Cluster.Endpoints
import LocalCluster.Proofs.Cluster.Planning
import LocalCluster.Proofs.Work.Ensures
import Mathlib.Data.List.Induction

/-!
# Listeners of a plan

A machine grants a free port of an address if nothing that is kept occupied there clashes with it.
A plan keeps all that it is granted, so what it is granted never clashes. A port that the
specification names is not kept, though, and may be granted to a control plane as well.

* `Listener.Clashes`: two listeners cannot exist at the same time; `Free`: answers with free ports.
* `plan_keeps`: a plan keeps what it has been granted; `grants_pairwise`: which never clashes.
* `apiListener?`: where a planned container publishes the API server.
* **`clashes_only_with_configured`**: the load balancer clashes with no control plane but one that
  was granted the configured port; `configured_port_granted`: that can happen.
-/

namespace LocalCluster

open LocalCluster.Net

/-! ## Clashes -/

/-- The address stands for all addresses of the host. -/
def Net.Address.isWildcard : Address → Bool
  | .v4 octets => octets.all (· = 0)
  | .v6 groups => groups.all (· = 0)

/-- Two texts are addresses that overlap: they are the same, or one stands for all. -/
def Net.overlap (x y : String) : Bool :=
  match Address.parse? x, Address.parse? y with
  | some a, some b => a = b || a.isWildcard || b.isWildcard
  | _, _ => false

/-- Two listeners cannot exist at the same time. -/
def Listener.Clashes (l m : Listener) : Prop := l.port = m.port ∧ overlap l.address m.address = true

instance (l m : Listener) : Decidable (l.Clashes m) := inferInstanceAs (Decidable (_ ∧ _))

end LocalCluster

namespace LocalCluster.Cluster

open LocalCluster.Container LocalCluster.Net LocalCluster.Text Script Plan

variable {s : Spec} {common : List String} {ports ports' : Ports} {kept : List Listener}
variable {t past : List (Exchange Request Request.Answer)}

/-- A port that is granted is free: it is not zero, and nothing that is kept clashes with it. -/
def Free : Exchange Request Request.Answer → Prop
  | ⟨.listen held address, .ok port⟩ => port ≠ 0 ∧ ∀ l ∈ held, ¬ l.Clashes ⟨address, port⟩
  | _ => True

/-! ## What is granted is kept -/

/-- After the exchanges `past`, a free port is asked for while all that has been granted is kept,
the latest first, and what was kept before. -/
def Retaining (kept : List Listener) (past : List (Exchange Request Request.Answer)) (r : Request) :
    Prop :=
  ∀ held address, r = .listen held address → held = (grants past).reverse ++ kept

/-- Work on ports asks for free ones while all that has been granted is kept, and hands on what is
kept by then. -/
def Keeps {α : Type} (kept : List Listener) (past : List (Exchange Request Request.Answer))
    (w : Routine (α × Ports)) : Prop :=
  Ensures (Retaining kept) (fun past r => r.2.held = (grants past).reverse ++ kept) past w

theorem settle_keeps {port : Port} {address : String}
    (h : ports.held = (grants past).reverse ++ kept) :
    Keeps kept past (ports.settle port address) := by
  unfold Ports.settle
  split
  · exact h
  · refine ⟨fun _ _ heq => ?_, fun answer => ?_⟩
    · cases heq
      exact h
    · cases answer with
      | ok free =>
        show _ :: ports.held = (grants (past ++ [_])).reverse ++ kept
        rw [grants_append, List.reverse_append, h]
        rfl
      | error cause =>
        show ports.held = (grants (past ++ [_])).reverse ++ kept
        rw [grants_append, List.reverse_append, h]
        rfl

theorem publishedPorts_keeps {p : Publication} {n : NodeSpec}
    (h : ports.held = (grants past).reverse ++ kept) :
    Keeps kept past (publishedPorts p n ports) := by
  unfold publishedPorts
  split
  · exact ensures_bind_iff.2 (settle_keeps h)
  · exact h
  · exact h

theorem nodeCreations_keeps {nodes : List NodeSpec} {namer : Namer}
    (h : ports.held = (grants past).reverse ++ kept) :
    Keeps kept past (nodeCreations s common nodes namer ports) := by
  induction nodes generalizing namer ports past with
  | nil => exact h
  | cons n rest ih =>
    refine ensures_bind_iff.2 ((publishedPorts_keeps h).imp fun past r hr => ?_)
    obtain ⟨published, between⟩ := r
    cases published with
    | error fault => exact hr
    | ok published => exact ensures_bind_iff.2 (ih hr)

/-- **A plan keeps all that it is granted**, for as long as it goes on. -/
theorem plan_keeps (h : ports.held = (grants past).reverse ++ kept) :
    Keeps kept past (plan s common ports) := by
  unfold plan
  split
  · exact h
  · dsimp only
    split
    · refine ensures_bind_iff.2 ((settle_keeps h).imp fun past r hr => ?_)
      obtain ⟨settled, between⟩ := r
      cases settled with
      | error fault => exact hr
      | ok port => exact ensures_bind_iff.2 (nodeCreations_keeps hr)
    · exact nodeCreations_keeps h

theorem mem_grants {l : Listener} :
    l ∈ grants t ↔ ∃ held, ⟨.listen held l.address, .ok l.port⟩ ∈ t := by
  rw [grants, List.mem_filterMap]
  constructor
  · rintro ⟨⟨q, answer⟩, hx, hl⟩
    cases q with
    | listen held address =>
      cases answer with
      | ok port =>
        cases hl
        exact ⟨held, hx⟩
      | error cause => cases hl
    | _ => cases hl
  · rintro ⟨held, hx⟩
    exact ⟨_, hx, rfl⟩

/-- **Free ports that are kept never clash.** -/
theorem grants_pairwise (hkeep : ∀ before x after, t = before ++ x :: after →
      Retaining kept before x.question) (hfree : ∀ x ∈ t, Free x) :
    (grants t).Pairwise (¬ ·.Clashes ·) := by
  induction t using List.reverseRecOn with
  | nil => exact List.Pairwise.nil
  | append_singleton t x ih =>
    have hbefore := ih (fun before y after ht => hkeep before y (after ++ [x]) (by simp [ht]))
      fun y hy => hfree y (List.mem_append_left _ hy)
    have hlone : (grants [x]).Pairwise (¬ ·.Clashes ·) := by
      have hlength : (grants [x]).length ≤ 1 := List.length_filterMap_le granted? [x]
      rcases hl : grants [x] with _ | ⟨l, _ | ⟨m, rest⟩⟩
      · exact List.Pairwise.nil
      · exact List.pairwise_singleton _ l
      · simp [hl] at hlength
    rw [grants_append]
    refine List.pairwise_append.2 ⟨hbefore, hlone, fun l hl m hm => ?_⟩
    obtain ⟨held, hx⟩ := mem_grants.1 hm
    obtain rfl := List.mem_singleton.1 hx
    have hheld := hkeep t _ [] rfl held m.address rfl
    refine (hfree _ (List.mem_append_right t List.mem_cons_self)).2 l ?_
    rw [hheld]
    exact List.mem_append_left _ (List.mem_reverse.2 hl)

theorem ne_zero_of_mem_grants (hfree : ∀ x ∈ t, Free x) {l : Listener} (h : l ∈ grants t) :
    l.port ≠ 0 := by
  obtain ⟨held, hx⟩ := mem_grants.1 h
  exact (hfree _ hx).1

/-! ## Where API servers are published -/

/-- Where a container publishes the API server, read as an engine reads it: what is published last
by anything but a worker. -/
def apiListener? (c : Creation) : Option Listener :=
  if c.role = .worker then none
  else do
    let (options, _) ← read? c.args
    let binding ← (values "--publish" options).getLast?
    let (listener, _) ← cutLast ':' binding.toList
    let endpoint ← Endpoint.parse? (String.ofList listener)
    return ⟨endpoint.host, endpoint.port⟩

theorem cutLast_binding {address : String} (h : address ≠ "") (port inside : Port) :
    ∃ after, cutLast ':' (PortMapping.tcp address port inside).binding.toList =
      some ((Endpoint.display ⟨address, port⟩).toList, after) := by
  refine ⟨(toString inside.toNat ++ "/TCP").toList, ?_⟩
  have hbinding : (PortMapping.tcp address port inside).binding =
      Endpoint.display ⟨address, port⟩ ++ ":" ++ (toString inside.toNat ++ "/TCP") := by
    simp [PortMapping.binding, PortMapping.listener, PortMapping.tcp, h, Endpoint.display,
      Protocol.name, String.append_assoc]
  have hcolon : (":" ++ (toString inside.toNat ++ "/TCP")).toList =
      ':' :: (toString inside.toNat ++ "/TCP").toList := by simp
  rw [hbinding, String.append_assoc, String.toList_append, hcolon]
  refine cutLast_append ':' _ _ fun hmem => ?_
  rcases List.mem_append.1 (by rwa [String.toList_append] at hmem) with hdigit | htail
  · exact absurd (isDigit_of_mem_toString hdigit) (by decide)
  · exact absurd htail (by decide)

theorem apiListener?_of_publishes {c : Creation} {mappings : List PortMapping} {address : String}
    {port inside : Port} {a : Address} (hrole : c.role ≠ .worker)
    (hcommon : (readOptions? common).isSome) (haddress : Address.parse? address = some a)
    (h : Publishes common c (mappings ++ [.tcp address port inside])) :
    apiListener? c = some ⟨address, port⟩ := by
  obtain ⟨shared, hshared⟩ := Option.isSome_iff_exists.1 hcommon
  obtain ⟨options, image, hread, hvalues⟩ := h shared hshared
  have hplain := plainly_of_address haddress
  obtain ⟨after, hcut⟩ := cutLast_binding hplain.nonempty port inside
  have hlast : (values "--publish" options).getLast? =
      some (PortMapping.tcp address port inside).binding := by
    rw [hvalues, List.map_append, ← List.append_assoc]
    exact List.getLast?_concat
  have hparse : Endpoint.parse? (Endpoint.display ⟨address, port⟩) = some ⟨address, port⟩ :=
    parse?_display hplain
  rw [apiListener?, if_neg hrole, hread]
  simp only [Option.bind_eq_bind, Option.bind_some, hlast, hcut, String.ofList_toList, hparse]
  rfl

theorem apiListener?_balancer {a : Address} (name : String) (port : Port)
    (hcommon : (readOptions? common).isSome)
    (ha : Address.parse? s.networking.apiServerAddress = some a) :
    apiListener? (balancerCreation s common name port) =
      some ⟨s.networking.apiServerAddress, port⟩ := by
  have hpublishes : Publishes common (balancerCreation s common name port)
      ([] ++ [.tcp s.networking.apiServerAddress port Balancer.port]) :=
    publishes_balancerCreation port
  exact apiListener?_of_publishes (by simp [balancerCreation]) hcommon ha hpublishes

theorem apiListener?_controlPlane {name : String} {n : NodeSpec} {port : Port}
    (hr : n.role = .controlPlane) (hcommon : (readOptions? common).isSome) :
    apiListener? (nodeCreation s common name n
        [.tcp s.networking.family.loopback port apiServerPort]) =
      some ⟨s.networking.family.loopback, port⟩ := by
  obtain ⟨a, ha, -⟩ := exists_loopback s.networking.family
  exact apiListener?_of_publishes (by simp [nodeCreation, hr]) hcommon ha
    (publishes_nodeCreation _)

/-- Behind a load balancer, the API servers of control planes are published at what was granted, one
at each, on the host itself. -/
theorem Laid.apiListeners {nodes : List NodeSpec} {namer : Namer} {creations : List Creation}
    {granted : List Listener} (h : Laid s common nodes namer creations granted)
    (hb : s.hasBalancer = true) (hcommon : (readOptions? common).isSome) :
    creations.filterMap apiListener? = granted ∧
      granted.length = nodes.countP (·.role = .controlPlane) ∧
      ∀ l ∈ granted, l.address = s.networking.family.loopback := by
  have hpublication : publication s = ⟨s.networking.family.loopback, 0⟩ := by
    rw [publication, hb]
    rfl
  induction h with
  | nil => exact ⟨rfl, rfl, by simp⟩
  | cons own laid ih =>
    obtain ⟨hlisteners, hlength, haddress⟩ := ih
    rw [hpublication] at own
    cases own with
    | worker hr =>
      refine ⟨?_, ?_, haddress⟩
      · have hnone : ∀ name, apiListener? (nodeCreation s common name _ []) = none :=
          fun _ => if_pos hr
        rw [List.filterMap_cons_none (hnone _), hlisteners, List.nil_append]
      · rw [List.countP_cons_of_neg (by simp [hr]), List.nil_append, hlength]
    | controlPlane hr settled =>
      obtain rfl := settled
      refine ⟨?_, ?_, ?_⟩
      · rw [List.filterMap_cons_some (apiListener?_controlPlane hr hcommon), hlisteners]
        rfl
      · rw [List.countP_cons_of_pos (by simp [hr]), List.length_append, hlength,
          List.length_singleton, Nat.add_comm]
      · intro m hm
        rcases List.mem_append.1 hm with hm | hm
        · rw [List.mem_singleton.1 hm]
        · exact haddress m hm

/-! ## Clashes in a plan -/

/-- **Only a configured port can clash.** Take a plan of several control planes on a machine that
grants free ports. The load balancer and all control planes publish the API server, each control
plane on a port of its own of the host itself, and no two of these clash. The load balancer
publishes it where the specification says. If that leaves the port open, it does not clash with any
of them either. But a port that the specification names is not kept, and the load balancer clashes
with just those control planes that it was granted to, if the addresses overlap. -/
theorem clashes_only_with_configured {creations : List Creation} (hcount : 1 < s.controlPlaneCount)
    (hcommon : (readOptions? common).isSome)
    (run : Follows (plan s common {}) t (.ok creations, ports')) (free : ∀ x ∈ t, Free x) :
    ∃ balancer nodes, creations.filterMap apiListener? = balancer :: nodes ∧
      nodes.length = s.controlPlaneCount ∧
      balancer.address = s.networking.apiServerAddress ∧
      (∀ l ∈ nodes, l.address = s.networking.family.loopback ∧ l.port ≠ 0) ∧
      nodes.Pairwise (¬ ·.Clashes ·) ∧
      ∀ l ∈ nodes, balancer.Clashes l ↔ s.networking.apiServerPort ≠ 0 ∧
        l.port = s.networking.apiServerPort ∧
        overlap s.networking.apiServerAddress s.networking.family.loopback = true := by
  have hvalid := valid_of_planned run
  have hb : s.hasBalancer = true := by simpa [Spec.hasBalancer] using hcount
  have hkeeps : Keeps [] [] (plan s common {}) := plan_keeps rfl
  have hpairwise := grants_pairwise (hkeeps.sound run).2 free
  have hnonzero : ∀ l ∈ grants t, l.port ≠ 0 := fun l => ne_zero_of_mem_grants free
  have harranged : Arranged s common creations (grants t) := plan_arranged hvalid run
  generalize grants t = granted at harranged hpairwise hnonzero
  cases harranged with
  | single h => simp [hb] at h
  | @balanced port creations own granted h settled laid =>
    obtain ⟨hlisteners, hlength, haddress⟩ := laid.apiListeners hb hcommon
    obtain ⟨a, ha⟩ := hvalid.exists_address
    have hbalancer :=
      apiListener?_balancer (nodeName s.name .externalLoadBalancer 1) port hcommon ha
    rw [List.pairwise_append] at hpairwise
    obtain ⟨-, hnodes, hcross⟩ := hpairwise
    refine ⟨⟨s.networking.apiServerAddress, port⟩, granted, ?_, hlength, rfl, ?_, hnodes, ?_⟩
    · rw [List.filterMap_cons_some hbalancer, hlisteners]
    · exact fun l hl => ⟨haddress l hl, hnonzero l (List.mem_append_right own hl)⟩
    · intro l hl
      unfold Settles at settled
      split at settled
      · next hzero =>
        subst settled
        have hapart := hcross _ List.mem_cons_self l hl
        exact ⟨fun hclash => absurd hclash hapart, fun hconf => absurd hzero hconf.1⟩
      · next hset =>
        obtain ⟨rfl, rfl⟩ := settled
        rw [Listener.Clashes, haddress l hl]
        exact ⟨fun hclash => ⟨hset, hclash.1.symm, hclash.2⟩,
          fun hconf => ⟨hconf.2.1.symm, hconf.2.2⟩⟩

/-- Two control planes and a worker, with a configured port. -/
def configuredSpec : Spec :=
  { mixedSpec with networking := { mixedSpec.networking with apiServerPort := 40000 } }

/-- A machine that grants the ports from 40000 on, one after the other. -/
def ascending : (r : Request) → r.Answer
  | .listen held _ => .ok (40000 + UInt16.ofNat held.length)
  | r => r.compliance

/-- The plan for a configured port, on a machine that grants the same port first. -/
def configuredPlan :
    List (Exchange Request Request.Answer) × Except Fault (List Creation) × Ports :=
  (plan configuredSpec [] {}).play ascending

theorem configuredPlan_free : ∀ x ∈ configuredPlan.1, Free x := by
  have ht : configuredPlan.1 = [⟨.listen [] "127.0.0.1", .ok 40000⟩,
      ⟨.listen [⟨"127.0.0.1", 40000⟩] "127.0.0.1", .ok 40001⟩] := by rfl
  rw [ht]
  simp only [List.forall_mem_cons, List.not_mem_nil, false_implies, implies_true, and_true, Free]
  decide

theorem configuredPlan_ok : ∃ creations, configuredPlan.2.1 = .ok creations ∧
    creations.filterMap apiListener? =
      [⟨"127.0.0.1", 40000⟩, ⟨"127.0.0.1", 40000⟩, ⟨"127.0.0.1", 40001⟩] := by
  cases h : configuredPlan.2.1 with
  | ok creations =>
    refine ⟨creations, rfl, ?_⟩
    have hlisteners : configuredPlan.2.1.toOption.map (List.filterMap apiListener?) =
        some [⟨"127.0.0.1", 40000⟩, ⟨"127.0.0.1", 40000⟩, ⟨"127.0.0.1", 40001⟩] := by
      decide +kernel
    rw [h] at hlisteners
    exact Option.some.inj hlisteners
  | error fault =>
    have hok : configuredPlan.2.1.toBool = true := by rfl
    simp [h, Except.toBool] at hok

theorem configuredPlan_clashes : ∃ (balancer : Listener) (nodes : List Listener),
    nodes.length = 2 ∧ balancer.address = "127.0.0.1" ∧ nodes.Pairwise (¬ ·.Clashes ·) ∧
      ∀ l ∈ nodes, balancer.Clashes l ↔ l.port = 40000 := by
  obtain ⟨creations, hok, -⟩ := configuredPlan_ok
  have run := follows_play ascending (plan configuredSpec [] {})
  have hresult : configuredPlan.2 = (.ok creations, configuredPlan.2.2) := by rw [← hok]
  obtain ⟨balancer, nodes, -, hlength, haddress, -, hpairwise, hclash⟩ :=
    clashes_only_with_configured (by decide) (by decide) (hresult ▸ run) configuredPlan_free
  refine ⟨balancer, nodes, hlength, haddress, hpairwise, fun l hl => (hclash l hl).trans ?_⟩
  have hoverlap : overlap configuredSpec.networking.apiServerAddress
      configuredSpec.networking.family.loopback = true := by decide
  exact ⟨fun h => h.2.1, fun h => ⟨by decide, h, hoverlap⟩⟩

/-- **A configured port can be granted to a control plane**, which then clashes with the load
balancer: nothing keeps it. -/
theorem configured_port_granted :
    Follows (plan configuredSpec [] {}) configuredPlan.1 configuredPlan.2 ∧
      (∀ x ∈ configuredPlan.1, Free x) ∧ ∃ creations, configuredPlan.2.1 = .ok creations ∧
        ¬ (creations.filterMap apiListener?).Pairwise (¬ ·.Clashes ·) := by
  obtain ⟨creations, hok, hlisteners⟩ := configuredPlan_ok
  refine ⟨follows_play _ _, configuredPlan_free, creations, hok, ?_⟩
  rw [hlisteners]
  decide

end LocalCluster.Cluster
