import LocalCluster.Cluster.Plan
import LocalCluster.Proofs.Work.Follows

/-!
# How a plan is laid out

A plan asks for free ports and puts one container after the other. Either it is refused a port, and
that is the last thing it asks, or its containers are laid out along the declared nodes, each with
the ports that were granted for it.

* `grants`: the ports granted in a run; `Settles`, `Own`: which of them go into one container.
* `Laid`, `Arranged`: the containers of declared nodes, and those of a whole plan.
* **`plan_arranged`**: a plan of a valid specification is arranged or refused.
-/

namespace LocalCluster.Cluster

open LocalCluster.Container LocalCluster.Net Script Plan

variable {s : Spec} {common : List String} {ports ports' : Ports} {fault : Fault}
variable {t t₁ t₂ : List (Exchange Request Request.Answer)}

/-! ## Valid specifications -/

theorem Spec.valid_iff : s.Valid ↔
    s.name ≠ "" ∧ (∀ c ∈ s.name.toList, isNameChar c = true) ∧ s.network ≠ "" ∧
      (∀ n ∈ s.nodes, n.role ≠ .externalLoadBalancer ∧ n.image ≠ "") ∧
      s.controlPlaneCount ≠ 0 ∧ addressIssue? s.networking = none := by
  have hnode : ∀ n, nodeIssue? n = none ↔ n.role ≠ .externalLoadBalancer ∧ n.image ≠ "" := by
    intro n
    unfold nodeIssue?
    split
    · simp_all
    · split <;> simp_all
  unfold Valid issue?
  simp only [← hnode, ← List.findSome?_eq_none_iff]
  by_cases hname : s.name = ""
  · simp [hname]
  by_cases hchars : s.name.toList.any (! isNameChar ·) = true
  · have hall : ¬ ∀ c ∈ s.name.toList, isNameChar c = true := by simpa using hchars
    simp only [if_neg hname, if_pos hchars, hall, false_and, and_false]
    simp
  have hall : ∀ c ∈ s.name.toList, isNameChar c = true := by simpa using hchars
  by_cases hnetwork : s.network = ""
  · simp [hname, hchars, hnetwork]
  simp only [hname, if_neg hchars, hnetwork, ne_eq, not_false_iff, true_and, iff_true_intro hall]
  cases s.nodes.findSome? nodeIssue? with
  | some issue => simp
  | none => by_cases hcp : s.controlPlaneCount = 0 <;> simp [hcp]

theorem Spec.addressIssue?_eq_none_iff {n : Networking} : addressIssue? n = none ↔
    ∃ a, Address.parse? n.apiServerAddress = some a ∧ (a.isV6 = true ↔ n.family = .ipv6) := by
  unfold addressIssue?
  cases Address.parse? n.apiServerAddress with
  | none => simp
  | some a => by_cases h : n.family = .ipv6 <;> simp [h]

theorem exists_loopback (family : Family) :
    ∃ a, Address.parse? family.loopback = some a ∧ (a.isV6 = true ↔ family = .ipv6) := by
  cases family with
  | ipv4 => exact ⟨.v4 [127, 0, 0, 1], by decide, by decide⟩
  | ipv6 => exact ⟨.v6 [0, 0, 0, 0, 0, 0, 0, 1], by decide, by decide⟩

theorem Spec.Valid.exists_address (h : s.Valid) :
    ∃ a, Address.parse? s.networking.apiServerAddress = some a := by
  obtain ⟨-, -, -, -, -, haddress⟩ := Spec.valid_iff.1 h
  obtain ⟨a, ha, -⟩ := addressIssue?_eq_none_iff.1 haddress
  exact ⟨a, ha⟩

theorem Spec.Valid.address_ne (h : s.Valid) : s.networking.apiServerAddress ≠ "" := by
  obtain ⟨a, ha⟩ := h.exists_address
  intro hempty
  have hnone : Address.parse? "" = none := by decide
  rw [hempty, hnone] at ha
  cases ha

theorem Spec.Valid.publication_ne (h : s.Valid) : (publication s).address ≠ "" := by
  unfold publication
  split
  · cases s.networking.family <;> decide
  · exact h.address_ne

/-! ## Granted ports -/

/-- The listener that an exchange brings about, if a port was granted. -/
def granted? : Exchange Request Request.Answer → Option Listener
  | ⟨.listen _ address, .ok port⟩ => some ⟨address, port⟩
  | _ => none

/-- The ports granted in a run, in order, each with the address it was asked for on. -/
def grants (t : List (Exchange Request Request.Answer)) : List Listener := t.filterMap granted?

@[simp] theorem grants_append : grants (t₁ ++ t₂) = grants t₁ ++ grants t₂ := List.filterMap_append

/-- The port that is published at `p`, and what had to be granted for it: a port that is given is
taken as it is, and zero stands for one that is granted. -/
def Settles (p : Publication) (port : Port) (granted : List Listener) : Prop :=
  if p.port = 0 then granted = [⟨p.address, port⟩] else port = p.port ∧ granted = []

/-- The last thing asked for was a free port, and it was refused; the fault tells so. -/
def Refused (t : List (Exchange Request Request.Answer)) (fault : Fault) : Prop :=
  ∃ before held address cause, t = before ++ [⟨.listen held address, .error cause⟩] ∧
    (fault = .context "failed to get port for API server" (.io cause) ∨
      fault = .context "failed to get port for api server load balancer" (.io cause))

theorem Refused.append (h : Refused t₂ fault) : Refused (t₁ ++ t₂) fault := by
  obtain ⟨before, held, address, cause, rfl, hfault⟩ := h
  exact ⟨t₁ ++ before, held, address, cause, (List.append_assoc ..).symm, hfault⟩

theorem follows_listen_iff {held : List Listener} {address : String} {r : Except Fault Port} :
    Follows (listen held address).run t r ↔
      ∃ answer, t = [⟨.listen held address, answer⟩] ∧ r = answer.mapError Fault.io := by
  constructor
  · intro h
    cases h with
    | ask h =>
      cases h
      exact ⟨_, rfl, rfl⟩
  · rintro ⟨answer, rfl, rfl⟩
    exact .ask (.done _)

theorem settle_outcome {p : Publication} {r : Except Fault Port} (ha : p.address ≠ "")
    (h : Follows (ports.settle p.port p.address) t (r, ports')) :
    match r with
    | .ok port => Settles p port (grants t)
    | .error fault => ∃ held address cause,
        t = [⟨.listen held address, .error cause⟩] ∧ fault = .io cause := by
  unfold Ports.settle at h
  by_cases hp : p.port = 0
  · rw [if_neg (by simpa using hp)] at h
    obtain ⟨asked, t₁, t₂, rfl, h₁, h₂⟩ := follows_bind_iff.1 h
    obtain ⟨answer, rfl, rfl⟩ := follows_listen_iff.1 h₁
    cases answer with
    | ok free =>
      obtain ⟨rfl, hr⟩ := follows_pure_iff.1 h₂
      cases hr
      simp [Settles, hp, grants, granted?, bindAddress, ha]
    | error cause =>
      obtain ⟨rfl, hr⟩ := follows_pure_iff.1 h₂
      cases hr
      exact ⟨_, _, cause, rfl, rfl⟩
  · rw [if_pos hp] at h
    obtain ⟨rfl, hr⟩ := follows_pure_iff.1 h
    cases hr
    simp [Settles, hp, grants]

/-! ## Containers of a plan -/

/-- What a node publishes of its own, and what had to be granted for it. -/
inductive Own (p : Publication) (n : NodeSpec) : List PortMapping → List Listener → Prop where
  | worker (hr : n.role = .worker) : Own p n [] []
  | controlPlane (hr : n.role = .controlPlane) {port : Port} {granted : List Listener}
      (settled : Settles p port granted) : Own p n [.tcp p.address port apiServerPort] granted

/-- The containers of declared nodes, laid out one after the other, and what had to be granted for
them. -/
inductive Laid (s : Spec) (common : List String) :
    List NodeSpec → Namer → List Creation → List Listener → Prop where
  | nil {namer : Namer} : Laid s common [] namer [] []
  | cons {n : NodeSpec} {rest : List NodeSpec} {namer : Namer} {published : List PortMapping}
      {creations : List Creation} {l ls : List Listener} (own : Own (publication s) n published l)
      (laid : Laid s common rest (namer.next n.role).2 creations ls) :
      Laid s common (n :: rest) namer
        (nodeCreation s common (namer.next n.role).1 n published :: creations) (l ++ ls)

/-- All containers of a plan: the load balancer, if there is one, and then the declared nodes. -/
inductive Arranged (s : Spec) (common : List String) : List Creation → List Listener → Prop where
  | single {creations : List Creation} {ls : List Listener} (h : s.hasBalancer = false)
      (laid : Laid s common s.nodes { cluster := s.name } creations ls) :
      Arranged s common creations ls
  | balanced {port : Port} {creations : List Creation} {l ls : List Listener}
      (h : s.hasBalancer = true)
      (settled : Settles ⟨s.networking.apiServerAddress, s.networking.apiServerPort⟩ port l)
      (laid : Laid s common s.nodes
        ({ cluster := s.name, named := [.externalLoadBalancer] }) creations ls) :
      Arranged s common
        (balancerCreation s common (nodeName s.name .externalLoadBalancer 1) port :: creations)
        (l ++ ls)

theorem Laid.names {nodes : List NodeSpec} {namer : Namer} {creations : List Creation}
    {ls : List Listener} (h : Laid s common nodes namer creations ls) :
    creations.map Creation.name = namer.names (nodes.map NodeSpec.role) := by
  induction h with
  | nil => rfl
  | cons _ _ ih => exact congrArg (_ :: ·) ih

theorem Arranged.names {creations : List Creation} {ls : List Listener}
    (h : Arranged s common creations ls) :
    ∃ roles, creations.map Creation.name = ({ cluster := s.name } : Namer).names roles := by
  cases h with
  | single _ laid => exact ⟨_, laid.names⟩
  | balanced _ _ laid =>
    exact ⟨.externalLoadBalancer :: s.nodes.map NodeSpec.role, congrArg (_ :: ·) laid.names⟩

/-- A property of the containers of load balancers and of nodes holds of all planned containers. -/
theorem Arranged.forall {P : Creation → Prop} {creations : List Creation} {ls : List Listener}
    (h : Arranged s common creations ls)
    (hbalancer : ∀ port,
      P (balancerCreation s common (nodeName s.name .externalLoadBalancer 1) port))
    (hnode : ∀ name n published, P (nodeCreation s common name n published)) :
    ∀ creation ∈ creations, P creation := by
  have hlaid : ∀ {nodes namer creations ls}, Laid s common nodes namer creations ls →
      ∀ creation ∈ creations, P creation := by
    intro nodes namer creations ls h
    induction h with
    | nil => simp
    | cons _ _ ih => exact List.forall_mem_cons.2 ⟨hnode _ _ _, ih⟩
  cases h with
  | single _ laid => exact hlaid laid
  | balanced _ _ laid => exact List.forall_mem_cons.2 ⟨hbalancer _, hlaid laid⟩

/-- A plan that has come to an end is as it should be, or it was refused a port. -/
def Outcome (good : List Creation → List Listener → Prop)
    (t : List (Exchange Request Request.Answer)) : Except Fault (List Creation) → Prop
  | .ok creations => good creations (grants t)
  | .error fault => Refused t fault

theorem Outcome.prepend {good good' : List Creation → List Listener → Prop} {creation : Creation}
    {r : Except Fault (List Creation)} (h : Outcome good t₂ r)
    (hgood : ∀ creations ls, good creations ls → good' (creation :: creations) (grants t₁ ++ ls)) :
    Outcome good' (t₁ ++ t₂) (r.map (creation :: ·)) := by
  cases r with
  | error fault => exact Refused.append h
  | ok creations =>
    show good' (creation :: creations) (grants (t₁ ++ t₂))
    rw [grants_append]
    exact hgood _ _ h

theorem publishedPorts_outcome {n : NodeSpec} {r : Except Fault (List PortMapping)}
    {p : Publication} (ha : p.address ≠ "") (hn : n.role ≠ .externalLoadBalancer)
    (h : Follows (publishedPorts p n ports) t (r, ports')) :
    match r with
    | .ok published => Own p n published (grants t)
    | .error fault => Refused t fault := by
  unfold publishedPorts at h
  split at h
  · next hr =>
    obtain ⟨⟨settled, after⟩, t₁, t₂, rfl, h₁, h₂⟩ := follows_bind_iff.1 h
    obtain ⟨rfl, he⟩ := follows_pure_iff.1 h₂
    have hs := settle_outcome ha h₁
    cases settled with
    | ok port =>
      cases he
      exact .controlPlane hr (by simpa using hs)
    | error fault =>
      cases he
      obtain ⟨held, address, cause, rfl, rfl⟩ := hs
      exact ⟨[], held, address, cause, rfl, .inl rfl⟩
  · next hr =>
    obtain ⟨rfl, he⟩ := follows_pure_iff.1 h
    cases he
    exact .worker hr
  · next hr => exact absurd hr hn

theorem nodeCreations_outcome {nodes : List NodeSpec} {namer : Namer}
    {r : Except Fault (List Creation)} (ha : (publication s).address ≠ "")
    (hn : ∀ n ∈ nodes, n.role ≠ .externalLoadBalancer)
    (h : Follows (nodeCreations s common nodes namer ports) t (r, ports')) :
    Outcome (Laid s common nodes namer) t r := by
  induction nodes generalizing namer ports ports' t r with
  | nil =>
    obtain ⟨rfl, he⟩ := follows_pure_iff.1 h
    cases he
    exact .nil
  | cons n rest ih =>
    obtain ⟨⟨own, between⟩, t₁, t₂, rfl, h₁, h₂⟩ := follows_bind_iff.1 h
    have hown := publishedPorts_outcome ha (hn n List.mem_cons_self) h₁
    cases own with
    | error fault =>
      obtain ⟨rfl, he⟩ := follows_pure_iff.1 h₂
      cases he
      rw [List.append_nil]
      exact hown
    | ok published =>
      obtain ⟨⟨later, after⟩, t₃, t₄, rfl, h₃, h₄⟩ := follows_bind_iff.1 h₂
      obtain ⟨rfl, he⟩ := follows_pure_iff.1 h₄
      have hlater := ih (fun m hm => hn m (List.mem_cons_of_mem n hm)) h₃
      obtain ⟨rfl, -⟩ := Prod.mk.inj he
      rw [List.append_nil]
      exact hlater.prepend fun _ _ => .cons hown

/-- A plan of an invalid specification asks nothing and reports what is wrong. -/
theorem follows_plan_invalid {r : Except Fault (List Creation)} (hv : s.validate = .error fault)
    (h : Follows (plan s common ports) t (r, ports')) : r = .error fault ∧ t = [] := by
  rw [plan, hv] at h
  obtain ⟨rfl, he⟩ := follows_pure_iff.1 h
  exact ⟨(Prod.mk.inj he).1, rfl⟩

theorem valid_of_planned {creations : List Creation}
    (h : Follows (plan s common ports) t (.ok creations, ports')) : s.Valid := by
  cases hv : s.validate with
  | ok u => exact Spec.validate_eq_ok_iff.1 hv
  | error fault => cases (follows_plan_invalid hv h).1

theorem asks_plan {P : Request → Prop} (hP : ∀ held address, P (.listen held address)) :
    (plan s common ports).Asks P := by
  have hsettle : ∀ (ports : Ports) port address, (ports.settle port address).Asks P := by
    intro ports port address
    unfold Ports.settle
    split
    · trivial
    · refine Asks.bind (Asks.run_bind (Asks.run_lift ((asks_lift P _).2 (hP _ _)))
        fun answer => asks_run_mk_pure _) fun r => ?_
      cases r <;> trivial
  have hpublished : ∀ (p : Publication) n (ports : Ports), (publishedPorts p n ports).Asks P := by
    intro p n ports
    unfold publishedPorts
    split
    · exact (hsettle ports _ _).bind fun r => trivial
    · trivial
    · trivial
  have hnodes : ∀ nodes (namer : Namer) (ports : Ports),
      (nodeCreations s common nodes namer ports).Asks P := by
    intro nodes
    induction nodes with
    | nil => exact fun _ _ => trivial
    | cons n rest ih =>
      refine fun namer ports => (hpublished _ n ports).bind fun r => ?_
      obtain ⟨r, between⟩ := r
      cases r with
      | error fault => trivial
      | ok published => exact (ih _ _).bind fun r => trivial
  unfold plan
  split
  · trivial
  · dsimp only
    split
    · refine (hsettle ports _ _).bind fun r => ?_
      obtain ⟨r, between⟩ := r
      cases r with
      | error fault => trivial
      | ok port => exact (hnodes _ _ _).bind fun r => trivial
    · exact hnodes _ _ _

/-- **A plan of a valid specification is arranged, or it was refused a port.** -/
theorem plan_arranged {r : Except Fault (List Creation)} (hvalid : s.Valid)
    (h : Follows (plan s common ports) t (r, ports')) :
    Outcome (Arranged s common) t r := by
  have hroles : ∀ n ∈ s.nodes, n.role ≠ .externalLoadBalancer := fun n hn =>
    ((Spec.valid_iff.1 hvalid).2.2.2.1 n hn).1
  unfold plan at h
  rw [Spec.validate_eq_ok_iff.2 hvalid] at h
  dsimp only at h
  split at h
  · next hb =>
    obtain ⟨⟨settled, between⟩, t₁, t₂, rfl, h₁, h₂⟩ := follows_bind_iff.1 h
    have hs := settle_outcome
      (p := ⟨s.networking.apiServerAddress, s.networking.apiServerPort⟩) hvalid.address_ne h₁
    cases settled with
    | error fault =>
      obtain ⟨rfl, he⟩ := follows_pure_iff.1 h₂
      cases he
      obtain ⟨held, address, cause, rfl, rfl⟩ := hs
      exact ⟨[], held, address, cause, rfl, .inr rfl⟩
    | ok port =>
      obtain ⟨⟨later, after⟩, t₃, t₄, rfl, h₃, h₄⟩ := follows_bind_iff.1 h₂
      obtain ⟨rfl, he⟩ := follows_pure_iff.1 h₄
      have hlater := nodeCreations_outcome hvalid.publication_ne hroles h₃
      obtain ⟨rfl, -⟩ := Prod.mk.inj he
      rw [List.append_nil]
      exact hlater.prepend fun _ _ => .balanced hb hs
  · next hb =>
    have hlaid := nodeCreations_outcome hvalid.publication_ne hroles h
    cases r with
    | error fault => exact hlaid
    | ok creations => exact .single (by simpa using hb) hlaid

end LocalCluster.Cluster
