import LocalCluster.Proofs.Cluster.Selection

/-!
# The roster of a cluster

Nodes are listed in any order, and what each of them is for is settled by its role and its name
alone. So whoever picks nodes out of two listings of one cluster picks the same ones.

* `Relisted`: two listings of the nodes of a cluster; `Relisted.endpointNode_eq`, …: every choice
  among them is the same.
* `Duty`: what a node is for; **`exists_unique_duty`**: every node is for just one thing.
* `controlPlanes_eq_append`, `controlPlanes_pairwise_lt`: the control planes in their order.
* **`endpointNode_fails_iff`**: when no node is chosen to reach the API server.
-/

namespace LocalCluster.Cluster

open LocalCluster.Text

variable {nodes xs ys : List Node} {n : Node}

/-! ## Listings -/

/-- Two listings of the nodes of one cluster, of which no two have the same name. -/
structure Relisted (xs ys : List Node) : Prop where
  perm : xs.Perm ys
  distinct : (xs.map Node.name).Nodup

namespace Relisted

variable (h : Relisted xs ys)
include h

theorem withRole_eq (role : Role) : withRole role xs = withRole role ys := by
  have hnodup : ((xs.filter (·.role = role)).map Node.name).Nodup :=
    h.distinct.sublist (List.filter_sublist.map _)
  exact sortOn_eq_of_perm (h.perm.filter _) hnodup

theorem controlPlanes_eq : controlPlanes xs = controlPlanes ys := h.withRole_eq _

theorem workers_eq : workers xs = workers ys := h.withRole_eq _

theorem bootstrapControlPlane_eq : bootstrapControlPlane xs = bootstrapControlPlane ys := by
  rw [bootstrapControlPlane, h.controlPlanes_eq, bootstrapControlPlane]

theorem secondaryControlPlanes_eq : secondaryControlPlanes xs = secondaryControlPlanes ys := by
  rw [secondaryControlPlanes, h.controlPlanes_eq, secondaryControlPlanes]

theorem externalLoadBalancer_eq : externalLoadBalancer xs = externalLoadBalancer ys := by
  rw [externalLoadBalancer, h.withRole_eq, externalLoadBalancer]

theorem endpointNode_eq : endpointNode xs = endpointNode ys := by
  rw [endpointNode, h.externalLoadBalancer_eq, h.bootstrapControlPlane_eq, endpointNode]

end Relisted

/-! ## Control planes -/

theorem bootstrapControlPlane_fails_iff :
    (∃ fault, bootstrapControlPlane nodes = .error fault) ↔
      ∀ n ∈ nodes, n.role ≠ .controlPlane := by
  have hnone : controlPlanes nodes = [] ↔ ∀ n ∈ nodes, n.role ≠ .controlPlane := by
    simp only [List.eq_nil_iff_forall_not_mem, mem_controlPlanes, not_and]
  rw [← hnone, bootstrapControlPlane]
  cases controlPlanes nodes <;> simp

/-- The control planes are the one that the cluster begins with, if there is one, and the ones that
join later. -/
theorem controlPlanes_eq_append : controlPlanes nodes =
    (bootstrapControlPlane nodes).toOption.toList ++ secondaryControlPlanes nodes := by
  rw [bootstrapControlPlane, secondaryControlPlanes]
  cases controlPlanes nodes <;> rfl

theorem controlPlanes_pairwise_lt (hdistinct : (nodes.map Node.name).Nodup) :
    (controlPlanes nodes).Pairwise (·.name < ·.name) :=
  sortOn_pairwise_lt (hdistinct.sublist (List.filter_sublist.map _))

/-! ## Duties -/

/-- What a node is for. -/
inductive Duty where
  /-- The cluster begins with it. -/
  | bootstrap
  /-- It is a control plane that joins later. -/
  | secondary
  | worker
  | balancer
  deriving DecidableEq, Repr

namespace Duty

/-- The nodes that have a duty. -/
def members (nodes : List Node) : Duty → List Node
  | bootstrap => (bootstrapControlPlane nodes).toOption.toList
  | secondary => secondaryControlPlanes nodes
  | worker => workers nodes
  | balancer => withRole .externalLoadBalancer nodes

/-- The role that goes with a duty. -/
def role : Duty → Role
  | bootstrap | secondary => .controlPlane
  | worker => .worker
  | balancer => .externalLoadBalancer

end Duty

theorem role_of_mem_members {duty : Duty} (h : n ∈ duty.members nodes) : n.role = duty.role := by
  cases duty with
  | bootstrap =>
    have hmem : n ∈ controlPlanes nodes := by
      rw [controlPlanes_eq_append]
      exact List.mem_append_left _ h
    exact (mem_controlPlanes.1 hmem).2
  | secondary => exact (mem_controlPlanes.1 (List.mem_of_mem_tail h)).2
  | worker => exact (mem_workers.1 h).2
  | balancer => exact (mem_withRole.1 h).2

/-- **Every node is for just one thing.** -/
theorem exists_unique_duty (hdistinct : (nodes.map Node.name).Nodup) (hn : n ∈ nodes) :
    ∃! duty : Duty, n ∈ duty.members nodes := by
  have hcontrol : ((bootstrapControlPlane nodes).toOption.toList ++
      secondaryControlPlanes nodes).Nodup := by
    rw [← controlPlanes_eq_append]
    exact nodup_withRole hdistinct _
  have happart : n ∈ Duty.bootstrap.members nodes → n ∉ Duty.secondary.members nodes := fun h h' =>
    (List.nodup_append.1 hcontrol).2.2 n h n h' rfl
  have hsome : ∃ duty : Duty, n ∈ duty.members nodes := by
    cases hr : n.role with
    | controlPlane =>
      have hmem : n ∈ controlPlanes nodes := mem_controlPlanes.2 ⟨hn, hr⟩
      rw [controlPlanes_eq_append, List.mem_append] at hmem
      exact hmem.elim (fun h => ⟨.bootstrap, h⟩) fun h => ⟨.secondary, h⟩
    | worker => exact ⟨.worker, mem_workers.2 ⟨hn, hr⟩⟩
    | externalLoadBalancer => exact ⟨.balancer, mem_withRole.2 ⟨hn, hr⟩⟩
  obtain ⟨duty, hduty⟩ := hsome
  refine ⟨duty, hduty, fun other hother => ?_⟩
  have hrole : other.role = duty.role :=
    (role_of_mem_members hother).symm.trans (role_of_mem_members hduty)
  -- Roles tell duties apart, but for the two duties of control planes.
  cases other with
  | bootstrap =>
    cases duty with
    | secondary => exact absurd hduty (happart hother)
    | _ => first | rfl | cases hrole
  | secondary =>
    cases duty with
    | bootstrap => exact absurd hother (happart hduty)
    | _ => first | rfl | cases hrole
  | worker | balancer => cases duty <;> first | rfl | cases hrole

/-! ## The endpoint -/

theorem length_withRole (role : Role) :
    (withRole role nodes).length = nodes.countP (·.role = role) := by
  rw [withRole, (sortOn_perm _ _).length_eq, List.countP_eq_length_filter]

/-- **The API server cannot be reached** if several nodes balance its load, or if no node does and
none is a control plane. -/
theorem endpointNode_fails_iff : (∃ fault, endpointNode nodes = .error fault) ↔
    2 ≤ nodes.countP (·.role = .externalLoadBalancer) ∨
      (∀ n ∈ nodes, n.role ≠ .externalLoadBalancer) ∧ ∀ n ∈ nodes, n.role ≠ .controlPlane := by
  have hnone : withRole .externalLoadBalancer nodes = [] ↔
      ∀ n ∈ nodes, n.role ≠ .externalLoadBalancer := by
    simp only [List.eq_nil_iff_forall_not_mem, mem_withRole, not_and]
  rw [← length_withRole, ← hnone, ← bootstrapControlPlane_fails_iff, endpointNode,
    externalLoadBalancer]
  cases withRole .externalLoadBalancer nodes with
  | nil => simp [bind, Except.bind]
  | cons balancer others =>
    cases others with
    | nil => simp [bind, Except.bind, pure, Except.pure]
    | cons => simp [bind, Except.bind]

end LocalCluster.Cluster
