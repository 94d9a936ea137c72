import LocalCluster.Cluster.Selection
import LocalCluster.Proofs.Text.Sorted

/-!
# Which nodes are chosen

* `mem_withRole`, `mem_workers`, `mem_secondaryControlPlanes`: who plays which part.
* **`bootstrapControlPlane_le`**: the cluster begins with the first control plane by name.
* `nodup_joining_order`: among nodes of distinct names nobody joins twice.
-/

namespace LocalCluster.Cluster

open LocalCluster.Text

variable {nodes : List Node} {n first : Node}

theorem mem_withRole {role : Role} : n ∈ withRole role nodes ↔ n ∈ nodes ∧ n.role = role := by
  rw [withRole, (sortOn_perm _ _).mem_iff, List.mem_filter, decide_eq_true_eq]

theorem mem_controlPlanes : n ∈ controlPlanes nodes ↔ n ∈ nodes ∧ n.role = .controlPlane :=
  mem_withRole

theorem mem_workers : n ∈ workers nodes ↔ n ∈ nodes ∧ n.role = .worker := mem_withRole

theorem externalLoadBalancer_eq (h : nodes.filter (·.role = .externalLoadBalancer) = [n]) :
    externalLoadBalancer nodes = .ok (some n) := by
  rw [externalLoadBalancer, withRole, h]
  rfl

theorem controlPlanes_eq_cons (h : bootstrapControlPlane nodes = .ok first) :
    controlPlanes nodes = first :: secondaryControlPlanes nodes := by
  unfold bootstrapControlPlane at h
  split at h
  · next m rest hm =>
    cases h
    rw [secondaryControlPlanes, hm]
    rfl
  · cases h

theorem exists_bootstrapControlPlane (h : ∃ n ∈ nodes, n.role = .controlPlane) :
    ∃ first, bootstrapControlPlane nodes = .ok first := by
  obtain ⟨n, hn, hr⟩ := h
  have hmem : n ∈ controlPlanes nodes := mem_controlPlanes.2 ⟨hn, hr⟩
  unfold bootstrapControlPlane
  cases hc : controlPlanes nodes with
  | nil => simp [hc] at hmem
  | cons first rest => exact ⟨first, rfl⟩

theorem bootstrapControlPlane_mem (h : bootstrapControlPlane nodes = .ok first) :
    first ∈ nodes ∧ first.role = .controlPlane :=
  mem_controlPlanes.1 (by rw [controlPlanes_eq_cons h]; exact List.mem_cons_self)

/-- **No control plane has a smaller name than the one that the cluster begins with.** -/
theorem bootstrapControlPlane_le (h : bootstrapControlPlane nodes = .ok first) (hn : n ∈ nodes)
    (hr : n.role = .controlPlane) : first.name ≤ n.name := by
  have hs : (controlPlanes nodes).Pairwise (·.name ≤ ·.name) := sortOn_pairwise _ _
  have hmem : n ∈ controlPlanes nodes := mem_controlPlanes.2 ⟨hn, hr⟩
  rw [controlPlanes_eq_cons h] at hs hmem
  rcases List.mem_cons.1 hmem with rfl | hmem
  · exact String.le_refl _
  · exact (List.pairwise_cons.1 hs).1 n hmem

section

variable (hdistinct : (nodes.map Node.name).Nodup)
include hdistinct

theorem eq_of_name_eq {m : Node} (hn : n ∈ nodes) (hm : m ∈ nodes) (h : n.name = m.name) : n = m :=
  List.inj_on_of_nodup_map hdistinct hn hm h

theorem nodup_withRole (role : Role) : (withRole role nodes).Nodup :=
  (sortOn_perm _ _).nodup_iff.2 (hdistinct.of_map.filter _)

theorem mem_secondaryControlPlanes (h : bootstrapControlPlane nodes = .ok first) :
    n ∈ secondaryControlPlanes nodes ↔ n ∈ nodes ∧ n.role = .controlPlane ∧ n ≠ first := by
  have hnodup : (first :: secondaryControlPlanes nodes).Nodup := by
    rw [← controlPlanes_eq_cons h]
    exact nodup_withRole hdistinct _
  have hmem : n ∈ controlPlanes nodes ↔ n ∈ nodes ∧ n.role = .controlPlane := mem_controlPlanes
  rw [controlPlanes_eq_cons h, List.mem_cons] at hmem
  constructor
  · intro hn
    obtain ⟨hin, hr⟩ := hmem.1 (.inr hn)
    exact ⟨hin, hr, fun he => (List.nodup_cons.1 hnodup).1 (he ▸ hn)⟩
  · rintro ⟨hin, hr, hne⟩
    exact (hmem.2 ⟨hin, hr⟩).resolve_left hne

theorem nodup_joining_order : (secondaryControlPlanes nodes ++ workers nodes).Nodup := by
  refine List.nodup_append.2 ⟨(List.tail_sublist _).nodup (nodup_withRole hdistinct _),
    nodup_withRole hdistinct _, fun n hn m hm he => ?_⟩
  have hc := (mem_controlPlanes.1 (List.mem_of_mem_tail hn)).2
  have hw := (mem_workers.1 hm).2
  rw [he, hw] at hc
  cases hc

end

end LocalCluster.Cluster
