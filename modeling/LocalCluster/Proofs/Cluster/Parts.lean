import LocalCluster.Proofs.Cluster.Labels

/-!
# The parts of a plan

A planned cluster is a container for each declared node, in order, and perhaps a load balancer
before them. Where in the plan a container stands is told by its role and its name.

* `Laid.forall₂`, `Laid.name_eq`, **`Laid.find?_first`**: declared nodes and their containers; the
  first one of a role has no number in its name.
* `PlannedCluster.balancer?`, `PlannedCluster.declared`; **`PlannedCluster.parts`**: the parts.
* **`PlannedCluster.isSome_balancer?`**: when there is a load balancer.
-/

namespace LocalCluster.Cluster

open LocalCluster.Container Script Plan

variable {s : Spec} {common : List String} {nodes : List NodeSpec} {namer : Namer}
variable {creations : List Creation} {granted : List Listener}

/-! ## Declared nodes -/

theorem Laid.forall₂ {R : NodeSpec → Creation → Prop}
    (h : Laid s common nodes namer creations granted)
    (hnode : ∀ n ∈ nodes, ∀ name published own, Own (publication s) n published own →
      R n (nodeCreation s common name n published)) :
    List.Forall₂ R nodes creations := by
  induction h with
  | nil => exact .nil
  | cons own _ ih =>
    exact .cons (hnode _ List.mem_cons_self _ _ _ own)
      (ih fun n hn => hnode n (List.mem_cons_of_mem _ hn))

theorem Laid.role_ne (h : Laid s common nodes namer creations granted)
    (hnodes : ∀ n ∈ nodes, n.role ≠ .externalLoadBalancer) :
    ∀ c ∈ creations, c.role ≠ .externalLoadBalancer := by
  induction h with
  | nil => simp
  | cons _ _ ih =>
    obtain ⟨hn, hrest⟩ := List.forall_mem_cons.1 hnodes
    exact List.forall_mem_cons.2 ⟨hn, ih hrest⟩

theorem Laid.roles (h : Laid s common nodes namer creations granted) :
    creations.map Creation.role = nodes.map NodeSpec.role := by
  induction h with
  | nil => rfl
  | cons _ _ ih => exact congrArg (_ :: ·) ih

theorem Laid.name_eq (h : Laid s common nodes namer creations granted) :
    ∀ c ∈ creations, ∃ k, c.name = nodeName namer.cluster c.role k := by
  induction h with
  | nil => simp
  | cons _ _ ih => exact List.forall_mem_cons.2 ⟨⟨_, rfl⟩, ih⟩

/-- **The first declared node of a role has no number in its name.** -/
theorem Laid.find?_first {role : Role} (h : Laid s common nodes namer creations granted)
    (hnamed : role ∉ namer.named) (hrole : ∃ n ∈ nodes, n.role = role) :
    ∃ n published own,
      (nodes.zip creations).find? (·.1.role = role) =
        some (n, nodeCreation s common (nodeName namer.cluster role 1) n published) ∧
      n.role = role ∧ Own (publication s) n published own := by
  -- as long as the role has not come up, it has no names yet
  induction h with
  | nil => simp at hrole
  | @cons n rest namer published creations own granted hown _ ih =>
    by_cases hn : n.role = role
    · refine ⟨n, published, own, ?_, hn, hown⟩
      rw [List.zip_cons_cons, List.find?_cons_of_pos (by simpa using hn), Namer.next, hn,
        List.count_eq_zero.2 hnamed]
    · rw [List.zip_cons_cons, List.find?_cons_of_neg (by simpa using hn)]
      refine ih (fun hmem => ?_) ?_
      · exact (List.mem_cons.1 hmem).elim (Ne.symm hn) hnamed
      · obtain ⟨m, hm, hr⟩ := hrole
        rcases List.mem_cons.1 hm with rfl | hm
        · exact absurd hr hn
        · exact ⟨m, hm, hr⟩

/-! ## Planned clusters -/

/-- What stands in front of the declared nodes of a plan. -/
inductive Fronted (s : Spec) (common : List String) : Option Creation → Prop where
  | bare (h : s.hasBalancer = false) : Fronted s common none
  | balanced {port : Port} {granted : List Listener} (h : s.hasBalancer = true)
      (settled : Settles ⟨s.networking.apiServerAddress, s.networking.apiServerPort⟩ port granted) :
      Fronted s common
        (some (balancerCreation s common (nodeName s.name .externalLoadBalancer 1) port))

namespace PlannedCluster

variable (p : PlannedCluster)

/-- The container of the load balancer, if one is planned. -/
def balancer? : Option Creation := p.creations.find? (·.role = .externalLoadBalancer)

/-- The containers of the declared nodes. -/
def declared : List Creation := p.creations.filter (·.role ≠ .externalLoadBalancer)

/-- **The parts of a plan**: the load balancer, if there is one, and the declared nodes in order. -/
theorem parts : Fronted p.spec (commonArgs p.spec p.proxies p.remapped) p.balancer? ∧
    p.creations = p.balancer?.toList ++ p.declared ∧
    ∃ namer granted, namer.cluster = p.spec.name ∧ .controlPlane ∉ namer.named ∧
      Laid p.spec (commonArgs p.spec p.proxies p.remapped) p.spec.nodes namer p.declared
        granted := by
  have hroles : ∀ n ∈ p.spec.nodes, n.role ≠ .externalLoadBalancer :=
    fun n hn => ((Spec.valid_iff.1 p.valid).2.2.2.1 n hn).1
  obtain ⟨granted, harranged⟩ := p.arranged
  rw [balancer?, declared]
  generalize p.creations = creations at harranged
  cases harranged with
  | single h laid =>
    have hdeclared := laid.role_ne hroles
    have hnone : creations.find? (fun c => decide (c.role = .externalLoadBalancer)) = none :=
      List.find?_eq_none.2 fun c hc => by simpa using hdeclared c hc
    have hall : creations.filter (fun c => decide (c.role ≠ .externalLoadBalancer)) = creations :=
      List.filter_eq_self.2 fun c hc => by simpa using hdeclared c hc
    rw [hnone, hall]
    exact ⟨.bare h, rfl, _, _, rfl, by simp, laid⟩
  | @balanced port creations _ _ h settled laid =>
    have hdeclared := laid.role_ne hroles
    have hall : creations.filter (fun c => decide (c.role ≠ .externalLoadBalancer)) = creations :=
      List.filter_eq_self.2 fun c hc => by simpa using hdeclared c hc
    have hfirst : (balancerCreation p.spec (commonArgs p.spec p.proxies p.remapped)
        (nodeName p.spec.name .externalLoadBalancer 1) port).role = .externalLoadBalancer := rfl
    rw [List.find?_cons_of_pos (by simp [hfirst]), List.filter_cons_of_neg (by simp [hfirst]), hall]
    exact ⟨.balanced h settled, rfl, _, _, rfl, by simp, laid⟩

theorem isSome_balancer? : p.balancer?.isSome ↔ 1 < p.spec.controlPlaneCount := by
  obtain ⟨hfronted, -⟩ := p.parts
  generalize p.balancer? = front at hfronted
  cases hfronted with
  | bare h => simpa [Spec.hasBalancer] using h
  | balanced h _ => simpa [Spec.hasBalancer] using h

end PlannedCluster

end LocalCluster.Cluster
