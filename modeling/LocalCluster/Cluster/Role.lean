import LocalCluster.Cluster.Fault

/-!
# Roles of nodes

* `Role.name`, `Role.parse?`: the name of a role, and the role of a name; **`parse?_name`**.
* `Role.read`: the role of a name, or the fault that it is none.
-/

namespace LocalCluster.Cluster

/-- What a node does in its cluster. -/
inductive Role where
  /-- Runs the API server and its store. -/
  | controlPlane
  /-- Runs workloads only. -/
  | worker
  /-- Stands in front of several control planes; planned, never declared. -/
  | externalLoadBalancer
  deriving DecidableEq, Repr

namespace Role

/-- The name of a role, which is also its label on a container. -/
def name : Role → String
  | .controlPlane => "control-plane"
  | .worker => "worker"
  | .externalLoadBalancer => "external-load-balancer"

/-- The role of a name. -/
def parse? (s : String) : Option Role :=
  if s = "control-plane" then some .controlPlane
  else if s = "worker" then some .worker
  else if s = "external-load-balancer" then some .externalLoadBalancer
  else none

/-- The role of a name, or the fault that it is none. -/
def read (s : String) : Except Fault Role :=
  match parse? s with
  | some role => .ok role
  | none => .error (.unknownRole s)

theorem parse?_name (role : Role) : parse? role.name = some role := by
  cases role <;> decide

theorem name_of_parse? {s : String} {role : Role} (h : parse? s = some role) : role.name = s := by
  unfold parse? at h
  split at h
  · next hs => subst hs; cases h; rfl
  · split at h
    · next hs => subst hs; cases h; rfl
    · split at h
      · next hs => subst hs; cases h; rfl
      · cases h

end Role

end LocalCluster.Cluster
