import LocalCluster.Cluster.Node
import LocalCluster.Text.Sorted

/-!
# Choosing nodes

What part a node plays follows from its role and, among control planes, from its name: the first one
bootstraps the cluster, and the others join it.

* `controlPlanes`, `workers`, `bootstrapControlPlane`, `secondaryControlPlanes`.
* `externalLoadBalancer`; `endpointNode`: the node through which the API server is reached.
-/

namespace LocalCluster.Cluster

open LocalCluster.Text

/-- The nodes of a role, by name. -/
def withRole (role : Role) (nodes : List Node) : List Node :=
  sortOn Node.name (nodes.filter (·.role = role))

/-- The control planes, by name. -/
def controlPlanes (nodes : List Node) : List Node := withRole .controlPlane nodes

/-- The workers, by name. -/
def workers (nodes : List Node) : List Node := withRole .worker nodes

/-- The control plane that the cluster begins with: the first one by name. -/
def bootstrapControlPlane (nodes : List Node) : Except Fault Node :=
  match controlPlanes nodes with
  | node :: _ => .ok node
  | [] => .error (.nodeNotFound "no control-plane node found")

/-- The control planes that join later. -/
def secondaryControlPlanes (nodes : List Node) : List Node := (controlPlanes nodes).tail

/-- The load balancer, if there is one; several are a fault. -/
def externalLoadBalancer (nodes : List Node) : Except Fault (Option Node) :=
  match withRole .externalLoadBalancer nodes with
  | [] => .ok none
  | [node] => .ok (some node)
  | several =>
    .error (.validation
      ("expected at most one load balancer node, found " ++ toString several.length))

/-- The node through which the API server is reached: the load balancer, or else the control plane
that the cluster begins with. -/
def endpointNode (nodes : List Node) : Except Fault Node := do
  match ← externalLoadBalancer nodes with
  | some node => return node
  | none => bootstrapControlPlane nodes

end LocalCluster.Cluster
