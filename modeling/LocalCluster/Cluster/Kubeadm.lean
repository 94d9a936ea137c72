import LocalCluster.Cluster.Endpoint
import LocalCluster.Cluster.Spec
import LocalCluster.Cluster.Version
import LocalCluster.Yaml.Printer

/-!
# What kubeadm is told

A node is bootstrapped by kubeadm, which reads three documents: about the cluster, about starting it
on this node and about joining it from this node.

* `apiVersion`, `taints`: what depends on the Kubernetes version.
* `Params`: what the documents of a node depend on; `documents`, `render`.
-/

namespace LocalCluster.Cluster.Kubeadm

open LocalCluster.Container LocalCluster.Yaml

/-- The version of the documents that kubeadm of a Kubernetes version understands. -/
def apiVersion (v : Version) : String :=
  if v.olderThan 1 15 then "kubeadm.k8s.io/v1beta1"
  else if v.olderThan 1 23 then "kubeadm.k8s.io/v1beta2"
  else "kubeadm.k8s.io/v1beta3"

/-- Removes the taint of control planes, as it was named at first. -/
def masterTaint : String := "node-role.kubernetes.io/master-"

/-- Removes the taint of control planes, as it is named now. -/
def controlPlaneTaint : String := "node-role.kubernetes.io/control-plane-"

/-- The taints that keep work off the only node of a cluster. -/
def taints (v : Version) : List String :=
  if v.olderThan 1 24 then [masterTaint]
  else if v.olderThan 1 25 then [controlPlaneTaint, masterTaint]
  else [controlPlaneTaint]

/-- What the documents of a node depend on. -/
structure Params where
  spec : Spec
  version : Version
  nodeName : String
  role : Role
  /-- The host and port at which nodes reach the API server. -/
  controlPlaneEndpoint : String
  token : String

namespace Params

/-- A mapping from texts, which are to be given in order. -/
def fields (entries : List (String × Value)) : Value :=
  .mapping (entries.map fun (key, value) => (.string key, value))

/-- The names of the host itself, for which the API server needs certificates. -/
def certificateNames (p : Params) : List String :=
  ["localhost", "127.0.0.1"] ++ (if p.spec.isV6 then ["::1"] else [])

/-- Where the API server of a control plane listens. -/
def localEndpoint : Value := fields [("bindPort", .integer apiServerPort.toNat)]

/-- The node as the cluster is to know it. -/
def registration (p : Params) : Value := fields [("name", .string p.nodeName)]

/-- The document about the cluster. -/
def clusterDocument (p : Params) : Value :=
  fields
    [("apiServer", fields [("certSANs", .sequence (p.certificateNames.map .string))]),
      ("apiVersion", .string (apiVersion p.version)),
      ("clusterName", .string p.spec.name),
      ("controlPlaneEndpoint", .string p.controlPlaneEndpoint),
      ("kind", .string "ClusterConfiguration"),
      ("kubernetesVersion", .string p.version.display),
      ("networking", fields
        [("podSubnet", .string p.spec.networking.podSubnet),
          ("serviceSubnet", .string p.spec.networking.serviceSubnet)])]

/-- The document about starting the cluster on a node. -/
def initDocument (p : Params) : Value :=
  fields
    [("apiVersion", .string (apiVersion p.version)),
      ("bootstrapTokens", .sequence [fields [("token", .string p.token)]]),
      ("kind", .string "InitConfiguration"),
      ("localAPIEndpoint", localEndpoint),
      ("nodeRegistration", p.registration)]

/-- Where and with what token a node finds the cluster. -/
def discovery (p : Params) : Value :=
  fields [("bootstrapToken", fields
    [("apiServerEndpoint", .string p.controlPlaneEndpoint),
      ("token", .string p.token),
      ("unsafeSkipCAVerification", .bool true)])]

/-- The document about joining the cluster from a node; a control plane says where it listens. -/
def joinDocument (p : Params) : Value :=
  fields
    ([("apiVersion", .string (apiVersion p.version))] ++
      (if p.role = .controlPlane then
        [("controlPlane", fields [("localAPIEndpoint", localEndpoint)])] else []) ++
      [("discovery", p.discovery),
        ("kind", .string "JoinConfiguration"),
        ("nodeRegistration", p.registration)])

/-- The documents of a node. -/
def documents (p : Params) : List Value := [p.clusterDocument, p.initDocument, p.joinDocument]

/-- The documents of a node as one text. -/
def render (p : Params) : Except Fault String :=
  match p.documents.mapM Value.print? with
  | some texts => .ok (Text.join "---\n" texts)
  | none => .error (.yaml Value.unwritableMessage)

end Params

end LocalCluster.Cluster.Kubeadm
