import LocalCluster.Cluster.Balancer
import LocalCluster.Cluster.Endpoint
import LocalCluster.Cluster.Namer
import LocalCluster.Cluster.Ports
import LocalCluster.Cluster.Proxy
import LocalCluster.Cluster.Spec
import LocalCluster.Container.RunArgs

/-!
# The plan of a cluster

From a specification to the containers that are to be created. Whatever one of them depends on, the
port of the load balancer and those of the control planes, is settled here, so that they can be
created in any order.

* `commonArgs`: the words that all containers of a cluster share.
* `Creation`: a container to be created.
* `plan`: a creation for every node, with the load balancer in front when there is one.
-/

namespace LocalCluster.Cluster

open LocalCluster.Container

/-- The label that carries the name of the cluster. -/
def clusterLabel : String := "io.x-k8s.kind.cluster"

/-- The label that carries the role of a node. -/
def roleLabel : String := "io.x-k8s.kind.role"

/-- A container to be created. -/
structure Creation where
  name : String
  role : Role
  /-- The argument vector that starts it. -/
  args : List String
  /-- The networks to join afterwards. -/
  extraNetworks : List String := []
  deriving DecidableEq, Repr

/-- Kernel settings that version 6 needs inside a container. -/
def ipv6Args : List String :=
  ["--sysctl=net.ipv6.conf.all.disable_ipv6=0", "--sysctl=net.ipv6.conf.all.forwarding=1"]

/-- The words that all containers of a cluster share: its label, settings for version 6, proxies,
and, where the names of users are remapped, an exception from that. -/
def commonArgs (s : Spec) (proxies : Settings) (remapped : Bool) : List String :=
  (RunOption.label clusterLabel s.name).args ++ (if s.isV6 then ipv6Args else []) ++
    proxies.flatMap (fun (name, value) => (RunOption.env name value).args) ++
    (if remapped then ["--userns=host"] else [])

namespace Plan

/-- The container of the load balancer, published on a port of the host. -/
def balancerCreation (s : Spec) (common : List String) (name : String) (port : Port) : Creation :=
  { name := name
    role := .externalLoadBalancer
    args := RunArgs.argv
      { options :=
          [.hostname name, .name name, .label roleLabel Role.externalLoadBalancer.name,
            .verbatim common, .publish (.tcp s.networking.apiServerAddress port Balancer.port),
            .network s.network]
        image := Balancer.image } }

/-- The container of a declared node, with the ports that it publishes beside its own. -/
def nodeCreation (s : Spec) (common : List String) (name : String) (n : NodeSpec)
    (published : List PortMapping) : Creation :=
  { name := name
    role := n.role
    args := RunArgs.argv
      { options :=
          [.hostname name, .name name, .label roleLabel n.role.name, .privileged, .tmpfs "/tmp",
            .tmpfs "/run", .volume "/var", .volume "/lib/modules:/lib/modules:ro",
            .verbatim common] ++
          n.mounts.map .mount ++ (n.ports ++ published).map .publish ++
          [.network (n.networks.headD s.network)]
        image := n.image }
    extraNetworks := n.networks.tail }

/-- Where control planes are published. -/
structure Publication where
  address : String
  port : Port
  deriving DecidableEq, Repr

/-- Behind a load balancer every control plane is published on a free port of the host itself, and
otherwise as configured. -/
def publication (s : Spec) : Publication :=
  if s.hasBalancer then ⟨s.networking.family.loopback, 0⟩
  else ⟨s.networking.apiServerAddress, s.networking.apiServerPort⟩

/-- The ports that a node publishes beside its own. -/
def publishedPorts (p : Publication) (n : NodeSpec) (ports : Ports) :
    Routine (Except Fault (List PortMapping) × Ports) :=
  match n.role with
  | .controlPlane => do
    let (r, ports) ← ports.settle p.port p.address
    return ((naming "failed to get port for API server" r).map fun port =>
      [.tcp p.address port apiServerPort], ports)
  | .worker => return (.ok [], ports)
  | .externalLoadBalancer => return (.error (.unknownRole n.role.name), ports)

/-- The creations of declared nodes, one after the other. -/
def nodeCreations (s : Spec) (common : List String) :
    List NodeSpec → Namer → Ports → Routine (Except Fault (List Creation) × Ports)
  | [], _, ports => return (.ok [], ports)
  | n :: rest, namer, ports => do
    let (name, namer) := namer.next n.role
    match ← publishedPorts (publication s) n ports with
    | (.error fault, ports) => return (.error fault, ports)
    | (.ok published, ports) =>
      let (creations, ports) ← nodeCreations s common rest namer ports
      return (creations.map (nodeCreation s common name n published :: ·), ports)

end Plan

open Plan in
/-- A creation for every node of a specification, in order, and before them one for the load
balancer when there is one. -/
def plan (s : Spec) (common : List String) (ports : Ports) :
    Routine (Except Fault (List Creation) × Ports) :=
  match s.validate with
  | .error fault => return (.error fault, ports)
  | .ok () =>
    let namer : Namer := { cluster := s.name }
    if s.hasBalancer then do
      let (name, namer) := namer.next .externalLoadBalancer
      let (r, ports) ←
        ports.settle s.networking.apiServerPort s.networking.apiServerAddress
      match naming "failed to get port for api server load balancer" r with
      | .error fault => return (.error fault, ports)
      | .ok port =>
        let (creations, ports) ← nodeCreations s common s.nodes namer ports
        return (creations.map (balancerCreation s common name port :: ·), ports)
    else nodeCreations s common s.nodes namer ports

end LocalCluster.Cluster
