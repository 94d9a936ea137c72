import LocalCluster.Cluster.Spec
import LocalCluster.Json.Value

/-!
# Specifications as documents

A specification and each of its parts as a JSON value, and back. Parts that have a default may be
missing; members with other names are passed over; a record may also be written as the array of its
parts in order.

* `toJson` and `ofJson?` for `Propagation`, `Mount`, `Protocol`, `PortMapping`, `Role`, `Family`,
  `NodeSpec`, `Networking` and `Spec`.
-/

namespace LocalCluster.Container

/-- The name of a propagation in a document. -/
def Propagation.documentName : Propagation → String
  | .none => "None"
  | .hostToContainer => "HostToContainer"
  | .bidirectional => "Bidirectional"

def Propagation.toJson (p : Propagation) : Json := .string p.documentName

def Propagation.ofJson? (j : Json) : Option Propagation := do
  let name ← j.variant?
  [.none, .hostToContainer, .bidirectional].find? (·.documentName == name)

def Protocol.toJson (p : Protocol) : Json := .string p.name

def Protocol.ofJson? (j : Json) : Option Protocol := do
  let name ← j.variant?
  [.tcp, .udp, .sctp].find? (·.name == name)

/-- A port as a number. -/
def Port.toJson (p : Port) : Json := .ofNat p.toNat

def Port.ofJson? (j : Json) : Option Port := (j.natural? 65535).map UInt16.ofNat

/-- The names of a mount's parts, in order. -/
def Mount.parts : List String :=
  ["hostPath", "containerPath", "readOnly", "selinuxRelabel", "propagation"]

def Mount.toJson (m : Mount) : Json :=
  .object [("hostPath", .string m.hostPath), ("containerPath", .string m.containerPath),
    ("readOnly", .bool m.readOnly), ("selinuxRelabel", .bool m.selinuxRelabel),
    ("propagation", m.propagation.toJson)]

def Mount.ofJson? (j : Json) : Option Mount := do
  match ← j.slots? Mount.parts with
  | [host, container, readOnly, relabel, propagation] =>
    return {
      hostPath := ← Json.required Json.text? host
      containerPath := ← Json.required Json.text? container
      readOnly := ← Json.optional false Json.bool? readOnly
      selinuxRelabel := ← Json.optional false Json.bool? relabel
      propagation := ← Json.optional .none Propagation.ofJson? propagation }
  | _ => none

/-- The names of a port mapping's parts, in order. -/
def PortMapping.parts : List String := ["listenAddress", "hostPort", "containerPort", "protocol"]

def PortMapping.toJson (p : PortMapping) : Json :=
  .object [("listenAddress", .string p.listenAddress), ("hostPort", Port.toJson p.hostPort),
    ("containerPort", Port.toJson p.containerPort), ("protocol", p.protocol.toJson)]

def PortMapping.ofJson? (j : Json) : Option PortMapping := do
  match ← j.slots? PortMapping.parts with
  | [listen, host, container, protocol] =>
    return {
      listenAddress := ← Json.optional "" Json.text? listen
      hostPort := ← Json.required Port.ofJson? host
      containerPort := ← Json.required Port.ofJson? container
      protocol := ← Json.optional .tcp Protocol.ofJson? protocol }
  | _ => none

end LocalCluster.Container

namespace LocalCluster.Cluster

open LocalCluster.Container

def Role.toJson (r : Role) : Json := .string r.name

def Role.ofJson? (j : Json) : Option Role := j.variant?.bind Role.parse?

def Family.toJson (f : Family) : Json := .string f.name

def Family.ofJson? (j : Json) : Option Family := do
  let name ← j.variant?
  [.ipv4, .ipv6].find? (·.name == name)

/-- The names of a node's parts, in order. -/
def NodeSpec.parts : List String :=
  ["role", "image", "extraMounts", "extraPortMappings", "networks"]

def NodeSpec.toJson (n : NodeSpec) : Json :=
  .object [("role", n.role.toJson), ("image", .string n.image),
    ("extraMounts", .array (n.mounts.map Mount.toJson)),
    ("extraPortMappings", .array (n.ports.map PortMapping.toJson)),
    ("networks", .array (n.networks.map .string))]

def NodeSpec.ofJson? (j : Json) : Option NodeSpec := do
  match ← j.slots? NodeSpec.parts with
  | [role, image, mounts, ports, networks] =>
    return {
      role := ← Json.required Role.ofJson? role
      image := ← Json.optional "" Json.text? image
      mounts := ← Json.optional [] (Json.list? Mount.ofJson?) mounts
      ports := ← Json.optional [] (Json.list? PortMapping.ofJson?) ports
      networks := ← Json.optional [] (Json.list? Json.text?) networks }
  | _ => none

/-- The names of the parts of network settings, in order. -/
def Networking.parts : List String :=
  ["ipFamily", "apiServerAddress", "apiServerPort", "podSubnet", "serviceSubnet"]

def Networking.toJson (n : Networking) : Json :=
  .object [("ipFamily", n.family.toJson), ("apiServerAddress", .string n.apiServerAddress),
    ("apiServerPort", Port.toJson n.apiServerPort), ("podSubnet", .string n.podSubnet),
    ("serviceSubnet", .string n.serviceSubnet)]

def Networking.ofJson? (j : Json) : Option Networking := do
  match ← j.slots? Networking.parts with
  | [family, address, port, pods, services] =>
    return {
      family := ← Json.required Family.ofJson? family
      apiServerAddress := ← Json.required Json.text? address
      apiServerPort := ← Json.required Port.ofJson? port
      podSubnet := ← Json.required Json.text? pods
      serviceSubnet := ← Json.required Json.text? services }
  | _ => none

/-- The names of a specification's parts, in order. -/
def Spec.parts : List String := ["name", "nodes", "networking", "network"]

def Spec.toJson (s : Spec) : Json :=
  .object [("name", .string s.name), ("nodes", .array (s.nodes.map NodeSpec.toJson)),
    ("networking", s.networking.toJson), ("network", .string s.network)]

def Spec.ofJson? (j : Json) : Option Spec := do
  match ← j.slots? Spec.parts with
  | [name, nodes, networking, network] =>
    return {
      name := ← Json.required Json.text? name
      nodes := ← Json.required (Json.list? NodeSpec.ofJson?) nodes
      networking := ← Json.required Networking.ofJson? networking
      network := ← Json.required Json.text? network }
  | _ => none

end LocalCluster.Cluster
