import LocalCluster.Cluster.Role
import LocalCluster.Container.Port
import LocalCluster.Container.Mount
import LocalCluster.Text.Sorted

/-!
# Cluster specifications

What a cluster is wished to look like: its name, its nodes in order, how its API server is published
and the network its nodes join.

* `NodeSpec`, `Networking`, `Spec`.
* `Networking.ofFamily`: the settings that follow from the family of addresses.
* `Spec.hasBalancer`: more than one control plane needs a load balancer in front.
* `Spec.issue?`: the first thing wrong with a specification; `Spec.validate` reports it.
-/

namespace LocalCluster.Cluster

open LocalCluster.Container LocalCluster.Net LocalCluster.Text

/-- The family of addresses that a cluster network uses. -/
inductive Family where
  | ipv4
  | ipv6
  deriving DecidableEq, Repr

namespace Family

/-- The name of a family, as documents write it. -/
def name : Family → String
  | .ipv4 => "ipv4"
  | .ipv6 => "ipv6"

/-- The name of a family, as reports write it. -/
def title : Family → String
  | .ipv4 => "Ipv4"
  | .ipv6 => "Ipv6"

/-- The family of a name in any case of ASCII letters. -/
def read (s : String) : Except Fault Family :=
  let lower := String.ofList (s.toList.map Char.toLower)
  if lower = "ipv4" then .ok .ipv4
  else if lower = "ipv6" then .ok .ipv6
  else .error (.validation ("unknown IP family " ++ quote lower))

/-- The address of the host itself, as nothing outside can reach it. -/
def loopback : Family → String
  | .ipv4 => "127.0.0.1"
  | .ipv6 => "::1"

end Family

/-- A node that is wished for. -/
structure NodeSpec where
  role : Role
  /-- The image; empty means the default of the cluster. -/
  image : String := ""
  mounts : List Mount := []
  ports : List PortMapping := []
  /-- The networks to join; the first one from the start. -/
  networks : List String := []
  deriving DecidableEq, Repr

/-- How the API server is published, and the subnets of the cluster. -/
structure Networking where
  family : Family
  /-- The address of the host that the API server is published on. -/
  apiServerAddress : String
  /-- The port of the host that the API server is published on; zero means any free one. -/
  apiServerPort : Port
  podSubnet : String
  serviceSubnet : String
  deriving DecidableEq, Repr

/-- The settings that follow from a family. -/
def Networking.ofFamily (family : Family) : Networking :=
  match family with
  | .ipv4 => ⟨family, family.loopback, 0, "10.244.0.0/16", "10.96.0.0/16"⟩
  | .ipv6 => ⟨family, family.loopback, 0, "fd00:10:244::/56", "fd00:10:96::/112"⟩

/-- A cluster that is wished for. -/
structure Spec where
  name : String
  nodes : List NodeSpec
  networking : Networking
  /-- The network that nodes join unless they name others. -/
  network : String
  deriving DecidableEq, Repr

/-- The image of nodes that name none. -/
def defaultNodeImage : String := "kindest/node:v1.29.2"

/-- The network of clusters that name none. -/
def defaultNetwork : String := "kind"

namespace Spec

/-- How many control planes are declared. -/
def controlPlaneCount (s : Spec) : Nat := s.nodes.countP (·.role = .controlPlane)

/-- The cluster needs a load balancer in front of its control planes. -/
def hasBalancer (s : Spec) : Bool := 1 < s.controlPlaneCount

/-- The cluster network uses version 6 addresses. -/
def isV6 (s : Spec) : Bool := s.networking.family = .ipv6

/-- The images of the nodes in order, each once. -/
def images (s : Spec) : List String := sortDistinct (s.nodes.map NodeSpec.image)

/-! ## Validation -/

/-- What can be wrong with a specification. -/
inductive Issue where
  | nameMissing
  /-- The name holds a character that names may not hold. -/
  | nameCharacter (name : String)
  | networkMissing
  /-- A load balancer is declared, and not left to the planning. -/
  | balancerDeclared
  | imageMissing (role : Role)
  | noControlPlane
  /-- The address of the API server is no address. -/
  | notAnAddress (text : String)
  /-- The address of the API server is of the other family. -/
  | otherFamily (address : Address) (family : Family)
  deriving DecidableEq, Repr

/-- The wording of an issue. -/
def Issue.message : Issue → String
  | .nameMissing => "name is required"
  | .nameCharacter name =>
    "name " ++ quote name ++ " may only contain lowercase letters, digits, '-' and '.'"
  | .networkMissing => "network is required"
  | .balancerDeclared => Role.externalLoadBalancer.name
  | .imageMissing role => role.name ++ " node has no image"
  | .noControlPlane => "at least one control-plane node is required"
  | .notAnAddress text => "invalid api server address " ++ quote text
  | .otherFamily address family =>
    "api server address " ++ address.display ++ " does not match IP family " ++ family.title

/-- An issue as a fault: a declared load balancer is a role that nodes do not have. -/
def Issue.fault (issue : Issue) : Fault :=
  match issue with
  | .balancerDeclared => .unknownRole issue.message
  | _ => .validation issue.message

/-- The character may stand in the name of a cluster. -/
def isNameChar (c : Char) : Bool :=
  ('a' ≤ c && c ≤ 'z') || ('0' ≤ c && c ≤ '9') || c == '-' || c == '.'

/-- What is wrong with a declared node. -/
def nodeIssue? (n : NodeSpec) : Option Issue :=
  if n.role = .externalLoadBalancer then some .balancerDeclared
  else if n.image = "" then some (.imageMissing n.role)
  else none

/-- What is wrong with the address of the API server. -/
def addressIssue? (n : Networking) : Option Issue :=
  match Address.parse? n.apiServerAddress with
  | none => some (.notAnAddress n.apiServerAddress)
  | some address =>
    if address.isV6 = decide (n.family = .ipv6) then none
    else some (.otherFamily address n.family)

/-- The first thing wrong with a specification. -/
def issue? (s : Spec) : Option Issue :=
  if s.name = "" then some .nameMissing
  else if s.name.toList.any (! isNameChar ·) then some (.nameCharacter s.name)
  else if s.network = "" then some .networkMissing
  else match s.nodes.findSome? nodeIssue? with
    | some issue => some issue
    | none =>
      if s.controlPlaneCount = 0 then some .noControlPlane
      else addressIssue? s.networking

/-- Nothing is wrong with a specification. -/
def Valid (s : Spec) : Prop := s.issue? = none

instance (s : Spec) : Decidable s.Valid := inferInstanceAs (Decidable (_ = _))

/-- Reports the first thing wrong with a specification. -/
def validate (s : Spec) : Except Fault Unit :=
  match s.issue? with
  | none => .ok ()
  | some issue => .error issue.fault

theorem validate_eq_ok_iff {s : Spec} : s.validate = .ok () ↔ s.Valid := by
  unfold validate Valid
  split <;> simp_all

end Spec

end LocalCluster.Cluster
