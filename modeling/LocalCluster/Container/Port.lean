import LocalCluster.Net.Address

/-!
# Published ports

A port of a container made reachable on the host, and its command line form
`--publish=[listen:]host:container/PROTOCOL`.

* `PortMapping.arg`: the argument.
-/

namespace LocalCluster.Container

open LocalCluster.Net

/-- A transport protocol. -/
inductive Protocol where
  | tcp
  | udp
  | sctp
  deriving DecidableEq, Repr

/-- The name of a protocol. -/
def Protocol.name : Protocol → String
  | .tcp => "TCP"
  | .udp => "UDP"
  | .sctp => "SCTP"

/-- A port number. -/
abbrev Port := UInt16

/-- A port of a container published on the host. -/
structure PortMapping where
  /-- The address listened on; empty means all. -/
  listenAddress : String := ""
  hostPort : Port
  containerPort : Port
  protocol : Protocol := .tcp
  deriving DecidableEq, Repr

namespace PortMapping

/-- A mapping for the protocol that API servers speak. -/
def tcp (listenAddress : String) (hostPort containerPort : Port) : PortMapping :=
  { listenAddress, hostPort, containerPort }

/-- Where a mapping listens: an address, if it names one, and the port. -/
def listener (p : PortMapping) : String :=
  if p.listenAddress = "" then toString p.hostPort.toNat
  else bracketHost p.listenAddress ++ ":" ++ toString p.hostPort.toNat

/-- What stands after `--publish=`. -/
def binding (p : PortMapping) : String :=
  p.listener ++ ":" ++ toString p.containerPort.toNat ++ "/" ++ p.protocol.name

/-- The argument that publishes a port. -/
def arg (p : PortMapping) : String := "--publish=" ++ p.binding

end PortMapping

end LocalCluster.Container
