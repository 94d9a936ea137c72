import LocalCluster.Cluster.Endpoint
import LocalCluster.Cluster.Role
import LocalCluster.Container.Network
import LocalCluster.Files.Path
import LocalCluster.Text.Numeral

/-!
# Nodes

A node is a container with a role. Nothing about it is remembered but its name and the engine that
reaches it; every question goes to the engine.

* `Node.exec`, `Node.fetch`, `Node.store`: work inside a node.
* `Node.portBinding`: where the host publishes one of its ports.
* `Node.addresses`: its addresses on a network, or on its first one.
* `Node.versionText`: the Kubernetes version of its image.
-/

namespace LocalCluster.Cluster

open LocalCluster.Container LocalCluster.Files LocalCluster.Text

/-- Where a control plane keeps the credentials of its administrator. -/
def adminKubeconfigPath : String := "/etc/kubernetes/admin.conf"

/-- Where a node keeps what it is bootstrapped from. -/
def kubeadmConfigPath : String := "/kind/kubeadm.conf"

/-- Where a node image keeps its Kubernetes version. -/
def versionFilePath : String := "/kind/version"

/-- A node of a cluster. -/
structure Node where
  /-- The name of its container, which is also its host name. -/
  name : String
  role : Role
  engine : Engine := {}
  deriving DecidableEq, Repr

namespace Node

/-- Runs a command in a node. -/
def exec (n : Node) (argv : List String) : Work Output := n.engine.exec n.name argv none

/-- Runs a command in a node and feeds it. -/
def execFed (n : Node) (argv : List String) (stdin : Bytes) : Work Output :=
  n.engine.exec n.name argv (some stdin)

/-- The contents of a file in a node. -/
def fetch (n : Node) (path : String) : Work Bytes := do
  return (← n.exec ["cat", path]).stdout

/-- The directory to be made before a file is written; none for the root and the current one. -/
def directoryFor? (path : String) : Option String :=
  (parentPath? path).filter fun parent => parent ≠ "" ∧ parent ≠ "/"

/-- Writes a file in a node, and makes its directory first. -/
def store (n : Node) (path : String) (contents : Bytes) : Work Unit := do
  if let some parent := directoryFor? path then
    let _ ← n.exec ["mkdir", "-p", parent]
  let _ ← n.execFed ["cp", "/dev/stdin", path] contents

/-- What an inspection of the node brought in the wrong shape. -/
def unexpected (n : Node) (detail : String) : Fault :=
  .runtime (.unexpectedOutput ("inspect " ++ n.name) detail)

/-! ## Published ports -/

/-- The template for the address and the port that publish a port of a container. -/
def portFormat (p : Port) : String :=
  "\x7b\x7b with (index (index .NetworkSettings.Ports \"" ++ toString p.toNat ++
    "/tcp\") 0) \x7d\x7d\x7b\x7b printf \"%s\\t%s\" .HostIp .HostPort \x7d\x7d\x7b\x7b end \x7d\x7d"

/-- The port that a text is. -/
def readPort? (s : String) : Option Port := (readNat maxPort s).map UInt16.ofNat

/-- The address and the port in a line that has them with a tab between. -/
def bindingOfLine (n : Node) (line : String) : Except Fault (String × Port) :=
  match split '\t' line with
  | [host, port] =>
    match readPort? (trim port) with
    | some p => .ok (host, p)
    | none => .error (n.unexpected ("invalid host port " ++ quote port))
  | parts =>
    .error (n.unexpected ("port details should have 2 parts, got " ++ toString parts.length))

/-- The address and the port of the host that publish a port of a node. -/
def portBinding (n : Node) (p : Port) : Work (String × Port) := do
  let line ← n.engine.inspectLine n.name (portFormat p)
  ExceptT.mk (pure (n.bindingOfLine line))

/-- The port of the host that publishes a port of a node. -/
def hostPort (n : Node) (p : Port) : Work Port := do
  return (← n.portBinding p).2

/-! ## Addresses -/

/-- The template for a line per network: its name and the addresses of both families there. -/
def addressFormat : String :=
  "\x7b\x7brange $name, $net := .NetworkSettings.Networks\x7d\x7d\x7b\x7b$name\x7d\x7d," ++
    "\x7b\x7b$net.IPAddress\x7d\x7d,\x7b\x7b$net.GlobalIPv6Address\x7d\x7d" ++
    "\x7b\x7bprintln\x7d\x7d\x7b\x7bend\x7d\x7d"

/-- A network that a node has joined, and its addresses there. -/
structure Attachment where
  network : String
  v4 : String
  v6 : String
  deriving DecidableEq, Repr

/-- The attachment that a line tells of. -/
def attachmentOfLine (n : Node) (line : String) : Except Fault Attachment :=
  match split ',' line with
  | [network, v4, v6] => .ok ⟨network, v4, v6⟩
  | parts =>
    .error (n.unexpected ("ip addresses should have 3 parts, got " ++ toString parts.length))

/-- The attachment to a network, or the first one. -/
def chooseAttachment? (network : String) (attached : List Attachment) : Option Attachment :=
  (attached.find? (·.network = network)).or attached.head?

/-- The attachment that lines tell of, preferably the one to `network`. -/
def attachmentOfLines (n : Node) (network : String) (lines : List String) :
    Except Fault Attachment := do
  let attached ← (lines.filter (· ≠ "")).mapM n.attachmentOfLine
  match chooseAttachment? network attached with
  | some a => .ok a
  | none => .error (n.unexpected "node is not attached to any network")

/-- The addresses of a node on a network, or on its first one. -/
def addresses (n : Node) (network : String) : Work Attachment := do
  let lines ← n.engine.inspectLines n.name addressFormat
  ExceptT.mk (pure (n.attachmentOfLines network lines))

/-! ## Contents -/

/-- The version in the contents of a version file. -/
def versionOfBytes (n : Node) (raw : Bytes) : Except Fault String :=
  let text := trim (decodeLossy raw)
  if text = "" then
    .error (.validation (versionFilePath ++ " on " ++ n.name ++ " is empty"))
  else .ok text

/-- The Kubernetes version of the image of a node. -/
def versionText (n : Node) : Work String := do
  let raw ← n.fetch versionFilePath
  ExceptT.mk (pure (n.versionOfBytes raw))

/-- What the container of a node has printed: standard output, then standard error. -/
def serialLogs (n : Node) : Work Bytes := do
  return (← n.engine.logs n.name).combined

end Node

end LocalCluster.Cluster
