import LocalCluster.Cluster.Draft
import LocalCluster.Files.Path

/-!
# Configuration from the environment

Everything but the command comes from variables of the environment. A variable that is absent, or
whose number cannot be read, means the default.

* `Configuration.ofEnvironment`; `Configuration.issue?`: what is wrong with a configuration.
* `Configuration.spec`: the cluster that a configuration asks for.
* `Configuration.kubeconfigPath`: where its credentials go.
-/

namespace LocalCluster.CommandLine

open LocalCluster.Cluster LocalCluster.Container LocalCluster.Files LocalCluster.Text

/-- A configuration. -/
structure Configuration where
  name : String := "kind"
  image : String := defaultNodeImage
  controlPlanes : Nat := 1
  workers : Nat := 0
  /-- The address of the API server; none means that of the host itself. -/
  apiAddress : Option String := none
  /-- The port of the API server; zero means any free one. -/
  apiPort : Port := 0
  /-- The family of addresses, as it was written. -/
  family : String := "ipv4"
  /-- Where the credentials go; none means a file in the home directory. -/
  kubeconfig : Option String := none
  /-- The nodes stay when a creation fails. -/
  retain : Bool := false
  network : String := defaultNetwork
  deriving DecidableEq, Repr

namespace Configuration

/-- The largest number of nodes of a role that can be asked for. -/
def maxCount : Nat := 18446744073709551615

/-- The configuration in an environment. -/
def ofEnvironment (find : String → Option String) : Configuration :=
  let default : Configuration := {}
  { name := (find "KINDER_NAME").getD default.name
    image := (find "KINDER_IMAGE").getD default.image
    controlPlanes :=
      ((find "KINDER_CONTROL_PLANES").bind (readNat maxCount)).getD default.controlPlanes
    workers := ((find "KINDER_WORKERS").bind (readNat maxCount)).getD default.workers
    apiAddress := (find "KINDER_API_ADDRESS").filter (· ≠ "")
    apiPort :=
      (((find "KINDER_API_PORT").bind (readNat maxPort)).map UInt16.ofNat).getD default.apiPort
    family := (find "KINDER_IP_FAMILY").getD default.family
    kubeconfig := (find "KINDER_KUBECONFIG").filter (· ≠ "")
    retain := ((find "KINDER_RETAIN").map fun v => v = "true" || v = "1").getD default.retain
    network := (find "KINDER_NETWORK").getD default.network }

/-- What can be wrong with a configuration. -/
inductive Issue where
  | emptyName
  | noControlPlanes
  | invalidFamily (text : String)
  | emptyNetwork
  deriving DecidableEq, Repr

/-- The wording of an issue. -/
def Issue.message : Issue → String
  | .emptyName => "cluster name must not be empty"
  | .noControlPlanes => "at least one control-plane node is required"
  | .invalidFamily text =>
    "unsupported IP family: " ++ quote text ++ " (expected ipv4 or ipv6)"
  | .emptyNetwork => "network name must not be empty"

/-- The text names a family of addresses. -/
def isFamily (text : String) : Bool :=
  match Family.read text with
  | .ok _ => true
  | .error _ => false

/-- The first thing wrong with a configuration. -/
def issue? (c : Configuration) : Option Issue :=
  if c.name = "" then some .emptyName
  else if c.controlPlanes = 0 then some .noControlPlanes
  else if ! isFamily c.family then some (.invalidFamily c.family)
  else if c.network = "" then some .emptyNetwork
  else none

/-- The cluster that a configuration asks for. -/
def spec (c : Configuration) : Except Fault Spec := do
  let family ← Family.read c.family
  Spec.build
    ([.name c.name, .image c.image, .controlPlanes c.controlPlanes, .workers c.workers,
        .family family, .apiServerPort c.apiPort, .network c.network] ++
      (c.apiAddress.map .apiServerAddress).toList)

/-- Where the credentials go: as configured, or else into the home directory if there is one. -/
def kubeconfigPath (c : Configuration) (home : Option String) : String :=
  match c.kubeconfig with
  | some path => path
  | none =>
    let file := "kinder-" ++ c.name ++ ".config"
    match home with
    | some home => joinPath (joinPath home ".kube") file
    | none => file

end Configuration

end LocalCluster.CommandLine
