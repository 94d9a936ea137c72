import LocalCluster.Cluster.Plan
import LocalCluster.Cluster.Provider
import LocalCluster.Cluster.Selection

/-!
# Nodes as containers

The provider that runs every node as a container of an engine. The labels of the containers say
which cluster a node belongs to and what its role is.

* `Containers`: an engine and an environment for its proxies.
* `Containers.provision`, `Containers.listNodes`, `Containers.deleteNodes`, …
* `onlyGone`: a removal failed only because nodes were gone already.
-/

namespace LocalCluster.Cluster

open LocalCluster.Container LocalCluster.Text

/-- Nodes that run as containers. -/
structure Containers where
  engine : Engine := {}
  /-- The value of a variable of the environment. -/
  environment : String → Option String := fun _ => none

namespace Containers

/-! ## Creating nodes -/

/-- The images that the containers of a specification are made of, in order. -/
def imagesFor (s : Spec) : List String :=
  if s.hasBalancer then insertDistinct Balancer.image s.images else s.images

/-- Fetches the images that are missing. -/
def ensureImages (c : Containers) (s : Spec) : Work Unit :=
  (imagesFor s).forM fun image =>
    during ("failed to pull image " ++ image) (c.engine.ensureImage image)

/-- The words that all containers of a specification share. What cannot be found out about the names
of users is taken as not remapped. -/
def sharedArgs (c : Containers) (s : Spec) : Work (List String) := do
  let proxies : Settings := Id.run (proxySettings c.environment)
  let proxies ←
    if proxies.isEmpty then pure proxies
    else do
      let subnets ← during "proxy setup error" (c.engine.networkSubnets s.network)
      pure (exceptSubnets subnets proxies)
  let remapped ← ExceptT.lift c.engine.remapsUsers.run
  return commonArgs s proxies (match remapped with
    | .ok remapped => remapped
    | .error _ => false)

/-- Creates one container and joins it to its further networks. -/
def createNode (c : Containers) (creation : Creation) : Work Unit := do
  during ("docker run error for " ++ creation.name) (c.engine.start creation.args)
  creation.extraNetworks.forM fun network =>
    during ("docker network connect error for " ++ creation.name)
      (c.engine.connectNetwork network creation.name)

/-- What is done before the first container is created; the result says which are to be. -/
def prepare (c : Containers) (s : Spec) : Work (List Creation) := do
  ExceptT.mk (pure s.validate)
  c.ensureImages s
  during "failed to ensure docker network" (c.engine.ensureNetwork s.network s.isV6)
  let common ← c.sharedArgs s
  let (creations, _) ← ExceptT.lift (plan s common {})
  ExceptT.mk (pure creations)

/-- Creates the containers of a specification side by side. -/
def provision (c : Containers) (s : Spec) : Job Unit := do
  let creations ← c.prepare s
  together .untilFirstFailure (creations.map c.createNode)

/-! ## Listing -/

/-- The template for the value of a label. -/
def labelFormat (label : String) : String := "\x7b\x7b.Label \"" ++ label ++ "\"\x7d\x7d"

/-- The names of the clusters that have a container. -/
def listClusters (c : Containers) : Work (List String) := do
  let lines ← during "failed to list clusters"
    (c.engine.list ("label=" ++ clusterLabel) (labelFormat clusterLabel))
  return sortDistinct (lines.filter (· ≠ ""))

/-- The template for the name of a container and its role. -/
def nodeFormat : String := "\x7b\x7b.Names\x7d\x7d\t" ++ labelFormat roleLabel

/-- The node that a line of a listing tells of. -/
def nodeOfLine (c : Containers) (line : String) : Except Fault Node :=
  match split '\t' line with
  | [name, role] => (Role.read role).map fun role => { name, role, engine := c.engine }
  | _ =>
    .error (.runtime (.unexpectedOutput "docker ps"
      ("invalid output when listing nodes: " ++ quote line)))

/-- The nodes that the lines of a listing tell of, by name. -/
def nodesOfLines (c : Containers) (lines : List String) : Except Fault (List Node) :=
  (lines.mapM c.nodeOfLine).map (sortOn Node.name)

/-- The nodes of a cluster, by name. -/
def listNodes (c : Containers) (cluster : String) : Work (List Node) := do
  let lines ← during "failed to list nodes"
    (c.engine.list ("label=" ++ clusterLabel ++ "=" ++ cluster) nodeFormat)
  ExceptT.mk (pure (c.nodesOfLines lines))

/-! ## Removing -/

/-- The line of a failed removal says that a container was gone. -/
def saysGone (line : String) : Bool := contains "No such container" line

/-- The lines of a failed removal that say something. -/
def removalLines (output : String) : List String :=
  ((lines output).map trim).filter (· ≠ "")

/-- A removal of these nodes failed only because some were gone: its output says so of some, and
besides that only names those that it did remove. -/
def onlyGone (names : List String) (output : String) : Bool :=
  let said := removalLines output
  said.all (fun line => saysGone line || names.contains line) && said.any saysGone

/-- Removes nodes by force; those that are gone already count as removed. -/
def deleteNodes (c : Containers) (nodes : List Node) : Work Unit := do
  if nodes.isEmpty then return
  let names := nodes.map Node.name
  match ← ExceptT.lift (c.engine.remove names).run with
  | .ok () => return
  | .error fault =>
    match fault with
    | .invocation _ _ output =>
      if onlyGone names output then return
      throw (.context "failed to delete nodes" (.runtime fault))
    | _ => throw (.context "failed to delete nodes" (.runtime fault))

/-! ## Endpoints -/

/-- The template for the label that a desktop engine puts on a container for a published port. -/
def desktopFormat : String :=
  "\x7b\x7b index .Config.Labels \"desktop.docker.io/ports/" ++ toString apiServerPort.toNat ++
    "/tcp\" \x7d\x7d"

/-- The endpoint that a desktop engine has published, if the lines name one. -/
def desktopEndpoint? (n : Node) (lines : List String) : Except Fault (Option Endpoint) :=
  match lines with
  | [value] =>
    if value = "" then .ok none
    else match Endpoint.parse? value with
      | some endpoint => .ok (some endpoint)
      | none => .error (n.unexpected ("invalid desktop port label " ++ quote value))
  | _ => .ok none

/-- The node through which the API server of a cluster is reached. -/
def endpointNodeOf (c : Containers) (cluster : String) : Work Node := do
  let nodes ← c.listNodes cluster
  during "failed to get api server endpoint" (ExceptT.mk (pure (endpointNode nodes)))

/-- Where the API server of a cluster is reached from the host: as a desktop engine says, or else as
the port is published. -/
def externalEndpoint (c : Containers) (cluster : String) : Work Endpoint := do
  let node ← c.endpointNodeOf cluster
  let lines ← during "failed to get api server port"
    (c.engine.inspectLines node.name desktopFormat)
  match ← ExceptT.mk (pure (desktopEndpoint? node lines)) with
  | some endpoint => return endpoint
  | none =>
    let (host, port) ← during "failed to get api server port" (node.portBinding apiServerPort)
    return ⟨host, port⟩

/-- Where the API server of a cluster is reached from its nodes: names of nodes are host names
there. -/
def internalEndpoint (c : Containers) (cluster : String) : Work Endpoint := do
  let node ← c.endpointNodeOf cluster
  return ⟨node.name, apiServerPort⟩

end Containers

end LocalCluster.Cluster
