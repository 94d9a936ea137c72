import LocalCluster.Cluster.Node
import LocalCluster.Cluster.Spec

/-!
# Providers

A provider maps what is done with clusters onto one kind of machine. Who belongs to a cluster is
never stored; it is asked for whenever it is needed.

* `Provider`: the operations.
* `Provider.fixed`: a provider whose nodes are there already and never change.
-/

namespace LocalCluster.Cluster

/-- The operations of a kind of machine. -/
structure Provider where
  name : String
  /-- Creates the nodes of a cluster; those created before a failure stay. -/
  provision : Spec → Job Unit
  /-- The names of the clusters that have a node, in order, each once. -/
  listClusters : Work (List String)
  /-- The nodes of a cluster. -/
  listNodes : String → Work (List Node)
  /-- Removes nodes by force, with their volumes. -/
  deleteNodes : List Node → Work Unit
  /-- Where the API server of a cluster is reached from the host. -/
  externalEndpoint : String → Work Endpoint
  /-- Where the API server of a cluster is reached from its nodes. -/
  internalEndpoint : String → Work Endpoint
  /-- Collects the logs of a cluster in a directory. -/
  collectLogs : String → String → Job Unit

/-- A provider of nodes that are there already; whenever they are listed, that is told. -/
def Provider.fixed (name : String) (nodes : List Node) : Provider where
  name := name
  provision _ := return
  listClusters := return []
  listNodes cluster := do
    ExceptT.lift (tell (.membersRead cluster))
    return nodes
  deleteNodes _ := return
  externalEndpoint _ := return ⟨"127.0.0.1", apiServerPort⟩
  internalEndpoint cluster := return ⟨cluster ++ "-control-plane", apiServerPort⟩
  collectLogs _ _ := return

end LocalCluster.Cluster
