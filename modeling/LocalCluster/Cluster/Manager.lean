import LocalCluster.Cluster.Bootstrap.Pipeline
import LocalCluster.Cluster.Provider.Logs
import LocalCluster.Cluster.Token

/-!
# The life of a cluster

Creates, looks at and deletes clusters of one provider. Neither the provider nor the bootstrap
cleans up after a failure; whether that happens is decided here.

* `Manager.create`, `Manager.delete`, `Manager.kubeconfig`, `Manager.serverAddress`,
  `Manager.exportLogs`.
-/

namespace LocalCluster.Cluster

open LocalCluster.Text Bootstrap

/-- A provider, and whoever is told about steps. -/
structure Manager where
  provider : Provider
  report : Status := .silent

namespace Manager

/-- How a cluster is created. -/
structure Options where
  /-- Where the credentials are written on the host. -/
  kubeconfigPath : String
  /-- The nodes stay when the creation fails. -/
  retain : Bool := false
  deriving DecidableEq, Repr

/-- Deletes the nodes of a cluster, if it has any. -/
def delete (m : Manager) (name : String) : Work Unit := do
  let nodes ← m.provider.listNodes name
  if nodes.isEmpty then return
  m.provider.deleteNodes nodes

/-- Makes a cluster out of nodes that have been created. -/
def bootstrap (m : Manager) (s : Spec) (path : String) : Work Unit := ExceptT.mk do
  let token ← Token.fresh
  let progress ← Pipeline.standard.run m.report m.provider
    { clusterName := s.name, kubeconfigPath := path, spec := s, token := token }
  return progress.result

/-- Creates the nodes of a cluster and makes a cluster of them. -/
def build (m : Manager) (s : Spec) (path : String) : Job Unit := do
  m.provider.provision s
  m.bootstrap s path

/-- Creates a cluster that is not there yet. After a failure its nodes are removed, unless they are
to be retained; what becomes of the removal does not change the result. -/
def create (m : Manager) (s : Spec) (o : Options) : Job Unit := do
  ExceptT.mk (pure s.validate)
  if (← m.provider.listClusters).contains s.name then
    throw (.clusterExists s.name)
  match ← ExceptT.lift (m.build s o.kubeconfigPath).run with
  | .ok () => return
  | .error fault =>
    if ! o.retain then
      let _ ← ExceptT.lift (Work.toJob (m.delete s.name)).run
    throw fault

/-- The server that the credentials of a cluster are pointed at: its endpoint on the host, or the
one among its nodes. -/
def server (m : Manager) (name : String) (internal : Bool) : Work String :=
  if internal then return "https://" ++ (← m.provider.internalEndpoint name).display
  else return Kubeconfig.hostServer (← m.provider.externalEndpoint name).port.toNat

/-- The credentials of a cluster. -/
def kubeconfig (m : Manager) (name : String) (internal : Bool) : Work String := do
  let nodes ← m.provider.listNodes name
  let node ← ExceptT.mk (pure (bootstrapControlPlane nodes))
  let raw ← Kubeconfig.adminOf node
  let server ← m.server name internal
  ExceptT.mk (pure (Kubeconfig.redirect raw name server))

/-- The address of the API server of a cluster, as the host sees it. -/
def serverAddress (m : Manager) (name : String) : Work String := do
  return "https://" ++ (← m.provider.externalEndpoint name).display

/-- Collects the logs of a cluster, which must have nodes. -/
def exportLogs (m : Manager) (name dir : String) : Job Unit := do
  let nodes ← m.provider.listNodes name
  if nodes.isEmpty then
    throw (.nodeNotFound ("no nodes found for cluster " ++ quote name))
  makeDirs dir
  m.provider.collectLogs name dir

end Manager

end LocalCluster.Cluster
