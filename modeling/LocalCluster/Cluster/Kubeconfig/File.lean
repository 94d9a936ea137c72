import LocalCluster.Cluster.Kubeconfig.Server
import LocalCluster.Cluster.Node

/-!
# Credentials on the host

The credentials of the administrator are read from a control plane, pointed at a port of the host
and written into a file that only its owner may read.

* `Kubeconfig.save`, `Kubeconfig.adminOf`, `Kubeconfig.copyOut`.
-/

namespace LocalCluster.Cluster.Kubeconfig

open LocalCluster.Container LocalCluster.Files LocalCluster.Text

/-- Writes credentials into a file, makes its directory first and its owner the only reader last. -/
def save (dest : String) (contents : Bytes) : Work Unit := do
  if let some parent := (parentPath? dest).filter (· ≠ "") then
    makeDirs parent
  during ("failed to write kubeconfig " ++ dest) (writeFile dest contents)
  restrict dest

/-- The credentials that a control plane holds. -/
def adminOf (n : Node) : Work Bytes :=
  during "failed to get kubeconfig from node" (n.fetch adminKubeconfigPath)

/-- Takes the credentials of a cluster from a control plane into a file of the host, pointed at a
port of the host. -/
def copyOut (n : Node) (dest : String) (port : Port) (cluster : String) : Work Unit := do
  let raw ← adminOf n
  let bundle ← ExceptT.mk (pure (redirect raw cluster (hostServer port.toNat)))
  save dest (encode bundle)

end LocalCluster.Cluster.Kubeconfig
