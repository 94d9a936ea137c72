import LocalCluster.Cluster.Balancer
import LocalCluster.Cluster.Bootstrap.Step
import LocalCluster.Cluster.Kubeadm
import LocalCluster.Cluster.Kubeconfig.File
import LocalCluster.Cluster.Selection

/-!
# The standard steps

What makes a cluster out of nodes: every node is told its configuration, the load balancer is
pointed at the control planes, the first control plane starts the cluster and the others join it,
and the workers last.

* `configStep`, `balancerStep`, `initStep`, `joinControlPlanes`, `joinWorkers`.
-/

namespace LocalCluster.Cluster.Bootstrap

open LocalCluster.Container LocalCluster.Net LocalCluster.Text

/-! ## Configuration -/

/-- What the documents of a node depend on, for a cluster that is reached through `endpoint`. -/
def kubeadmParams (ctx : Context) (v : Version) (endpoint n : Node) : Kubeadm.Params :=
  { spec := ctx.spec
    version := v
    nodeName := n.name
    role := n.role
    controlPlaneEndpoint := bracketHost endpoint.name ++ ":" ++ toString apiServerPort.toNat
    token := ctx.token }

/-- Writes the configuration of every node that kubeadm manages. -/
def configure (p : Provider) : Action Unit := do
  let all ← nodes p
  let first ← check (bootstrapControlPlane all)
  let v ← during "failed to get kubernetes version from node" (version first)
  let endpoint ← check (endpointNode all)
  let ctx ← context
  (all.filter (·.role ≠ .externalLoadBalancer)).forM fun n => do
    let config ← check (kubeadmParams ctx v endpoint n).render
    during ("failed to copy kubeadm config to node " ++ n.name)
      (n.store kubeadmConfigPath (encode config))

/-- Tells every node its configuration. -/
def configStep : Step := ⟨"Writing configuration", configure⟩

/-! ## Load balancer -/

/-- The backend that a control plane is. -/
def backendOf (ctx : Context) (n : Node) : Work Balancer.Backend := do
  let found ← during ("failed to get IP for node " ++ n.name) (n.addresses ctx.spec.network)
  let address := if ctx.spec.isV6 then found.v6 else found.v4
  if address = "" then
    throw (n.unexpected ("node " ++ n.name ++ " has no " ++
      (if ctx.spec.isV6 then "IPv6" else "IPv4") ++ " address"))
  return ⟨n.name, address, apiServerPort⟩

/-- Points the load balancer, if there is one, at every control plane. -/
def balance (p : Provider) : Action Unit := do
  let all ← nodes p
  match ← check (externalLoadBalancer all) with
  | none => return
  | some balancer =>
    let ctx ← context
    let backends ← Action.ofWork ((controlPlanes all).mapM (backendOf ctx))
    during "failed to copy loadbalancer config to node"
      (balancer.store Balancer.configPath (encode (Balancer.render backends ctx.spec.isV6)))
    let _ ← during "failed to reload loadbalancer" (balancer.exec ["kill", "-s", "HUP", "1"])

/-- Points the load balancer at the control planes. -/
def balancerStep : Step := ⟨"Configuring the external load balancer", balance⟩

/-! ## Start -/

/-- The command that starts a cluster on a node. -/
def initArgv : List String :=
  ["kubeadm", "init", "--ignore-preflight-errors=all", "--config=/kind/kubeadm.conf",
    "--skip-token-print", "--v=6"]

/-- The command that lets the only node of a cluster take work. -/
def untaintArgv (v : Version) : List String :=
  ["kubectl", "--kubeconfig=/etc/kubernetes/admin.conf", "taint", "nodes", "--all"] ++
    Kubeadm.taints v

/-- The port of the host at which the API server is published: that of the load balancer, or else
that of the first control plane. -/
def apiServerHostPort (all : List Node) : Work Port := do
  match ← (ExceptT.mk (pure (externalLoadBalancer all)) : Work (Option Node)) with
  | some balancer => balancer.hostPort Balancer.port
  | none =>
    let first ← (ExceptT.mk (pure (bootstrapControlPlane all)) : Work Node)
    first.hostPort apiServerPort

/-- Starts the cluster on its first control plane and takes the credentials to the host. -/
def start (p : Provider) : Action Unit := do
  let all ← nodes p
  let first ← check (bootstrapControlPlane all)
  let _ ← during "failed to init node with kubeadm" (first.exec initArgv)
  if all.length = 1 then
    let v ← version first
    let _ ← during "failed to remove control plane taint" (first.exec (untaintArgv v))
  let port ← during "failed to get api server port" (apiServerHostPort all)
  let ctx ← context
  Kubeconfig.copyOut first ctx.kubeconfigPath port ctx.clusterName

/-- Starts the cluster. -/
def initStep : Step := ⟨"Starting control-plane", start⟩

/-! ## Joining -/

/-- The keys that all control planes share. -/
def sharedKeys : List String :=
  ["/etc/kubernetes/pki/ca.crt", "/etc/kubernetes/pki/ca.key",
    "/etc/kubernetes/pki/front-proxy-ca.crt", "/etc/kubernetes/pki/front-proxy-ca.key",
    "/etc/kubernetes/pki/sa.pub", "/etc/kubernetes/pki/sa.key",
    "/etc/kubernetes/pki/etcd/ca.crt", "/etc/kubernetes/pki/etcd/ca.key"]

/-- The command that joins a cluster. -/
def joinArgv : List String :=
  ["kubeadm", "join", "--config=/kind/kubeadm.conf", "--ignore-preflight-errors=all", "--v=6"]

/-- Copies the shared keys from one node to another. -/
def copyKeys (source target : Node) : Work Unit :=
  sharedKeys.forM fun path => do
    let contents ← during ("failed to read " ++ path ++ " from " ++ source.name)
      (source.fetch path)
    during ("failed to copy " ++ path ++ " to " ++ target.name) (target.store path contents)

/-- Joins a node to the cluster. -/
def join (n : Node) : Work Unit := do
  let _ ← during ("failed to join node " ++ n.name ++ " with kubeadm") (n.exec joinArgv)

/-- Joins the control planes other than the first one, each after it has been given the keys. -/
def joinSecondaries (p : Provider) : Action Unit := do
  let all ← nodes p
  let later := secondaryControlPlanes all
  if later.isEmpty then return
  let first ← check (bootstrapControlPlane all)
  later.forM fun n => do
    copyKeys first n
    join n

/-- Joins the control planes other than the first one. -/
def joinControlPlanes : Step := ⟨"Joining more control-plane nodes", joinSecondaries⟩

/-- Joins the workers. -/
def joinWorkers : Step :=
  ⟨"Joining worker nodes", fun p => do (workers (← nodes p)).forM fun n => join n⟩

/-- The steps of a bootstrap, in order. -/
def standardSteps : List Step :=
  [configStep, balancerStep, initStep, joinControlPlanes, joinWorkers]

end LocalCluster.Cluster.Bootstrap
