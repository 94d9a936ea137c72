import LocalCluster.Cluster.Provider
import LocalCluster.Cluster.Version

/-!
# Steps of a bootstrap

The steps that make a cluster out of nodes share a context: what is wished for, and what earlier
steps have found out. What a step has found out stays known when it fails.

* `Context`: what steps share; `Step`: a labelled action on it.
* `nodes`, `version`: what is asked for once and known from then on.
-/

namespace LocalCluster.Cluster.Bootstrap

open LocalCluster.Container

/-- What the steps of one run share. -/
structure Context where
  clusterName : String
  /-- Where the credentials are written on the host. -/
  kubeconfigPath : String
  spec : Spec
  /-- The token with which nodes join. -/
  token : String
  /-- The Kubernetes version, once it is known. -/
  version : Option Version := none
  /-- The nodes of the cluster, once they are listed. -/
  known : Option (List Node) := none

/-- Work on a context. -/
abbrev Action : Type → Type := ExceptT Fault (StateT Context Routine)

/-- Work that does not touch the context, as a part of an action. -/
def Action.ofWork {α : Type} (w : Work α) : Action α :=
  ExceptT.mk fun ctx => w.run >>= fun r => pure (r, ctx)

instance : MonadLift Work Action := ⟨Action.ofWork⟩

/-- The context as it is. -/
def context : Action Context := ExceptT.lift get

/-- The context changed. -/
def remember (f : Context → Context) : Action Unit := ExceptT.lift (modify f)

/-- A result as a part of an action. -/
def check {α : Type} (r : Except Fault α) : Action α := ExceptT.mk (pure r)

/-- The nodes of the cluster; they are listed only once. -/
def nodes (p : Provider) : Action (List Node) := do
  let ctx ← context
  match ctx.known with
  | some nodes => return nodes
  | none =>
    let nodes ← p.listNodes ctx.clusterName
    remember fun ctx => { ctx with known := some nodes }
    return nodes

/-- The Kubernetes version, read from a node unless it is known. -/
def version (n : Node) : Action Version := do
  match (← context).version with
  | some v => return v
  | none =>
    let text ← n.versionText
    let v ← check (Version.read text)
    remember fun ctx => { ctx with version := some v }
    return v

/-- A step of a bootstrap. -/
structure Step where
  /-- What the step is called while it runs. -/
  label : String
  run : Provider → Action Unit

end LocalCluster.Cluster.Bootstrap
