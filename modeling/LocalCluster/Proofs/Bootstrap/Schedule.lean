import LocalCluster.Proofs.Bootstrap.Action
import LocalCluster.Proofs.Cluster.NodeWork
import LocalCluster.Proofs.Work.Commands

/-!
# The schedule of a bootstrap

The standard pipeline starts the cluster on one node and then lets the others join, one after the
other, in an order that the list of nodes decides. Whatever the commands bring, every request of the
pipeline is either ordinary or the next one of that schedule.

* `Configured`, `Initialised`, `HasKeys`: what earlier commands have brought about.
* `Stage`: how far a bootstrap has come; `milestones`: the commands that count.
* **`Scheduled`**: what may be asked next.
* `Stage.ordinary`, `Stage.start`, `Stage.join`: how commands take a bootstrap on.
-/

namespace LocalCluster.Cluster

open LocalCluster.Container LocalCluster.Text Script

namespace Node

/-- The command that starts a cluster on a node. -/
def initialising (n : Node) : Command := n.running Bootstrap.initArgv

/-- The command that lets a node join. -/
def joining (n : Node) : Command := n.running Bootstrap.joinArgv

end Node

namespace Bootstrap

/-! ## What has been brought about -/

/-- The node has been told its configuration. -/
def Configured (past : List Executed) (n : Node) : Prop :=
  ∃ contents o, ⟨n.writing "/kind/kubeadm.conf" contents, .ok o⟩ ∈ past

/-- The cluster has been started on the node. -/
def Initialised (past : List Executed) (first : Node) : Prop :=
  ∃ o, ⟨first.initialising, .ok o⟩ ∈ past

/-- The certificates and keys of the three authorities and the pair for the accounts of services
were read from the first node and then written, each just as it was read, to the other. -/
def HasKeys (past : List Executed) (first n : Node) : Prop :=
  ∀ path ∈ ["/etc/kubernetes/pki/ca.crt", "/etc/kubernetes/pki/ca.key",
      "/etc/kubernetes/pki/front-proxy-ca.crt", "/etc/kubernetes/pki/front-proxy-ca.key",
      "/etc/kubernetes/pki/sa.pub", "/etc/kubernetes/pki/sa.key",
      "/etc/kubernetes/pki/etcd/ca.crt", "/etc/kubernetes/pki/etcd/ca.key"],
    ∃ read written,
      [⟨first.reading path, .ok read⟩, ⟨n.writing path read.stdout, .ok written⟩].Sublist past

/-- The commands that start the cluster or let a node join, in order. -/
def milestones (past : List Executed) : List Command :=
  (past.map Executed.command).filter fun c => c.runsKubeadm "init" || c.runsKubeadm "join"

/-- The bootstrap has reached these milestones, with every node configured and, once anything has
been reached, the cluster started. -/
structure Stage (nodes : List Node) (first : Node) (reached : List Command)
    (past : List Executed) : Prop where
  milestones : milestones past = reached
  configured : ∀ n ∈ nodes, n.role ≠ .externalLoadBalancer → Configured past n
  initialised : reached ≠ [] → Initialised past first

/-- **What may be asked next**, given the nodes and the commands so far. -/
inductive Scheduled (nodes : List Node) (past : List Executed) : Request → Prop where
  | ordinary {r : Request} (h : Ordinary r) : Scheduled nodes past r
  | start {first : Node} (hfirst : bootstrapControlPlane nodes = .ok first)
      (stage : Stage nodes first [] past) : Scheduled nodes past (.command first.initialising)
  | secondary {first n : Node} {before after : List Node}
      (hfirst : bootstrapControlPlane nodes = .ok first)
      (split : secondaryControlPlanes nodes = before ++ n :: after)
      (stage : Stage nodes first (first.initialising :: before.map Node.joining) past)
      (keys : HasKeys past first n) : Scheduled nodes past (.command n.joining)
  | worker {first n : Node} {before after : List Node}
      (hfirst : bootstrapControlPlane nodes = .ok first)
      (split : workers nodes = before ++ n :: after)
      (stage : Stage nodes first
        (first.initialising :: (secondaryControlPlanes nodes ++ before).map Node.joining) past) :
      Scheduled nodes past (.command n.joining)

theorem Scheduled.leavesContainers {nodes : List Node} {past : List Executed} {r : Request}
    (h : Scheduled nodes past r) : LeavesContainers r := by
  cases h with
  | ordinary h => exact h.1
  | start => exact leavesContainers_execution
  | secondary => exact leavesContainers_execution
  | worker => exact leavesContainers_execution

/-! ## More commands -/

section

variable {past more : List Executed} {n first : Node} {nodes : List Node} {reached : List Command}

theorem Configured.mono (h : Configured past n) (hsub : past.Sublist more) : Configured more n := by
  obtain ⟨contents, o, ho⟩ := h
  exact ⟨contents, o, hsub.subset ho⟩

theorem HasKeys.mono (h : HasKeys past first n) (hsub : past.Sublist more) :
    HasKeys more first n := by
  intro path hpath
  obtain ⟨read, written, hs⟩ := h path hpath
  exact ⟨read, written, hs.trans hsub⟩

theorem milestones_append : milestones (past ++ more) = milestones past ++ milestones more := by
  simp [milestones]

theorem milestones_ordinary {t : History} (h : ∀ x ∈ t, Ordinary x.question) :
    milestones (commandsOf t) = [] := by
  rw [milestones, List.filter_eq_nil_iff]
  intro c hc
  obtain ⟨e, he, rfl⟩ := List.mem_map.1 hc
  have hk := ((h _ (mem_commandsOf.1 he)).2 e.command rfl).2
  simp [hk]

theorem Stage.ordinary {t : History} (h : Stage nodes first reached past)
    (ht : ∀ x ∈ t, Ordinary x.question) : Stage nodes first reached (past ++ commandsOf t) where
  milestones := by rw [milestones_append, milestones_ordinary ht, List.append_nil, h.milestones]
  configured m hm hr := (h.configured m hm hr).mono (List.sublist_append_left _ _)
  initialised hne := by
    obtain ⟨o, ho⟩ := h.initialised hne
    exact ⟨o, List.mem_append_left _ ho⟩

theorem milestones_initialising {r : Except RuntimeFault Output} :
    milestones [⟨n.initialising, r⟩] = [n.initialising] := by
  have : n.initialising.runsKubeadm "init" = true := by
    simp [Node.initialising, Node.running, initArgv, Command.runsKubeadm, inside?_execution]
  simp [milestones, this]

theorem milestones_joining {r : Except RuntimeFault Output} :
    milestones [⟨n.joining, r⟩] = [n.joining] := by
  have : n.joining.runsKubeadm "join" = true := by
    simp [Node.joining, Node.running, joinArgv, Command.runsKubeadm, inside?_execution]
  simp [milestones, this]

theorem Stage.start {o : Output} (h : Stage nodes first [] past) :
    Stage nodes first [first.initialising] (past ++ [⟨first.initialising, .ok o⟩]) where
  milestones := by rw [milestones_append, milestones_initialising, h.milestones]; rfl
  configured m hm hr := (h.configured m hm hr).mono (List.sublist_append_left _ _)
  initialised _ := ⟨o, List.mem_append_right _ List.mem_cons_self⟩

theorem Stage.join {r : Except RuntimeFault Output} (h : Stage nodes first reached past)
    (hne : reached ≠ []) :
    Stage nodes first (reached ++ [n.joining]) (past ++ [⟨n.joining, r⟩]) where
  milestones := by rw [milestones_append, milestones_joining, h.milestones]
  configured m hm hr := (h.configured m hm hr).mono (List.sublist_append_left _ _)
  initialised _ := by
    obtain ⟨o, ho⟩ := h.initialised hne
    exact ⟨o, List.mem_append_left _ ho⟩

end

end Bootstrap

end LocalCluster.Cluster
