import LocalCluster.Container.Fault

/-!
# Faults of cluster operations

What can go wrong while a cluster is created, looked at or removed. A fault is a tree: wrappers say
what was being tried, and operations that ran side by side put all their faults into one.

* `Fault.message`: the wording of the whole tree.
* `Fault.causes`: the wordings of what lies below the outermost fault, each inside the one before.
* `Fault.runtime?`: the fault of a command at the bottom of the wrappers.
* `Fault.gather`: the faults of several operations as one; `Fault.members` is its inverse.
-/

namespace LocalCluster.Cluster

open LocalCluster.Container LocalCluster.Text

/-- Why a cluster operation failed. -/
inductive Fault where
  /-- A command of the container runtime. -/
  | runtime (fault : RuntimeFault)
  /-- The wish itself is not acceptable. -/
  | validation (text : String)
  /-- A role outside the known ones. -/
  | unknownRole (text : String)
  /-- One or more operations that ran side by side, in the order they were submitted. -/
  | aggregate (first : Fault) (rest : List Fault)
  /-- A named step of the bootstrap. -/
  | step (label : String) (source : Fault)
  /-- An operation that was being tried. -/
  | context (operation : String) (source : Fault)
  /-- The credentials could not be pointed at another server. -/
  | kubeconfig (text : String)
  /-- The cluster has nodes already. -/
  | clusterExists (name : String)
  /-- A node that is needed is missing. -/
  | nodeNotFound (text : String)
  /-- A document could not be written as YAML. -/
  | yaml (text : String)
  /-- A document is no JSON of the expected shape. -/
  | json (text : String)
  /-- An operation of the operating system. -/
  | io (cause : IoFault)
  /-- A unit of work broke down; the text is what is known of that. -/
  | task (text : String)
  deriving Repr

instance : Inhabited Fault := ⟨.task ""⟩

namespace Fault

mutual

/-- The wording of a fault. -/
def message : Fault → String
  | .runtime fault => "runtime error: " ++ fault.message
  | .validation text => "invalid cluster spec: " ++ text
  | .unknownRole text => "unknown node role: " ++ quote text
  | .aggregate first rest =>
    if rest.isEmpty then first.message
    else
      toString (rest.length + 1) ++ " errors occurred:" ++ "\n\t* " ++ first.message ++
        bullets rest
  | .step label source => "step " ++ quote label ++ " failed: " ++ source.message
  | .context operation source => operation ++ ": " ++ source.message
  | .kubeconfig text => "kubeconfig error: " ++ text
  | .clusterExists name => "cluster " ++ quote name ++ " already exists"
  | .nodeNotFound text => "node not found: " ++ text
  | .yaml text => "YAML error: " ++ text
  | .json text => "JSON error: " ++ text
  | .io cause => "I/O error: " ++ cause.message
  | .task text => "task failed: " ++ text

/-- The wordings of faults as the items of a list, each on a line of its own. -/
def bullets : List Fault → String
  | [] => ""
  | fault :: rest => "\n\t* " ++ fault.message ++ bullets rest

end

/-- The wordings of the faults below the outermost one, from the outside in. -/
def causes : Fault → List String
  | .runtime fault => fault.message :: (fault.ioCause?.map IoFault.message).toList
  | .step _ source | .context _ source => source.message :: source.causes
  | .yaml text | .json text | .task text => [text]
  | .io cause => [cause.message]
  | _ => []

/-- The fault of a command that the wrappers hold, if the failure came from one. -/
def runtime? : Fault → Option RuntimeFault
  | .runtime fault => some fault
  | .step _ source | .context _ source => source.runtime?
  | _ => none

/-- The faults of several operations as one, if there is any. -/
def gather : List Fault → Option Fault
  | [] => none
  | first :: rest => some (.aggregate first rest)

/-- The faults that a fault gathers. -/
def members : Fault → List Fault
  | .aggregate first rest => first :: rest
  | _ => []

theorem members_gather {faults : List Fault} {fault : Fault} (h : gather faults = some fault) :
    fault.members = faults := by
  cases faults with
  | nil => simp [gather] at h
  | cons first rest =>
    simp only [gather, Option.some.injEq] at h
    subst h
    rfl

end Fault

/-- Says of the fault of `x`, if there is one, what was being tried. -/
def naming {α : Type} (operation : String) (x : Except Fault α) : Except Fault α :=
  x.mapError (Fault.context operation)

end LocalCluster.Cluster
