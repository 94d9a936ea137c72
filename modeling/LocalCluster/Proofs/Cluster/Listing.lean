import LocalCluster.Cluster.Provider.Containers
import LocalCluster.Proofs.Work.Follows

/-!
# What is listed and removed

Clusters and nodes are found by listing containers, with one command each time, and nodes are
removed with one command.

* `Containers.clusterListing`, `Containers.nodeListing`, `Containers.removing`: the commands.
* `clustersIn`, `Containers.nodesIn`, `removedBy`: what their answers say;
  **`follows_listClusters_iff`**, **`follows_listNodes_iff`**, **`follows_deleteNodes_iff`**: all
  that is asked.
-/

namespace LocalCluster.Cluster

open LocalCluster.Container LocalCluster.Text Script

variable {c : Containers} {cluster : String} {nodes : List Node}
variable {t : List (Exchange Request Request.Answer)}

namespace Containers

/-- The command that lists the clusters of all containers. -/
def clusterListing (c : Containers) : Command :=
  c.engine.command
    ["ps", "-a", "--filter", "label=" ++ clusterLabel, "--format", labelFormat clusterLabel]

/-- The command that lists the containers of a cluster. -/
def nodeListing (c : Containers) (cluster : String) : Command :=
  c.engine.command
    ["ps", "-a", "--filter", "label=" ++ clusterLabel ++ "=" ++ cluster, "--format", nodeFormat]

/-- The command that removes nodes by force, with their volumes. -/
def removing (c : Containers) (nodes : List Node) : Command :=
  c.engine.command (["rm", "-f", "-v"] ++ nodes.map Node.name)

/-- The clusters that the answer to a listing tells of. -/
def clustersIn (answer : Except RuntimeFault Output) : Except Fault (List String) :=
  match answer with
  | .ok output => .ok (sortDistinct (output.lines.filter (· ≠ "")))
  | .error fault => .error (.context "failed to list clusters" (.runtime fault))

/-- The nodes that the answer to a listing tells of. -/
def nodesIn (c : Containers) (answer : Except RuntimeFault Output) : Except Fault (List Node) :=
  match answer with
  | .ok output => c.nodesOfLines output.lines
  | .error fault => .error (.context "failed to list nodes" (.runtime fault))

/-- What the answer to the removal of nodes makes of it. -/
def removedBy {α : Type} (nodes : List Node) (answer : Except RuntimeFault α) : Except Fault Unit :=
  match answer with
  | .ok _ => .ok ()
  | .error fault =>
    match fault with
    | .invocation _ _ output =>
      if onlyGone (nodes.map Node.name) output then .ok ()
      else .error (.context "failed to delete nodes" (.runtime fault))
    | _ => .error (.context "failed to delete nodes" (.runtime fault))

end Containers

open Containers

theorem follows_read_ask_iff {α : Type} {e : Engine} {args : List String} {read : Output → α}
    {r : Except RuntimeFault α} :
    Follows (do
      let output ← e.ask args
      return read output : Call α).run t r ↔
      ∃ answer, t = [⟨.command (e.command args), answer⟩] ∧ r = answer.map read := by
  refine follows_run_judged_iff.trans ⟨?_, ?_⟩
  · rintro ⟨answer, h, rfl⟩
    exact ⟨answer, follows_runCommand_iff.1 h, rfl⟩
  · rintro ⟨answer, rfl, rfl⟩
    exact ⟨answer, follows_runCommand_iff.2 rfl, rfl⟩

theorem follows_list_iff {e : Engine} {filter format : String}
    {r : Except RuntimeFault (List String)} :
    Follows (e.list filter format).run t r ↔ ∃ answer,
      t = [⟨.command (e.command ["ps", "-a", "--filter", filter, "--format", format]), answer⟩] ∧
      r = answer.map Output.lines :=
  follows_read_ask_iff

theorem follows_read_list_iff {α : Type} {e : Engine} {operation filter format : String}
    (read : List String → Except Fault α) {r : Except Fault α} :
    Follows (do
      let lines ← during operation (e.list filter format).toWork
      ExceptT.mk (pure (read lines)) : Work α).run t r ↔ ∃ answer,
      t = [⟨.command (e.command ["ps", "-a", "--filter", filter, "--format", format]), answer⟩] ∧
      r = match answer with
        | .ok output => read output.lines
        | .error fault => .error (.context operation (.runtime fault)) := by
  have hlist : ∀ {t x}, Follows (during operation (e.list filter format).toWork).run t x ↔
      ∃ answer, t = [⟨.command (e.command ["ps", "-a", "--filter", filter, "--format", format]),
        answer⟩] ∧ x = naming operation ((answer.map Output.lines).mapError Fault.runtime) := by
    intro t x
    rw [follows_during_iff]
    constructor
    · rintro ⟨x₀, h, rfl⟩
      obtain ⟨x₁, hx, rfl⟩ := follows_toWork_iff.1 h
      obtain ⟨answer, rfl, rfl⟩ := follows_list_iff.1 hx
      exact ⟨answer, rfl, rfl⟩
    · rintro ⟨answer, rfl, rfl⟩
      exact ⟨_, follows_toWork_iff.2 ⟨_, follows_list_iff.2 ⟨answer, rfl, rfl⟩, rfl⟩, rfl⟩
  refine follows_run_judged_iff.trans ⟨?_, ?_⟩
  · rintro ⟨x, h, rfl⟩
    obtain ⟨answer, rfl, rfl⟩ := hlist.1 h
    exact ⟨answer, rfl, by cases answer <;> rfl⟩
  · rintro ⟨answer, rfl, rfl⟩
    exact ⟨_, hlist.2 ⟨answer, rfl, rfl⟩, by cases answer <;> rfl⟩

/-- **Clusters are listed with one command**, and its answer says which there are. -/
theorem follows_listClusters_iff {r : Except Fault (List String)} :
    Follows c.listClusters.run t r ↔
      ∃ answer, t = [⟨.command c.clusterListing, answer⟩] ∧ r = clustersIn answer := by
  refine (follows_read_list_iff (fun lines =>
    .ok (sortDistinct (lines.filter (· ≠ ""))))).trans (exists_congr fun answer => ?_)
  cases answer <;> rfl

/-- **Nodes are listed with one command**, and its answer says which there are. -/
theorem follows_listNodes_iff {r : Except Fault (List Node)} :
    Follows (c.listNodes cluster).run t r ↔
      ∃ answer, t = [⟨.command (c.nodeListing cluster), answer⟩] ∧ r = c.nodesIn answer := by
  refine (follows_read_list_iff c.nodesOfLines).trans (exists_congr fun answer => ?_)
  cases answer <;> rfl

theorem follows_remove_iff {e : Engine} {names : List String} {r : Except RuntimeFault Unit}
    (hne : names ≠ []) :
    Follows (e.remove names).run t r ↔ ∃ answer,
      t = [⟨.command (e.command (["rm", "-f", "-v"] ++ names)), answer⟩] ∧
      r = answer.map fun _ => () := by
  unfold Engine.remove
  rw [if_neg (by simpa using hne)]
  exact follows_read_ask_iff

theorem deleteNodes_eq (hne : nodes ≠ []) : c.deleteNodes nodes = (do
    let outcome ← ExceptT.lift (c.engine.remove (nodes.map Node.name)).run
    ExceptT.mk (pure (removedBy nodes outcome))) := by
  unfold Containers.deleteNodes
  rw [if_neg (by simpa using hne)]
  refine congrArg (_ >>= ·) (funext fun outcome => ?_)
  rcases outcome with (⟨_, _, output⟩ | _ | _ | _) | _
  case error.invocation =>
    dsimp only [removedBy]
    split <;> rfl
  all_goals rfl

/-- **Nodes are removed with one command, if there are any**, and its answer says what becomes of
it. -/
theorem follows_deleteNodes_iff {r : Except Fault Unit} (hne : nodes ≠ []) :
    Follows (c.deleteNodes nodes).run t r ↔
      ∃ answer, t = [⟨.command (c.removing nodes), answer⟩] ∧ r = removedBy nodes answer := by
  have hread : ∀ answer : Except RuntimeFault Output,
      removedBy nodes (answer.map fun _ => ()) = removedBy nodes answer := by
    rintro ((_ | _ | _ | _) | _) <;> rfl
  rw [deleteNodes_eq hne]
  refine follows_run_judged_iff.trans ⟨?_, ?_⟩
  · rintro ⟨r₀, h, rfl⟩
    obtain ⟨outcome, hremove, rfl⟩ := follows_run_lift_iff.1 h
    obtain ⟨answer, rfl, rfl⟩ := (follows_remove_iff (by simpa using hne)).1 hremove
    exact ⟨answer, rfl, hread answer⟩
  · rintro ⟨answer, rfl, rfl⟩
    exact ⟨_, follows_run_lift_iff.2
      ⟨_, (follows_remove_iff (by simpa using hne)).2 ⟨answer, rfl, rfl⟩, rfl⟩,
      (hread answer).symm⟩

theorem follows_deleteNodes_nil_iff {r : Except Fault Unit} :
    Follows (c.deleteNodes []).run t r ↔ t = [] ∧ r = .ok () :=
  follows_run_pure_iff

theorem follows_deleteNodes {r : Except Fault Unit} (h : Follows (c.deleteNodes nodes).run t r)
    (hne : nodes ≠ []) : ∃ answer, t = [⟨.command (c.removing nodes), answer⟩] := by
  obtain ⟨answer, ht, -⟩ := (follows_deleteNodes_iff hne).1 h
  exact ⟨answer, ht⟩

end LocalCluster.Cluster
