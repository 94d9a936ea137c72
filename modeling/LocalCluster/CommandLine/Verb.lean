import LocalCluster.Cluster.Manager
import LocalCluster.CommandLine.Configuration
import LocalCluster.CommandLine.Report

/-!
# Commands of the program

The first argument says what is to be done; the rest is in the environment.

* `Verb`, `Verb.parse`: what can be asked for, and how it is written.
* `Verb.run`: what is printed, or why it failed.
* `runProgram`: the whole program, from its arguments and its environment.
-/

namespace LocalCluster.CommandLine

open LocalCluster.Cluster LocalCluster.Text

/-- How the program is called. -/
def usage : String :=
  "usage: kinder <create|delete|get-clusters|get-nodes|get-kubeconfig [internal]|address|" ++
    "export-logs [dir]>"

/-- What can be asked for. -/
inductive Verb where
  | create
  | delete
  | getClusters
  | getNodes
  | getKubeconfig (internal : Bool)
  | address
  | exportLogs (dir : Option String)
  deriving DecidableEq, Repr

namespace Verb

/-- What the arguments of the program ask for. -/
def parse : List String → Except Report Verb
  | [] => .error ⟨usage, []⟩
  | first :: rest =>
    match first with
    | "create" => .ok .create
    | "delete" => .ok .delete
    | "get-clusters" => .ok .getClusters
    | "get-nodes" => .ok .getNodes
    | "get-kubeconfig" => .ok (.getKubeconfig (rest.head? == some "internal"))
    | "address" => .ok .address
    | "export-logs" => .ok (.exportLogs rest.head?)
    | other => .error ⟨"unknown command " ++ quote other ++ "\n" ++ usage, []⟩

/-- What a program prints, or a report of its failure. -/
abbrev Printed : Type → Type := ExceptT Report Program

/-- A job whose failure is reported as it is. -/
def reporting {α : Type} (j : Job α) : Printed α :=
  ExceptT.mk (j.run >>= fun r => pure (r.mapError Report.ofFault))

/-- A job whose failure is reported as the cause of another one. -/
def reportingAs {α : Type} (operation : String) (j : Job α) : Printed α :=
  ExceptT.mk (j.run >>= fun r => pure (r.mapError (Report.naming operation ∘ Report.ofFault)))

/-- Where logs go unless a directory is named; `stamp` tells the time. -/
def defaultLogsDir (stamp : String) : String := "./kinder-logs-" ++ stamp

/-- What is printed of a cluster that has been created. -/
def createdText (name path : String) : String :=
  "Cluster " ++ quote name ++ " created\nkubectl --kubeconfig " ++ path ++ " cluster-info\n"

/-- Does what is asked for: the text that is printed. -/
def run (v : Verb) (c : Configuration) (m : Manager) (home : Option String) (stamp : String) :
    Printed String :=
  match v with
  | .create => do
    let spec ← reporting (ExceptT.mk (pure c.spec))
    let path := c.kubeconfigPath home
    reportingAs ("failed to create cluster " ++ quote c.name)
      (m.create spec { kubeconfigPath := path, retain := c.retain })
    return createdText c.name path
  | .delete => do
    reportingAs ("failed to delete cluster " ++ quote c.name) (Work.toJob (m.delete c.name))
    return ""
  | .getClusters => do
    return printLines "\n" (← reporting (Work.toJob m.provider.listClusters))
  | .getNodes => do
    let nodes ← reporting (Work.toJob (m.provider.listNodes c.name))
    return printLines "\n" (nodes.map Node.name)
  | .getKubeconfig internal =>
    reportingAs ("failed to get kubeconfig for cluster " ++ quote c.name)
      (Work.toJob (m.kubeconfig c.name internal))
  | .address => do
    return printLines "\n" [← reporting (Work.toJob (m.serverAddress c.name))]
  | .exportLogs dir => do
    let dir := dir.getD (defaultLogsDir stamp)
    reportingAs ("failed to export logs for cluster " ++ quote c.name) (m.exportLogs c.name dir)
    return printLines "\n" [dir]

end Verb

/-- The whole program: what it prints, or a report of its failure. The arguments are looked at
first, the configuration next. -/
def runProgram (args : List String) (find : String → Option String) (stamp : String) :
    Program (Except Report String) :=
  match Verb.parse args with
  | .error report => return .error report
  | .ok verb =>
    let c := Configuration.ofEnvironment find
    match c.issue? with
    | some issue => return .error ⟨issue.message, []⟩
    | none =>
      (verb.run c { provider := .ofContainers { environment := find } } (find "HOME") stamp).run

end LocalCluster.CommandLine
