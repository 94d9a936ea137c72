import LocalCluster.Cluster.Provider.Containers

/-!
# Collecting logs

The logs of a cluster are gathered in a directory: one file about the engine, and for every node a
directory of its own with one file for each command. Every command is a task, all tasks run side by
side, and one that fails takes nothing from the others.

* `Artefact`: a command and where its output goes; `Containers.artefacts` lists those of a cluster.
* `Containers.collectLogs`; `Provider.ofContainers`: the provider with everything it can do.
-/

namespace LocalCluster.Cluster

open LocalCluster.Container LocalCluster.Files LocalCluster.Text

/-- Which part of an output is kept. -/
inductive Part where
  | stdout
  /-- Standard output, then standard error. -/
  | both
  deriving DecidableEq, Repr

/-- The kept part of an output. -/
def Part.of (p : Part) (o : Output) : Bytes :=
  match p with
  | .stdout => o.stdout
  | .both => o.combined

/-- Something to be collected. -/
inductive Artefact where
  /-- The output of a command as a file. -/
  | output (path : String) (command : Command) (part : Part) (label : String)
  /-- A directory that a command fills. -/
  | copy (path : String) (command : Command) (label : String)
  deriving Repr

/-- The command of an artefact. -/
def Artefact.command : Artefact → Command
  | .output _ command _ _ => command
  | .copy _ command _ => command

/-- Writes a file of the host and makes its directory first. -/
def writeHostFile (path : String) (contents : Bytes) : Work Unit := do
  if let some parent := parentPath? path then
    makeDirs parent
  during ("failed to write " ++ path) (writeFile path contents)

/-- Collects one artefact. -/
def Artefact.collect : Artefact → Work Unit
  | .output path command part label => do
    let o ← during label (runCommand command)
    writeHostFile path (part.of o)
  | .copy path command label => do
    makeDirs path
    let _ ← during label (runCommand command)

namespace Containers

/-- The output of a command in a node, as a file. -/
def execArtefact (n : Node) (dir file : String) (argv : List String) : Artefact :=
  .output (joinPath dir file) (n.engine.execution n.name argv none) .both
    (n.name ++ ": " ++ join " " argv)

/-- What is collected of a node, in its own directory. -/
def nodeArtefacts (c : Containers) (n : Node) (dir : String) : List Artefact :=
  [.output (joinPath dir "inspect.json") (c.engine.command ["inspect", n.name]) .stdout
      ("docker inspect " ++ n.name),
    .output (joinPath dir "serial.log") (c.engine.command ["logs", n.name]) .both
      ("docker logs " ++ n.name),
    execArtefact n dir "kubernetes-version.txt" ["cat", versionFilePath],
    execArtefact n dir "journal.log" ["journalctl", "--no-pager"],
    execArtefact n dir "kubelet.log" ["journalctl", "--no-pager", "-u", "kubelet.service"],
    execArtefact n dir "containerd.log" ["journalctl", "--no-pager", "-u", "containerd.service"],
    execArtefact n dir "images.log" ["crictl", "images"],
    .copy (joinPath dir "var-log")
      (c.engine.command ["cp", n.name ++ ":/var/log/.", joinPath dir "var-log"])
      ("docker cp " ++ n.name ++ ":/var/log/.")]

/-- What is collected of a cluster: one file about the engine, then what belongs to each node. -/
def artefacts (c : Containers) (nodes : List Node) (dir : String) : List Artefact :=
  .output (joinPath dir (c.engine.binary ++ "-info.txt")) (c.engine.command ["info"]) .stdout
      "docker info" ::
    nodes.flatMap fun n => c.nodeArtefacts n (joinPath dir n.name)

/-- Collects the logs of a cluster; what cannot be collected is left out. -/
def collectLogs (c : Containers) (cluster dir : String) : Job Unit := do
  let nodes ← c.listNodes cluster
  makeDirs dir
  ExceptT.lift do
    let _ ← (together .untilAllEnd
      ((c.artefacts nodes dir).map Artefact.collect)).run
    return

end Containers

/-- The provider that runs nodes as containers. -/
def Provider.ofContainers (c : Containers) : Provider where
  name := c.engine.binary
  provision := c.provision
  listClusters := c.listClusters
  listNodes := c.listNodes
  deleteNodes := c.deleteNodes
  externalEndpoint := c.externalEndpoint
  internalEndpoint := c.internalEndpoint
  collectLogs := c.collectLogs

end LocalCluster.Cluster
