import LocalCluster.Cluster.Fault
import LocalCluster.Yaml.Document
import LocalCluster.Yaml.Printer

/-!
# Pointing a kubeconfig at another server

The credentials of an administrator name the server as a node sees it. Before they are of use
elsewhere, the server of one named cluster entry is replaced; everything else stays as it is.

* `setServer`: the document with the server of an entry replaced, or what is missing in it.
* `redirect`: the same on bytes.
* `hostServer`: the server as the host sees it.
-/

namespace LocalCluster.Cluster.Kubeconfig

open LocalCluster.Yaml LocalCluster.Text

/-- What a kubeconfig lacks. -/
inductive Issue where
  /-- It is no document; the text is what its reader says of that. -/
  | malformed (complaint : String)
  | noClusters
  | noEntry (name : String)
  | noSection (name : String)
  deriving DecidableEq, Repr

/-- The wording of an issue. -/
def Issue.message : Issue → String
  | .malformed complaint => "failed to load kubeconfig: " ++ complaint
  | .noClusters => "kubeconfig has no clusters"
  | .noEntry name => "kubeconfig has no cluster named " ++ quote name
  | .noSection name => "cluster " ++ quote name ++ " has no cluster section"

/-- The server at a port of the host. -/
def hostServer (port : Nat) : String := "https://localhost:" ++ toString port

/-- A cluster entry has the name. -/
def isNamed (name : String) (entry : Value) : Bool :=
  (entry.entry? "name").bind Value.text? == some name

/-- A mapping, perhaps under tags, with a text key set; nothing else has keys. -/
def setIn (key : String) (value : Value) (v : Value) : Option Value :=
  v.entries?.map fun entries => v.replaceBare (.mapping (Value.insertEntry key value entries))

/-- A cluster entry with its server replaced. -/
def setEntryServer (server : String) (entry : Value) : Option Value := do
  let part ← entry.entry? "cluster"
  let part ← setIn "server" (.string server) part
  setIn "cluster" part entry

/-- The entries with the server of the first one of a name replaced. -/
def setFirstServer (name server : String) : List Value → Except Issue (List Value)
  | [] => .error (.noEntry name)
  | entry :: rest =>
    if isNamed name entry then
      match setEntryServer server entry with
      | some entry => .ok (entry :: rest)
      | none => .error (.noSection name)
    else (setFirstServer name server rest).map (entry :: ·)

/-- The document with the server of the entry of a name replaced. -/
def setServer (name server : String) (doc : Value) : Except Issue Value :=
  match doc.entry? "clusters" with
  | none => .error .noClusters
  | some clusters =>
    match clusters.items? with
    | none => .error .noClusters
    | some entries => do
      let entries ← setFirstServer name server entries
      match setIn "clusters" (clusters.replaceBare (.sequence entries)) doc with
      | some doc => .ok doc
      | none => .error .noClusters

/-- A kubeconfig with the server of the entry of a name replaced. -/
def redirect (raw : Bytes) (name server : String) : Except Fault String :=
  match Value.parse? raw with
  | none => .error (.kubeconfig (Issue.malformed Value.unreadableMessage).message)
  | some doc =>
    match setServer name server doc with
    | .error issue => .error (.kubeconfig issue.message)
    | .ok doc =>
      match doc.print? with
      | some text => .ok text
      | none => .error (.yaml Value.unwritableMessage)

end LocalCluster.Cluster.Kubeconfig
