import LocalCluster.Container.Port
import LocalCluster.Text.Blank

/-!
# Endpoints

A host and a port with a colon between; a version 6 address stands in brackets.

* `Endpoint.display`, `Endpoint.parse?`.
-/

namespace LocalCluster.Cluster

open LocalCluster.Container LocalCluster.Net LocalCluster.Text

/-- The port of an API server inside its container. -/
def apiServerPort : Port := 6443

/-- Where a server is reached. -/
structure Endpoint where
  host : String
  port : Port
  deriving DecidableEq, Repr

namespace Endpoint

/-- The text of an endpoint. -/
def display (e : Endpoint) : String := bracketHost e.host ++ ":" ++ toString e.port.toNat

/-- A host without the brackets around it. -/
def unbracket (host : List Char) : List Char :=
  match host with
  | '[' :: inner => (stripSuffix [']'] inner).getD host
  | _ => host

/-- The endpoint that a text is, blanks around it aside. -/
def parse? (s : String) : Option Endpoint := do
  let (before, after) ← cutLast ':' (trimChars s.toList)
  let host := unbracket before
  if host.isEmpty then none
  else return ⟨String.ofList host, UInt16.ofNat (← readNat maxPort (String.ofList after))⟩

end Endpoint

end LocalCluster.Cluster
