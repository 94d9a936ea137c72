import LocalCluster.Container.Engine

/-!
# Networks of containers

The network of a cluster is shared with every other cluster. It is looked for before it is made, and
looked for again when making it fails: whoever loses a race takes the winner's network.

* `Engine.ensureNetwork`; `Engine.networkSubnets`: the subnets of a network.
-/

namespace LocalCluster.Container

open LocalCluster.Text

/-- The label of the networks that are made here. -/
def networkLabel : String := "io.x-k8s.kind.network"

namespace Engine

/-- The template for the name of a network. -/
def networkNameFormat : String := "\x7b\x7b.Name\x7d\x7d"

/-- The template for the subnets of a network, each followed by a space. -/
def subnetsFormat : String :=
  "\x7b\x7brange .IPAM.Config\x7d\x7d\x7b\x7b.Subnet\x7d\x7d \x7b\x7bend\x7d\x7d"

/-- A network of exactly this name is there. -/
def hasNetwork (e : Engine) (name : String) : Call Bool :=
  ExceptT.lift
    (return match ← (e.ask ["network", "inspect", "--format", networkNameFormat, name]).run with
      | .ok output => output.lines.contains name
      | .error _ => false)

/-- Makes a labelled network. -/
def createNetwork (e : Engine) (name : String) (ipv6 : Bool) : Call Unit := do
  let _ ← e.ask (["network", "create", "--driver=bridge",
    "--label=" ++ networkLabel ++ "=" ++ name] ++ (if ipv6 then ["--ipv6"] else []) ++ [name])

/-- Makes a network unless it is there; a failure does not count if it is there afterwards. -/
def ensureNetwork (e : Engine) (name : String) (ipv6 : Bool) : Call Unit := do
  if ← e.hasNetwork name then return
  match ← ExceptT.lift (e.createNetwork name ipv6).run with
  | .ok () => return
  | .error fault =>
    if ← e.hasNetwork name then return
    throw fault

/-- Puts a container into one more network. -/
def connectNetwork (e : Engine) (network container : String) : Call Unit := do
  let _ ← e.ask ["network", "connect", network, container]

/-- The subnets in what the engine printed for a network. -/
def subnetsOf (c : Command) (output : Output) : Except RuntimeFault (List String) :=
  match output.lines with
  | [line] => .ok (words line)
  | lines =>
    .error (.unexpectedOutput c.display
      ("expected 1 line of subnets, got " ++ toString lines.length))

/-- The subnets of a network, in order. -/
def networkSubnets (e : Engine) (name : String) : Call (List String) := do
  let c := e.command ["network", "inspect", "--format", subnetsFormat, name]
  let output ← runCommand c
  ExceptT.mk (pure (subnetsOf c output))

end Engine

end LocalCluster.Container
