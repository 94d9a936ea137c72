import LocalCluster.Work.Program

/-!
# Ports of the host

A configured port is taken as it is. Port zero asks for any free port; it stays occupied while the
cluster is planned, so that no two nodes get the same.

* `Ports`: the listeners that are kept; `Ports.settle`.
-/

namespace LocalCluster.Cluster

open LocalCluster.Container

/-- The ports that a plan keeps occupied, the latest one first. -/
structure Ports where
  held : List Listener := []
  deriving DecidableEq, Repr

/-- The address on which a free port is looked for; none means all of version 4. -/
def bindAddress (address : String) : String := if address = "" then "0.0.0.0" else address

/-- A port as it is, or a free one in place of zero, which is kept from then on. -/
def Ports.settle (ports : Ports) (port : Port) (address : String) :
    Routine (Except Fault Port × Ports) :=
  if port ≠ 0 then return (.ok port, ports)
  else do
    match ← (listen ports.held (bindAddress address)).run with
    | .ok free => return (.ok free, ⟨⟨bindAddress address, free⟩ :: ports.held⟩)
    | .error fault => return (.error fault, ports)

end LocalCluster.Cluster
