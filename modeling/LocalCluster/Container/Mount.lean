import LocalCluster.Text.Cut

/-!
# Mounts

A path of the host bound into a container, and its command line form
`--volume=host:container[:options]`.

* `Mount.options`: the options in the order `ro`, `Z`, propagation.
* `Mount.arg`: the argument.
-/

namespace LocalCluster.Container

open LocalCluster.Text

/-- Which way mounts made below a bound path are seen. -/
inductive Propagation where
  /-- Neither way. -/
  | none
  /-- From the host to the container. -/
  | hostToContainer
  /-- Both ways. -/
  | bidirectional
  deriving DecidableEq, Repr

/-- The option that asks for a propagation; the default asks for nothing. -/
def Propagation.option? : Propagation → Option String
  | .none => Option.none
  | .hostToContainer => some "rslave"
  | .bidirectional => some "rshared"

/-- A path of the host bound into a container. -/
structure Mount where
  hostPath : String
  containerPath : String
  readOnly : Bool := false
  /-- The path is given a label of the container's own. -/
  selinuxRelabel : Bool := false
  propagation : Propagation := .none
  deriving DecidableEq, Repr

namespace Mount

/-- The options of a mount, in order. -/
def options (m : Mount) : List String :=
  (if m.readOnly then ["ro"] else []) ++ (if m.selinuxRelabel then ["Z"] else []) ++
    m.propagation.option?.toList

/-- What stands after `--volume=`. -/
def binding (m : Mount) : String :=
  let paths := m.hostPath ++ ":" ++ m.containerPath
  if m.options.isEmpty then paths else paths ++ ":" ++ join "," m.options

/-- The argument that asks for a mount. -/
def arg (m : Mount) : String := "--volume=" ++ m.binding

end Mount

end LocalCluster.Container
