import LocalCluster.Container.Mount
import LocalCluster.Container.Port

/-!
# Arguments that start a container

A container is asked for by a list of options and an image. On the command line the options stand in
order between `run --detach --tty` and the image.

* `RunOption.args`: the words of one option.
* `RunArgs.argv`: the whole argument vector; **`argv_getLast`**: the image stands last.
-/

namespace LocalCluster.Container

/-- One wish about a container that is to be started. -/
inductive RunOption where
  | name (name : String)
  | hostname (hostname : String)
  | label (key value : String)
  /-- All privileges and no filter on system calls, as containers inside a container need. -/
  | privileged
  /-- A file system in memory. -/
  | tmpfs (path : String)
  /-- An anonymous volume, or a binding written out. -/
  | volume (binding : String)
  | mount (m : Mount)
  | publish (p : PortMapping)
  | network (name : String)
  | env (key value : String)
  /-- Words taken over as they are. -/
  | verbatim (args : List String)
  deriving DecidableEq, Repr

/-- The words of one option. -/
def RunOption.args : RunOption → List String
  | .name n => ["--name", n]
  | .hostname n => ["--hostname", n]
  | .label key value => ["--label", key ++ "=" ++ value]
  | .privileged =>
    ["--privileged", "--security-opt", "seccomp=unconfined", "--security-opt",
      "apparmor=unconfined"]
  | .tmpfs path => ["--tmpfs", path]
  | .volume binding => ["--volume", binding]
  | .mount m => [m.arg]
  | .publish p => [p.arg]
  | .network n => ["--network", n]
  | .env key value => ["-e", key ++ "=" ++ value]
  | .verbatim args => args

/-- A container to be started. -/
structure RunArgs where
  options : List RunOption := []
  image : String := ""
  deriving DecidableEq, Repr

namespace RunArgs

/-- One more option after the others. -/
def add (r : RunArgs) (o : RunOption) : RunArgs := { r with options := r.options ++ [o] }

/-- The argument vector: detached, with a terminal, the options in order, the image last. -/
def argv (r : RunArgs) : List String :=
  ["run", "--detach", "--tty"] ++ r.options.flatMap RunOption.args ++ [r.image]

theorem argv_getLast (r : RunArgs) : r.argv.getLast? = some r.image := by
  rw [argv, List.getLast?_append]
  rfl

/-- An option added to a request adds its words before the image. -/
theorem argv_add (r : RunArgs) (o : RunOption) :
    (r.add o).argv = ["run", "--detach", "--tty"] ++ r.options.flatMap RunOption.args ++ o.args ++
      [r.image] := by
  simp [argv, add]

end RunArgs

end LocalCluster.Container
