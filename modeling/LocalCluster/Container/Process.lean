import LocalCluster.Container.Fault

/-!
# Processes

A command is run as a process. How the process ends decides what the command has brought: a process
that fails is a failure whatever became of its input, and one that succeeds must also have been fed
in full.

* `ProcessEnd`, `ProcessEnd.conclude`.
* `pipeCapacity`, `feedFault?`: input that a process leaves unread can be too much for a pipe.
-/

namespace LocalCluster.Container

open LocalCluster.Text

/-- How a process ended. -/
structure ProcessEnd where
  /-- Its exit code, or none if a signal ended it. -/
  code : Option Int := some 0
  output : Output := {}
  /-- What went wrong while it was fed. -/
  feedFault : Option IoFault := none
  deriving DecidableEq, Repr

/-- What a command has brought whose process ended like this. -/
def ProcessEnd.conclude (c : Command) (e : ProcessEnd) : Except RuntimeFault Output :=
  if e.code = some 0 then
    match e.feedFault with
    | none => .ok e.output
    | some cause => .error (.io cause)
  else .error (.invocation c.display e.code (join "\n" e.output.combinedLines))

/-- How many bytes a pipe holds that nobody has read. -/
def pipeCapacity : Nat := 65536

/-- What goes wrong while a process is fed that leaves `unread` bytes of its input. -/
def feedFault? (unread : Nat) : Option IoFault :=
  if pipeCapacity < unread then some .brokenPipe else none

end LocalCluster.Container
