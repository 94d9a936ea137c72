import LocalCluster.Container.Port
import LocalCluster.Container.Process
import LocalCluster.Json.Printer
import LocalCluster.Json.Reader

/-!
# Asking for commands to be run

The program starts no process itself. What it needs is written as a line of JSON to whoever runs it,
who answers with a line of JSON.

* `commandLine`, `resultOfLine?`: a command, and what it brought.
* `listenLine`, `portOfLine?`: an address on which a free port is needed, and the port.
-/

namespace LocalCluster.CommandLine

open LocalCluster.Container LocalCluster.Text

/-- Bytes: a string if they are text, and otherwise their numbers. -/
def jsonOfBytes (bs : Bytes) : Json :=
  match decode? bs with
  | some s => .string s
  | none => .array (bs.map fun b => .ofNat b.toNat)

/-- The bytes that a value stands for. -/
def bytesOfJson? : Json → Option Bytes
  | .string s => some (encode s)
  | .array items => items.mapM fun j => (j.natural? 255).map UInt8.ofNat
  | _ => none

/-- The line that asks for a command to be run. -/
def commandLine (c : Command) : String :=
  (Json.object ([("run", .array (c.argv.map .string))] ++
    (c.stdin.map fun bs => ("stdin", jsonOfBytes bs)).toList)).print

/-- The line that asks for a free port of an address. -/
def listenLine (address : String) : String := (Json.object [("listen", .string address)]).print

/-- What a command has brought, as a line tells: an exit code (null for a signal) and what was
printed, or the words of a failure to start it. -/
def resultOfLine? (c : Command) (line : String) : Option (Except RuntimeFault Output) := do
  let slots ← (← Json.parse? line).slots? ["code", "stdout", "stderr", "missing"]
  match slots with
  | [_, _, _, some missing] => return .error (.spawn c.display (.other (← missing.text?)))
  | [code, stdout, stderr, none] =>
    let code ← match code with
      | some .null => some none
      | some j => (j.natural? 255).map fun n => some (Int.ofNat n)
      | none => some (some 0)
    let stdout ← Json.optional [] bytesOfJson? stdout
    let stderr ← Json.optional [] bytesOfJson? stderr
    return (ProcessEnd.mk code ⟨stdout, stderr⟩ none).conclude c
  | _ => none

/-- The free port that a line tells, or the words of a failure to get one. -/
def portOfLine? (line : String) : Option (Except IoFault Port) := do
  let slots ← (← Json.parse? line).slots? ["port", "failure"]
  match slots with
  | [some port, _] => return .ok (UInt16.ofNat (← port.natural? maxPort))
  | [none, some failure] => return .error (.other (← failure.text?))
  | _ => none

end LocalCluster.CommandLine
