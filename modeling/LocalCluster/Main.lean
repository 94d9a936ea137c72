import LocalCluster.CommandLine.Exchange
import LocalCluster.CommandLine.Verb
import Std.Time

/-!
# The program

Reads its arguments and its environment, carries out what they ask for and prints the outcome.
Files, pauses and random numbers are its own; commands and ports are asked for on standard error and
answered on standard input, one line each.
-/

namespace LocalCluster.Main

open LocalCluster.CommandLine LocalCluster.Container LocalCluster.Text

/-- A failure of an operation as the library knows it. -/
def faultOf : IO.Error → IoFault
  | .noFileOrDirectory .. => .notFound
  | .alreadyExists .. => .alreadyExists
  | .inappropriateType .. => .notADirectory
  | e => .other (toString e)

/-- What came of an operation. -/
def attempt (act : IO Unit) : IO (Except IoFault Unit) := do
  match ← act.toBaseIO with
  | .ok () => return .ok ()
  | .error e => return .error (faultOf e)

/-- Writes a line and reads the answer to it; an answer that is not understood ends the program. -/
def askLine {α : Type} (line : String) (read : String → Option α) : IO α := do
  (← IO.getStderr).putStrLn line
  let answer ← (← IO.getStdin).getLine
  match read answer with
  | some a => return a
  | none => throw (IO.userError ("no answer to " ++ line))

/-- The rights of a file that only its owner may read. -/
def ownerOnly : IO.FileRight := { user := { read := true, write := true } }

/-- Answers a request. -/
def serve : (r : Request) → IO r.Answer
  | .command c => askLine (commandLine c) (resultOfLine? c)
  | .pause milliseconds => IO.sleep milliseconds.toUInt32
  | .listen _ address => askLine (listenLine address) portOfLine?
  | .draw => IO.rand 0 (1 <<< 128 - 1)
  | .makeDirs path => attempt (if path = "" then return else IO.FS.createDirAll path)
  | .writeFile path contents => attempt (IO.FS.writeBinFile path contents.toByteArray)
  | .restrict path => attempt (IO.setAccessRights path ownerOnly)
  | .tell _ => return

/-- Carries out a routine. -/
def runRoutine {α : Type} : Routine α → IO α
  | .done a => return a
  | .ask r next => do runRoutine (next (← serve r))

/-- Carries out routines, each to its end. -/
def runAll : List (Routine Outcome) → IO (List Completion)
  | [] => return []
  | routine :: rest => do
    let outcome ← runRoutine routine
    return ⟨outcome, 0⟩ :: (← runAll rest)

/-- Answers a demand. -/
def meet : (d : Demand) → IO d.Answer
  | .single r => serve r
  | .together p routines => return p.result (← runAll routines)

/-- Carries out a program. -/
def run {α : Type} : Program α → IO α
  | .done a => return a
  | .ask d next => do run (next (← meet d))

/-- The variables of the environment that the program looks at. -/
def variableNames : List String :=
  ["HOME", "KINDER_NAME", "KINDER_IMAGE", "KINDER_CONTROL_PLANES", "KINDER_WORKERS",
    "KINDER_API_ADDRESS", "KINDER_API_PORT", "KINDER_IP_FAMILY", "KINDER_KUBECONFIG",
    "KINDER_RETAIN", "KINDER_NETWORK", "HTTP_PROXY", "http_proxy", "HTTPS_PROXY", "https_proxy",
    "NO_PROXY", "no_proxy"]

/-- The variables that are set, with their values. -/
def environment : IO (List (String × String)) :=
  variableNames.filterMapM fun name => do return (← IO.getEnv name).map fun value => (name, value)

/-- The time in a form that is fit for names of directories. -/
def timeStamp : IO String := do
  return (← Std.Time.DateTime.now).format "uuuuMMdd-HHmmss"

end LocalCluster.Main

open LocalCluster in
/-- Runs the program: prints what it has to say, or the report of its failure. -/
def main (args : List String) : IO UInt32 := do
  let vars ← Main.environment
  let stamp ← Main.timeStamp
  match ← Main.run (CommandLine.runProgram args (fun name => vars.lookup name) stamp) with
  | .ok text =>
    IO.print text
    return 0
  | .error report =>
    IO.eprintln report.display
    return 1
