import LocalCluster.Json.Reader
import LocalCluster.Work.Program

/-!
# Container engines

A container engine is a program that is driven by commands: it starts, lists, inspects and removes
containers, runs commands inside them and fetches images.

* One function for each kind of question, all of them calls of one command;
  `Engine.pull` alone repeats its command, with a growing pause, and `Engine.ensureImage` asks first
  whether it is needed.
-/

namespace LocalCluster.Container

open LocalCluster.Text

/-- A container engine, known by its program. -/
structure Engine where
  binary : String := "docker"
  deriving DecidableEq, Repr

namespace Engine

/-- A command of the engine. -/
def command (e : Engine) (args : List String) : Command := { program := e.binary, args := args }

/-- Runs a command of the engine. -/
def ask (e : Engine) (args : List String) : Call Output := runCommand (e.command args)

/-- Starts a container from its argument vector. -/
def start (e : Engine) (args : List String) : Call Unit := do
  let _ ← e.ask args

/-- Removes containers by force, with their volumes; none asks nothing. -/
def remove (e : Engine) (names : List String) : Call Unit := do
  if names.isEmpty then return
  let _ ← e.ask (["rm", "-f", "-v"] ++ names)

/-- A line for each container, running or not, that a filter lets through. -/
def list (e : Engine) (filter format : String) : Call (List String) := do
  return (← e.ask ["ps", "-a", "--filter", filter, "--format", format]).lines

/-- The command that inspects something through a template. -/
def inspection (e : Engine) (target format : String) : Command :=
  e.command ["inspect", "--format", format, target]

/-- The lines that a template makes of something. -/
def inspectLines (e : Engine) (target format : String) : Call (List String) := do
  return (← runCommand (e.inspection target format)).lines

/-- The one line that a template must make of something. -/
def inspectLine (e : Engine) (target format : String) : Call String := do
  let output ← runCommand (e.inspection target format)
  ExceptT.mk (pure (singleLine (e.inspection target format) output))

/-- Everything known of something. -/
def inspect (e : Engine) (target : String) : Call Bytes := do
  return (← e.ask ["inspect", target]).stdout

/-- The command that runs another one in a container; what is to be fed needs an open input. -/
def execution (e : Engine) (container : String) (argv : List String) (stdin : Option Bytes) :
    Command :=
  { program := e.binary
    args := ["exec"] ++ (if stdin.isSome then ["-i"] else []) ++ [container] ++ argv
    stdin := stdin }

/-- Runs a command in a container. -/
def exec (e : Engine) (container : String) (argv : List String) (stdin : Option Bytes) :
    Call Output :=
  runCommand (e.execution container argv stdin)

/-- What a container has printed. -/
def logs (e : Engine) (container : String) : Call Output := e.ask ["logs", container]

/-- What the engine says of itself. -/
def info (e : Engine) (format : Option String) : Call Output :=
  e.ask (["info"] ++ (format.map fun f => ["--format", f]).getD [])

/-- The template for the security options of the engine. -/
def securityFormat : String := "\x7b\x7bjson .SecurityOptions\x7d\x7d"

/-- The texts in a JSON list of texts. -/
def textsOfJson? (text : String) : Option (List String) :=
  match Json.parse? text with
  | some (.array items) => items.mapM Json.text?
  | _ => none

/-- What is wrong with options that are no such list; the text is what their reader says. -/
def securityIssue (complaint : String) : String :=
  "security options are not a JSON list: " ++ complaint

/-- The user names of containers are mapped to others. -/
def remapsUsers (e : Engine) : Call Bool := do
  let c := e.command ["info", "--format", securityFormat]
  let output ← runCommand c
  match textsOfJson? (trim output.text) with
  | some options => return options.any (contains "name=userns")
  | none => throw (.unexpectedOutput c.display (securityIssue Json.unreadableMessage))

/-- The image is there already. -/
def hasImage (e : Engine) (image : String) : Call Bool :=
  ExceptT.lift (return match ← (e.ask ["inspect", "--type=image", image]).run with
    | .ok _ => true
    | .error _ => false)

/-- How often an image is asked for. -/
def pullAttempts : Nat := 4

/-- The pause after the `n`-th attempt to fetch an image, in milliseconds. -/
def pullPause (n : Nat) : Nat := 1000 * n

/-- Asks for an image: `left` more times at most, and attempt number `attempt` comes next. -/
def pullFrom (e : Engine) (image : String) (attempt : Nat) : Nat → Call Unit
  | 0 => do
    let _ ← e.ask ["pull", image]
  | left + 1 => ExceptT.mk do
    match ← (e.ask ["pull", image]).run with
    | .ok _ => return .ok ()
    | .error _ =>
      (do pause (pullPause attempt); pullFrom e image (attempt + 1) left : Call Unit).run

/-- Fetches an image, trying again after growing pauses. -/
def pull (e : Engine) (image : String) : Call Unit := pullFrom e image 1 (pullAttempts - 1)

/-- Fetches an image unless it is there. -/
def ensureImage (e : Engine) (image : String) : Call Unit := do
  if ← e.hasImage image then return
  e.pull image

end Engine

end LocalCluster.Container
