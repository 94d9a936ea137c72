import LocalCluster.Container.Command

/-!
# Faults of the machine and of commands

* `IoFault`: an operation of the operating system failed; `IoFault.message` is its wording.
* `RuntimeFault`: a command could not be used: it failed, printed something of another shape, could
  not be started, or could not be talked to.
* `singleLine`: the one line that an output must be.
-/

namespace LocalCluster.Container

open LocalCluster.Text

/-- A failure reported by the operating system. -/
inductive IoFault where
  | notFound
  | alreadyExists
  | notADirectory
  | isADirectory
  | brokenPipe
  | addressUnavailable
  /-- A path may not hold the character zero. -/
  | zeroInPath
  /-- An argument of a command may not hold the character zero. -/
  | zeroInArgument
  /-- A failure with a wording of its own. -/
  | other (text : String)
  deriving DecidableEq, Repr

/-- The wording of a failure; those that the operating system has a number for carry it. -/
def IoFault.message : IoFault → String
  | .notFound => "No such file or directory (os error 2)"
  | .alreadyExists => "File exists (os error 17)"
  | .notADirectory => "Not a directory (os error 20)"
  | .isADirectory => "Is a directory (os error 21)"
  | .brokenPipe => "Broken pipe (os error 32)"
  | .addressUnavailable => "Cannot assign requested address (os error 99)"
  | .zeroInPath => "file name contained an unexpected NUL byte"
  | .zeroInArgument => "nul byte found in provided data"
  | .other text => text

/-- Why a command brought nothing usable. -/
inductive RuntimeFault where
  /-- It ended with a code other than zero, or, without a code, by a signal. -/
  | invocation (command : String) (code : Option Int) (output : String)
  /-- It succeeded, and its output has another shape than it should. -/
  | unexpectedOutput (command detail : String)
  /-- It could not be started. -/
  | spawn (command : String) (cause : IoFault)
  /-- It could not be talked to. -/
  | io (cause : IoFault)
  deriving DecidableEq, Repr

namespace RuntimeFault

/-- An exit code, or a word for its absence. -/
def codeLabel : Option Int → String
  | some code => toString code
  | none => "none"

/-- The wording of a fault. -/
def message : RuntimeFault → String
  | .invocation command code output =>
    "command `" ++ command ++ "` failed with exit code " ++ codeLabel code ++ ": " ++ output
  | .unexpectedOutput command detail => "unexpected output from `" ++ command ++ "`: " ++ detail
  | .spawn command cause => "failed to spawn `" ++ command ++ "`: " ++ cause.message
  | .io cause => "I/O error: " ++ cause.message

/-- The operating system's part in a fault. -/
def ioCause? : RuntimeFault → Option IoFault
  | .spawn _ cause | .io cause => some cause
  | _ => none

/-- The command ended with a failure. -/
def isInvocation : RuntimeFault → Bool
  | .invocation .. => true
  | _ => false

/-- The output had another shape than it should. -/
def isUnexpectedOutput : RuntimeFault → Bool
  | .unexpectedOutput .. => true
  | _ => false

end RuntimeFault

/-- The one line that the output of `c` must be. -/
def singleLine (c : Command) (o : Output) : Except RuntimeFault String :=
  match o.lines with
  | [line] => .ok line
  | ls =>
    .error (.unexpectedOutput c.display
      ("expected 1 line of output, got " ++ toString ls.length))

end LocalCluster.Container
