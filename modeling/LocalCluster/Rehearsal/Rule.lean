import LocalCluster.Container.Process

/-!
# Rules of a rehearsal

In a rehearsal no command is run. Rules say what a command would have brought: the first rule that
applies to a command answers it, and a command to which none applies succeeds and prints nothing.

* `Reply`: what a command brings; `Reply.toResult` says it of a particular command.
* `Rule`: which commands it applies to, and the reply to the first, second, … of them.
* `Rule.answer`: the reply to a command; every rule remembers how often it has answered.
-/

namespace LocalCluster.Rehearsal

open LocalCluster.Container LocalCluster.Text

/-- What a command would bring. -/
inductive Reply where
  | succeed (output : Output)
  /-- It ends with a code other than zero, or by a signal. -/
  | fail (code : Option Int) (output : String)
  /-- It is run as a process, which ends like this. -/
  | ends (ended : ProcessEnd)
  | cannotSpawn (cause : IoFault)
  | cannotTalk (cause : IoFault)
  /-- It takes its time first. -/
  | delayed (milliseconds : Nat) (reply : Reply)
  deriving Repr

namespace Reply

/-- A reply as the result of a command. -/
def toResult (c : Command) : Reply → Except RuntimeFault Output
  | .succeed output => .ok output
  | .fail code output => .error (.invocation c.display code output)
  | .ends ended => ended.conclude c
  | .cannotSpawn cause => .error (.spawn c.display cause)
  | .cannotTalk cause => .error (.io cause)
  | .delayed _ reply => reply.toResult c

/-- How long a reply takes. -/
def time : Reply → Nat
  | .delayed milliseconds reply => milliseconds + reply.time
  | _ => 0

/-- A reply that is a text on standard output. -/
def ofText (s : String) : Reply := .succeed (Output.ofText s)

end Reply

/-- The argument vector of a command begins with these words. -/
def startsWith (front : List String) (c : Command) : Bool := front.isPrefixOf c.argv

/-- What some commands bring. -/
structure Rule where
  applies : Command → Bool
  /-- The reply to a command, given how many commands the rule has answered before. -/
  reply : Nat → Command → Reply
  /-- How many commands the rule has answered. -/
  answered : Nat := 0

namespace Rule

/-- The `n`-th reply of a list, or the last one once they are used up. -/
def pick (replies : List Reply) (n : Nat) : Reply :=
  (replies[n]?).getD (replies.getLastD (.succeed {}))

/-- Commands that begin with these words get these replies in turn. -/
def replies (front : List String) (replies : List Reply) : Rule :=
  { applies := startsWith front, reply := fun n _ => pick replies n }

/-- Commands that begin with these words get replies that depend on them. -/
def respond (front : List String) (reply : Command → Reply) : Rule :=
  { applies := startsWith front, reply := fun _ c => reply c }

/-- The reply to a command, and the rules afterwards. -/
def answer (c : Command) : List Rule → Reply × List Rule
  | [] => (.succeed {}, [])
  | rule :: rest =>
    if rule.applies c then
      (rule.reply rule.answered c, { rule with answered := rule.answered + 1 } :: rest)
    else
      let (reply, rest) := answer c rest
      (reply, rule :: rest)

end Rule

end LocalCluster.Rehearsal
