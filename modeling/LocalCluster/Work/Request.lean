import LocalCluster.Container.Fault
import LocalCluster.Container.Port

/-!
# Requests

What a piece of work may ask of the machine it runs on, and the answers it can get.

* `Request`, `Request.Answer`; `Request.isCommand`.
* `Event`: what work tells about its progress.
-/

namespace LocalCluster

open LocalCluster.Container LocalCluster.Text

/-- A port that is kept occupied. -/
structure Listener where
  address : String
  port : Port
  deriving DecidableEq, Repr

/-- Something told about the progress of work. -/
inductive Event where
  | stepBegan (label : String)
  | stepEnded (success : Bool)
  /-- The members of a cluster were looked up in a fixed list. -/
  | membersRead (cluster : String)
  deriving DecidableEq, Repr

/-- A question to the machine. -/
inductive Request where
  /-- Run a command to its end. -/
  | command (c : Command)
  /-- Let some milliseconds pass. -/
  | pause (milliseconds : Nat)
  /-- Occupy any free port of an address, while these listeners are kept. -/
  | listen (held : List Listener) (address : String)
  /-- Draw a random number below `2 ^ 128`. -/
  | draw
  /-- Make a directory and those above it. -/
  | makeDirs (path : String)
  /-- Put bytes into a file. -/
  | writeFile (path : String) (contents : Bytes)
  /-- Make a file private to its owner. -/
  | restrict (path : String)
  /-- Take notice of an event. -/
  | tell (event : Event)
  deriving Repr

/-- The request is to run a command. -/
def Request.isCommand : Request → Bool
  | .command _ => true
  | _ => false

/-- What a request is answered with. -/
abbrev Request.Answer : Request → Type
  | .command _ => Except RuntimeFault Output
  | .pause _ => Unit
  | .listen .. => Except IoFault Port
  | .draw => Nat
  | .makeDirs _ => Except IoFault Unit
  | .writeFile .. => Except IoFault Unit
  | .restrict _ => Except IoFault Unit
  | .tell _ => Unit

end LocalCluster
