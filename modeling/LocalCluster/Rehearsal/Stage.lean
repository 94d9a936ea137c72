import LocalCluster.Files.Tree
import LocalCluster.Net.Address
import LocalCluster.Rehearsal.Rule
import LocalCluster.Work.Run

/-!
# The stage of a rehearsal

A host that answers commands by rules, keeps files in a tree of its own, hands out ports and numbers
in order and writes down what it was asked.

* `Stage`: the state; `host`: the host.
* `bindFault?`: the addresses on which the stage has no ports.
-/

namespace LocalCluster.Rehearsal

open LocalCluster.Container LocalCluster.Files LocalCluster.Net

/-- The state of a rehearsal. -/
structure Stage where
  rules : List Rule := []
  files : Tree := {}
  /-- The commands so far, the last one first. -/
  called : List Command := []
  /-- The events so far, the last one first. -/
  told : List Event := []
  /-- The random numbers so far, the last one first. -/
  drawn : List Nat := []
  /-- The port that is handed out next. -/
  nextPort : Port := 49152
  /-- The random numbers that are still to be drawn, as a function of how many there were. -/
  supply : Nat → Nat := id

namespace Stage

/-- The commands so far, in order. -/
def commands (s : Stage) : List Command := s.called.reverse

/-- The events so far, in order. -/
def events (s : Stage) : List Event := s.told.reverse

/-- The stage with nothing written down. -/
def turnPage (s : Stage) : Stage := { s with called := [], told := [] }

end Stage

/-- What is wrong with an address to listen on. The stage has all addresses of version 4, also in
the form that version 6 has for them, and of version 6 the one that stands for all; of names it
knows its own. -/
def bindFault? (address : String) : Option IoFault :=
  match Address.parse? address with
  | some (.v4 _) => none
  | some (.v6 [0, 0, 0, 0, 0, 0xFFFF, _, _]) => none
  | some (.v6 groups) => if groups.all (· == 0) then none else some .addressUnavailable
  | none =>
    if address = "localhost" then none
    else some (.other ("failed to lookup address information: " ++
      "Temporary failure in name resolution"))

/-- Occupies the next port, which nobody has been given before. -/
def bindPort (address : String) (s : Stage) : Except IoFault Port × Stage :=
  match bindFault? address with
  | none => (.ok s.nextPort, { s with nextPort := s.nextPort + 1 })
  | some fault => (.error fault, s)

/-- A change of the files, with what came of it. -/
def onFiles (change : Tree → Tree × Except IoFault Unit) (s : Stage) :
    (Except IoFault Unit × Nat) × Stage :=
  let (files, r) := change s.files
  ((r, 0), { s with files })

/-- The host of a rehearsal. -/
def host : Host Stage where
  answer
    | .command c => fun s =>
      let (reply, rules) := Rule.answer c s.rules
      ((reply.toResult c, reply.time), { s with rules, called := c :: s.called })
    | .pause milliseconds => fun s => (((), milliseconds), s)
    | .listen _ address => fun s =>
      let (r, s) := bindPort address s
      ((r, 0), s)
    | .draw => fun s =>
      let n := s.supply s.drawn.length
      ((n, 0), { s with drawn := n :: s.drawn })
    | .makeDirs path => onFiles (·.makeDirs path)
    | .writeFile path contents => onFiles (·.write path contents)
    | .restrict path => onFiles (·.restrict path)
    | .tell event => fun s => (((), 0), { s with told := event :: s.told })

/-- Rehearses a task: its value, the milliseconds it took and the stage afterwards. -/
def rehearse {α : Type} (t : Routine α) (s : Stage) : α × Nat × Stage :=
  let (a, m) := host.runRoutine t ⟨0, s⟩
  (a, m.clock, m.state)

/-- Rehearses a program. -/
def rehearseProgram {α : Type} (p : Program α) (s : Stage) : α × Nat × Stage :=
  let (a, m) := host.runProgram p ⟨0, s⟩
  (a, m.clock, m.state)

end LocalCluster.Rehearsal
