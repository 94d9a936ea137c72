import LocalCluster.Cluster.Fault

/-!
# Reports of failures

What the command line prints when it fails: the failure, and below it whatever caused it, from the
outside in.

* `Report`, `Report.ofFault`, `Report.naming`; `Report.display`: its text.
-/

namespace LocalCluster.CommandLine

open LocalCluster.Cluster LocalCluster.Text

/-- A failure and its causes. -/
structure Report where
  message : String
  causes : List String := []
  deriving DecidableEq, Repr

namespace Report

/-- The report of a fault. -/
def ofFault (f : Fault) : Report := ⟨f.message, f.causes⟩

/-- A failure as the cause of another one. -/
def naming (operation : String) (r : Report) : Report := ⟨operation, r.message :: r.causes⟩

/-- A number filled up with blanks to five places. -/
def numberText (n : Nat) : String :=
  let digits := toString n
  String.ofList (List.replicate (5 - digits.length) ' ') ++ digits

/-- A text whose first line stands after `first` and whose other lines stand after `other`. -/
def indented (first other text : String) : String :=
  first ++ join ("\n" ++ other) (split '\n' text)

/-- Causes with their numbers, from `n` on. -/
def numbered (n : Nat) : List String → String
  | [] => ""
  | cause :: rest =>
    "\n" ++ indented (numberText n ++ ": ") "       " cause ++ numbered (n + 1) rest

/-- The causes of a failure; one alone has no number. -/
def displayCauses : List String → String
  | [] => ""
  | [cause] => "\n\nCaused by:\n" ++ indented "    " "    " cause
  | causes => "\n\nCaused by:" ++ numbered 0 causes

/-- The text of a report. -/
def display (r : Report) : String := "Error: " ++ r.message ++ displayCauses r.causes

end Report

end LocalCluster.CommandLine
