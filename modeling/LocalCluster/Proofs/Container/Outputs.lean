import LocalCluster.Container.Fault
import LocalCluster.Proofs.Text.Printed

/-!
# Lines of outputs

An engine prints lines, and its output is split into lines again. One thing alone is lost on the
way: one empty line is printed as a feed, but a feed is also what a template leaves behind that made
nothing, and it is taken for no line.

* `singleLine_eq_ok_iff`, `singleLine_eq_error_iff`: when an output is one line, and what is said of
  one that is not.
* **`splitting_undoes_printing`**: lines are split apart as they were printed.
-/

namespace LocalCluster.Container

open LocalCluster.Text

variable {c : Command} {o : Output} {ls : List String}

/-- **An output is one line if it is split into just that line.** -/
theorem singleLine_eq_ok_iff {line : String} : singleLine c o = .ok line ↔ o.lines = [line] := by
  unfold singleLine
  split
  · next other hother => simp [hother]
  · next hlines => exact ⟨nofun, fun h => absurd h (hlines line)⟩

/-- That an output has not one line but `count` of them. -/
def miscounted (c : Command) (count : Nat) : RuntimeFault :=
  .unexpectedOutput c.display ("expected 1 line of output, got " ++ toString count)

theorem singleLine_eq_error_iff {fault : RuntimeFault} : singleLine c o = .error fault ↔
    o.lines.length ≠ 1 ∧ fault = miscounted c o.lines.length := by
  unfold singleLine miscounted
  split
  · next line hline => simp [hline]
  · next hlines =>
    have hcount : o.lines.length ≠ 1 := fun hone => by
      obtain ⟨line, hline⟩ := List.length_eq_one_iff.1 hone
      exact hlines line hline
    simp [hcount, eq_comm]

/-- **Splitting into lines undoes printing in lines.** Lines that end in returns and feeds are told
apart again, whatever they are, and so are those that end in feeds, unless there is nothing but one
empty line. The end of the last line makes no difference, if something stands in that line. An
output is split so, standard output before standard error, and it is a single line exactly if its
standard output is split into that line and no other. -/
theorem splitting_undoes_printing (h : ∀ l ∈ ls, IsLine l) :
    linesOfBytes (encode (printLines "\r\n" ls)) = ls ∧
    linesOfBytes (encode (printLines "\n" ls)) = (if ls = [""] then [] else ls) ∧
    (∀ stop ∈ ["\n", "\r\n"], ∀ text, printLines stop ls = text ++ stop →
      ls.getLast? ≠ some "" →
      linesOfBytes (encode text) = linesOfBytes (encode (printLines stop ls))) ∧
    (∀ o : Output, o.lines = linesOfBytes o.stdout ∧
      o.combinedLines = linesOfBytes o.stdout ++ linesOfBytes o.stderr) ∧
    ∀ (c : Command) (o : Output),
      (∀ line, singleLine c o = .ok line ↔ linesOfBytes o.stdout = [line]) ∧
      ∀ fault, singleLine c o = .error fault ↔ (linesOfBytes o.stdout).length ≠ 1 ∧
        fault = miscounted c (linesOfBytes o.stdout).length := by
  simp only [linesOfBytes_encode]
  exact ⟨lines_printLines_returns h, lines_printLines_feeds h,
    fun _ hstop _ htext hlast => lines_of_unended h hstop htext hlast, fun _ => ⟨rfl, rfl⟩,
    fun _ _ => ⟨fun _ => singleLine_eq_ok_iff, fun _ => singleLine_eq_error_iff⟩⟩

/-- Empty lines, a return inside a line, and a last line without its end. -/
theorem unendedBlanks_undone :
    (∀ l ∈ ["", "é\rok", "", "end"], IsLine l) ∧
    printLines "\r\n" ["", "é\rok", "", "end"] = "\r\né\rok\r\n\r\nend" ++ "\r\n" ∧
    linesOfBytes (encode "\r\né\rok\r\n\r\nend") = ["", "é\rok", "", "end"] := by
  have hlines : ∀ l ∈ ["", "é\rok", "", "end"], IsLine l := by decide
  have hprinted : printLines "\r\n" ["", "é\rok", "", "end"] =
      "\r\né\rok\r\n\r\nend" ++ "\r\n" := by decide
  obtain ⟨hreturns, -, hunended, -⟩ := splitting_undoes_printing hlines
  exact ⟨hlines, hprinted, (hunended "\r\n" (by decide) _ hprinted (by decide)).trans hreturns⟩

end LocalCluster.Container
