import LocalCluster.Text.Blank
import LocalCluster.Text.Lines
import LocalCluster.Text.Quoted

/-!
# Commands and their output

A command is a program, its arguments and the bytes it is fed. What it prints is kept as bytes and
read as lines.

* `Command.display`: the command as one line; a part that is empty or holds a blank is quoted.
* `Output.lines`, `Output.combinedLines`: the lines of standard output, alone or followed by those
  of standard error.
-/

namespace LocalCluster.Container

open LocalCluster.Text

/-- An external command. -/
structure Command where
  program : String
  args : List String := []
  /-- The bytes it is fed, if any. -/
  stdin : Option Bytes := none
  deriving DecidableEq, Repr

namespace Command

/-- The program followed by its arguments. -/
def argv (c : Command) : List String := c.program :: c.args

/-- A part of a command line, quoted if it is empty or holds a blank. -/
def displayPart (part : String) : String :=
  if part.toList.isEmpty || part.toList.any isBlank then quote part else part

/-- The command as one line of text. -/
def display (c : Command) : String := join " " (c.argv.map displayPart)

end Command

/-- What a command that succeeded has printed. -/
structure Output where
  stdout : Bytes := []
  stderr : Bytes := []
  deriving DecidableEq, Repr

namespace Output

/-- An output that is a text on standard output. -/
def ofText (s : String) : Output := ⟨encode s, []⟩

/-- Standard output as text. -/
def text (o : Output) : String := decodeLossy o.stdout

/-- The lines of standard output. -/
def lines (o : Output) : List String := linesOfBytes o.stdout

/-- The lines of standard output, then those of standard error. -/
def combinedLines (o : Output) : List String := linesOfBytes o.stdout ++ linesOfBytes o.stderr

/-- Standard output, then standard error. -/
def combined (o : Output) : Bytes := o.stdout ++ o.stderr

end Output

end LocalCluster.Container
