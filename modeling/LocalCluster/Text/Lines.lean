import LocalCluster.Text.Cut
import LocalCluster.Text.Utf8

/-!
# Lines

The lines of a text as a command prints them: each line ends in a line feed, with a carriage return
before it or not, and the feed after the last line may be missing.

* `lines`: the lines of a text; of captured bytes, `linesOfBytes`.
* `printLines`: lines printed one after another with a given terminator.
-/

namespace LocalCluster.Text

/-- The line without a carriage return at its end. -/
def dropReturn (line : List Char) : List Char := (stripSuffix ['\r'] line).getD line

/-- The lines of a list of characters; a last line feed begins no further line. -/
def lineChars (cs : List Char) : List (List Char) :=
  let body := (stripSuffix ['\n'] cs).getD cs
  if body.isEmpty then [] else (body.splitOn '\n').map dropReturn

/-- The lines of a text. -/
def lines (s : String) : List String := (lineChars s.toList).map String.ofList

/-- The lines of captured bytes. -/
def linesOfBytes (bs : Bytes) : List String := (lineChars (decodeLossyChars bs)).map String.ofList

/-- Lines printed one after another, each with the terminator `stop` after it. -/
def printLines (stop : String) (ls : List String) : String :=
  ls.foldr (fun line rest => line ++ stop ++ rest) ""

end LocalCluster.Text
