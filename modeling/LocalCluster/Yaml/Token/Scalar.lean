import LocalCluster.Yaml.Token
import LocalCluster.Net.Address

/-!
# Reading scalars

The three ways in which a document writes a text: plain, in quotes, and as a block of lines. Each
reader starts at a cursor and gives the text and the cursor after it, or `none` where the document
is malformed. The first argument of a recursive reader bounds its steps; the number of characters
left is enough.

* `readPlain`, `readQuoted`, `readBlock`.
-/

namespace LocalCluster.Yaml

open LocalCluster.Net (hexValue)

/-- The gap from the cursor on. In a plain scalar a tab may not stand before column `indent` of a
line. -/
def readGap (indent : Option Int) : Nat → Gap → Cursor → Option (Gap × Cursor)
  | 0, g, c => some (g, c)
  | fuel + 1, g, c =>
    match c.rest with
    | x :: _ =>
      if isGap x then
        let abused := match indent with
          | some n => g.broken && (c.column : Int) < n && x == '\t'
          | none => false
        if abused then none else readGap indent fuel (g.addSpace x) c.skip
      else if isBreak x then
        let (b, c') := c.takeBreak
        readGap indent fuel (g.addBreak b) c'
      else some (g, c)
    | [] => some (g, c)

/-! ## Plain scalars -/

/-- The character ends a plain scalar inside brackets or braces. -/
def isFlowMark (x : Char) : Bool := x == ',' || x == '[' || x == ']' || x == '\x7b' || x == '\x7d'

/-- How the run of characters at the cursor goes on. -/
inductive PlainStep where
  | take (x : Char)
  | stop
  /-- A colon stands before a mark that it may not stand before. -/
  | malformed

/-- How the run of characters at the cursor goes on. -/
def plainStep (flow : Bool) (cs : List Char) : PlainStep :=
  if endsWord cs then .stop
  else match cs with
    | x :: rest =>
      let next := rest.head?
      if flow && x == ':' && next.any (fun y => isFlowMark y || y == '?') then .malformed
      else if x == ':' && endsWord rest then .stop
      else if flow && isFlowMark x then .stop
      else .take x
    | [] => .stop

/-- A run of characters of a plain scalar, after `acc` in reverse. -/
def readPlainRun (flow : Bool) : Nat → List Char → Cursor → Option (List Char × Cursor)
  | 0, acc, c => some (acc, c)
  | fuel + 1, acc, c =>
    match plainStep flow c.rest with
    | .take x => readPlainRun flow fuel (x :: acc) c.skip
    | .stop => some (acc, c)
    | .malformed => none

/-- A plain scalar after the part read so far, in reverse, and the gap after that. The result holds
the text, the cursor, and whether a line break came last. -/
def readPlainFrom (flow : Bool) (indent : Int) :
    Nat → List Char → Gap → Cursor → Option (List Char × Cursor × Bool)
  | 0, acc, g, c => some (acc.reverse, c, g.broken)
  | fuel + 1, acc, g, c =>
    if c.atDocumentMark || c.rest.head? == some '#' then some (acc.reverse, c, g.broken)
    else do
      let (run, c') ← readPlainRun flow c.rest.length [] c
      let (acc, g) := if run.isEmpty then (acc, g)
        else (run ++ g.text.reverse ++ acc, ({} : Gap))
      match c'.rest with
      | x :: _ =>
        if isGap x || isBreak x then
          let (g, c'') ← readGap (some indent) c'.rest.length g c'
          if ! flow && (c''.column : Int) < indent then some (acc.reverse, c'', g.broken)
          else readPlainFrom flow indent fuel acc g c''
        else some (acc.reverse, c', g.broken)
      | [] => some (acc.reverse, c', g.broken)

/-- A plain scalar. -/
def readPlain (flow : Bool) (indent : Int) (c : Cursor) : Option (List Char × Cursor × Bool) :=
  readPlainFrom flow indent (c.rest.length + 1) [] {} c

/-! ## Quoted scalars -/

/-- The character that one letter after a backslash stands for. -/
def escape? : Char → Option Char
  | '0' => some '\x00'
  | 'a' => some '\x07'
  | 'b' => some '\x08'
  | 't' | '\t' => some '\t'
  | 'n' => some '\n'
  | 'v' => some '\x0b'
  | 'f' => some '\x0c'
  | 'r' => some '\r'
  | 'e' => some '\x1b'
  | ' ' => some ' '
  | '"' => some '"'
  | '/' => some '/'
  | '\\' => some '\\'
  | 'N' => some '\u0085'
  | '_' => some '\u00a0'
  | 'L' => some '\u2028'
  | 'P' => some '\u2029'
  | _ => none

/-- How many hexadecimal digits follow a letter after a backslash. -/
def escapeWidth? : Char → Option Nat
  | 'x' => some 2
  | 'u' => some 4
  | 'U' => some 8
  | _ => none

/-- The character of a code point, if it is one. -/
def charOf? (n : Nat) : Option Char :=
  if n < 0xD800 || (0xDFFF < n && n ≤ 0x10FFFF) then some (Char.ofNat n) else none

/-- The character that an escape at the cursor stands for, and the cursor after it. -/
def readEscape (c : Cursor) : Option (Char × Cursor) :=
  match c.rest with
  | '\\' :: x :: rest =>
    match escape? x with
    | some y => some (y, c.skipN 2)
    | none => do
      let width ← escapeWidth? x
      let ds := rest.take width
      if ds.length ≠ width then none
      else
        let vs ← ds.mapM hexValue
        let y ← charOf? (vs.foldl (fun n d => 16 * n + d) 0)
        return (y, c.skipN (2 + width))
  | _ => none

/-- The characters up to a gap, the closing quote or an escaped line break, after `acc` in reverse.
The last part of the result says whether an escaped line break came last. -/
def readQuotedRun (single : Bool) : Nat → List Char → Cursor → Option (List Char × Cursor × Bool)
  | 0, acc, c => some (acc, c, false)
  | fuel + 1, acc, c =>
    if endsWord c.rest then some (acc, c, false)
    else match c.rest with
      | x :: rest =>
        if single then
          if x == '\'' then
            if rest.head? == some '\'' then readQuotedRun single fuel ('\'' :: acc) (c.skipN 2)
            else some (acc, c, false)
          else readQuotedRun single fuel (x :: acc) c.skip
        else if x == '"' then some (acc, c, false)
        else if x == '\\' then
          if rest.head?.any isBreak then some (acc, c.skip.takeBreak.2, true)
          else do
            let (y, c') ← readEscape c
            readQuotedRun single fuel (y :: acc) c'
        else readQuotedRun single fuel (x :: acc) c.skip
      | [] => some (acc, c, false)

/-- A quoted scalar after the part read so far, in reverse. -/
def readQuotedFrom (single : Bool) : Nat → List Char → Cursor → Option (List Char × Cursor)
  | 0, _, _ => none
  | fuel + 1, acc, c =>
    if c.atDocumentMark || c.rest.isEmpty then none
    else do
      let (acc, c, joined) ← readQuotedRun single c.rest.length acc c
      if c.rest.head? == some (if single then '\'' else '"') then some (acc.reverse, c.skip)
      else
        let (g, c') ← readGap none c.rest.length { broken := joined } c
        readQuotedFrom single fuel (g.text.reverse ++ acc) c'

/-- A scalar in quotes of one kind. -/
def readQuoted (single : Bool) (c : Cursor) : Option (List Char × Cursor) :=
  readQuotedFrom single (c.rest.length + 1) [] c.skip

/-! ## Block scalars -/

/-- What happens to the line breaks at the end of a block. -/
inductive Chomp where
  | strip
  | clip
  | keep
  deriving DecidableEq, Repr

/-- The sign that says what happens to line breaks at the end. -/
def chomp? : Char → Option Chomp
  | '+' => some .keep
  | '-' => some .strip
  | _ => none

/-- The indentation that a digit asks for; zero is refused. -/
def increment? (x : Char) : Option (Option Nat) :=
  if x == '0' then some none
  else if x.isDigit then some (some (x.toNat - '0'.toNat))
  else none

/-- The signs after the mark of a block, in either order: what happens to line breaks, and the
indentation asked for. -/
def readBlockSigns (c : Cursor) : Option (Chomp × Option Nat × Cursor) :=
  match c.rest with
  | x :: rest =>
    match chomp? x with
    | some chomp =>
      match rest.head?.bind increment? with
      | some none => none
      | some (some n) => some (chomp, some n, c.skipN 2)
      | none => some (chomp, none, c.skip)
    | none =>
      match increment? x with
      | some none => none
      | some (some n) =>
        match rest.head?.bind chomp? with
        | some chomp => some (chomp, some n, c.skipN 2)
        | none => some (.clip, some n, c.skip)
      | none => some (.clip, none, c)
  | [] => some (.clip, none, c)

/-- The empty lines at the cursor, as line breaks; the indentation is counted in spaces up to
`indent`, if that is known. The result holds the line breaks in reverse, the greatest column reached
and the cursor. -/
def readEmptyLines (indent : Option Nat) :
    Nat → List Char → Nat → Cursor → Option (List Char × Nat × Cursor)
  | 0, acc, widest, c => some (acc, widest, c)
  | fuel + 1, acc, widest, c =>
    let spaces := (c.rest.takeWhile (· == ' ')).length
    let c := c.skipN (match indent with
      | some n => min spaces (n - c.column)
      | none => spaces)
    let widest := max widest c.column
    let inIndent := match indent with
      | some n => c.column < n
      | none => true
    match c.rest with
    | x :: _ =>
      if inIndent && x == '\t' then none
      else if isBreak x then
        let (b, c') := c.takeBreak
        readEmptyLines indent fuel (b ++ acc) widest c'
      else some (acc, widest, c)
    | [] => some (acc, widest, c)

/-- The lines of a block at column `indent`, after the part read so far in reverse. `leading` is the
break after the last line, `trailing` holds the breaks of the empty lines after it, and `blank` says
that the last line began with a gap. -/
def readBlockLines (literal : Bool) (indent : Nat) :
    Nat → (acc leading trailing : List Char) → (blank : Bool) → Cursor →
      Option (List Char × List Char × List Char × Cursor)
  | 0, acc, leading, trailing, _, c => some (acc, leading, trailing, c)
  | fuel + 1, acc, leading, trailing, blank, c =>
    if c.column ≠ indent || c.rest.isEmpty then some (acc, leading, trailing, c)
    else
      let startsBlank := c.rest.head?.any isGap
      let joint :=
        if ! literal && leading == ['\n'] && ! blank && ! startsBlank then
          if trailing.isEmpty then [' '] else []
        else leading
      let line := c.rest.takeWhile (! isBreak ·)
      let acc := line.reverse ++ trailing.reverse ++ joint.reverse ++ acc
      let (leading, c) := (c.skipN line.length).takeBreak
      match readEmptyLines (some indent) (c.rest.length + 1) [] 0 c with
      | none => none
      | some (trailing, _, c) =>
        readBlockLines literal indent fuel acc leading trailing.reverse startsBlank c

/-- A block scalar whose mark stands at the cursor, in a construct of column `parent`. -/
def readBlock (literal : Bool) (parent : Int) (c : Cursor) : Option (List Char × Cursor) := do
  let (chomp, increment, c) ← readBlockSigns c.skip
  let c := c.skipWhile isGap
  let c := if c.rest.head? == some '#' then c.skipWhile (! isBreak ·) else c
  if ! endsLine c.rest then none
  else
    let c := c.takeBreak.2
    let asked := increment.map fun n => if 0 ≤ parent then parent.toNat + n else n
    let (trailing, widest, c) ← readEmptyLines asked (c.rest.length + 1) [] 0 c
    let indent := asked.getD (max (max widest (parent + 1).toNat) 1)
    let (acc, leading, trailing, c) ←
      readBlockLines literal indent (c.rest.length + 1) [] [] trailing.reverse false c
    let tail := match chomp with
      | .strip => []
      | .clip => leading
      | .keep => leading ++ trailing
    return (acc.reverse ++ tail, c)

end LocalCluster.Yaml
