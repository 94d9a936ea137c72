import LocalCluster.Yaml.Scalar
import LocalCluster.Yaml.Token
import LocalCluster.Text.Utf8

/-!
# Writing YAML

Values are written in block form, two columns for each level; only empty collections are written
with brackets or braces. A text is written plain where that reads back as the same text, as a block
of lines where it has several, and in quotes otherwise.

* `Shape.of`: the ways in which a text may be written.
* `scalarText`: a text in the way that is chosen.
* `writeValue`: what stands after a mark or a key, up to the end of the last line.
* `Value.isWritable`: the values that can be written; a single entry needs a key that begins with
  something else than a tag or another single entry.
* `Value.print?`: a whole document.
-/

namespace LocalCluster.Yaml

/-! ## Ways to write a text -/

/-- The character can be seen on a page. -/
def isPrintable (c : Char) : Bool :=
  let n := c.toNat
  n == 0x0A || (0x20 ≤ n && n ≤ 0x7E) ||
    (0xA0 ≤ n && n ≠ 0xFEFF && n ≠ 0xFFFE && n ≠ 0xFFFF)

/-- The ways in which a text may be written. -/
structure Shape where
  /-- It has a line break. -/
  multiline : Bool
  plain : Bool
  single : Bool
  block : Bool
  deriving DecidableEq, Repr

/-- The first character keeps a text from being plain. -/
def badFirst : List Char → Bool
  | c :: rest =>
    "#,[]\x7b\x7d&*!|>'\"%@`".toList.contains c ||
      ((c == '?' || c == ':' || c == '-') && endsWord rest)
  | [] => false

/-- A character after `previous` keeps a text from being plain: a colon before a gap, or a number
sign after one. -/
def badLater (previous : Char) : List Char → Bool
  | [] => false
  | c :: rest =>
    (c == ':' && endsWord rest) || (c == '#' && (isGap previous || isBreak previous)) ||
      badLater c rest

/-- The text looks like something else than a text if it is written plain. -/
def hasIndicators (cs : List Char) : Bool :=
  ['-', '-', '-'].isPrefixOf cs || ['.', '.', '.'].isPrefixOf cs || badFirst cs ||
    match cs with
    | c :: rest => badLater c rest
    | [] => false

/-- Some two neighbours satisfy `p` and `q`. -/
def hasPair (p q : Char → Bool) : List Char → Bool
  | c :: d :: rest => (p c && q d) || hasPair p q (d :: rest)
  | _ => false

/-- A space, which is no tab. -/
def isSpace (c : Char) : Bool := c == ' '

/-- The ways in which a text may be written. -/
def Shape.of (cs : List Char) : Shape :=
  if cs.isEmpty then ⟨false, true, true, false⟩
  else
    let breaks := cs.any isBreak
    let breakSpace := hasPair isBreak isSpace cs
    let hidden := hasPair isSpace isBreak cs || cs.any (! isPrintable ·)
    let edge (c : Option Char) := c.any fun c => isSpace c || isBreak c
    { multiline := breaks
      plain := ! (edge cs.head? || edge cs.getLast? || breakSpace || hidden || breaks ||
        hasIndicators cs)
      single := ! (breakSpace || hidden)
      block := ! (cs.getLast?.any isSpace || hidden) }

/-- A way to write a text. -/
inductive Style where
  | plain
  | single
  | double
  | block
  deriving DecidableEq, Repr

/-- The way in which a scalar is written: the one wished for, unless its shape forbids that or it
stands as a key on one line. -/
def chooseStyle (wish : Style) (asKey : Bool) (cs : List Char) : Style :=
  let shape := Shape.of cs
  if asKey && shape.multiline then .double
  else match wish with
    | .plain => if shape.plain then .plain else if shape.single then .single else .double
    | .single => if shape.single then .single else .double
    | .block => if shape.block && ! asKey then .block else .double
    | .double => .double

/-! ## Texts -/

/-- A line of spaces. -/
def spaces (n : Nat) : List Char := List.replicate n ' '

/-- The letter after a backslash for a character that has one. -/
def escapeLetter? (c : Char) : Option Char :=
  match c with
  | '\x00' => some '0'
  | '\x07' => some 'a'
  | '\x08' => some 'b'
  | '\t' => some 't'
  | '\n' => some 'n'
  | '\x0b' => some 'v'
  | '\x0c' => some 'f'
  | '\r' => some 'r'
  | '\x1b' => some 'e'
  | '"' => some '"'
  | '\\' => some '\\'
  | '\u0085' => some 'N'
  | '\u00a0' => some '_'
  | '\u2028' => some 'L'
  | '\u2029' => some 'P'
  | _ => none

/-- A number in `width` upper-case hexadecimal digits. -/
def upperHex (width n : Nat) : List Char :=
  let ds := (Nat.toDigits 16 n).map Char.toUpper
  List.replicate (width - ds.length) '0' ++ ds

/-- A character between double quotes. -/
def doubleQuotedChar (c : Char) : List Char :=
  if ! isPrintable c || isBreak c || c == '"' || c == '\\' then
    match escapeLetter? c with
    | some letter => ['\\', letter]
    | none =>
      let n := c.toNat
      if n ≤ 0xFF then '\\' :: 'x' :: upperHex 2 n
      else if n ≤ 0xFFFF then '\\' :: 'u' :: upperHex 4 n
      else '\\' :: 'U' :: upperHex 8 n
  else [c]

/-- The characters between single quotes; lines after a break begin at column `indent`. -/
def singleQuotedChars (indent : Nat) : (afterBreak : Bool) → List Char → List Char
  | afterBreak, [] => if afterBreak then spaces indent else []
  | afterBreak, c :: rest =>
    if isBreak c then c :: singleQuotedChars indent true rest
    else
      (if afterBreak then spaces indent else []) ++ (if c == '\'' then ['\'', '\''] else [c]) ++
        singleQuotedChars indent false rest

/-- The lines of a block; each that is not empty begins at column `indent`. -/
def blockLines (indent : Nat) : (afterBreak : Bool) → List Char → List Char
  | _, [] => []
  | afterBreak, c :: rest =>
    if isBreak c then c :: blockLines indent true rest
    else (if afterBreak then spaces indent else []) ++ c :: blockLines indent false rest

/-- The sign that says what happens to the line breaks at the end of a block. -/
def chompSign (cs : List Char) : List Char :=
  match cs.reverse with
  | [] => ['-']
  | c :: before =>
    if ! isBreak c then ['-']
    else match before with
      | [] => ['+']
      | b :: _ => if isBreak b then ['+'] else []

/-- A text as a block: the mark with its signs, then the lines. -/
def blockText (indent : Nat) (cs : List Char) : List Char :=
  let width := if cs.head?.any (fun c => isSpace c || isBreak c) then ['2'] else []
  '|' :: width ++ chompSign cs ++ '\n' :: blockLines indent true cs

/-- A text in the given way; lines after the first begin at column `indent`. -/
def scalarText (style : Style) (indent : Nat) (cs : List Char) : List Char :=
  match style with
  | .plain => cs
  | .single => '\'' :: singleQuotedChars indent false cs ++ ['\'']
  | .double => '"' :: cs.flatMap doubleQuotedChar ++ ['"']
  | .block => blockText indent cs

/-! ## Values -/

/-- The way in which a text is wished to be written. -/
def styleOf (s : String) : Style :=
  if s.toList.contains '\n' then .block
  else if readsAsText s.toList then .plain
  else .single

/-- The text of a value that is no collection, and the way in which it is wished to be written. -/
def scalarOf? : Value → Option (Style × List Char)
  | .null => some (.plain, "null".toList)
  | .bool b => some (.plain, (if b then "true" else "false").toList)
  | .integer n => some (.plain, (toString n).toList)
  | .float x => some (.plain, x.text.toList)
  | .string s => some (styleOf s, s.toList)
  | _ => none

/-- The tag in front of a value, with a space before it. -/
def tagText (tag : String) : List Char := ' ' :: '!' :: tag.toList

/-- The most bytes of a key that stands before its value on one line. -/
def maxKeyLength : Nat := 128

/-- How a key is written on one line, with a space before it, if it can be. The first argument is
what its tag takes up. -/
def shortKey? (tagLength : Nat) : Value → Option (List Char)
  | .tagged tag v => (shortKey? (tagLength + 1 + tag.utf8ByteSize) v).map (tagText tag ++ ·)
  | .sequence [] => if tagLength ≤ maxKeyLength then some " []".toList else none
  | .mapping [] => if tagLength ≤ maxKeyLength then some " \x7b\x7d".toList else none
  | v => do
    let (wish, cs) ← scalarOf? v
    if cs.any isBreak || maxKeyLength < tagLength + (Text.encodeChars cs).length then none
    else some (' ' :: scalarText (chooseStyle wish true cs) 0 cs)

/-- A scalar after a mark, up to the end of its last line. -/
def writeScalar (indent : Nat) (wish : Style) (cs : List Char) : List Char :=
  let style := chooseStyle wish false cs
  let text := ' ' :: scalarText style indent cs
  if style = .block && text.getLast?.any isBreak then text else text ++ ['\n']

/-- Lines at a column: on a line that is only indented so far the first of them goes on. -/
def placeLines (fresh : Bool) (column : Nat) (lines : List Char) : List Char :=
  if fresh then ' ' :: lines.drop column else '\n' :: lines

mutual

/-- What stands after a mark at column `outer` or after a key there, up to the end of the last line.
With `inMapping` it is the value or the key of an entry, else an item of a sequence; `fresh` says
that only indentation and marks stand before it on its line. -/
def writeValue (inMapping fresh : Bool) (outer : Int) : Value → List Char
  | .tagged tag v => tagText tag ++ writeValue inMapping false outer v
  | .sequence [] => " []\n".toList
  | .mapping [] => " \x7b\x7d\n".toList
  | .sequence (v :: vs) =>
    let column := if inMapping && ! fresh then outer.toNat else (outer + 2).toNat
    placeLines fresh column
      (spaces column ++ '-' :: writeValue false true column v ++ writeItems column vs)
  | .mapping ((k, v) :: rest) =>
    let column := (outer + 2).toNat
    let key := match shortKey? 0 k with
      | some key => key.drop 1 ++ ':' :: writeValue true false column v
      | none =>
        '?' :: writeValue true true column k ++ spaces column ++
          ':' :: writeValue true true column v
    placeLines fresh column (spaces column ++ key ++ writeEntries column rest)
  | v =>
    match scalarOf? v with
    | some (wish, cs) => writeScalar (if outer < 0 then 2 else (outer + 2).toNat) wish cs
    | none => []

/-- The items of a sequence at a column. -/
def writeItems (column : Nat) : List Value → List Char
  | [] => []
  | v :: vs => spaces column ++ '-' :: writeValue false true column v ++ writeItems column vs

/-- The entries of a mapping at a column. -/
def writeEntries (column : Nat) : List (Value × Value) → List Char
  | [] => []
  | (k, v) :: rest =>
    let key := match shortKey? 0 k with
      | some key => key.drop 1 ++ ':' :: writeValue true false column v
      | none =>
        '?' :: writeValue true true column k ++ spaces column ++
          ':' :: writeValue true true column v
    spaces column ++ key ++ writeEntries column rest

end

namespace Value

/-- The value begins with a tag, or is a mapping of one entry. -/
def beginsNarrow : Value → Bool
  | .tagged .. | .mapping [_] => true
  | _ => false

mutual

/-- The value can be written: in no mapping of one entry that has no tag does the key begin with a
tag or with a mapping of one entry. -/
def isWritable : Value → Bool
  | .tagged _ (.mapping [(k, v)]) => k.isWritable && v.isWritable
  | .tagged _ v => v.isWritable
  | .sequence items => itemsWritable items
  | .mapping [(k, v)] => ! k.beginsNarrow && k.isWritable && v.isWritable
  | .mapping entries => entriesWritable entries
  | _ => true

/-- All items can be written. -/
def itemsWritable : List Value → Bool
  | [] => true
  | v :: rest => v.isWritable && itemsWritable rest

/-- All entries can be written. -/
def entriesWritable : List (Value × Value) → Bool
  | [] => true
  | (k, v) :: rest => k.isWritable && v.isWritable && entriesWritable rest

end

/-- What is reported of a value that cannot be written. -/
def unwritableMessage : String := "expected SCALAR, SEQUENCE-START, MAPPING-START, or ALIAS"

/-- A value as a document, if it can be written. -/
def print? (v : Value) : Option String :=
  if v.isWritable then some (String.ofList ((writeValue false false (-2) v).drop 1)) else none

end Value

end LocalCluster.Yaml
