/-!
# YAML tokens and the cursor

* `Token`: the marks, properties and scalars that a document is made of.
* `Cursor`: the characters that are left and where they stand.
* `Cursor.takeBreak`: reads one line break; a line feed stands for all of them but two.
-/

namespace LocalCluster.Yaml

/-- A piece of a document. -/
inductive Token where
  | versionDirective (major minor : Nat)
  | tagDirective (handle uri : String)
  | documentStart
  | documentEnd
  | blockSequenceStart
  | blockMappingStart
  /-- The end of a block sequence or mapping. -/
  | blockEnd
  | flowSequenceStart
  | flowSequenceEnd
  | flowMappingStart
  | flowMappingEnd
  | blockEntry
  | flowEntry
  | key
  | value
  | alias (name : String)
  | anchor (name : String)
  | tag (handle suffix : String)
  | scalar (plain : Bool) (text : List Char)
  deriving DecidableEq, Repr

/-! ## Characters -/

/-- A space or a tab. -/
def isGap (c : Char) : Bool := c == ' ' || c == '\t'

/-- A character that ends a line. -/
def isBreak (c : Char) : Bool :=
  c == '\r' || c == '\n' || c == '\u0085' || c == '\u2028' || c == '\u2029'

/-- What comes next is a gap, a line's end or the end of the text. -/
def endsWord : List Char → Bool
  | [] => true
  | c :: _ => isGap c || isBreak c

/-- What comes next is a line's end or the end of the text. -/
def endsLine : List Char → Bool
  | [] => true
  | c :: _ => isBreak c

/-- A character of names: a letter or digit of ASCII, a hyphen or a low line. -/
def isNameChar (c : Char) : Bool := c.isAlphanum || c == '-' || c == '_'

/-- The mark of three hyphens, or of three points, begins the list and ends as a word. -/
def isDocumentMark (c : Char) (cs : List Char) : Bool :=
  [c, c, c].isPrefixOf cs && endsWord (cs.drop 3)

/-! ## The cursor -/

/-- The characters that are left, and the place of the first of them. -/
structure Cursor where
  rest : List Char
  index : Nat := 0
  line : Nat := 0
  column : Nat := 0
  deriving Repr

namespace Cursor

/-- The cursor after one character that ends no line. -/
def skip (c : Cursor) : Cursor :=
  { c with rest := c.rest.drop 1, index := c.index + 1, column := c.column + 1 }

/-- The cursor after some characters that end no line. -/
def skipN (c : Cursor) (n : Nat) : Cursor :=
  { c with rest := c.rest.drop n, index := c.index + n, column := c.column + n }

/-- The cursor after the characters in front that satisfy `p`, none of which ends a line. -/
def skipWhile (c : Cursor) (p : Char → Bool) : Cursor :=
  c.skipN (c.rest.takeWhile p).length

/-- The line break in front, as the characters it stands for, and the cursor after it. -/
def takeBreak (c : Cursor) : List Char × Cursor :=
  match c.rest with
  | '\r' :: '\n' :: r => (['\n'], ⟨r, c.index + 2, c.line + 1, 0⟩)
  | b :: r =>
    if isBreak b then
      ([if b == '\u2028' || b == '\u2029' then b else '\n'], ⟨r, c.index + 1, c.line + 1, 0⟩)
    else ([], c)
  | [] => ([], c)

/-- The cursor stands at the mark that begins or ends a document. -/
def atDocumentMark (c : Cursor) : Bool :=
  c.column == 0 && (isDocumentMark '-' c.rest || isDocumentMark '.' c.rest)

end Cursor

/-! ## Gaps inside scalars -/

/-- What stands between two parts of a scalar: spaces, or line breaks with what surrounds them. -/
structure Gap where
  spaces : List Char := []
  /-- The first line break. -/
  first : List Char := []
  /-- The line breaks after the first. -/
  more : List Char := []
  /-- There was a line break. -/
  broken : Bool := false
  deriving Repr

namespace Gap

/-- What a gap stands for: spaces are kept, one line break becomes a space, and of several the first
is left out. -/
def text (g : Gap) : List Char :=
  if g.broken then
    if g.first == ['\n'] then (if g.more.isEmpty then [' '] else g.more)
    else g.first ++ g.more
  else g.spaces

/-- A gap after one more line break. -/
def addBreak (g : Gap) (b : List Char) : Gap :=
  if g.broken then { g with more := g.more ++ b }
  else { g with spaces := [], first := b, broken := true }

/-- A gap after one more space or tab; those at the beginning of a line do not count. -/
def addSpace (g : Gap) (c : Char) : Gap :=
  if g.broken then g else { g with spaces := g.spaces ++ [c] }

end Gap

end LocalCluster.Yaml
