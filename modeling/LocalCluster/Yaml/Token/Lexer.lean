import LocalCluster.Yaml.Token.Scalar
import LocalCluster.Text.Utf8

/-!
# From characters to tokens

Tokens are found one after another. Indentation opens and closes block constructs. A scalar or a
collection in brackets may turn out to be the key of a mapping when a colon follows it on its line;
until then its place among the tokens is remembered, and the tokens of the mapping are put there.

* `Lexer`: the tokens found so far, the cursor, and what is open.
* `Lexer.step`: finds the next tokens.
* `Token.ofChars?`: the tokens of a whole text.
-/

namespace LocalCluster.Yaml

open LocalCluster.Net (hexValue)

/-- A place where the key of a mapping may begin. -/
structure PossibleKey where
  /-- What begins there must be a key. -/
  required : Bool
  /-- How many tokens stand before it. -/
  tokens : Nat
  index : Nat
  line : Nat
  column : Nat
  deriving Repr

/-- What has been found, and what is open. -/
structure Lexer where
  cursor : Cursor
  tokens : Array Token := #[]
  /-- The column of the innermost block construct; `-1` outside of all. -/
  indent : Int := -1
  /-- The columns of the constructs around it. -/
  outer : List Int := []
  /-- A key may begin at the cursor. -/
  keyAllowed : Bool := true
  /-- The possible key at the level of brackets of the cursor. -/
  key : Option PossibleKey := none
  /-- The possible keys at the levels around it. -/
  outerKeys : List (Option PossibleKey) := []
  deriving Repr

namespace Lexer

/-- The cursor stands inside brackets or braces. -/
def inFlow (s : Lexer) : Bool := ! s.outerKeys.isEmpty

/-- One more token at the end. -/
def push (s : Lexer) (t : Token) : Lexer := { s with tokens := s.tokens.push t }

/-- One more token at a place among the others. -/
def insertAt (s : Lexer) (place : Nat) (t : Token) : Lexer :=
  { s with tokens := s.tokens.insertIdxIfInBounds place t }

/-! ## Indentation -/

/-- Opens a block construct at a column that is deeper than the innermost one. Its token goes to a
place among the others, or to the end. -/
def openBlock (s : Lexer) (column : Nat) (place : Option Nat) (t : Token) : Lexer :=
  if s.inFlow || (column : Int) ≤ s.indent then s
  else
    let s := { s with outer := s.indent :: s.outer, indent := column }
    match place with
    | some n => s.insertAt n t
    | none => s.push t

/-- Closes the block constructs deeper than a column; the list holds the columns around them. -/
def closeColumns (column : Int) : List Int → Lexer → Lexer
  | [], s => s
  | i :: outer, s =>
    if s.indent > column then
      closeColumns column outer
        { s with tokens := s.tokens.push .blockEnd, indent := i, outer }
    else s

/-- Closes the block constructs deeper than a column. -/
def closeBlocks (s : Lexer) (column : Int) : Lexer :=
  if s.inFlow then s else closeColumns column s.outer s

/-! ## Possible keys -/

/-- The possible key can be one no longer: it began on another line or too far back. -/
def isStale (c : Cursor) (k : PossibleKey) : Bool := k.line < c.line || k.index + 1024 < c.index

/-- Forgets possible keys that can be one no longer, unless one of them had to be a key. -/
def dropStale (s : Lexer) : Option Lexer :=
  let stale (k : Option PossibleKey) := k.any (isStale s.cursor)
  let fresh (k : Option PossibleKey) := if stale k then none else k
  if (s.key :: s.outerKeys).any fun k => stale k && k.any (·.required) then none
  else some { s with key := fresh s.key, outerKeys := s.outerKeys.map fresh }

/-- Forgets the possible key at this level, unless it had to be a key. -/
def dropKey (s : Lexer) : Option Lexer :=
  if s.key.any (·.required) then none else some { s with key := none }

/-- Remembers that a key may begin at the cursor. -/
def saveKey (s : Lexer) : Option Lexer :=
  if s.keyAllowed then do
    let c := s.cursor
    let required := ! s.inFlow && s.indent == (c.column : Int)
    let s ← s.dropKey
    return { s with key := some ⟨required, s.tokens.size, c.index, c.line, c.column⟩ }
  else some s

/-! ## White space and comments -/

/-- The cursor after the white space, comments and line breaks at it. -/
def skipBlanks : Nat → Lexer → Lexer
  | 0, s => s
  | fuel + 1, s =>
    let c := s.cursor
    let c := if c.index == 0 && c.rest.head? == some '\uFEFF' then c.skip else c
    let c := c.skipWhile fun x => x == ' ' || ((s.inFlow || ! s.keyAllowed) && x == '\t')
    let c := if c.rest.head? == some '#' then c.skipWhile (! isBreak ·) else c
    if c.rest.head?.any isBreak then
      skipBlanks fuel
        { s with cursor := c.takeBreak.2, keyAllowed := s.keyAllowed || ! s.inFlow }
    else { s with cursor := c }

/-! ## Directives, anchors and tags -/

/-- The character may stand in a tag; some marks only between angle brackets. -/
def isTagChar (verbatim : Bool) (x : Char) : Bool :=
  isNameChar x || ";/?:@&=+$.%!~*'()".toList.contains x || (verbatim && ",[]".toList.contains x)

/-- The bytes that a tag spells; a percent sign and two digits stand for a byte. -/
def tagBytes : List Char → Option Text.Bytes
  | [] => some []
  | '%' :: a :: b :: rest => do
    let high ← hexValue a
    let low ← hexValue b
    return UInt8.ofNat (16 * high + low) :: (← tagBytes rest)
  | x :: rest => if x == '%' then none else (tagBytes rest).map (String.utf8EncodeChar x ++ ·)

/-- The text of a tag at the cursor, after the characters `head`, and the cursor after it. There
must be one, or `head` must be there. -/
def readTagText (verbatim : Bool) (head : List Char) (c : Cursor) :
    Option (List Char × Cursor) := do
  let spelled := c.rest.takeWhile (isTagChar verbatim)
  if spelled.isEmpty && head.isEmpty then none
  else
    let text ← Text.decodeChars? (← tagBytes spelled)
    return (head.drop 1 ++ text, c.skipN spelled.length)

/-- A tag's handle at the cursor: an exclamation mark, a name, and another mark if there is one. In
a directive the second mark may only be missing where there is no name. -/
def readHandle (directive : Bool) (c : Cursor) : Option (List Char × Cursor) :=
  match c.rest with
  | '!' :: rest =>
    let name := rest.takeWhile isNameChar
    let c := c.skipN (1 + name.length)
    if c.rest.head? == some '!' then some ('!' :: name ++ ['!'], c.skip)
    else if directive && ! name.isEmpty then none
    else some ('!' :: name, c)
  | _ => none

/-- A tag at the cursor as a handle and a suffix. -/
def readTag (s : Lexer) : Option (String × String × Cursor) := do
  let c := s.cursor
  let (handle, suffix, c) ← match c.rest with
    | '!' :: '<' :: _ => do
      let (text, c) ← readTagText true [] (c.skipN 2)
      if c.rest.head? == some '>' then some (([] : List Char), text, c.skip) else none
    | _ => do
      let (handle, c) ← readHandle false c
      if 1 < handle.length && handle.getLast? == some '!' then do
        let (text, c) ← readTagText false [] c
        some (handle, text, c)
      else do
        let (text, c) ← readTagText false handle c
        if text.isEmpty then some ([], ['!'], c) else some (['!'], text, c)
  if endsWord c.rest || (s.inFlow && c.rest.head? == some ',') then
    some (String.ofList handle, String.ofList suffix, c)
  else none

/-- The name of an anchor or an alias after its mark, and the cursor after it. -/
def readName (c : Cursor) : Option (String × Cursor) :=
  let name := c.skip.rest.takeWhile isNameChar
  let c := c.skipN (1 + name.length)
  if name.isEmpty then none
  else if endsWord c.rest || c.rest.head?.any ("?:,]\x7d%@`".toList.contains ·) then
    some (String.ofList name, c)
  else none

/-- A number of a version, of at most nine digits, and the cursor after it. -/
def readVersionNumber (c : Cursor) : Option (Nat × Cursor) :=
  let ds := c.rest.takeWhile Char.isDigit
  if ds.isEmpty || 9 < ds.length then none
  else some (ds.foldl (fun n d => 10 * n + (d.toNat - '0'.toNat)) 0, c.skipN ds.length)

/-- A directive whose percent sign stands at the cursor, and the cursor after it. -/
def readDirective (c : Cursor) : Option (Token × Cursor) := do
  let name := c.skip.rest.takeWhile isNameChar
  let c := c.skipN (1 + name.length)
  if name.isEmpty || ! endsWord c.rest then none
  else
    let c := c.skipWhile isGap
    if name == "YAML".toList then do
      let (major, c) ← readVersionNumber c
      if c.rest.head? == some '.' then do
        let (minor, c) ← readVersionNumber c.skip
        some (.versionDirective major minor, c)
      else none
    else if name == "TAG".toList then do
      let (handle, c) ← readHandle true c
      if ! c.rest.head?.any isGap then none
      else do
        let (uri, c) ← readTagText true [] (c.skipWhile isGap)
        if endsWord c.rest then
          some (.tagDirective (String.ofList handle) (String.ofList uri), c)
        else none
    else none

/-- The cursor after the rest of a line that may only hold a comment. -/
def finishLine (c : Cursor) : Option Cursor :=
  let c := c.skipWhile isGap
  let c := if c.rest.head? == some '#' then c.skipWhile (! isBreak ·) else c
  if endsLine c.rest then some c.takeBreak.2 else none

/-! ## Finding tokens -/

/-- A mark of `width` characters becomes a token. -/
def mark (s : Lexer) (width : Nat) (t : Token) : Lexer :=
  { s.push t with cursor := s.cursor.skipN width }

/-- The mark that begins or ends a document. -/
def documentMark (s : Lexer) (t : Token) : Option Lexer := do
  let s ← (s.closeBlocks (-1)).dropKey
  return { s with keyAllowed := false }.mark 3 t

/-- A directive. -/
def directive (s : Lexer) : Option Lexer := do
  let s ← (s.closeBlocks (-1)).dropKey
  let (t, c) ← readDirective s.cursor
  let c ← finishLine c
  return { s.push t with cursor := c, keyAllowed := false }

/-- The mark that begins a collection in brackets or braces. -/
def openFlow (s : Lexer) (t : Token) : Option Lexer := do
  let s ← s.saveKey
  return { s with outerKeys := s.key :: s.outerKeys, key := none, keyAllowed := true }.mark 1 t

/-- The mark that ends a collection in brackets or braces. -/
def closeFlow (s : Lexer) (t : Token) : Option Lexer := do
  let s ← s.dropKey
  let s := match s.outerKeys with
    | k :: rest => { s with key := k, outerKeys := rest }
    | [] => s
  return { s with keyAllowed := false }.mark 1 t

/-- The mark between the parts of a collection in brackets or braces. -/
def flowEntry (s : Lexer) : Option Lexer := do
  let s ← s.dropKey
  return { s with keyAllowed := true }.mark 1 .flowEntry

/-- The mark of an item of a block sequence. -/
def blockEntry (s : Lexer) : Option Lexer := do
  if ! s.inFlow && ! s.keyAllowed then none
  else
    let s ← (s.openBlock s.cursor.column none .blockSequenceStart).dropKey
    return { s with keyAllowed := true }.mark 1 .blockEntry

/-- The mark of a key that is written out. -/
def keyMark (s : Lexer) : Option Lexer := do
  if ! s.inFlow && ! s.keyAllowed then none
  else
    let s ← (s.openBlock s.cursor.column none .blockMappingStart).dropKey
    return { s with keyAllowed := ! s.inFlow }.mark 1 .key

/-- The mark of a value: what the possible key began is a key, or the key was written out. -/
def valueMark (s : Lexer) : Option Lexer :=
  match s.key with
  | some k =>
    let s := (s.insertAt k.tokens .key).openBlock k.column (some k.tokens) .blockMappingStart
    some ({ s with key := none, keyAllowed := false }.mark 1 .value)
  | none =>
    if ! s.inFlow && ! s.keyAllowed then none
    else
      let s := s.openBlock s.cursor.column none .blockMappingStart
      some ({ s with keyAllowed := ! s.inFlow }.mark 1 .value)

/-- An anchor or an alias. -/
def named (s : Lexer) (t : String → Token) : Option Lexer := do
  let s ← s.saveKey
  let (name, c) ← readName s.cursor
  return { s.push (t name) with cursor := c, keyAllowed := false }

/-- A tag. -/
def tagged (s : Lexer) : Option Lexer := do
  let s ← s.saveKey
  let (handle, suffix, c) ← s.readTag
  return { s.push (.tag handle suffix) with cursor := c, keyAllowed := false }

/-- A block scalar. -/
def block (s : Lexer) (literal : Bool) : Option Lexer := do
  let s ← s.dropKey
  let (text, c) ← readBlock literal s.indent s.cursor
  return { s.push (.scalar false text) with cursor := c, keyAllowed := true }

/-- A quoted scalar. -/
def quoted (s : Lexer) (single : Bool) : Option Lexer := do
  let s ← s.saveKey
  let (text, c) ← readQuoted single s.cursor
  return { s.push (.scalar false text) with cursor := c, keyAllowed := false }

/-- A plain scalar. -/
def plain (s : Lexer) : Option Lexer := do
  let s ← s.saveKey
  let (text, c, broken) ← readPlain s.inFlow (s.indent + 1) s.cursor
  return { s.push (.scalar true text) with cursor := c, keyAllowed := broken }

/-- A mark that begins no plain scalar, unless something particular follows it. -/
def isIndicator (x : Char) : Bool := "-?:,[]\x7b\x7d#&*!|>'\"%@`".toList.contains x

/-- A plain scalar begins with the characters. -/
def beginsPlain (flow : Bool) (x : Char) (rest : List Char) : Bool :=
  (! isIndicator x && ! isGap x && ! isBreak x) ||
    (x == '-' && ! rest.head?.any isGap) ||
    (! flow && (x == '?' || x == ':') && ! endsWord rest)

/-- The tokens that begin with the character at the cursor. -/
def dispatch (s : Lexer) (x : Char) (rest : List Char) : Option Lexer :=
  let start := s.cursor.column == 0
  if start && x == '%' then s.directive
  else if start && isDocumentMark '-' (x :: rest) then s.documentMark .documentStart
  else if start && isDocumentMark '.' (x :: rest) then s.documentMark .documentEnd
  else if x == '[' then s.openFlow .flowSequenceStart
  else if x == '\x7b' then s.openFlow .flowMappingStart
  else if x == ']' then s.closeFlow .flowSequenceEnd
  else if x == '\x7d' then s.closeFlow .flowMappingEnd
  else if x == ',' then s.flowEntry
  else if x == '-' && endsWord rest then s.blockEntry
  else if x == '?' && (s.inFlow || endsWord rest) then s.keyMark
  else if x == ':' && (s.inFlow || endsWord rest) then s.valueMark
  else if x == '*' then s.named .alias
  else if x == '&' then s.named .anchor
  else if x == '!' then s.tagged
  else if x == '|' && ! s.inFlow then s.block true
  else if x == '>' && ! s.inFlow then s.block false
  else if x == '\'' then s.quoted true
  else if x == '"' then s.quoted false
  else if beginsPlain s.inFlow x rest then s.plain
  else none

/-- Finds the next tokens; the flag says that the text has ended. -/
def step (s : Lexer) : Option (Lexer × Bool) := do
  let s := skipBlanks (s.cursor.rest.length + 1) s
  let s ← s.dropStale
  let s := s.closeBlocks s.cursor.column
  match s.cursor.rest with
  | [] =>
    let s ← (s.closeBlocks (-1)).dropKey
    return (s, true)
  | x :: rest =>
    let s ← s.dispatch x rest
    return (s, false)

/-- The tokens up to the end of the text. -/
def run : Nat → Lexer → Option (List Token)
  | 0, _ => none
  | fuel + 1, s =>
    match s.step with
    | none => none
    | some (s, true) => some s.tokens.toList
    | some (s, false) => run fuel s

end Lexer

/-- The character may stand in a document. -/
def isDocumentChar (x : Char) : Bool :=
  let n := x.toNat
  n == 0x09 || n == 0x0A || n == 0x0D || (0x20 ≤ n && n ≤ 0x7E) || n == 0x85 ||
    (0xA0 ≤ n && n ≤ 0xFFFD) || 0x10000 ≤ n

/-- The tokens of a text. -/
def Token.ofChars? (cs : List Char) : Option (List Token) :=
  if cs.all isDocumentChar then Lexer.run (cs.length + 2) { cursor := ⟨cs, 0, 0, 0⟩ } else none

end LocalCluster.Yaml
