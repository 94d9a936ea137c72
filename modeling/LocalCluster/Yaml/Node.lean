import LocalCluster.Yaml.Token

/-!
# Nodes

A document as a tree of what is written: scalars as spelled, tags in full, aliases not yet followed.
The readers take the tokens of one construct off the front of a list and return the rest; their
first argument bounds the depth of the recursion, and the number of tokens is enough.

* `Node`: the tree; `Node.events` counts its parts.
* `readNode`: one node.
* `Node.ofTokens?`: the only document of a text, if it has one.
-/

namespace LocalCluster.Yaml

/-- What stands before a node. -/
structure Properties where
  anchor : Option String := none
  /-- The tag in full. -/
  tag : Option String := none
  deriving DecidableEq, Repr

/-- A document as it is written. -/
inductive Node where
  | alias (name : String)
  | scalar (properties : Properties) (plain : Bool) (text : List Char)
  | sequence (properties : Properties) (items : List Node)
  | mapping (properties : Properties) (entries : List (Node × Node))
  deriving Repr

namespace Node

/-- A scalar that is not written at all. -/
def missing : Node := .scalar {} true []

mutual

/-- How many parts a node has: a collection has a beginning, an end and what is between. -/
def events : Node → Nat
  | .alias _ | .scalar .. => 1
  | .sequence _ items => 2 + itemEvents items
  | .mapping _ entries => 2 + entryEvents entries

/-- How many parts the items of a sequence have. -/
def itemEvents : List Node → Nat
  | [] => 0
  | n :: rest => n.events + itemEvents rest

/-- How many parts the entries of a mapping have. -/
def entryEvents : List (Node × Node) → Nat
  | [] => 0
  | (k, v) :: rest => k.events + v.events + entryEvents rest

end

end Node

/-- The handles of tags and what they stand for. -/
abbrev TagHandles := List (String × String)

/-- The handles that every document has. -/
def defaultHandles : TagHandles := [("!", "!"), ("!!", "tag:yaml.org,2002:")]

/-- The tag that a handle and a suffix stand for; without a handle the suffix is the tag. -/
def expandTag (handles : TagHandles) (handle suffix : String) : Option String :=
  if handle = "" then some suffix else (handles.lookup handle).map (· ++ suffix)

/-- The properties in front of a node, in either order. -/
def readProperties (handles : TagHandles) : List Token → Option (Properties × List Token)
  | .anchor a :: .tag h x :: rest =>
    (expandTag handles h x).map fun t => (⟨some a, some t⟩, rest)
  | .tag h x :: .anchor a :: rest =>
    (expandTag handles h x).map fun t => (⟨some a, some t⟩, rest)
  | .anchor a :: rest => some (⟨some a, none⟩, rest)
  | .tag h x :: rest => (expandTag handles h x).map fun t => (⟨none, some t⟩, rest)
  | rest => some ({}, rest)

/-- The list begins with one of the tokens. -/
def startsWith (ts : List Token) (heads : List Token) : Bool := ts.head?.any (heads.contains ·)

variable (handles : TagHandles)

mutual

/-- One node. A block construct may stand here only if `block` says so, and a sequence whose marks
are not indented only if `indentless` does. -/
def readNode (block indentless : Bool) : Nat → List Token → Option (Node × List Token)
  | 0, _ => none
  | fuel + 1, ts =>
    match ts with
    | .alias name :: rest => some (.alias name, rest)
    | ts => do
      let (p, ts) ← readProperties handles ts
      match ts with
      | .scalar plain text :: rest =>
        if p.tag == some "!" then some (.scalar { p with tag := none } plain text, rest)
        else some (.scalar p plain text, rest)
      | .flowSequenceStart :: rest =>
        (readFlowItems true fuel rest).map fun (items, r) => (.sequence p items, r)
      | .flowMappingStart :: rest =>
        (readFlowEntries true fuel rest).map fun (entries, r) => (.mapping p entries, r)
      | ts =>
        if indentless && startsWith ts [.blockEntry] then
          (readIndentless fuel ts).map fun (items, r) => (.sequence p items, r)
        else if block && startsWith ts [.blockSequenceStart] then
          (readBlockItems fuel (ts.drop 1)).map fun (items, r) => (.sequence p items, r)
        else if block && startsWith ts [.blockMappingStart] then
          (readBlockEntries fuel (ts.drop 1)).map fun (entries, r) => (.mapping p entries, r)
        else if p.anchor.isSome || p.tag.isSome then some (.scalar p true [], ts)
        else none

/-- A node, unless one of the tokens that end its place comes first. -/
def readOptional (block indentless : Bool) (ends : List Token) :
    Nat → List Token → Option (Node × List Token)
  | 0, _ => none
  | fuel + 1, ts =>
    if startsWith ts ends then some (.missing, ts) else readNode block indentless fuel ts

/-- The items of a block sequence up to its end. -/
def readBlockItems : Nat → List Token → Option (List Node × List Token)
  | 0, _ => none
  | fuel + 1, ts =>
    match ts with
    | .blockEntry :: rest => do
      let (item, rest) ← readOptional true false [.blockEntry, .blockEnd] fuel rest
      let (items, rest) ← readBlockItems fuel rest
      return (item :: items, rest)
    | .blockEnd :: rest => some ([], rest)
    | _ => none

/-- The items of a sequence whose marks are not indented; anything else ends it. -/
def readIndentless : Nat → List Token → Option (List Node × List Token)
  | 0, _ => none
  | fuel + 1, ts =>
    match ts with
    | .blockEntry :: rest => do
      let (item, rest) ←
        readOptional true false [.blockEntry, .key, .value, .blockEnd] fuel rest
      let (items, rest) ← readIndentless fuel rest
      return (item :: items, rest)
    | ts => some ([], ts)

/-- The entries of a block mapping up to its end. -/
def readBlockEntries : Nat → List Token → Option (List (Node × Node) × List Token)
  | 0, _ => none
  | fuel + 1, ts =>
    match ts with
    | .key :: rest => do
      let (k, rest) ← readOptional true true [.key, .value, .blockEnd] fuel rest
      let (v, rest) ← readValue true [.key, .value, .blockEnd] fuel rest
      let (entries, rest) ← readBlockEntries fuel rest
      return ((k, v) :: entries, rest)
    | .blockEnd :: rest => some ([], rest)
    | _ => none

/-- The value after a key, if the mark of a value comes next. -/
def readValue (block : Bool) (ends : List Token) :
    Nat → List Token → Option (Node × List Token)
  | 0, _ => none
  | fuel + 1, ts =>
    match ts with
    | .value :: rest => readOptional block block ends fuel rest
    | ts => some (.missing, ts)

/-- The items of a sequence in brackets up to its end. An item may be a single entry of a mapping;
where its key is missing, the token in the key's place is passed over. -/
def readFlowItems (first : Bool) : Nat → List Token → Option (List Node × List Token)
  | 0, _ => none
  | fuel + 1, ts =>
    match ts with
    | .flowSequenceEnd :: rest => some ([], rest)
    | ts => do
      let ts ← if first then some ts
        else if startsWith ts [.flowEntry] then some (ts.drop 1) else none
      match ts with
      | .flowSequenceEnd :: rest => some ([], rest)
      | .key :: rest =>
        let (k, rest) ←
          if startsWith rest [.value, .flowEntry, .flowSequenceEnd] then
            some (.missing, rest.drop 1)
          else readNode false false fuel rest
        let (v, rest) ← readValue false [.flowEntry, .flowSequenceEnd] fuel rest
        let (items, rest) ← readFlowItems false fuel rest
        return (.mapping {} [(k, v)] :: items, rest)
      | ts =>
        let (item, rest) ← readNode false false fuel ts
        let (items, rest) ← readFlowItems false fuel rest
        return (item :: items, rest)

/-- The entries of a mapping in braces up to its end. -/
def readFlowEntries (first : Bool) : Nat → List Token → Option (List (Node × Node) × List Token)
  | 0, _ => none
  | fuel + 1, ts =>
    match ts with
    | .flowMappingEnd :: rest => some ([], rest)
    | ts => do
      let ts ← if first then some ts
        else if startsWith ts [.flowEntry] then some (ts.drop 1) else none
      match ts with
      | .flowMappingEnd :: rest => some ([], rest)
      | .key :: rest =>
        let (k, rest) ← readOptional false false [.value, .flowEntry, .flowMappingEnd] fuel rest
        let (v, rest) ← readValue false [.flowEntry, .flowMappingEnd] fuel rest
        let (entries, rest) ← readFlowEntries false fuel rest
        return ((k, v) :: entries, rest)
      | ts =>
        let (k, rest) ← readNode false false fuel ts
        let (entries, rest) ← readFlowEntries false fuel rest
        return ((k, .missing) :: entries, rest)

end

/-! ## Documents -/

/-- The directives in front of a document: the handles they define, whether a version was named, and
the rest. A handle and the version may be given once, and the version is 1.1 or 1.2. -/
def readDirectives : TagHandles → Bool → List Token → Option (TagHandles × List Token)
  | hs, seen, .versionDirective major minor :: rest =>
    if seen || major ≠ 1 || (minor ≠ 1 && minor ≠ 2) then none
    else readDirectives hs true rest
  | hs, seen, .tagDirective handle uri :: rest =>
    if hs.any (·.1 == handle) then none else readDirectives ((handle, uri) :: hs) seen rest
  | hs, _, rest => some (hs, rest)

/-- The token begins what stands before a document or ends it. -/
def isBoundary : Token → Bool
  | .versionDirective .. | .tagDirective .. | .documentStart | .documentEnd => true
  | _ => false

/-- The root of a document whose mark has been read. -/
def readRoot (handles : TagHandles) (ts : List Token) : Option (Node × List Token) :=
  if ts.isEmpty || ts.head?.any isBoundary then some (.missing, ts)
  else readNode handles true false (3 * ts.length + 3) ts

/-- The tokens of the first document: its root and what follows it. -/
def readDocument (ts : List Token) : Option (Node × List Token) :=
  match ts with
  | .versionDirective .. :: _ | .tagDirective .. :: _ | .documentStart :: _ => do
    let (hs, ts) ← readDirectives [] false ts
    match ts with
    | .documentStart :: rest => readRoot (hs ++ defaultHandles) rest
    | _ => none
  | ts => readNode defaultHandles true false (3 * ts.length + 3) ts

/-- The document that tokens hold: `none` if they are malformed or hold several documents, and
`some none` if they hold none. -/
def Node.ofTokens? (ts : List Token) : Option (Option Node) :=
  if ts.isEmpty then some none
  else do
    let (root, rest) ← readDocument ts
    if (rest.dropWhile (· == .documentEnd)).isEmpty then some (some root) else none

end LocalCluster.Yaml
