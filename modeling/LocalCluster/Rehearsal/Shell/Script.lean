import LocalCluster.Text.Cut

/-!
# Shell scripts

The scripts that a rehearsal understands: simple commands with redirections, in pipelines, joined by
`;`, `&&` and `||`.

* `Piece`, `Word`: words, with their quoting and the parameters in them.
* `Token.ofChars?`: the tokens of a script.
* `parse?`: the commands of a script.
-/

namespace LocalCluster.Rehearsal.Shell

/-- A part of a word. -/
inductive Piece where
  | text (cs : List Char) (quoted : Bool)
  /-- The value of a parameter. -/
  | parameter (name : String) (quoted : Bool)
  deriving DecidableEq, Repr

/-- A word before its parameters are replaced. -/
abbrev Word : Type := List Piece

/-- Where a stream is redirected to or from. -/
inductive Direction where
  /-- To the same place as another stream. -/
  | duplicate
  | write
  | read
  deriving DecidableEq, Repr

/-- A redirection of the stream `stream`. -/
structure Redirection where
  stream : Nat
  direction : Direction
  target : Word
  deriving DecidableEq, Repr

/-- What joins a pipeline to the one before it. -/
inductive Joint where
  | always
  | onSuccess
  | onFailure
  deriving DecidableEq, Repr

/-- A piece of a script. -/
inductive Token where
  | word (w : Word)
  | joint (j : Joint)
  | pipe
  | redirect (stream : Nat) (direction : Direction)
  deriving DecidableEq, Repr

/-- A command with its redirections. -/
structure Simple where
  words : List Word := []
  redirections : List Redirection := []
  deriving DecidableEq, Repr

/-- Commands, each fed with what the one before it prints. -/
structure Pipeline where
  joint : Joint
  stages : List Simple
  deriving DecidableEq, Repr

/-! ## Words -/

/-- The character may stand in the name of a parameter. -/
def isNameChar (c : Char) : Bool := c.isAlphanum || c == '_'

/-- The character is the name of a special parameter. -/
def isSpecial (c : Char) : Bool := ['@', '*', '#', '?', '$', '!'].contains c

/-- The character ends a word. -/
def endsWord (c : Char) : Bool :=
  [' ', '\t', '\n', ';', '&', '|', '<', '>', '(', ')'].contains c

/-- The parameter that follows a dollar sign, and the rest. -/
def readParameter : List Char → Option (String × List Char)
  | '\x7b' :: rest =>
    match rest.span (· ≠ '\x7d') with
    | (name, _ :: rest) => some (String.ofList name, rest)
    | (_, []) => none
  | c :: rest =>
    if c.isDigit || isSpecial c then some (String.singleton c, rest)
    else if isNameChar c then
      let (name, rest) := (c :: rest).span isNameChar
      some (String.ofList name, rest)
    else none
  | [] => none

/-- The pieces of a word, at most `fuel` of them, and the rest. In double quotes only some
characters keep their meaning. -/
def readWord : Nat → (inQuotes : Bool) → List Char → Option (Word × List Char)
  | 0, _, _ => none
  | _ + 1, false, [] => some ([], [])
  | _ + 1, true, [] => none
  | fuel + 1, inQuotes, c :: rest =>
    let more (p : Word) (inQuotes : Bool) (rest : List Char) : Option (Word × List Char) :=
      (readWord fuel inQuotes rest).map fun (w, r) => (p ++ w, r)
    if c == '"' then more [.text [] true] (! inQuotes) rest
    else if c == '$' then
      match readParameter rest with
      | some (name, rest) => more [.parameter name inQuotes] inQuotes rest
      | none => more [.text [c] inQuotes] inQuotes rest
    else if c == '\\' then
      match rest with
      | [] => more [.text [c] inQuotes] inQuotes rest
      | d :: rest =>
        if d == '\n' then more [] inQuotes rest
        else if inQuotes && ! ['$', '"', '\\', Char.ofNat 96].contains d then
          more [.text [c, d] true] inQuotes rest
        else more [.text [d] true] inQuotes rest
    else if inQuotes then more [.text [c] true] inQuotes rest
    else if c == '\'' then
      match rest.span (· ≠ '\'') with
      | (inner, _ :: rest) => more [.text inner true] inQuotes rest
      | (_, []) => none
    else if endsWord c then some ([], c :: rest)
    else more [.text [c] false] inQuotes rest

/-! ## Tokens -/

/-- A redirection at the beginning of a text, of the stream `stream` unless it names another. -/
def readRedirect : List Char → Option (Token × List Char)
  | '>' :: rest => some (after 1 .write rest)
  | '<' :: rest => some (after 0 .read rest)
  | c :: '>' :: rest => if c.isDigit then some (after (c.toNat - '0'.toNat) .write rest) else none
  | c :: '<' :: rest => if c.isDigit then some (after (c.toNat - '0'.toNat) .read rest) else none
  | _ => none
where
  /-- What stands after the arrow of a redirection. -/
  after (stream : Nat) (d : Direction) : List Char → Token × List Char
    | '&' :: rest => (.redirect stream .duplicate, rest)
    | '>' :: rest => (.redirect stream d, rest)
    | rest => (.redirect stream d, rest)

/-- The tokens of a script, at most `fuel` of them. -/
def readTokens : Nat → List Char → Option (List Token)
  | 0, _ => none
  | _ + 1, [] => some []
  | fuel + 1, c :: rest =>
    if c == ' ' || c == '\t' then readTokens fuel rest
    else if c == '#' then readTokens fuel (rest.dropWhile (· ≠ '\n'))
    else match c, rest with
      | '&', '&' :: rest => (readTokens fuel rest).map (.joint .onSuccess :: ·)
      | '|', '|' :: rest => (readTokens fuel rest).map (.joint .onFailure :: ·)
      | '|', rest => (readTokens fuel rest).map (.pipe :: ·)
      | c, rest =>
        if c == ';' || c == '\n' then (readTokens fuel rest).map (.joint .always :: ·)
        else match readRedirect (c :: rest) with
          | some (t, rest) => (readTokens fuel rest).map (t :: ·)
          | none =>
            match readWord (rest.length + 2) false (c :: rest) with
            | some (w, after) =>
              if w.isEmpty then none else (readTokens fuel after).map (.word w :: ·)
            | none => none

/-- The tokens of a script. -/
def Token.ofChars? (cs : List Char) : Option (List Token) := readTokens (cs.length + 1) cs

/-! ## Commands -/

/-- A script that has been read up to some token. -/
structure Draft where
  done : List Pipeline := []
  joint : Joint := .always
  stages : List Simple := []
  current : Simple := {}

namespace Draft

/-- The command that is being read has nothing in it. -/
def isBlank (d : Draft) : Bool := d.current.words.isEmpty && d.current.redirections.isEmpty

/-- The pipeline that is being read ends here. -/
def close (d : Draft) (next : Joint) : Option Draft :=
  if d.isBlank then
    if d.stages.isEmpty && d.joint == .always then some { d with joint := next } else none
  else some
    { done := d.done ++ [⟨d.joint, d.stages ++ [d.current]⟩], joint := next, stages := []
      current := {} }

end Draft

/-- The commands that tokens make up. -/
def readPipelines (d : Draft) : List Token → Option (List Pipeline)
  | [] => (d.close .always).map Draft.done
  | .joint j :: rest => do
    if d.isBlank && j ≠ .always then none
    else readPipelines (← d.close j) rest
  | .pipe :: rest =>
    if d.isBlank then none
    else readPipelines { d with stages := d.stages ++ [d.current], current := {} } rest
  | .redirect stream direction :: .word w :: rest =>
    let current := { d.current with
      redirections := d.current.redirections ++ [⟨stream, direction, w⟩] }
    readPipelines { d with current } rest
  | .redirect .. :: _ => none
  | .word w :: rest =>
    readPipelines { d with current := { d.current with words := d.current.words ++ [w] } } rest

/-- The commands of a script. -/
def parse? (script : String) : Option (List Pipeline) :=
  (Token.ofChars? script.toList).bind (readPipelines {})

end LocalCluster.Rehearsal.Shell
