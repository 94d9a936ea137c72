import LocalCluster.Container.Process
import LocalCluster.Rehearsal.Shell.Script
import LocalCluster.Text.Numeral

/-!
# Running shell scripts

A small shell: it knows a few commands, feeds them and keeps what they print. Everything else is
reported as not found.

* `Shell`: the state of a shell; `Stream`: where a command prints to.
* `Shell.runSimple`, `Shell.runPipeline`, `Shell.runScript`.
* `processEnd?`: how the process of a known program ends.
-/

namespace LocalCluster.Rehearsal

open LocalCluster.Container LocalCluster.Text

namespace Shell

/-- Where a stream leads. -/
inductive Stream where
  | input
  | output
  | errors
  /-- Nothing is read from it, and what is printed to it is lost. -/
  | nowhere
  deriving DecidableEq, Repr

/-- The streams of a command by their numbers. -/
structure Streams where
  stdin : Stream := .input
  stdout : Stream := .output
  stderr : Stream := .errors
  deriving DecidableEq, Repr

namespace Streams

/-- The stream of a number. -/
def get (s : Streams) : Nat → Stream
  | 0 => s.stdin
  | 1 => s.stdout
  | 2 => s.stderr
  | _ => .nowhere

/-- The streams with one of them led elsewhere. -/
def set (s : Streams) (number : Nat) (stream : Stream) : Streams :=
  match number with
  | 0 => { s with stdin := stream }
  | 1 => { s with stdout := stream }
  | 2 => { s with stderr := stream }
  | _ => s

end Streams

/-- How a script goes on after a command. -/
inductive Course where
  | onward
  /-- The shell ends, with its status as exit code. -/
  | ended
  /-- A signal has ended the shell. -/
  | killed
  deriving DecidableEq, Repr

end Shell

open Shell in
/-- The state of a shell. -/
structure Shell where
  /-- What has not been read of the input. -/
  input : Bytes := []
  output : Bytes := []
  errors : Bytes := []
  streams : Streams := {}
  bindings : List (String × String) := []
  /-- The name of the script and its arguments. -/
  arguments : List String := ["sh"]
  /-- The exit code of the last command. -/
  status : Nat := 0
  course : Course := .onward

namespace Shell

/-! ## Printing and reading -/

/-- Prints bytes to wherever a stream leads. -/
def print (sh : Shell) (stream : Stream) (bytes : Bytes) : Shell :=
  match stream with
  | .output => { sh with output := sh.output ++ bytes }
  | .errors => { sh with errors := sh.errors ++ bytes }
  | _ => sh

/-- Ends a command with an exit code. -/
def finish (sh : Shell) (status : Nat) : Shell := { sh with status := status }

/-- Ends a command that complains. -/
def complain (sh : Shell) (s : Streams) (text : String) (status : Nat) : Shell :=
  (sh.print s.stderr (encode (text ++ "\n"))).finish status

/-- All that is left of the input of a command. -/
def readAll (sh : Shell) (s : Streams) : Bytes × Shell :=
  if s.stdin = .input then (sh.input, { sh with input := [] }) else ([], sh)

/-! ## Words -/

/-- The value of a parameter. -/
def valueOf (sh : Shell) (name : String) : String :=
  match name with
  | "#" => toString (sh.arguments.length - 1)
  | "?" => toString sh.status
  | "@" | "*" => join " " sh.arguments.tail
  | "$" => "$$"
  | name =>
    match readNat maxPort name with
    | some n => (sh.arguments[n]?).getD ""
    | none => (sh.bindings.lookup name).getD ""

/-- The fields of a word so far: those that are complete, and the one that is being made, if any. -/
structure Fields where
  complete : List String := []
  current : Option (List Char) := none

namespace Fields

/-- Characters added to the field that is being made. -/
def add (f : Fields) (cs : List Char) : Fields :=
  { f with current := some (f.current.getD [] ++ cs) }

/-- The field that is being made is complete. -/
def close (f : Fields) : Fields :=
  match f.current with
  | some cs => ⟨f.complete ++ [String.ofList cs], none⟩
  | none => f

/-- An unquoted value added; blanks in it end fields. -/
def split (f : Fields) : List Char → Fields
  | [] => f
  | c :: rest =>
    if c == ' ' || c == '\t' || c == '\n' then split f.close rest else split (f.add [c]) rest

/-- Values added that are fields of their own, but for the first and the last. -/
def addFields (f : Fields) : List String → Fields
  | [] => f
  | [v] => f.add v.toList
  | v :: rest => addFields (f.add v.toList).close rest

end Fields

/-- The fields that a word becomes. -/
def expand (sh : Shell) (w : Word) : List String :=
  (w.foldl (fun (f : Fields) piece =>
    match piece with
    | .text cs _ => f.add cs
    | .parameter "@" true => f.addFields sh.arguments.tail
    | .parameter name true => f.add (sh.valueOf name).toList
    | .parameter name false => f.split (sh.valueOf name).toList) {}).close.complete

/-- The text that a word becomes where it is not split. -/
def expandText (sh : Shell) (w : Word) : String := join " " (sh.expand w)

/-! ## Escapes -/

/-- The value of up to three octal digits, and the rest. -/
def readOctal : Nat → Nat → List Char → Nat × List Char
  | 0, n, cs => (n, cs)
  | k + 1, n, c :: rest =>
    if '0' ≤ c && c ≤ '7' then readOctal k (8 * n + digitValue c) rest else (n, c :: rest)
  | _ + 1, n, [] => (n, [])

/-- The byte of a letter after a backslash. -/
def escapeByte? : Char → Option UInt8
  | 'n' => some 10
  | 'r' => some 13
  | 't' => some 9
  | 'a' => some 7
  | 'b' => some 8
  | 'f' => some 12
  | 'v' => some 11
  | '\\' => some 92
  | _ => none

/-- The bytes of a text with its escapes replaced, at most `fuel` pieces of it; octal numbers may
need a zero in front. -/
def unescape (zeroFirst : Bool) : Nat → List Char → Bytes
  | 0, _ => []
  | _ + 1, [] => []
  | fuel + 1, '\\' :: c :: rest =>
    if c.isDigit && c ≤ '7' && (! zeroFirst || c == '0') then
      let (n, rest) := readOctal 3 0 (if zeroFirst then rest else c :: rest)
      UInt8.ofNat n :: unescape zeroFirst fuel rest
    else match escapeByte? c with
      | some b => b :: unescape zeroFirst fuel rest
      | none => encodeChars ['\\', c] ++ unescape zeroFirst fuel rest
  | fuel + 1, c :: rest => encodeChars [c] ++ unescape zeroFirst fuel rest

/-- One use of a format: the bytes, and the arguments that are left. -/
def format : Nat → List Char → List String → Bytes × List String
  | 0, _, args => ([], args)
  | _ + 1, [], args => ([], args)
  | fuel + 1, '%' :: '%' :: rest, args =>
    let (bs, args) := format fuel rest args
    (encodeChars ['%'] ++ bs, args)
  | fuel + 1, '%' :: c :: rest, args =>
    let arg := args.headD (if c == 'd' then "0" else "")
    let shown := if c == 'c' then String.ofList (arg.toList.take 1) else arg
    let (bs, args) := format fuel rest args.tail
    (encode shown ++ bs, args)
  | fuel + 1, '\\' :: c :: rest, args =>
    let taken := if c.isDigit then 1 + (rest.takeWhile Char.isDigit).length else 1
    let piece := '\\' :: (c :: rest).take (min taken 3)
    let (bs, args) := format fuel ((c :: rest).drop (min taken 3)) args
    (unescape false 2 piece ++ bs, args)
  | fuel + 1, c :: rest, args =>
    let (bs, args) := format fuel rest args
    (encodeChars [c] ++ bs, args)

/-- A format used until no argument is left, at most `uses` times. -/
def formatAll (f : String) : Nat → List String → Bytes
  | 0, _ => []
  | uses + 1, args =>
    let (bs, left) := format (f.length + 1) f.toList args
    if left.isEmpty || left.length == args.length then bs else bs ++ formatAll f uses left

/-! ## Commands -/

/-- What `cat` prints of each of its arguments, with the complaints about those that are missing. -/
def cat (sh : Shell) (s : Streams) (args : List String) : Shell :=
  (if args.isEmpty then ["-"] else args).foldl (fun sh arg =>
    if arg = "-" then
      let (bs, sh) := sh.readAll s
      sh.print s.stdout bs
    else sh.complain s ("cat: " ++ arg ++ ": No such file or directory") 1) (sh.finish 0)

/-- A number with blanks in front, up to a width. -/
def padded (width n : Nat) : String :=
  let digits := toString n
  String.ofList (List.replicate (width - digits.length) ' ') ++ digits

/-- The counts of `wc`: lines, words and bytes, as far as they are asked for. -/
def counts (options : List Char) (bs : Bytes) : List Nat :=
  let asked (c : Char) : Bool := options.isEmpty || options.contains c
  let isGap (b : UInt8) : Bool := b == 32 || (9 ≤ b && b ≤ 13)
  let wordCount := (bs.foldl (fun (n, wasGap) b =>
    (if wasGap && ! isGap b then n + 1 else n, isGap b)) ((0, true) : Nat × Bool)).1
  (if asked 'l' then [bs.count 10] else []) ++ (if asked 'w' then [wordCount] else []) ++
    (if options.contains 'm' then [(decodeLossyChars bs).length] else []) ++
    (if asked 'c' then [bs.length] else [])

/-- What `wc` prints of its input. -/
def wc (sh : Shell) (s : Streams) (args : List String) : Shell :=
  let options := (args.filter (·.startsWith "-")).flatMap fun a => a.toList.tail
  let files := args.filter fun a => ! a.startsWith "-"
  if files.isEmpty then
    let (bs, sh) := sh.readAll s
    let ns := counts options bs
    let width := if ns.length = 1 then 1 else 7
    (sh.print s.stdout (encode (join " " (ns.map (padded width)) ++ "\n"))).finish 0
  else files.foldl (fun sh f =>
    sh.complain s ("wc: " ++ f ++ ": No such file or directory") 1) sh

/-- What `echo` prints. -/
def echo (sh : Shell) (s : Streams) (args : List String) : Shell :=
  let (stop, args) : Bytes × List String := match args with
    | "-n" :: rest => ([], rest)
    | args => ([10], args)
  let text := join " " args
  (sh.print s.stdout (unescape true (text.length + 1) text.toList ++ stop)).finish 0

/-- Reads a line of the input into a variable. -/
def readLine (sh : Shell) (s : Streams) (names : List String) : Shell :=
  if s.stdin ≠ .input then sh.finish 1
  else
    let line := sh.input.takeWhile (· ≠ 10)
    let rest := sh.input.drop line.length
    let text := String.ofList ((decodeLossyChars line).dropWhile (· == ' '))
    { sh with
      input := rest.drop 1
      bindings := (names.headD "REPLY", text) :: sh.bindings
      status := if rest.isEmpty then 1 else 0 }

/-- Whether a condition of `test` holds. -/
def holds : List String → Bool
  | ["-n", a] => a ≠ ""
  | ["-z", a] => a = ""
  | [a] => a ≠ ""
  | [a, "=", b] => a = b
  | [a, "!=", b] => a ≠ b
  | [a, "-eq", b] => readNat maxPort a == readNat maxPort b
  | [a, "-ne", b] => readNat maxPort a != readNat maxPort b
  | "!" :: rest => ! holds rest
  | _ => false

/-- Ends the shell. -/
def exit (sh : Shell) (s : Streams) (args : List String) : Shell :=
  match args with
  | [] => { sh with course := .ended }
  | a :: _ =>
    match readNat maxPort a with
    | some n => { sh with status := n % 256, course := .ended }
    | none => { sh.complain s ("sh: 1: exit: Illegal number: " ++ a) 2 with course := .ended }

/-- Signals to the shell itself end it; other processes are not there. -/
def kill (sh : Shell) (s : Streams) (args : List String) : Shell :=
  if args.contains "$$" then { sh with course := .killed }
  else sh.complain s "sh: 1: kill: No such process" 1

/-- Runs a command by its name. -/
def runNamed (sh : Shell) (s : Streams) (name : String) (args : List String) : Shell :=
  match name with
  | ":" | "true" => sh.finish 0
  | "false" => sh.finish 1
  | "cat" => sh.cat s args
  | "wc" => sh.wc s args
  | "echo" => sh.echo s args
  | "printf" =>
    (sh.print s.stdout (formatAll (args.headD "") (args.length + 1) args.tail)).finish 0
  | "read" => sh.readLine s (args.filter (· ≠ "-r"))
  | "exit" => sh.exit s args
  | "kill" => sh.kill s args
  | "sleep" => sh.finish 0
  | "test" => sh.finish (if holds args then 0 else 1)
  | "[" => sh.finish (if holds args.dropLast then 0 else 1)
  | "shift" =>
    { sh with arguments := sh.arguments.take 1 ++ sh.arguments.drop 2, status := 0 }
  | name => sh.complain s ("sh: 1: " ++ name ++ ": not found") 127

/-- The streams of a command after a redirection. -/
def redirect (sh : Shell) (s : Streams) (r : Redirection) : Streams :=
  match r.direction with
  | .duplicate =>
    match readNat 9 (sh.expandText r.target) with
    | some n => s.set r.stream (s.get n)
    | none => s.set r.stream .nowhere
  | .write | .read => s.set r.stream .nowhere

/-- A word that sets a variable: its name, and the pieces of the value. -/
def assignment? : Word → Option (String × Word)
  | .text cs false :: rest => gather [] (cs.map fun c => .text [c] false) rest
  | _ => none
where
  /-- Looks for the sign after the name of a variable. -/
  gather (name : List Char) : Word → Word → Option (String × Word)
    | .text [c] false :: later, rest =>
      if c == '=' then
        if name.isEmpty then none else some (String.ofList name.reverse, later ++ rest)
      else if isNameChar c then gather (c :: name) later rest else none
    | [], .text [c] false :: rest =>
      if c == '=' then
        if name.isEmpty then none else some (String.ofList name.reverse, rest)
      else if isNameChar c then gather (c :: name) [] rest else none
    | _, _ => none

/-- Runs a command; redirections alone, or those of `exec`, stay for the commands after it. -/
def runSimple (sh : Shell) (c : Simple) : Shell :=
  let s := c.redirections.foldl sh.redirect sh.streams
  match c.words with
  | [w] =>
    match assignment? w with
    | some (name, value) =>
      { sh with bindings := (name, sh.expandText value) :: sh.bindings, status := 0 }
    | none => runFields sh s (sh.expand w)
  | ws => runFields sh s (ws.flatMap sh.expand)
where
  /-- Runs a command by its fields. -/
  runFields (sh : Shell) (s : Streams) : List String → Shell
    | [] => sh.finish 0
    | ["exec"] => { sh with streams := s, status := 0 }
    | "exec" :: name :: args =>
      let sh := sh.runNamed s name args
      if sh.course = .onward then { sh with course := .ended } else sh
    | name :: args => sh.runNamed s name args

/-- Runs commands of which each is fed with what the one before it prints, each in a shell of its
own. -/
def runStages (sh : Shell) : List Simple → Shell
  | [] => sh
  | [c] =>
    let last := sh.runSimple c
    { last with course := sh.course, streams := sh.streams, bindings := sh.bindings }
  | c :: rest =>
    let inner := { sh with output := [] }.runSimple c
    let later := { inner with
      input := inner.output, output := sh.output, course := sh.course, streams := sh.streams
      bindings := sh.bindings }.runStages rest
    { later with input := inner.input }

/-- Runs a pipeline. -/
def runPipeline (sh : Shell) (p : Pipeline) : Shell :=
  match p.stages with
  | [c] => sh.runSimple c
  | stages => sh.runStages stages

/-- The pipeline is to be run after a command with this status. -/
def isDue (status : Nat) : Joint → Bool
  | .always => true
  | .onSuccess => status = 0
  | .onFailure => status ≠ 0

/-- Runs the pipelines of a script until the shell ends. -/
def runScript (sh : Shell) : List Pipeline → Shell
  | [] => sh
  | p :: rest =>
    if sh.course ≠ .onward then sh
    else if isDue sh.status p.joint then (sh.runPipeline p).runScript rest
    else sh.runScript rest

/-- How a shell ended that was fed `fed`. -/
def toEnd (sh : Shell) (fed : Option Bytes) : ProcessEnd :=
  { code := if sh.course = .killed then none else some sh.status
    output := ⟨sh.output, sh.errors⟩
    feedFault := fed.bind fun _ => feedFault? sh.input.length }

/-- Runs a script that is given as text; one that is not understood is a fault of its syntax. -/
def runText (sh : Shell) (script : String) : Shell :=
  match parse? script with
  | some pipelines => sh.runScript pipelines
  | none => sh.complain sh.streams "sh: 1: Syntax error" 2

/-- How the process of a known program ends; other programs are missing. -/
def processEnd? (c : Command) : Option ProcessEnd :=
  let sh : Shell := { input := c.stdin.getD [] }
  match c.program, c.args with
  | "true", _ => some ((sh.finish 0).toEnd c.stdin)
  | "false", _ => some ((sh.finish 1).toEnd c.stdin)
  | "cat", args => some ((sh.cat {} args).toEnd c.stdin)
  | "wc", args => some ((sh.wc {} args).toEnd c.stdin)
  | "sh", "-c" :: script :: args =>
    some (({ sh with arguments := if args.isEmpty then ["sh"] else args }.runText script).toEnd
      c.stdin)
  | "sh", [] =>
    some (({ sh with input := [] }.runText (decodeLossy sh.input)).toEnd c.stdin)
  | "sh", file :: _ =>
    some ((sh.complain {} ("sh: 0: cannot open " ++ file ++ ": No such file") 2).toEnd c.stdin)
  | _, _ => none

/-- What a command brings that is run as a process. -/
def runProcess (c : Command) : Except RuntimeFault Output :=
  if c.argv.any (·.toList.contains '\x00') then .error (.spawn c.display .zeroInArgument)
  else match processEnd? c with
    | some ended => ended.conclude c
    | none => .error (.spawn c.display .notFound)

end Shell

end LocalCluster.Rehearsal
