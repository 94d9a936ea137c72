import LocalCluster.Cluster.Provider.Logs
import LocalCluster.Proofs.Cluster.NodeWork
import LocalCluster.Proofs.Files.Filing
import LocalCluster.Proofs.Work.Commands
import Mathlib.Data.List.Nodup

/-!
# What is collected, and where

Every artefact of a cluster has a place of its own below the directory of the logs, and a command of
its own. The task that collects it runs this command, makes directories for the place and writes
there what the command has printed, and it does nothing besides.

* `WellNamed`: an engine and nodes whose names can stand in one directory.
* `LogDirectory`, `LogFile`, `Artefact.At`: the places of artefacts; **`WellNamed.site`**: they keep
  out of each other's way.
* `nodup_paths`, `nodup_commands`: paths and commands tell artefacts apart.
* `Collected`: what the task of an artefact asks; **`collected_of_follows`**.
-/

namespace LocalCluster.Cluster

open LocalCluster.Container LocalCluster.Files LocalCluster.Text Script

variable {c : Containers} {nodes : List Node} {n : Node} {dir file : String}
variable {a : Artefact} {rest : List String} {place : Place}

/-! ## Names -/

/-- The name of the engine and the names of the nodes are names of files, and in one directory they
keep out of each other's way and out of that of the file about the engine. -/
structure WellNamed (c : Containers) (nodes : List Node) : Prop where
  binary : IsFileName c.engine.binary
  members : ∀ n ∈ nodes, IsFileName n.name
  apart : ∀ n ∈ nodes, n.name ≠ c.engine.binary ++ "-info.txt"
  distinct : (nodes.map Node.name).Nodup

/-- The files that are collected of a node. -/
def outputNames : List String :=
  ["inspect.json", "serial.log", "kubernetes-version.txt", "journal.log", "kubelet.log",
    "containerd.log", "images.log"]

/-- The directories below that of the logs. -/
inductive LogDirectory (nodes : List Node) : List String → Prop where
  | node {n : Node} (h : n ∈ nodes) : LogDirectory nodes [n.name]
  | copies {n : Node} (h : n ∈ nodes) : LogDirectory nodes [n.name, "var-log"]

/-- The files below the directory of the logs. -/
inductive LogFile (c : Containers) (nodes : List Node) : List String → Prop where
  | info : LogFile c nodes [c.engine.binary ++ "-info.txt"]
  | output {n : Node} {file : String} (h : n ∈ nodes) (hfile : file ∈ outputNames) :
      LogFile c nodes [n.name, file]

/-- The places that the engine fills when it copies files of a node. -/
def CopiedPlace (nodes : List Node) (place q : Place) : Prop :=
  ∃ n ∈ nodes, ∃ rest, rest ≠ [] ∧ q = place ++ ([n.name, "var-log"] ++ rest)

instance (name : String) : Decidable (IsFileName name) :=
  decidable_of_iff (name ≠ "" ∧ name ≠ "." ∧ name ≠ ".." ∧ '/' ∉ name.toList ∧
    '\x00' ∉ name.toList)
    ⟨fun ⟨h₁, h₂, h₃, h₄, h₅⟩ => ⟨h₁, h₂, h₃, h₄, h₅⟩,
      fun h => ⟨h.nonempty, h.notHere, h.notAbove, h.noSlash, h.noZero⟩⟩

theorem isFileName_outputNames : ∀ file ∈ outputNames, IsFileName file := by decide

theorem isFileName_info (h : IsFileName c.engine.binary) :
    IsFileName (c.engine.binary ++ "-info.txt") := by
  have hlong : 9 ≤ (c.engine.binary ++ "-info.txt").length := by
    rw [String.length_append]
    exact Nat.le_add_left 9 _
  have hchars : ∀ ch, ch ∈ (c.engine.binary ++ "-info.txt").toList →
      ch ∈ c.engine.binary.toList ∨ ch ∈ "-info.txt".toList := fun ch hch => by
    rwa [String.toList_append, List.mem_append] at hch
  refine ⟨?_, ?_, ?_, fun hs => ?_, fun hz => ?_⟩
  · intro he
    rw [he] at hlong
    exact absurd hlong (by decide)
  · intro he
    rw [he] at hlong
    exact absurd hlong (by decide)
  · intro he
    rw [he] at hlong
    exact absurd hlong (by decide)
  · exact (hchars _ hs).elim h.noSlash (by decide)
  · exact (hchars _ hz).elim h.noZero (by decide)

theorem length_le_two (h : LogDirectory nodes rest ∨ LogFile c nodes rest) : rest.length ≤ 2 := by
  obtain h | h := h <;> cases h <;> simp

theorem WellNamed.isFileName (h : WellNamed c nodes)
    (hrest : LogDirectory nodes rest ∨ LogFile c nodes rest) : ∀ name ∈ rest, IsFileName name := by
  have hcopies : IsFileName "var-log" := by decide
  obtain hrest | hrest := hrest
  · cases hrest with
    | node hn => simpa using h.members _ hn
    | copies hn => simpa [hcopies] using h.members _ hn
  · cases hrest with
    | info => simpa using isFileName_info h.binary
    | output hn hfile => simpa [isFileName_outputNames _ hfile] using h.members _ hn

/-- **The places of artefacts keep out of each other's way.** -/
theorem WellNamed.site {t₀ : Tree} (h : WellNamed c nodes) (ho : t₀.Opens dir place)
    (hempty : ∀ rest, rest ≠ [] → t₀.find? (place ++ rest) = none) :
    Site t₀ dir place (CopiedPlace nodes place) (LogDirectory nodes) (LogFile c nodes) where
  opens := ho
  empty := hempty
  named rest hrest := by
    refine ⟨?_, h.isFileName hrest⟩
    obtain hrest | hrest := hrest <;> cases hrest <;> simp
  closed rest p hrest hp hne := by
    cases hrest with
    | node hn =>
      obtain rfl | ⟨p, rfl, hnil⟩ := List.prefix_cons_iff.1 hp
      · exact absurd rfl hne
      · rw [List.prefix_nil.1 hnil]
        exact .node hn
    | copies hn =>
      obtain rfl | ⟨p, rfl, hlast⟩ := List.prefix_cons_iff.1 hp
      · exact absurd rfl hne
      obtain rfl | ⟨p, rfl, hnil⟩ := List.prefix_cons_iff.1 hlast
      · exact .node hn
      · rw [List.prefix_nil.1 hnil]
        exact .copies hn
  housed rest hrest hne := by
    cases hrest with
    | info => exact absurd rfl hne
    | output hn => exact .node hn
  apart rest hfile hdir := by
    cases hdir with
    | node hn =>
      generalize hr : [_] = rest at hfile
      cases hfile with
      | info => exact h.apart _ hn (List.singleton_inj.1 hr)
      | output => simp at hr
    | copies hn =>
      generalize hr : [_, "var-log"] = rest at hfile
      cases hfile with
      | info => simp at hr
      | output _ hfile =>
        obtain rfl : "var-log" = _ := by simpa using (List.cons.inj hr).2
        exact absurd hfile (by decide)
  untouched rest hrest := by
    rintro ⟨n, hn, more, hne, he⟩
    have hlength := congrArg List.length (List.append_cancel_left he)
    have hle := length_le_two hrest
    have hpos := List.length_pos_iff.2 hne
    rw [List.length_append, List.length_cons, List.length_singleton] at hlength
    omega
  fresh q := by
    rintro ⟨n, hn, rest, hne, rfl⟩
    exact hempty _ (by simp)

/-! ## Places of artefacts -/

/-- Where an artefact is put. -/
def Artefact.path : Artefact → String
  | .output path _ _ _ => path
  | .copy path _ _ => path

/-- The names below the directory of the logs that lead to the artefacts, in their order. -/
def artefactNames (c : Containers) (nodes : List Node) : List (List String) :=
  [c.engine.binary ++ "-info.txt"] ::
    nodes.flatMap fun n => (outputNames ++ ["var-log"]).map fun file => [n.name, file]

theorem map_path_artefacts : (c.artefacts nodes dir).map Artefact.path =
    (artefactNames c nodes).map (joinAll dir) := by
  rw [Containers.artefacts, artefactNames, List.map_cons, List.map_cons, List.map_flatMap,
    List.map_flatMap]
  rfl

/-- An artefact has its place at these names: it is one of the files, or what the engine copies of
a node. -/
inductive Artefact.At (c : Containers) (nodes : List Node) (dir : String) :
    Artefact → List String → Prop where
  | output {rest : List String} {command : Command} {part : Part} {label : String}
      (h : LogFile c nodes rest) :
      At c nodes dir (.output (joinAll dir rest) command part label) rest
  | copy {n : Node} {command : Command} {label : String} (hn : n ∈ nodes) :
      At c nodes dir (.copy (joinAll dir [n.name, "var-log"]) command label) [n.name, "var-log"]

theorem at_output {command : Command} {part : Part} {label : String} (hn : n ∈ nodes)
    (hfile : file ∈ outputNames) :
    (Artefact.output (joinPath (joinPath dir n.name) file) command part label).At c nodes dir
      [n.name, file] :=
  .output (.output hn hfile)

theorem exists_at (h : a ∈ c.artefacts nodes dir) : ∃ rest, a.At c nodes dir rest := by
  obtain rfl | h := List.mem_cons.1 h
  · exact ⟨_, .output .info⟩
  · obtain ⟨n, hn, h⟩ := List.mem_flatMap.1 h
    simp only [Containers.nodeArtefacts, Containers.execArtefact, List.mem_cons, List.not_mem_nil,
      or_false] at h
    obtain rfl | rfl | rfl | rfl | rfl | rfl | rfl | rfl := h
    all_goals first
      | exact ⟨_, .copy hn⟩
      | exact ⟨_, at_output hn (by decide)⟩

theorem Artefact.At.path_eq (h : a.At c nodes dir rest) : a.path = joinAll dir rest := by
  cases h <;> rfl

theorem nodup_artefactNames (h : WellNamed c nodes) : (artefactNames c nodes).Nodup := by
  refine List.nodup_cons.2 ⟨by simp, List.nodup_flatMap.2 ⟨fun n _ => ?_, ?_⟩⟩
  · exact List.Nodup.map (fun file file' he => by simpa using he) (by decide)
  · refine (List.pairwise_map.1 h.distinct).imp fun hne =>
      List.disjoint_left.2 fun rest hrest hrest' => ?_
    obtain ⟨file, -, rfl⟩ := List.mem_map.1 hrest
    obtain ⟨file', -, he⟩ := List.mem_map.1 hrest'
    exact hne (List.cons.inj he).1.symm

/-- **No two artefacts have one path.** -/
theorem nodup_paths (h : WellNamed c nodes) :
    ((c.artefacts nodes dir).map Artefact.path).Nodup := by
  have hnames : ∀ rest ∈ artefactNames c nodes, ∀ name ∈ rest, IsFileName name := by
    intro rest hrest
    obtain rfl | hrest := List.mem_cons.1 hrest
    · exact h.isFileName (.inr .info)
    · obtain ⟨n, hn, hrest⟩ := List.mem_flatMap.1 hrest
      obtain ⟨file, hfile, rfl⟩ := List.mem_map.1 hrest
      obtain hfile | hfile := List.mem_append.1 hfile
      · exact h.isFileName (.inr (.output hn hfile))
      · rw [List.mem_singleton.1 hfile]
        exact h.isFileName (.inl (.copies hn))
  rw [map_path_artefacts]
  refine (nodup_artefactNames h).map_on fun rest hrest rest' hrest' he => ?_
  exact (joinAll_inj (hnames rest hrest) (hnames rest' hrest')).1 he

/-- The directory that is made for a file: that of all logs, or that of a node. -/
theorem parent_of_logFile (dir : String) (named : WellNamed c nodes) (h : LogFile c nodes rest) :
    rest.dropLast = [] ∧ parentPath? (joinAll dir rest) = some (tidy dir) ∨
      LogDirectory nodes rest.dropLast ∧
        parentPath? (joinAll dir rest) = some (joinAll dir rest.dropLast) := by
  cases h with
  | info => exact .inl ⟨rfl, parentPath?_joinPath dir (isFileName_info named.binary)⟩
  | @output n file hn hfile =>
    have hparent := parentPath?_joinPath (joinPath dir n.name) (isFileName_outputNames file hfile)
    rw [tidy_joinPath (named.members n hn)] at hparent
    exact .inr ⟨.node hn, hparent⟩

theorem Artefact.At.exists_parent (named : WellNamed c nodes) (h : a.At c nodes dir rest) :
    ∃ parent, parentPath? a.path = some parent := by
  cases h with
  | output hfile => exact (parent_of_logFile dir named hfile).elim (⟨_, ·.2⟩) (⟨_, ·.2⟩)
  | @copy n =>
    have hcopies : IsFileName "var-log" := by decide
    show ∃ parent, parentPath? (joinAll dir ([n.name] ++ ["var-log"])) = some parent
    rw [joinAll_concat]
    exact ⟨_, parentPath?_joinPath _ hcopies⟩

theorem copy_mem_artefacts (c : Containers) (dir : String) (hn : n ∈ nodes) : ∃ command label,
    .copy (joinAll dir [n.name, "var-log"]) command label ∈ c.artefacts nodes dir := by
  obtain ⟨command, label, hlast⟩ : ∃ command label,
      .copy (joinPath (joinPath dir n.name) "var-log") command label ∈
        c.nodeArtefacts n (joinPath dir n.name) := by
    simp [Containers.nodeArtefacts, Containers.execArtefact]
  exact ⟨command, label, List.mem_cons_of_mem _ (List.mem_flatMap.2 ⟨n, hn, hlast⟩)⟩

/-! ## Commands of artefacts -/

theorem args_of_mem_nodeArtefacts (h : a ∈ c.nodeArtefacts n dir) :
    (∃ verb ∈ ["inspect", "logs", "exec"], a.command.args.take 2 = [verb, n.name]) ∨
      a.command.args.take 2 = ["cp", n.name ++ ":/var/log/."] := by
  simp only [Containers.nodeArtefacts, Containers.execArtefact, List.mem_cons, List.not_mem_nil,
    or_false] at h
  obtain rfl | rfl | rfl | rfl | rfl | rfl | rfl | rfl := h
  all_goals first
    | exact .inr rfl
    | exact .inl ⟨_, by decide, rfl⟩

theorem name_eq_of_command_eq {n' : Node} {a' : Artefact} {dir' : String}
    (h : a ∈ c.nodeArtefacts n dir) (h' : a' ∈ c.nodeArtefacts n' dir')
    (he : a.command = a'.command) : n.name = n'.name := by
  obtain ⟨verb, hverb, hargs⟩ | hargs := args_of_mem_nodeArtefacts h <;>
    obtain ⟨verb', hverb', hargs'⟩ | hargs' := args_of_mem_nodeArtefacts h' <;>
    rw [he, hargs'] at hargs
  · exact (List.singleton_inj.1 (List.cons.inj hargs).2).symm
  · obtain rfl := (List.cons.inj hargs).1
    exact absurd hverb (by decide)
  · obtain rfl := (List.cons.inj hargs).1
    exact absurd hverb' (by decide)
  · simpa using hargs.symm

/-- **No two artefacts have one command.** -/
theorem nodup_commands (h : WellNamed c nodes) :
    ((c.artefacts nodes dir).map Artefact.command).Nodup := by
  rw [Containers.artefacts, List.map_cons, List.map_flatMap]
  refine List.nodup_cons.2 ⟨fun hinfo => ?_, List.nodup_flatMap.2 ⟨fun n _ => ?_, ?_⟩⟩
  · obtain ⟨n, -, hinfo⟩ := List.mem_flatMap.1 hinfo
    obtain ⟨a, ha, hcommand⟩ := List.mem_map.1 hinfo
    obtain ⟨verb, -, hargs⟩ | hargs := args_of_mem_nodeArtefacts ha <;>
    · rw [hcommand] at hargs
      simp [Artefact.command, Engine.command] at hargs
  · refine List.Nodup.of_map Command.args ?_
    simp [Containers.nodeArtefacts, Containers.execArtefact, Artefact.command, Engine.command,
      Engine.execution]
  · refine (List.pairwise_map.1 h.distinct).imp fun hne =>
      List.disjoint_left.2 fun command hcommand hcommand' => ?_
    obtain ⟨a, ha, rfl⟩ := List.mem_map.1 hcommand
    obtain ⟨a', ha', he⟩ := List.mem_map.1 hcommand'
    exact hne (name_eq_of_command_eq ha ha' he.symm)

theorem not_isListing (h : a ∈ c.artefacts nodes dir) : a.command.isListing = false := by
  obtain rfl | h := List.mem_cons.1 h
  · rfl
  · obtain ⟨n, -, h⟩ := List.mem_flatMap.1 h
    have hhead : a.command.args.head? = (a.command.args.take 2).head? := by
      cases a.command.args <;> rfl
    rw [Command.isListing, hhead]
    obtain ⟨verb, hverb, hargs⟩ | hargs := args_of_mem_nodeArtefacts h <;> rw [hargs]
    · have hps : verb ≠ "ps" := fun he => absurd (he ▸ hverb) (by decide)
      simpa using hps
    · rfl

/-- Only what the engine says of itself and what it knows of a node are taken without what is
printed on standard error. -/
theorem part_eq_stdout_iff {path label : String} {command : Command} {part : Part}
    (h : .output path command part label ∈ c.artefacts nodes dir) : part = .stdout ↔
      command.args.head? = some "info" ∨ command.args.head? = some "inspect" := by
  obtain he | h := List.mem_cons.1 h
  · cases he
    exact iff_of_true rfl (.inl rfl)
  · obtain ⟨n, -, h⟩ := List.mem_flatMap.1 h
    simp only [Containers.nodeArtefacts, Containers.execArtefact, List.mem_cons, List.not_mem_nil,
      or_false] at h
    obtain he | he | he | he | he | he | he | he := h <;> cases he
    · exact iff_of_true rfl (.inr rfl)
    all_goals exact iff_of_false nofun (by simp [Engine.command, Engine.execution])

/-! ## Collecting one artefact -/

/-- An artefact is collected: if it is the output of a command, this is run first, then a directory
is made for it and it is stored; if it is filled by a command, the directory is made first. Whatever
fails is the last thing that happens. -/
inductive Collected : Artefact → List (Exchange Request Request.Answer) → Prop where
  | refused {path : String} {command : Command} {part : Part} {label : String}
      {fault : RuntimeFault} :
      Collected (.output path command part label) [⟨.command command, .error fault⟩]
  | homeless {path parent : String} {command : Command} {part : Part} {label : String} {o : Output}
      {cause : IoFault} (hparent : parentPath? path = some parent) :
      Collected (.output path command part label)
        [⟨.command command, .ok o⟩, ⟨.makeDirs parent, .error cause⟩]
  | stored {path parent : String} {command : Command} {part : Part} {label : String} {o : Output}
      {answer : Except IoFault Unit} (hparent : parentPath? path = some parent) :
      Collected (.output path command part label) [⟨.command command, .ok o⟩,
        ⟨.makeDirs parent, .ok ()⟩, ⟨.writeFile path (part.of o), answer⟩]
  | unplaced {path : String} {command : Command} {label : String} {cause : IoFault} :
      Collected (.copy path command label) [⟨.makeDirs path, .error cause⟩]
  | copied {path : String} {command : Command} {label : String}
      {answer : Except RuntimeFault Output} :
      Collected (.copy path command label)
        [⟨.makeDirs path, .ok ()⟩, ⟨.command command, answer⟩]

variable {t : List (Exchange Request Request.Answer)} {r : Except Fault Unit}

theorem follows_makeDirs_iff {path : String} : Follows (makeDirs path).run t r ↔
    ∃ answer, t = [⟨.makeDirs path, answer⟩] ∧ r = answer.mapError Fault.io := by
  rw [makeDirs, follows_ofIo_iff]
  simp only [follows_lift_iff]

theorem follows_command_iff {operation : String} {command : Command} {r : Except Fault Output} :
    Follows (during operation (runCommand command).toWork).run t r ↔
      ∃ answer, t = [⟨.command command, answer⟩] ∧
        r = naming operation (answer.mapError Fault.runtime) := by
  rw [follows_during_iff]
  simp only [follows_runCommand_toWork_iff]
  constructor
  · rintro ⟨_, ⟨answer, rfl, rfl⟩, rfl⟩
    exact ⟨answer, rfl, rfl⟩
  · rintro ⟨answer, rfl, rfl⟩
    exact ⟨_, ⟨answer, rfl, rfl⟩, rfl⟩

/-- **A task that collects an artefact does just this.** -/
theorem collected_of_follows {parent : String} (hparent : parentPath? a.path = some parent)
    (h : Follows a.collect.run t r) : Collected a t := by
  cases a with
  | output path command part label =>
    replace hparent : parentPath? path = some parent := hparent
    obtain ⟨fault, hcommand, -⟩ | ⟨o, t₁, t₂, rfl, hcommand, hfile⟩ := follows_run_bind_iff.1 h
    · obtain ⟨answer, rfl, hanswer⟩ := follows_command_iff.1 hcommand
      cases answer with
      | ok => cases hanswer
      | error => exact .refused
    · obtain ⟨answer, rfl, hanswer⟩ := follows_command_iff.1 hcommand
      cases answer with
      | error => cases hanswer
      | ok o =>
        cases hanswer
        change Follows (writeHostFile path _).run t₂ r at hfile
        rw [writeHostFile, hparent] at hfile
        obtain ⟨fault, hmake, -⟩ | ⟨_, t₃, t₄, rfl, hmake, hwrite⟩ := follows_run_bind_iff.1 hfile
        · obtain ⟨answer, rfl, hanswer⟩ := follows_makeDirs_iff.1 hmake
          cases answer with
          | ok => cases hanswer
          | error => exact .homeless hparent
        · obtain ⟨answer, rfl, hanswer⟩ := follows_makeDirs_iff.1 hmake
          obtain rfl := mapError_eq_ok_iff.1 hanswer.symm
          obtain ⟨_, hwrite, -⟩ := follows_during_iff.1 hwrite
          obtain ⟨answer, hlift, -⟩ := follows_ofIo_iff.1 hwrite
          obtain rfl := follows_lift_iff.1 hlift
          exact .stored hparent
  | copy path command label =>
    obtain ⟨fault, hmake, -⟩ | ⟨_, t₁, t₂, rfl, hmake, hrest⟩ := follows_run_bind_iff.1 h
    · obtain ⟨answer, rfl, hanswer⟩ := follows_makeDirs_iff.1 hmake
      cases answer with
      | ok => cases hanswer
      | error => exact .unplaced
    · obtain ⟨answer, rfl, hanswer⟩ := follows_makeDirs_iff.1 hmake
      obtain rfl := mapError_eq_ok_iff.1 hanswer.symm
      obtain ⟨fault, hcommand, -⟩ | ⟨o, t₃, t₄, rfl, hcommand, hend⟩ :=
        follows_run_bind_iff.1 hrest
      · obtain ⟨answer, rfl, -⟩ := follows_command_iff.1 hcommand
        exact .copied
      · obtain ⟨answer, rfl, -⟩ := follows_command_iff.1 hcommand
        obtain ⟨rfl, -⟩ := follows_run_pure_iff.1 hend
        exact .copied

/-- Of all files, collecting an artefact writes only its own, with what its command has printed. -/
theorem Collected.of_write {path : String} {contents : Bytes} {w : Except IoFault Unit}
    (h : Collected a t) (hmem : ⟨.writeFile path contents, w⟩ ∈ t) :
    ∃ command part label o, a = .output path command part label ∧ contents = part.of o ∧
      ⟨.command command, .ok o⟩ ∈ t := by
  cases h with
  | stored =>
    simp only [List.mem_cons, List.not_mem_nil, or_false] at hmem
    obtain he | he | he := hmem
    · cases (Exchange.mk.inj he).1
    · cases (Exchange.mk.inj he).1
    · obtain ⟨rfl, rfl⟩ := Request.writeFile.inj (Exchange.mk.inj he).1
      exact ⟨_, _, _, _, rfl, rfl, by simp⟩
  | _ => simp at hmem

theorem Collected.makes_copy {path label : String} {command : Command}
    (h : Collected (.copy path command label) t) : ∃ w, ⟨.makeDirs path, w⟩ ∈ t := by
  cases h with
  | unplaced => exact ⟨_, List.mem_cons_self⟩
  | copied => exact ⟨_, List.mem_cons_self⟩

section

variable (hmade : ∀ path w, ⟨.makeDirs path, w⟩ ∈ t → w = .ok ())
include hmade

/-- Where directories can be made, the command of an artefact is run, and nothing else. -/
theorem Collected.commandsOf_eq (h : Collected a t) :
    ∃ answer, commandsOf t = [⟨a.command, answer⟩] := by
  cases h with
  | unplaced => cases hmade _ _ List.mem_cons_self
  | _ => exact ⟨_, rfl⟩

theorem Collected.writes {path label : String} {command : Command} {part : Part} {o : Output}
    (h : Collected (.output path command part label) t) (ho : ⟨command, .ok o⟩ ∈ commandsOf t) :
    ∃ w, ⟨.writeFile path (part.of o), w⟩ ∈ t := by
  cases h with
  | refused => simp [commandsOf, executed?] at ho
  | homeless => cases hmade _ _ (List.mem_cons_of_mem _ List.mem_cons_self)
  | stored =>
    obtain rfl : o = _ := by simpa [commandsOf, executed?] using ho
    exact ⟨_, List.mem_cons_of_mem _ (List.mem_cons_of_mem _ List.mem_cons_self)⟩

end

/-- **What a task asks next is allowed**, if all that it has asked has been exchanged and its file
has been written by no other one. -/
theorem Collected.allows {t₀ : Tree} {X pre post : List (Exchange Request Request.Answer)}
    {y : Exchange Request Request.Answer} (h : Collected a (pre ++ y :: post))
    (named : WellNamed c nodes) (ho : t₀.Opens dir place) (hat : a.At c nodes dir rest)
    (hpre : ∀ x ∈ pre, x ∈ X)
    (hnew : ∀ old w, ⟨.writeFile a.path old, w⟩ ∈ X → ⟨.writeFile a.path old, w⟩ ∈ pre) :
    Site.Allows t₀ dir place (LogDirectory nodes) (LogFile c nodes) X y.question := by
  generalize ht : pre ++ y :: post = t at h
  have hmem : y ∈ t := by simp [← ht]
  cases hat with
  | output hfile =>
    have hmake : ∀ {parent}, parentPath? (joinAll dir rest) = some parent →
        Site.Allows t₀ dir place (LogDirectory nodes) (LogFile c nodes) X (.makeDirs parent) := by
      intro parent hparent
      obtain ⟨-, hdir⟩ | ⟨hdir, hpath⟩ := parent_of_logFile dir named hfile
      · obtain rfl := Option.some.inj (hdir.symm.trans hparent)
        exact .opened ho.tidy
      · obtain rfl := Option.some.inj (hpath.symm.trans hparent)
        exact .below hdir
    cases h with
    | refused =>
      rw [List.mem_singleton.1 hmem]
      exact .elsewhere rfl
    | homeless hparent =>
      obtain rfl | rfl : y = _ ∨ y = _ := by simpa using hmem
      · exact .elsewhere rfl
      · exact hmake hparent
    | @stored _ parent _ _ _ o answer hparent =>
      -- the three requests, each after those before it
      obtain ⟨rfl, he⟩ | ⟨pre, rfl, hrest⟩ := List.append_eq_cons_iff.1 ht
      · rw [(List.cons.inj he).1]
        exact .elsewhere rfl
      obtain ⟨rfl, he⟩ | ⟨pre, rfl, hlast⟩ := List.append_eq_cons_iff.1 hrest.symm
      · rw [(List.cons.inj he).1]
        exact hmake hparent
      obtain ⟨rfl, he⟩ | ⟨pre, rfl, hnone⟩ := List.append_eq_cons_iff.1 hlast.symm
      · rw [(List.cons.inj he).1]
        refine .file hfile (fun hne => ⟨.ok (), ?_⟩) fun old w hold => ?_
        · have hhere := (parent_of_logFile dir named hfile).resolve_left fun h => hne h.1
          obtain rfl := Option.some.inj (hhere.2.symm.trans hparent)
          exact hpre _ (by simp)
        · simpa using hnew old w hold
      · simp at hnone
  | copy hn =>
    cases h with
    | unplaced =>
      rw [List.mem_singleton.1 hmem]
      exact .below (.copies hn)
    | copied =>
      obtain rfl | rfl : y = _ ∨ y = _ := by simpa using hmem
      · exact .below (.copies hn)
      · exact .elsewhere rfl

end LocalCluster.Cluster
