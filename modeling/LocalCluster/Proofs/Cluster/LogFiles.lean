import LocalCluster.Proofs.Cluster.Artefacts
import LocalCluster.Proofs.Cluster.Listing
import LocalCluster.Proofs.Work.Serial

/-!
# Logs that are collected are kept apart

However the tasks that collect the logs of a cluster take their turns, and whatever becomes of their
commands, each file is there just when its own command has succeeded, and holds what this has
printed. No command makes a difference to the file of another one.

* `Collects`: a run that collects logs in a tree; `Collecting`, `Collects.course`: what it does.
* `LogItem`: what stands below the directory of the logs in the end; **`Collects.completed`**.
* **`logs_kept_apart`**: runs that collect the logs of well-named nodes, and pairs of them.
-/

namespace LocalCluster.Cluster

open LocalCluster.Container LocalCluster.Files LocalCluster.Text Script Containers

variable {c : Containers} {cluster dir : String} {nodes : List Node} {place : Place}
variable {t₀ t : Tree} {L W : List Turn} {r : Except Fault Unit} {a : Artefact}
variable {X : List (Exchange Request Request.Answer)}

/-- A run that collects the logs of a cluster which has these nodes. Its files are kept in a tree,
in which the engine may fill the directories that it copies to. -/
structure Collects (c : Containers) (cluster dir : String) (nodes : List Node) (place : Place)
    (t₀ : Tree) (L : List Turn) (r : Except Fault Unit) (t : Tree) : Prop where
  run : (c.collectLogs cluster dir).run.Runs L r
  listed : ∀ e ∈ commandsOf (L.map Turn.exchange), e.command = c.nodeListing cluster →
    c.nodesIn e.result = .ok nodes
  filed : Filed (CopiedPlace nodes place) t₀ (L.map Turn.exchange) t

/-! ## What a run does -/

/-- Every artefact is collected by a task of its own, and there are no other tasks. -/
structure AllCollected (artefacts : List Artefact) (W : List Turn) : Prop where
  askers : ∀ turn ∈ W, ∃ i < artefacts.length, turn.asker = .task i
  each : ∀ i a, artefacts[i]? = some a → Collected a (exchangesOf (.task i) W)

/-- The nodes are listed and the directory is made. If this has worked, all artefacts are collected,
and the result does not depend on what becomes of them. -/
inductive Collecting (c : Containers) (cluster dir : String) (nodes : List Node) :
    List Turn → Except Fault Unit → Prop where
  | homeless {listing : Except RuntimeFault Output} {cause : IoFault} :
      Collecting c cluster dir nodes [.own ⟨.command (c.nodeListing cluster), listing⟩,
        .own ⟨.makeDirs dir, .error cause⟩] (.error (.io cause))
  | collected {listing : Except RuntimeFault Output} {W : List Turn}
      (all : AllCollected (c.artefacts nodes dir) W) :
      Collecting c cluster dir nodes (.own ⟨.command (c.nodeListing cluster), listing⟩ ::
        .own ⟨.makeDirs dir, .ok ()⟩ :: W) (.ok ())

/-- The tasks that collect these artefacts. -/
def collectingTasks (artefacts : List Artefact) : List (Routine LocalCluster.Outcome) :=
  (artefacts.map Artefact.collect).map Work.outcome

theorem allCollected_of_worked {artefacts : List Artefact}
    {tasks : List (Routine LocalCluster.Outcome)}
    (hparent : ∀ a ∈ artefacts, ∃ parent, parentPath? a.path = some parent)
    (h : Worked (collectingTasks artefacts) W tasks) (hdone : AllDone tasks) :
    AllCollected artefacts W := by
  have hlength : (collectingTasks artefacts).length = artefacts.length := by
    simp [collectingTasks]
  refine ⟨?_, fun i a hi => ?_⟩
  · have haskers := h.asker
    rwa [hlength] at haskers
  · have hlt : i < tasks.length := by
      rw [h.length_eq, hlength]
      exact (List.getElem?_eq_some_iff.1 hi).1
    obtain ⟨outcome, hend⟩ := hdone _ (List.getElem_mem hlt)
    obtain ⟨task, htask, hfollows⟩ := h.follows (List.getElem?_eq_some_iff.2 ⟨hlt, hend⟩)
    obtain rfl : a.collect.outcome = task := by
      simpa [collectingTasks, hi] using htask
    obtain ⟨_, t₁, t₂, hsplit, hcollect, hout⟩ := follows_bind_iff.1 hfollows
    obtain ⟨rfl, -⟩ := follows_pure_iff.1 hout
    obtain ⟨parent, hp⟩ := hparent a (List.mem_of_getElem? hi)
    rw [hsplit, List.append_nil]
    exact collected_of_follows hp hcollect

/-- What the program demands: it lists the nodes, makes the directory and waits for all tasks, or it
stops at what fails before that. -/
inductive Demanded (c : Containers) (cluster dir : String) :
    List (Exchange Demand Demand.Answer) → Except Fault Unit → Prop where
  | unlisted {listing : Except RuntimeFault Output} {fault : Fault}
      (h : c.nodesIn listing = .error fault) : Demanded c cluster dir
        [.single ⟨.command (c.nodeListing cluster), listing⟩] (.error fault)
  | homeless {listing : Except RuntimeFault Output} {nodes : List Node} {cause : IoFault}
      (h : c.nodesIn listing = .ok nodes) : Demanded c cluster dir
        [.single ⟨.command (c.nodeListing cluster), listing⟩,
          .single ⟨.makeDirs dir, .error cause⟩] (.error (.io cause))
  | together {listing : Except RuntimeFault Output} {nodes : List Node} {v : Except Fault Unit}
      (h : c.nodesIn listing = .ok nodes) : Demanded c cluster dir
        ([.single ⟨.command (c.nodeListing cluster), listing⟩,
          .single ⟨.makeDirs dir, .ok ()⟩] ++
          [⟨.together .untilAllEnd (collectingTasks (c.artefacts nodes dir)), v⟩]) (.ok ())

theorem follows_collectLogs {T : List (Exchange Demand Demand.Answer)}
    (h : Follows (c.collectLogs cluster dir).run T r) : Demanded c cluster dir T r := by
  obtain ⟨fault, hlist, rfl⟩ | ⟨nodes, T₁, T₂, rfl, hlist, hrest⟩ := follows_run_bind_iff.1 h
  · obtain ⟨u, hu, rfl⟩ := follows_toJob_iff.1 hlist
    obtain ⟨listing, rfl, hlisting⟩ := follows_listNodes_iff.1 hu
    exact .unlisted hlisting.symm
  · obtain ⟨u, hu, rfl⟩ := follows_toJob_iff.1 hlist
    obtain ⟨listing, rfl, hlisting⟩ := follows_listNodes_iff.1 hu
    obtain ⟨fault, hmake, rfl⟩ | ⟨_, T₃, T₄, rfl, hmake, htasks⟩ := follows_run_bind_iff.1 hrest
    · obtain ⟨u, hu, rfl⟩ := follows_toJob_iff.1 hmake
      obtain ⟨answer, rfl, hanswer⟩ := follows_makeDirs_iff.1 hu
      cases answer with
      | ok => cases hanswer
      | error cause =>
        cases hanswer
        exact .homeless hlisting.symm
    · obtain ⟨u, hu, rfl⟩ := follows_toJob_iff.1 hmake
      obtain ⟨answer, rfl, hanswer⟩ := follows_makeDirs_iff.1 hu
      obtain rfl := mapError_eq_ok_iff.1 hanswer.symm
      obtain ⟨_, htogether, rfl⟩ := follows_run_lift_iff.1 htasks
      obtain ⟨v, T₅, T₆, rfl, hlift, hend⟩ := follows_bind_iff.1 htogether
      obtain rfl := follows_lift_iff.1 hlift
      obtain ⟨rfl, -⟩ := follows_pure_iff.1 hend
      exact .together hlisting.symm

/-- **A run that collects logs takes one of two courses.** -/
theorem Collects.course (named : WellNamed c nodes)
    (h : Collects c cluster dir nodes place t₀ L r t) : Collecting c cluster dir nodes L r := by
  obtain ⟨T, tasks, hT, hweave, hdone⟩ := runs_iff_weave.1 h.run
  have hlisted : ∀ {listing}, Turn.own ⟨.command (c.nodeListing cluster), listing⟩ ∈ L →
      c.nodesIn listing = .ok nodes := fun {listing} hmem =>
    h.listed ⟨_, listing⟩ (mem_commandsOf.2 (List.mem_map.2 ⟨_, hmem, rfl⟩)) rfl
  cases follows_collectLogs hT with
  | @unlisted listing _ hlisting =>
    obtain ⟨rfl, -⟩ := hweave.idle (t := [_]) allDone_nil
    rw [hlisted (List.mem_singleton.2 rfl)] at hlisting
    cases hlisting
  | homeless =>
    obtain ⟨rfl, -⟩ := hweave.idle (t := [_, _]) allDone_nil
    exact .homeless
  | together hlisting =>
    obtain ⟨L₁, W, mid, rfl, hown, hbegin⟩ := weave_append_iff.1 hweave
    obtain ⟨rfl, rfl⟩ := hown.idle (t := [_, _]) allDone_nil
    rw [hlisted (by simp)] at hlisting
    obtain rfl := Except.ok.inj hlisting
    refine .collected (allCollected_of_worked (fun a ha => ?_) hbegin.begin.1 hdone)
    obtain ⟨rest, hat⟩ := exists_at ha
    exact hat.exists_parent named

/-! ## Nothing goes wrong with files -/

theorem AllCollected.exists_of_mem {artefacts : List Artefact}
    {x : Exchange Request Request.Answer} (all : AllCollected artefacts W)
    (hx : x ∈ W.map Turn.exchange) :
    ∃ i a, artefacts[i]? = some a ∧ x ∈ exchangesOf (.task i) W := by
  obtain ⟨⟨asker, x⟩, hmem, rfl⟩ := List.mem_map.1 hx
  obtain ⟨i, hi, rfl⟩ := all.askers _ hmem
  exact ⟨i, _, List.getElem?_eq_getElem hi, mem_exchangesOf.2 hmem⟩

theorem AllCollected.asker_of_write {artefacts : List Artefact} {asker : Asker} {i : Nat}
    {contents : Bytes} {w : Except IoFault Unit} (all : AllCollected artefacts W)
    (hnodup : (artefacts.map Artefact.path).Nodup) (hi : artefacts[i]? = some a)
    (hmem : ⟨asker, ⟨.writeFile a.path contents, w⟩⟩ ∈ W) : asker = .task i := by
  obtain ⟨j, hj, rfl⟩ := all.askers _ hmem
  obtain ⟨command, part, label, o, hother, -, -⟩ :=
    (all.each j _ (List.getElem?_eq_getElem hj)).of_write (mem_exchangesOf.2 hmem)
  have hlt : i < (artefacts.map Artefact.path).length := by
    rw [List.length_map]
    exact (List.getElem?_eq_some_iff.1 hi).1
  have hij : i = j := (List.getElem?_inj hlt hnodup).1 (by
    simp [hi, hj, hother, Artefact.path])
  rw [hij]

section

variable (named : WellNamed c nodes) (ho : t₀.Opens dir place)
include named ho

/-- Whatever a task asks is allowed at that point, since no other task writes its file. -/
theorem AllCollected.allows {W₁ W₂ : List Turn} {turn : Turn}
    (all : AllCollected (c.artefacts nodes dir) (W₁ ++ turn :: W₂))
    (hown : ∀ x ∈ W₁.map Turn.exchange, x ∈ X)
    (hothers : ∀ path contents w, ⟨.writeFile path contents, w⟩ ∈ X →
      ⟨.writeFile path contents, w⟩ ∈ W₁.map Turn.exchange) :
    Site.Allows t₀ dir place (LogDirectory nodes) (LogFile c nodes) X turn.exchange.question := by
  obtain ⟨asker, x⟩ := turn
  obtain ⟨i, hi, rfl⟩ := all.askers ⟨asker, x⟩ (by simp)
  have hai := List.getElem?_eq_getElem hi
  have hcollected := all.each i _ hai
  rw [exchangesOf_append, exchangesOf_cons_self] at hcollected
  obtain ⟨rest, hat⟩ := exists_at (List.mem_of_getElem? hai)
  refine hcollected.allows named ho hat (fun x hx => ?_) fun old w hold => ?_
  · exact hown x (exchangesOf_subset _ _ hx)
  · obtain ⟨⟨asker, x⟩, hmem, rfl⟩ := List.mem_map.1 (hothers _ _ _ hold)
    obtain rfl := all.asker_of_write (nodup_paths named) hai (List.mem_append_left _ hmem)
    exact mem_exchangesOf.2 hmem

/-- **All that a run asks about files is allowed.** -/
theorem Collecting.allows (h : Collecting c cluster dir nodes L r) :
    ∀ before y after, L.map Turn.exchange = before ++ y :: after →
      Site.Allows t₀ dir place (LogDirectory nodes) (LogFile c nodes) before y.question := by
  intro before y after hsplit
  have hstart : ∀ {listing answer} {Y : List (Exchange Request Request.Answer)},
      ⟨.command (c.nodeListing cluster), listing⟩ :: ⟨.makeDirs dir, answer⟩ :: Y =
        before ++ y :: after →
      Site.Allows t₀ dir place (LogDirectory nodes) (LogFile c nodes) before y.question ∨
        ∃ later, before = ⟨.command (c.nodeListing cluster), listing⟩ ::
          ⟨.makeDirs dir, answer⟩ :: later ∧ Y = later ++ y :: after := by
    intro listing answer Y hsplit
    obtain ⟨rfl, he⟩ | ⟨before, rfl, hrest⟩ := List.cons_eq_append_iff.1 hsplit
    · rw [(List.cons.inj he).1]
      exact .inl (.elsewhere rfl)
    obtain ⟨rfl, he⟩ | ⟨later, rfl, hlater⟩ := List.cons_eq_append_iff.1 hrest
    · rw [(List.cons.inj he).1]
      exact .inl (.opened ho)
    · exact .inr ⟨later, rfl, hlater⟩
  cases h with
  | homeless =>
    obtain h | ⟨later, -, hnone⟩ := hstart hsplit
    · exact h
    · simp at hnone
  | collected all =>
    obtain h | ⟨later, rfl, hlater⟩ := hstart hsplit
    · exact h
    obtain ⟨W₁, W₂, rfl, rfl, hrest⟩ := List.map_eq_append_iff.1 hlater
    obtain ⟨turn, W₃, rfl, rfl, rfl⟩ := List.map_eq_cons_iff.1 hrest
    refine all.allows named ho (fun x hx => by simp [hx]) fun path contents w hold => ?_
    simpa using hold

/-- **So all of it goes well**, and in the end there is what has been put there. -/
theorem Collects.progress (hempty : ∀ rest, rest ≠ [] → t₀.find? (place ++ rest) = none)
    (h : Collects c cluster dir nodes place t₀ L r t) :
    Site.Progress t₀ dir place (CopiedPlace nodes place) (LogDirectory nodes) (LogFile c nodes)
      (L.map Turn.exchange) t :=
  Site.progress_of_filed (named.site ho hempty) h.filed Site.progress_nil
    ((h.course named).allows named ho)

end

/-! ## What there is in the end -/

/-- What stands below the directory of the logs: the directories of the nodes, and each file whose
command has succeeded, with what this has printed. -/
inductive LogItem (c : Containers) (nodes : List Node) (dir : String) (place : Place)
    (X : List (Exchange Request Request.Answer)) : Place → Files.Item → Prop where
  | directory {rest : List String} (h : LogDirectory nodes rest) :
      LogItem c nodes dir place X (place ++ rest) .directory
  | file {rest : List String} {command : Command} {part : Part} {label : String} {o : Output}
      (h : LogFile c nodes rest)
      (ha : .output (joinAll dir rest) command part label ∈ c.artefacts nodes dir)
      (succeeded : ⟨command, .ok o⟩ ∈ commandsOf X) :
      LogItem c nodes dir place X (place ++ rest) (.file false (part.of o))

/-- All artefacts have been collected: every command has been run once, and there are the items that
this leads to. -/
structure Completed (c : Containers) (cluster : String) (nodes : List Node) (dir : String)
    (place : Place) (t₀ : Tree) (X : List (Exchange Request Request.Answer)) (t : Tree) : Prop where
  issued : ((commandsOf X).map Executed.command).Perm
    (c.nodeListing cluster :: (c.artefacts nodes dir).map Artefact.command)
  holds : ∀ q item, ¬ CopiedPlace nodes place q →
    (t.find? q = some item ↔ t₀.find? q = some item ∨ LogItem c nodes dir place X q item)

/-- **No command is run twice.** -/
theorem nodup_of_issued (named : WellNamed c nodes)
    (h : ((commandsOf X).map Executed.command).Perm
      (c.nodeListing cluster :: (c.artefacts nodes dir).map Artefact.command)) :
    ((commandsOf X).map Executed.command).Nodup := by
  refine h.nodup_iff.2 (List.nodup_cons.2 ⟨fun hmem => ?_, nodup_commands named⟩)
  obtain ⟨a, ha, he⟩ := List.mem_map.1 hmem
  have hlisting := not_isListing ha
  rw [he] at hlisting
  cases hlisting

theorem issued_of_collected {artefacts : List Artefact} (all : AllCollected artefacts W)
    (hmade : ∀ path w, ⟨.makeDirs path, w⟩ ∈ W.map Turn.exchange → w = .ok ()) :
    ((commandsOf (W.map Turn.exchange)).map Executed.command).Perm
      (artefacts.map Artefact.command) := by
  refine perm_of_tasks (F := fun t => (commandsOf t).map Executed.command)
    (fun h => (h.filterMap _).map _) (fun is t => ?_) all.askers fun i a hi => ?_
  · rw [commandsOf, List.filterMap_flatMap, List.map_flatMap]
    rfl
  · obtain ⟨answer, hcommands⟩ := (all.each i a hi).commandsOf_eq fun path w hw =>
      hmade path w (exchangesOf_subset _ _ hw)
    rw [hcommands]
    rfl

section

variable (all : AllCollected (c.artefacts nodes dir) W) (hin : ∀ x ∈ W.map Turn.exchange, x ∈ X)
include all hin

theorem logItem_of_laid {q : Place} {item : Files.Item}
    (hclosed : ∀ rest p, LogDirectory nodes rest → p <+: rest → p ≠ [] → LogDirectory nodes p)
    (hwritten : ∀ path contents w, ⟨.writeFile path contents, w⟩ ∈ X →
      ⟨.writeFile path contents, w⟩ ∈ W.map Turn.exchange)
    (h : Files.Laid dir place (LogDirectory nodes) (LogFile c nodes) X q item) :
    LogItem c nodes dir place X q item := by
  cases h with
  | directory _ hrest hp hne => exact .directory (hclosed _ _ hrest hp hne)
  | file written hrest =>
    obtain ⟨i, a, hi, hmem⟩ := all.exists_of_mem (hwritten _ _ _ written)
    obtain ⟨command, part, label, o, rfl, rfl, hanswer⟩ := (all.each i a hi).of_write hmem
    have hthere := hin _ (exchangesOf_subset _ _ hanswer)
    exact .file hrest (List.mem_of_getElem? hi) (mem_commandsOf.2 hthere)

theorem laid_of_logItem {q : Place} {item : Files.Item}
    (hmade : ∀ path w, ⟨.makeDirs path, w⟩ ∈ X → w = .ok ())
    (hnodup : ((commandsOf X).map Executed.command).Nodup)
    (h : LogItem c nodes dir place X q item) :
    Files.Laid dir place (LogDirectory nodes) (LogFile c nodes) X q item := by
  have hown : ∀ {i x}, x ∈ exchangesOf (.task i) W → x ∈ X := fun hx =>
    hin _ (exchangesOf_subset _ _ hx)
  cases h with
  | directory hrest =>
    have hcopy : ∀ n ∈ nodes, ∃ w, ⟨.makeDirs (joinAll dir [n.name, "var-log"]), w⟩ ∈ X := by
      intro n hn
      obtain ⟨command, label, hmem⟩ := copy_mem_artefacts c dir hn
      obtain ⟨i, hi⟩ := List.mem_iff_getElem?.1 hmem
      obtain ⟨w, hw⟩ := (all.each i _ hi).makes_copy
      exact ⟨w, hown hw⟩
    cases hrest with
    | node hn =>
      obtain ⟨w, hw⟩ := hcopy _ hn
      exact .directory hw (.copies hn) (List.prefix_append [_] ["var-log"]) (List.cons_ne_nil _ _)
    | copies hn =>
      obtain ⟨w, hw⟩ := hcopy _ hn
      exact .directory hw (.copies hn) (List.prefix_refl _) (List.cons_ne_nil _ _)
  | @file rest command part label o hrest ha succeeded =>
    obtain ⟨i, hi⟩ := List.mem_iff_getElem?.1 ha
    have hcollected := all.each i _ hi
    have hmade' : ∀ path w, ⟨.makeDirs path, w⟩ ∈ exchangesOf (.task i) W → w = .ok () :=
      fun path w hw => hmade path w (hown hw)
    -- the command has been run by the task of this file
    obtain ⟨answer, hcommands⟩ := hcollected.commandsOf_eq hmade'
    have hanswer : (⟨command, answer⟩ : Executed) ∈ commandsOf (exchangesOf (.task i) W) := by
      rw [hcommands]
      exact List.mem_singleton.2 rfl
    have hthere := mem_commandsOf.2 (hown (mem_commandsOf.1 hanswer))
    rw [← List.inj_on_of_nodup_map hnodup succeeded hthere rfl] at hanswer
    obtain ⟨w, hw⟩ := hcollected.writes hmade' hanswer
    exact .file (hown hw) hrest

end

/-- **A run that collects logs succeeds and collects all of them**, whatever becomes of their
commands. -/
theorem Collects.completed (named : WellNamed c nodes) (ho : t₀.Opens dir place)
    (hempty : ∀ rest, rest ≠ [] → t₀.find? (place ++ rest) = none)
    (h : Collects c cluster dir nodes place t₀ L r t) :
    r = .ok () ∧ Completed c cluster nodes dir place t₀ (L.map Turn.exchange) t := by
  have hprogress := h.progress named ho hempty
  cases h.course named with
  | @homeless _ cause => cases hprogress.made dir (.error cause) (by simp [Turn.own])
  | @collected listing W all =>
    have hin : ∀ x ∈ W.map Turn.exchange, x ∈ (.own ⟨.command (c.nodeListing cluster), listing⟩ ::
        .own ⟨.makeDirs dir, .ok ()⟩ :: W : List Turn).map Turn.exchange := fun x hx =>
      List.mem_cons_of_mem _ (List.mem_cons_of_mem _ hx)
    have hissued := (issued_of_collected all fun path w hw =>
      hprogress.made path w (hin _ hw)).cons (c.nodeListing cluster)
    refine ⟨rfl, hissued, fun q item ha => ?_⟩
    rw [hprogress.holds q item ha]
    refine or_congr_right ⟨logItem_of_laid all hin (named.site ho hempty).closed ?_,
      laid_of_logItem all hin hprogress.made (nodup_of_issued named hissued)⟩
    intro path contents w hw
    simpa [Turn.own] using hw

/-! ## Files, one by one -/

section

variable (named : WellNamed c nodes) (ho : t₀.Opens dir place)
  (hempty : ∀ rest, rest ≠ [] → t₀.find? (place ++ rest) = none)
  (h : Completed c cluster nodes dir place t₀ X t)
include named ho hempty h

theorem Completed.find?_eq_some_iff {rest : List String} {item : Files.Item}
    (hrest : LogDirectory nodes rest ∨ LogFile c nodes rest) :
    t.find? (place ++ rest) = some item ↔ LogItem c nodes dir place X (place ++ rest) item := by
  have site := named.site ho hempty
  rw [h.holds _ item (site.untouched rest hrest), hempty rest (site.named rest hrest).1]
  exact or_iff_right nofun

theorem Completed.opens : t.Opens dir place := by
  refine ho.mono fun q hq => (h.holds q .directory fun ha => ?_).2 (.inl hq)
  rw [(named.site ho hempty).fresh q ha] at hq
  cases hq

theorem Completed.chain {pre : List String} {name : String}
    (hrest : LogDirectory nodes (pre ++ [name]) ∨ LogFile c nodes (pre ++ [name])) :
    t.Chain place pre := by
  have site := named.site ho hempty
  intro p hp
  by_cases hne : p = []
  · rw [hne, List.append_nil]
    exact (h.opens named ho hempty).isDirectory
  · have hpre : pre ≠ [] := fun he => hne (List.prefix_nil.1 (he ▸ hp))
    have hdir : LogDirectory nodes pre := by
      obtain hrest | hrest := hrest
      · exact site.closed _ pre hrest (List.prefix_append _ _) hpre
      · have hhouse := site.housed _ hrest
        rw [List.dropLast_concat] at hhouse
        exact hhouse hpre
    have hdirp := site.closed pre p hdir hp hne
    exact (h.find?_eq_some_iff named ho hempty (.inl hdirp)).2 (.directory hdirp)

theorem Completed.find?_eq_none {rest : List String} {label : String} {command : Command}
    {part : Part} {fault : RuntimeFault} (hrest : LogFile c nodes rest)
    (ha : .output (joinAll dir rest) command part label ∈ c.artefacts nodes dir)
    (hfailed : ⟨command, .error fault⟩ ∈ commandsOf X) : t.find? (place ++ rest) = none := by
  rw [Option.eq_none_iff_forall_ne_some]
  intro item hitem
  have hlog := (h.find?_eq_some_iff named ho hempty (.inr hrest)).1 hitem
  generalize hq : place ++ rest = q at hlog
  cases hlog with
  | directory hdir =>
    obtain rfl := List.append_cancel_left hq
    exact (named.site ho hempty).apart _ hrest hdir
  | file _ ha' succeeded =>
    obtain rfl := List.append_cancel_left hq
    cases List.inj_on_of_nodup_map (nodup_paths named) ha ha' rfl
    cases List.inj_on_of_nodup_map (nodup_of_issued named h.issued) hfailed succeeded rfl

/-- **A file is there just when its own command has succeeded, with what this has printed.** -/
theorem Completed.resolve_eq {path label : String} {command : Command} {part : Part}
    (ha : .output path command part label ∈ c.artefacts nodes dir) :
    ∃ answer, ⟨command, answer⟩ ∈ commandsOf X ∧ (t.resolve path).map Prod.snd =
      (answer.map fun o => .file false (part.of o)).mapError fun _ => .notFound := by
  obtain ⟨⟨_, answer⟩, hrun, rfl⟩ : ∃ e ∈ commandsOf X, e.command = command :=
    List.mem_map.1 (h.issued.mem_iff.2 (List.mem_cons_of_mem _ (List.mem_map_of_mem ha)))
  refine ⟨answer, hrun, ?_⟩
  obtain ⟨rest, hat⟩ := exists_at ha
  cases hat with
  | output hrest =>
    have site := named.site ho hempty
    obtain ⟨hne, hnames⟩ := site.named rest (.inr hrest)
    obtain ⟨pre, name, rfl⟩ : ∃ pre name, rest = pre ++ [name] :=
      ⟨_, _, (List.dropLast_concat_getLast hne).symm⟩
    rw [Tree.resolve_joinAll (h.opens named ho hempty)
      (fun n hn => hnames n (List.mem_append_left _ hn)) (hnames name (by simp))
      (h.chain named ho hempty (.inr hrest))]
    cases answer with
    | ok o =>
      rw [(h.find?_eq_some_iff named ho hempty (.inr hrest)).2 (.file hrest ha hrun)]
      rfl
    | error fault =>
      rw [h.find?_eq_none named ho hempty hrest ha hrun]
      rfl

theorem Completed.walk_eq {rest : List String} (hat : a.At c nodes dir rest) :
    t.walk (Tree.origin a.path) (Tree.names a.path) = .ok (place ++ rest) := by
  have hrest : LogDirectory nodes rest ∨ LogFile c nodes rest := by
    cases hat with
    | output hfile => exact .inr hfile
    | copy hn => exact .inl (.copies hn)
  obtain ⟨hne, hnames⟩ := (named.site ho hempty).named rest hrest
  obtain ⟨pre, name, rfl⟩ : ∃ pre name, rest = pre ++ [name] :=
    ⟨_, _, (List.dropLast_concat_getLast hne).symm⟩
  rw [hat.path_eq]
  exact Tree.walk_joinAll (h.opens named ho hempty)
    (fun n hn => hnames n (List.mem_append_left _ hn)) (hnames name (by simp))
    (h.chain named ho hempty hrest)

end

/-! ## Two runs -/

section

variable {X' : List (Exchange Request Request.Answer)} {t' : Tree} {command : Command} {q : Place}

theorem LogItem.of_agree {item : Files.Item} (h : LogItem c nodes dir place X q item)
    (hsame : ∀ e ∈ commandsOf X, e.command ≠ command → e ∈ commandsOf X')
    (hother : ∀ a ∈ c.artefacts nodes dir, ∀ rest, a.At c nodes dir rest → a.command = command →
      q ≠ place ++ rest) : LogItem c nodes dir place X' q item := by
  cases h with
  | directory hrest => exact .directory hrest
  | file hrest ha succeeded =>
    refine .file hrest ha (hsame _ succeeded fun hcommand => ?_)
    exact hother _ ha _ (.output hrest) hcommand rfl

variable (named : WellNamed c nodes) (h : Completed c cluster nodes dir place t₀ X t)
  (h' : Completed c cluster nodes dir place t₀ X' t')
  (hsame : ∀ e ∈ commandsOf X, e.command ≠ command → e ∈ commandsOf X')
include named h h' hsame

/-- Both runs have the same commands, so their answers agree in both directions. -/
theorem Completed.agree_symm : ∀ e ∈ commandsOf X', e.command ≠ command → e ∈ commandsOf X := by
  intro e he hne
  have hperm := h'.issued.trans h.issued.symm
  obtain ⟨e₀, he₀, hcommand⟩ := List.mem_map.1 (hperm.mem_iff.1 (List.mem_map_of_mem he))
  have hthere := hsame e₀ he₀ (hcommand ▸ hne)
  rwa [← List.inj_on_of_nodup_map (nodup_of_issued named h'.issued) hthere he hcommand]

/-- **Elsewhere, the two runs have left the same.** -/
theorem Completed.find?_eq (ha : ¬ CopiedPlace nodes place q)
    (hother : ∀ a ∈ c.artefacts nodes dir, ∀ rest, a.At c nodes dir rest → a.command = command →
      q ≠ place ++ rest) : t'.find? q = t.find? q := by
  refine Option.ext fun item => ?_
  rw [h.holds q item ha, h'.holds q item ha]
  refine or_congr_right ⟨fun hlog => ?_, fun hlog => hlog.of_agree hsame hother⟩
  exact hlog.of_agree (h.agree_symm named h' hsame) hother

end

/-- The nodes of a cluster. -/
def eastAndWest : List Node := [⟨"east", .controlPlane, {}⟩, ⟨"west", .worker, {}⟩]

/-- A tree with an empty directory for logs. -/
def emptyLogs : Tree := ⟨[(["work"], .directory), (["work", "logs"], .directory)]⟩

/-- The command that asks a node for what its kubelet has logged. -/
def kubeletJournal (node : String) : Command :=
  ({} : Engine).execution node ["journalctl", "--no-pager", "-u", "kubelet.service"] none

/-- Every command succeeds, except one perhaps. -/
def failingAt (failing : Option Command) (command : Command) : Except RuntimeFault Output :=
  if command = ({} : Containers).nodeListing "demo" then
    .ok (.ofText "east\tcontrol-plane\nwest\tworker\n")
  else if some command = failing then .error (.invocation command.display (some 1) "")
  else .ok (.ofText "up\n")

theorem wellNamed_eastAndWest : WellNamed {} eastAndWest where
  binary := by decide
  members := by decide
  apart := by decide
  distinct := by decide

theorem emptyLogs_empty :
    ∀ rest, rest ≠ [] → emptyLogs.find? (["work", "logs"] ++ rest) = none := by
  rintro (_ | ⟨name, rest⟩) h
  · exact absurd rfl h
  · simp [emptyLogs, Tree.find?]

theorem westJournal_mem : ∃ label, Artefact.output "logs/west/kubelet.log" (kubeletJournal "west")
    .both label ∈ ({} : Containers).artefacts eastAndWest "logs" := by
  have hpath : joinPath (joinPath "logs" "west") "kubelet.log" = "logs/west/kubelet.log" := by
    decide +kernel
  rw [← hpath]
  exact ⟨_, List.mem_of_getElem? (i := 13) rfl⟩

end LocalCluster.Cluster
