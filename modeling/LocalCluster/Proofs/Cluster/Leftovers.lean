import LocalCluster.Proofs.Cluster.Creation
import LocalCluster.Proofs.Cluster.Labels
import LocalCluster.Proofs.Container.Keeping

/-!
# What a failed creation leaves behind

After a failure the containers of a cluster are listed once, and those are removed. Tasks that are
still creating containers at that moment are not waited for.

* `Member`: a container is labelled with a cluster; `Planned`: it is one that was planned.
* `planned_of_started`: what the tasks start; `listed_of_kept`: what a listing finds of it.
* `members_of_swept`: what is left when everything listed has been removed.
* **`members_started_late`**: what is left in the end are the containers that were started after the
  listing.
-/

namespace LocalCluster.Cluster

open LocalCluster.Container LocalCluster.Text Script Bootstrap Containers

variable {c : Containers} {s : Spec} {cluster : String} {creations : List Creation}
variable {t : List (Exchange Request Request.Answer)} {before K K₁ K₂ : List Kept}

/-- The container is labelled with the cluster. -/
def Member (cluster : String) (k : Kept) : Bool := decide (k.label? clusterLabel = some cluster)

/-- The container is one that was planned for the cluster. -/
def Planned (cluster : String) (k : Kept) : Prop :=
  ∃ creation, Marked (cluster, creation) ∧ k = markOf cluster creation

theorem Planned.member {k : Kept} (h : Planned cluster k) : Member cluster k = true := by
  obtain ⟨creation, -, rfl⟩ := h
  exact decide_eq_true label?_cluster

/-! ## What is started -/

/-- **What was to be started of the planned containers was planned, and of what has been started no
two have one name.** -/
theorem planned_of_started (p : PlannedCluster)
    (h : ((startsOf t).map Executed.command).Perm
      (p.creations.map fun creation => c.engine.command creation.args)) :
    (∀ k ∈ wantedBy t, Planned p.spec.name k) ∧ ((startedBy t).map Kept.name).Nodup := by
  have hkept : ∀ creation ∈ p.creations,
      kept? creation.args = some (markOf p.spec.name creation) := fun creation hc =>
    p.kept (List.mem_map_of_mem hc)
  constructor
  · intro k hk
    obtain ⟨e, he, hkeep⟩ := List.mem_filterMap.1 hk
    have hstart := h.mem_iff.1 (List.mem_map_of_mem he)
    obtain ⟨creation, hc, hcommand⟩ := List.mem_map.1 hstart
    rw [← hcommand] at hkeep
    refine ⟨creation, p.marked (List.mem_map_of_mem hc), ?_⟩
    exact Option.some.inj (hkeep.symm.trans (hkept creation hc))
  · -- the names of all starts, whether they went well or not, are those of the plan
    let nameOf : Command → Option String := fun command => (kept? command.args).map Kept.name
    have hstarts : ((startsOf t).map Executed.command).filterMap nameOf =
        (startsOf t).filterMap fun e => nameOf e.command := List.filterMap_map ..
    have hplan : (p.creations.map fun creation => c.engine.command creation.args).filterMap nameOf =
        p.creations.map Creation.name := by
      rw [List.filterMap_map]
      refine (List.filterMap_congr fun creation hc => ?_).trans (congrFun List.filterMap_eq_map' _)
      show (kept? creation.args).map Kept.name = some creation.name
      rw [hkept creation hc]
      rfl
    have hnodup : (p.creations.map Creation.name).Nodup := by
      have := p.nodup_names
      rwa [PlannedCluster.operations, List.map_map] at this
    have hall : ((startsOf t).filterMap fun e => nameOf e.command).Nodup := by
      rw [← hstarts, (h.filterMap nameOf).nodup_iff, hplan]
      exact hnodup
    rw [startedBy, List.map_filterMap]
    exact (List.filter_sublist.filterMap _).nodup hall

/-! ## What is listed -/

theorem exists_creations (h : ∀ k ∈ K, Planned cluster k) :
    ∃ made : List Creation, K = made.map (markOf cluster) ∧
      ∀ creation ∈ made, Marked (cluster, creation) := by
  induction K with
  | nil => exact ⟨[], rfl, nofun⟩
  | cons k K ih =>
    obtain ⟨⟨creation, hmarked, rfl⟩, hrest⟩ := List.forall_mem_cons.1 h
    obtain ⟨made, rfl, hall⟩ := ih hrest
    exact ⟨creation :: made, rfl, List.forall_mem_cons.2 ⟨hmarked, hall⟩⟩

/-- **A listing finds the planned containers** among any others that are not of the cluster. -/
theorem listed_of_kept {answer : Except RuntimeFault Output}
    (hfree : ∀ k ∈ before, Member cluster k = false) (hplanned : ∀ k ∈ K, Planned cluster k)
    (hnodup : (K.map Kept.name).Nodup)
    (honest : Honest (before ++ K) ⟨.command (c.nodeListing cluster), answer⟩) :
    ∃ nodes, c.nodesIn answer = .ok nodes ∧ (nodes.map Node.name).Perm (K.map Kept.name) := by
  obtain ⟨made, rfl, hmarked⟩ := exists_creations hplanned
  let created := made.map fun creation => (cluster, creation)
  have hmarks : ∀ x ∈ created, Marked x := fun x hx => by
    obtain ⟨creation, hc, rfl⟩ := List.mem_map.1 hx
    exact hmarked creation hc
  have hstore : storeOf created = made.map (markOf cluster) := by
    rw [storeOf, List.filterMap_map]
    refine (List.filterMap_congr fun creation hc => ?_).trans (congrFun List.filterMap_eq_map' _)
    exact (hmarked creation hc).kept
  have hown : created.filter (·.1 = cluster) = created :=
    List.filter_eq_self.2 fun x hx => by
      obtain ⟨creation, -, rfl⟩ := List.mem_map.1 hx
      exact decide_eq_true rfl
  have hnames : created.map (fun x => x.2.name) = (made.map (markOf cluster)).map Kept.name := by
    rw [List.map_map, List.map_map]
    rfl
  have honest' : Honest (storeOf created) ⟨.command (c.nodeListing cluster), answer⟩ := by
    rintro filter format hargs
    obtain ⟨rows, stderr, hrows, hanswer⟩ := honest filter format hargs
    obtain rfl : "label=" ++ clusterLabel ++ "=" ++ cluster = filter :=
      Option.some.inj (congrArg (·[3]?) hargs)
    have hothers : before.filter (·.passes ("label=" ++ clusterLabel ++ "=" ++ cluster)) = [] :=
      List.filter_eq_nil_iff.2 fun k hk => by
        rw [passes_value (by decide)]
        exact Bool.eq_false_iff.1 (hfree k hk)
    rw [List.filter_append, hothers, List.nil_append, ← hstore] at hrows
    exact ⟨rows, stderr, hrows, hanswer⟩
  obtain ⟨nodes, hnodes, hperm, -⟩ := listNodes_created hmarks (by rw [hown, hnames]; exact hnodup)
    (follows_listNodes_iff.2 ⟨answer, rfl, rfl⟩) (List.forall_mem_singleton.2 honest')
  refine ⟨nodes, hnodes, ?_⟩
  have hfirst := hperm.map Prod.fst
  rw [hown, List.map_map, List.map_map] at hfirst
  rw [← hnames]
  exact hfirst

/-! ## What is left -/

theorem filter_member (hfree : ∀ k ∈ before, Member cluster k = false)
    (hplanned : ∀ k ∈ K, Planned cluster k) : (before ++ K).filter (Member cluster) = K := by
  rw [List.filter_append, List.filter_eq_nil_iff.2 fun k hk => by simp [hfree k hk],
    List.filter_eq_self.2 fun k hk => (hplanned k hk).member]
  rfl

/-- **What is left when everything listed has been removed**: the containers of the cluster that
have been started since. -/
theorem members_of_swept {names : List String} (hfree : ∀ k ∈ before, Member cluster k = false)
    (hplanned : ∀ k ∈ K₂ ++ K, Planned cluster k) (hnodup : ((K₁ ++ K₂).map Kept.name).Nodup)
    (hnames : names.Perm (K₁.map Kept.name)) :
    (((before ++ (K₁ ++ K₂)).filter fun k => ! names.contains k.name) ++ K).filter
      (Member cluster) = K₂ ++ K := by
  have hlisted : (K₁.filter fun k => ! names.contains k.name) = [] :=
    List.filter_eq_nil_iff.2 fun k hk => by
      have hin := hnames.mem_iff.2 (List.mem_map_of_mem (f := Kept.name) hk)
      simp [hin]
  have hlate : (K₂.filter fun k => ! names.contains k.name) = K₂ :=
    List.filter_eq_self.2 fun k hk => by
      rw [List.map_append] at hnodup
      have hnot : k.name ∉ names := fun hin =>
        List.disjoint_of_nodup_append hnodup (hnames.mem_iff.1 hin) (List.mem_map_of_mem hk)
      simp [hnot]
  have hkept : ((before ++ (K₁ ++ K₂)).filter fun k => ! names.contains k.name) =
      (before.filter fun k => ! names.contains k.name) ++ K₂ := by
    rw [List.filter_append, List.filter_append, hlisted, hlate, List.nil_append]
  rw [hkept, List.append_assoc]
  exact filter_member (fun k hk => hfree k (List.mem_of_mem_filter hk)) hplanned

/-! ## Cleaning up beside tasks -/

/-- Nothing has been removed so far, whatever was to be started was planned, and no two containers
have been started with one name. -/
structure Orderly (cluster : String) (t : List (Exchange Request Request.Answer)) : Prop where
  quiet : ∀ e ∈ commandsOf t, e.command.isRemoval = false
  planned : ∀ k ∈ wantedBy t, Planned cluster k
  nodup : ((startedBy t).map Kept.name).Nodup

theorem Orderly.started (h : Orderly cluster t) : ∀ k ∈ startedBy t, Planned cluster k :=
  fun k hk => h.planned k (startedBy_sublist_wantedBy.subset hk)

section

variable {A B rest : List (Exchange Request Request.Answer)} {after : List Kept}
variable {answer : Except RuntimeFault Output}

theorem Orderly.left (h : Orderly cluster (A ++ B)) : Orderly cluster A := by
  obtain ⟨hquiet, hplanned, hnodup⟩ := h
  rw [wantedBy_append] at hplanned
  rw [startedBy_append] at hnodup
  rw [commandsOf_append] at hquiet
  rw [List.map_append] at hnodup
  exact ⟨fun e he => hquiet e (List.mem_append_left _ he),
    fun k hk => hplanned k (List.mem_append_left _ hk), hnodup.of_append_left⟩

theorem Orderly.right (h : Orderly cluster (A ++ B)) : Orderly cluster B := by
  obtain ⟨hquiet, hplanned, hnodup⟩ := h
  rw [wantedBy_append] at hplanned
  rw [startedBy_append] at hnodup
  rw [commandsOf_append] at hquiet
  rw [List.map_append] at hnodup
  exact ⟨fun e he => hquiet e (List.mem_append_right _ he),
    fun k hk => hplanned k (List.mem_append_right _ hk), hnodup.of_append_right⟩

/-- **A listing in a run finds what has been started so far.** -/
theorem listed_in_between (hfree : ∀ k ∈ before, Member cluster k = false)
    (orderly : Orderly cluster A)
    (h : Keeping before (A ++ ⟨.command (c.nodeListing cluster), answer⟩ :: rest) after) :
    ∃ nodes, c.nodesIn answer = .ok nodes ∧
      (nodes.map Node.name).Perm ((startedBy A).map Kept.name) ∧
      Keeping (before ++ startedBy A) rest after := by
  obtain ⟨middle, hA, hrest⟩ := keeping_append_iff.1 h
  obtain rfl := hA.eq_append orderly.quiet
  cases hrest with
  | cons honest _ hrest =>
    obtain ⟨nodes, hnodes, hnames⟩ := listed_of_kept hfree orderly.started orderly.nodup honest
    rw [keptAfter_eq (by rintro _ ⟨⟩; rfl), startedBy_cons rfl, startedBy_nil,
      List.append_nil] at hrest
    exact ⟨nodes, hnodes, hnames, hrest⟩

theorem members_of_nobody (hfree : ∀ k ∈ before, Member cluster k = false)
    (orderly : Orderly cluster (A ++ B))
    (hnobody : ∀ nodes, c.nodesIn answer = .ok nodes → nodes = [])
    (h : Keeping before (A ++ ⟨.command (c.nodeListing cluster), answer⟩ :: B) after) :
    after.filter (Member cluster) = startedBy B := by
  obtain ⟨nodes, hnodes, hnames, hkeeping⟩ := listed_in_between hfree orderly.left h
  obtain rfl := hnobody nodes hnodes
  have hnone : startedBy A = [] := List.map_eq_nil_iff.1 (List.nil_perm.1 hnames)
  rw [hkeeping.eq_append orderly.right.quiet, hnone, List.append_nil]
  exact filter_member hfree orderly.right.started

/-- When those listed have been removed, all that is left has been started since they were
listed. -/
theorem members_of_removed {C : List (Exchange Request Request.Answer)} {nodes : List Node}
    {removal : Except RuntimeFault Output} (hfree : ∀ k ∈ before, Member cluster k = false)
    (orderly : Orderly cluster (A ++ (B ++ C))) (hnodes : c.nodesIn answer = .ok nodes)
    (h : Keeping before (A ++ ⟨.command (c.nodeListing cluster), answer⟩ ::
      (B ++ ⟨.command (c.removing nodes), removal⟩ :: C)) after) :
    after.filter (Member cluster) = startedBy (B ++ C) := by
  have hBC := orderly.right
  have hAB : Orderly cluster (A ++ B) := by
    rw [← List.append_assoc] at orderly
    exact orderly.left
  obtain ⟨nodes', hnodes', hnames, hkeeping⟩ := listed_in_between hfree orderly.left h
  obtain rfl := Except.ok.inj (hnodes.symm.trans hnodes')
  obtain ⟨middle, hmiddle, hlast⟩ := keeping_append_iff.1 hkeeping
  obtain rfl := hmiddle.eq_append hBC.left.quiet
  cases hlast with
  | cons _ removes hlast =>
    cases removal with
    | error fault => cases removes _ fault rfl
    | ok o =>
      have hswept : keptAfter (before ++ startedBy A ++ startedBy B)
          ⟨.command (c.removing nodes), .ok o⟩ =
          (before ++ (startedBy A ++ startedBy B)).filter
            fun k => ! (nodes.map Node.name).contains k.name := by
        rw [List.append_assoc]
        rfl
      rw [hlast.eq_append hBC.right.quiet, hswept, startedBy_append]
      have hplanned := hBC.started
      have hnodup := hAB.nodup
      rw [startedBy_append] at hplanned hnodup
      exact members_of_swept hfree hplanned hnodup hnames

theorem Orderly.insert {u : List (Exchange Request Request.Answer)} (h : Orderly cluster (A ++ B))
    (hu : ∀ x ∈ u, LeavesContainers x.question) : Orderly cluster (A ++ (u ++ B)) := by
  have hwanted : wantedBy (A ++ (u ++ B)) = wantedBy (A ++ B) := by
    rw [wantedBy_append, wantedBy_append, wantedBy_eq_nil hu, List.nil_append, wantedBy_append]
  have hstarted : startedBy (A ++ (u ++ B)) = startedBy (A ++ B) := by
    rw [startedBy_append, startedBy_append, startedBy_eq_nil hu, List.nil_append,
      startedBy_append]
  refine ⟨fun e he => ?_, by rw [hwanted]; exact h.planned, by rw [hstarted]; exact h.nodup⟩
  rw [commandsOf_append, commandsOf_append] at he
  rcases List.mem_append.1 he with he | he
  · exact h.left.quiet e he
  · rcases List.mem_append.1 he with he | he
    · exact (LeavesContainers.of_mem hu he).2
    · exact h.right.quiet e he

end

section

variable {tasks tasks' mid : List (Routine LocalCluster.Outcome)} {P L : List Turn}
variable {cleaning : List (Exchange Demand Demand.Answer)} {after : List Kept}

/-- A clean-up lists the nodes, and it removes those listed unless there are none. -/
theorem Cleaned.listing (h : Cleaned c cluster cleaning) :
    ∃ answer, (cleaning = [⟨.single (.command (c.nodeListing cluster)), answer⟩] ∧
      ∀ nodes, c.nodesIn answer = .ok nodes → nodes = []) ∨
      ∃ nodes removal, cleaning = [⟨.single (.command (c.nodeListing cluster)), answer⟩,
        ⟨.single (.command (c.removing nodes)), removal⟩] ∧ c.nodesIn answer = .ok nodes := by
  cases h with
  | @unlisted answer fault h => exact ⟨answer, .inl ⟨rfl, fun nodes hn => by simp [h] at hn⟩⟩
  | @nobody answer h => exact ⟨answer, .inl ⟨rfl, fun nodes hn => by simp_all⟩⟩
  | @removed answer removal nodes h _ => exact ⟨answer, .inr ⟨nodes, removal, rfl, h⟩⟩

/-- **What a clean-up leaves behind** is what the tasks have started since it listed the nodes. -/
theorem members_of_cleaned (hfree : ∀ k ∈ before, Member cluster k = false)
    (orderly : ∀ M, Worked tasks M tasks' → Orderly cluster ((P ++ M).map Turn.exchange))
    (hclean : Cleaned c cluster cleaning) (hw : Weave tasks cleaning L tasks')
    (keeping : Keeping before ((P ++ L).map Turn.exchange) after) :
    ∃ early late, L = early ++ late ∧ (∃ x rest, late = .own x :: rest) ∧
      Cleaned c cluster ((exchangesOf .program late).map Exchange.single) ∧
      after.filter (Member cluster) = startedBy (late.map Turn.exchange) ∧
      (AllDone tasks → startedBy (late.map Turn.exchange) = []) := by
  obtain ⟨answer, ⟨rfl, hnobody⟩ | ⟨nodes, removal, rfl, hnodes⟩⟩ := hclean.listing
  · cases hw with
    | @single _ mid _ _ _ _ A B hearly hrest =>
      cases hrest with
      | rest hlate =>
        have horderly := orderly (A ++ B) (hearly.trans hlate)
        simp only [List.map_append, List.map_cons] at horderly keeping
        rw [← List.append_assoc] at horderly keeping
        refine ⟨A, _, rfl, ⟨_, B, rfl⟩, ?_, ?_, fun hdone => ?_⟩
        · rw [Turn.own, exchangesOf_cons_self, hlate.exchangesOf_program]
          exact hclean
        · rw [members_of_nobody hfree horderly hnobody keeping, List.map_cons]
          exact (startedBy_cons rfl).symm
        · obtain ⟨-, rfl⟩ := hearly.idle hdone
          obtain ⟨rfl, -⟩ := hlate.idle hdone
          exact startedBy_cons rfl
  · cases hw with
    | @single _ mid _ _ _ _ A _ hearly hrest =>
      cases hrest with
      | @single _ mid' _ _ _ _ B C hmiddle hrest =>
        cases hrest with
        | rest hlate =>
          have horderly := orderly (A ++ (B ++ C)) (hearly.trans (hmiddle.trans hlate))
          simp only [List.map_append, List.map_cons] at horderly keeping
          rw [← List.append_assoc] at horderly keeping
          refine ⟨A, _, rfl, ⟨_, _, rfl⟩, ?_, ?_, fun hdone => ?_⟩
          · rw [Turn.own, exchangesOf_cons_self, exchangesOf_append, hmiddle.exchangesOf_program,
              Turn.own, List.nil_append, exchangesOf_cons_self, hlate.exchangesOf_program]
            exact hclean
          · rw [members_of_removed hfree horderly hnodes keeping]
            simp only [List.map_append, List.map_cons, Turn.own, startedBy_append]
            rw [startedBy_cons rfl, startedBy_append, startedBy_cons rfl]
          · obtain ⟨-, rfl⟩ := hearly.idle hdone
            obtain ⟨rfl, rfl⟩ := hmiddle.idle hdone
            obtain ⟨rfl, -⟩ := hlate.idle hdone
            exact (startedBy_cons rfl).trans (startedBy_cons rfl)

/-! ## Building beside tasks -/

theorem orderly_of_created {W : List Turn} {r : Except Fault Unit} (ready : Ready c s t creations)
    (created : Created c creations W r) : Orderly s.name (W.map Turn.exchange) := by
  obtain ⟨proxies, remapped, tp, ports, -, hplan⟩ := ready.planned
  obtain ⟨hplanned, hnodup⟩ :=
    planned_of_started ⟨s, proxies, remapped, {}, creations, tp, ports, hplan⟩ created.starts
  exact ⟨created.isRemoval ready.head?, hplanned, hnodup⟩

section

variable {report : Status} {path : String} {r : Except Fault Unit} {M : List Turn}
variable {T : List (Exchange Demand Demand.Answer)}

/-- A cluster that is bootstrapped has been provisioned, and no task of that is left: whatever has
been started stands among the turns of the tasks. -/
theorem provisioned_of_bootstrapped {drawn : Nat} {t' : History} {progress : Progress}
    (provisioned : Follows (c.provision s).run T (.ok ()))
    (run : Follows (Pipeline.standard.run report (.ofContainers c)
      (bootstrapContext s path drawn)) t' progress)
    (hw : Weave [] (T ++ ⟨.single .draw, drawn⟩ :: t'.map Exchange.single) P mid) :
    AllDone mid ∧ ∃ prepared creations W boot, Ready c s prepared creations ∧
      Created c creations W (.ok ()) ∧
      P.map Turn.exchange = prepared ++ (W.map Turn.exchange ++ boot) ∧
      (∀ x ∈ prepared, LeavesContainers x.question) ∧
      ∀ x ∈ boot, LeavesContainers x.question := by
  obtain ⟨P₁, P₂, mid₁, rfl, hw₁, hw₂⟩ := weave_append_iff.1 hw
  obtain ⟨t, fault, -, -, -, he⟩ | ⟨t, creations, W, ht, rfl, hworked, hdelivered⟩ :=
    provisioned_of_weave provisioned hw₁
  · cases he
  · have hdone : AllDone mid₁ := by
      refine Delivered.allDone ?_
      rw [hworked.length_eq, length_creatingTasks]
      exact hdelivered
    obtain ⟨rfl, rfl⟩ := Weave.idle (t := ⟨.draw, drawn⟩ :: t') hdone hw₂
    have ready := ready_of_prepare ht
    refine ⟨hdone, t, creations, W, ⟨.draw, drawn⟩ :: t', ready,
      created_of_worked ready.head? hworked hdone hdelivered, ?_, prepare_leavesContainers ht,
      List.forall_mem_cons.2 ⟨leavesContainers_of_not_command rfl,
        bootstrap_leavesContainers run⟩⟩
    rw [List.map_append, List.map_append, map_exchange_own, map_exchange_own, List.append_assoc]

/-- **While a cluster is built, everything is in order**, and when its containers have been
provisioned, no task is left. -/
theorem orderly_of_built (h : Built c report s path T r) (hw : Weave [] T P mid) :
    (∀ M, Worked mid M tasks → AllDone tasks → Orderly s.name ((P ++ M).map Turn.exchange)) ∧
      (AllDone mid ∨ ∃ T, Follows (c.provision s).run T r) := by
  have hnil : Orderly s.name [] := ⟨nofun, nofun, List.nodup_nil⟩
  cases h with
  | @unprovisioned T fault provisioned =>
    refine ⟨fun M hM hdone => ?_, .inr ⟨T, provisioned⟩⟩
    obtain ⟨t, fault, ht, rfl, rfl, -⟩ | ⟨t, creations, W, ht, rfl, hworked, hdelivered⟩ :=
      provisioned_of_weave provisioned hw
    · obtain ⟨rfl, -⟩ := hM.idle allDone_nil
      rw [List.append_nil, map_exchange_own, ← List.append_nil t]
      exact Orderly.insert (A := []) hnil (prepare_leavesContainers ht)
    · have ready := ready_of_prepare ht
      have created := created_of_worked ready.head? (hworked.trans hM) hdone (hdelivered.later hM)
      rw [List.append_assoc, List.map_append, map_exchange_own]
      exact Orderly.insert (A := []) (orderly_of_created ready created)
        (prepare_leavesContainers ht)
  | bootstrapped provisioned run =>
    obtain ⟨hdone, prepared, creations, W, boot, ready, created, hP, hprepared, hboot⟩ :=
      provisioned_of_bootstrapped provisioned run hw
    refine ⟨fun M hM _ => ?_, .inl hdone⟩
    obtain ⟨rfl, rfl⟩ := hM.idle hdone
    have horderly := orderly_of_created ready created
    rw [← List.append_nil (W.map Turn.exchange)] at horderly
    have hrest := Orderly.insert (A := []) (horderly.insert hboot) hprepared
    rw [List.append_nil, hP]
    simpa using hrest

/-- A cluster that has been built has started all that it was to start. -/
theorem wantedBy_of_built (h : Built c report s path T (.ok ())) (hw : Weave [] T P mid)
    (hM : Worked mid M tasks) :
    wantedBy ((P ++ M).map Turn.exchange) = startedBy ((P ++ M).map Turn.exchange) := by
  generalize hr : Except.ok () = r at h
  cases h with
  | unprovisioned => cases hr
  | bootstrapped provisioned run =>
    obtain ⟨hdone, prepared, creations, W, boot, -, created, hP, hprepared, hboot⟩ :=
      provisioned_of_bootstrapped provisioned run hw
    obtain ⟨rfl, -⟩ := hM.idle hdone
    rw [List.append_nil, hP, wantedBy_append, wantedBy_append, wantedBy_eq_nil hprepared,
      wantedBy_eq_nil hboot, startedBy_append, startedBy_append, startedBy_eq_nil hprepared,
      startedBy_eq_nil hboot, wantedBy_eq_startedBy]
    exact fun e he => created.result.1 rfl e (List.mem_of_mem_filter he)

end

end

/-! ## Failed creations -/

/-- **What a failed creation leaves behind.** Let nothing of the cluster be there before, and let
the nodes not be retained. Then the run of a creation that fails, with everything that its tasks
still do, has a last part, which begins with the listing of the clean-up if there is a clean-up at
all; and the containers of the cluster that are there in the end are exactly those that were started
in that part. There are none unless it was the provisioning that failed. -/
theorem members_started_late (c : Containers) (report : Status) (s : Spec) (o : Manager.Options)
    {L : List Turn} {fault : Fault} {before after : List Kept} (hretain : o.retain = false)
    (hfree : ∀ k ∈ before, Member s.name k = false)
    (run : (Manager.create ⟨.ofContainers c, report⟩ s o).run.Runs L (.error fault))
    (keeping : Keeping before (L.map Turn.exchange) after) :
    ∃ early late, L = early ++ late ∧
      (late = [] ∨ (∃ x rest, late = .own x :: rest) ∧
        Cleaned c s.name ((exchangesOf .program late).map Exchange.single)) ∧
      after.filter (Member s.name) = startedBy (late.map Turn.exchange) ∧
      (startedBy (late.map Turn.exchange) ≠ [] →
        ∃ T, Follows (c.provision s).run T (.error fault)) := by
  obtain ⟨T, tasks, hT, hw, hdone⟩ := runs_iff_weave.1 run
  -- a creation that only lists leaves everything as it is
  have hlisting : ∀ {t : History}, (∀ x ∈ t, LeavesContainers x.question) →
      T = t.map Exchange.single → after.filter (Member s.name) = [] := by
    rintro t ht rfl
    obtain ⟨rfl, -⟩ := hw.idle allDone_nil
    rw [map_exchange_own] at keeping
    rw [keeping.eq_append fun e he => (LeavesContainers.of_mem ht he).2, startedBy_eq_nil ht]
    exact filter_member hfree nofun
  have hclusters : ∀ {answer}, ∀ x ∈ ([⟨.command c.clusterListing, answer⟩] : History),
      LeavesContainers x.question := by
    refine List.forall_mem_singleton.2 ?_
    rintro command ⟨⟩
    exact ⟨rfl, rfl⟩
  cases attempted_of_follows hT with
  | invalid => exact ⟨L, [], by simp, .inl rfl, hlisting (t := []) nofun rfl, fun h => absurd rfl h⟩
  | unlisted => exact ⟨L, [], by simp, .inl rfl, hlisting hclusters rfl, fun h => absurd rfl h⟩
  | present => exact ⟨L, [], by simp, .inl rfl, hlisting hclusters rfl, fun h => absurd rfl h⟩
  | @ended answer names built cleaning _ _ _ _ hbuilt _ hfault =>
    have hclean : Cleaned c s.name cleaning := by
      have := hfault fault rfl
      rwa [hretain] at this
    have hw' : Weave [] ([⟨.single (.command c.clusterListing), answer⟩] ++ (built ++ cleaning)) L
      tasks := hw
    obtain ⟨P₁, L₁, mid₁, rfl, hlist, hrest⟩ := weave_append_iff.1 hw'
    obtain ⟨P₂, L₂, mid, rfl, hbuilding, hcleaning⟩ := weave_append_iff.1 hrest
    obtain ⟨rfl, rfl⟩ := Weave.idle (t := [⟨.command c.clusterListing, answer⟩]) allDone_nil hlist
    obtain ⟨horderly, hended⟩ := orderly_of_built hbuilt hbuilding
    have horderly' : ∀ M, Worked mid M tasks →
        Orderly s.name (([Turn.own ⟨.command c.clusterListing, answer⟩] ++ P₂ ++ M).map
          Turn.exchange) := fun M hM =>
      Orderly.insert (A := []) (horderly M hM hdone) hclusters
    rw [← List.append_assoc] at keeping
    obtain ⟨early, late, rfl, hfirst, hlate, hmembers, hnone⟩ :=
      members_of_cleaned hfree horderly' hclean hcleaning keeping
    refine ⟨.own ⟨.command c.clusterListing, answer⟩ :: (P₂ ++ early), late, by simp,
      .inr ⟨hfirst, hlate⟩, hmembers, fun hsome => ?_⟩
    exact hended.resolve_left fun hall => hsome (hnone hall)

/-- The creation of a cluster of two nodes. -/
def pairCreation : Program (Except Fault Unit) :=
  (Manager.create ⟨.ofContainers {}, .silent⟩ pairSpec ⟨"/tmp/config", false⟩).run

/-- The control plane of the pair cannot be started, and its worker is started when the nodes have
been listed already. -/
def lateRun : List Turn × Crew (Except Fault Unit) × List Kept :=
  Crew.drive (keeper ["demo-control-plane"]) ⟨.going pairCreation, []⟩ []
    (List.replicate 7 .program ++ [.task 0, .tell 0, .program, .program, .task 1, .task 1])

theorem lateRun_fails : ∃ fault, pairCreation.Runs lateRun.1 (.error fault) := by
  have hend : (lateRun.2.1.result?.any fun r => ! r.isOk) = true := by decide +kernel
  have hidle : lateRun.2.1.isIdle = true := by decide +kernel
  cases hr : lateRun.2.1.result? with
  | none => simp [hr] at hend
  | some r =>
    cases r with
    | ok u => simp [hr, Except.isOk, Except.toBool] at hend
    | error fault => exact ⟨fault, Crew.runs_of_drive _ hr hidle⟩

/-- A worker that is started late is left behind. -/
theorem late_worker_left : ∃ (L : List Turn) (fault : Fault) (after : List Kept),
    pairCreation.Runs L (.error fault) ∧ Keeping [] (L.map Turn.exchange) after ∧
      ∃ k ∈ after, k.name = "demo-worker" ∧ Member pairSpec.name k = true := by
  obtain ⟨fault, hruns⟩ := lateRun_fails
  refine ⟨lateRun.1, fault, lateRun.2.2, hruns, keeping_drive _ _, ?_⟩
  have hleft :
      (lateRun.2.2.any fun k => k.name == "demo-worker" && Member pairSpec.name k) = true := by
    decide +kernel
  simpa using hleft

theorem lateRun_members : ∃ early late, lateRun.1 = early ++ late ∧
    lateRun.2.2.filter (Member pairSpec.name) = startedBy (late.map Turn.exchange) := by
  obtain ⟨fault, hruns⟩ := lateRun_fails
  obtain ⟨early, late, hsplit, -, hmembers, -⟩ :=
    members_started_late {} .silent pairSpec ⟨"/tmp/config", false⟩ rfl (List.forall_mem_nil _)
      hruns (keeping_drive _ _)
  exact ⟨early, late, hsplit, hmembers⟩

end LocalCluster.Cluster
