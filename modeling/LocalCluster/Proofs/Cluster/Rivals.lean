import LocalCluster.Proofs.Cluster.Leftovers
import LocalCluster.Proofs.Container.Sharing

/-!
# Two creations of one cluster

Two clients create a cluster of one name before the same engine. Each of them checks first that the
cluster is not there, and each cleans up after a failure by the label of the cluster. Nothing keeps
the one from what the other has created.

* `Course`: the ways in which a creation goes before an engine; **`course_of_runs`**.
* `free_of_passed`: a cluster that is not listed has no container.
* `Tidy`: the containers of a cluster can be listed; **`Tidy.step`**, `Tidy.run`: what an exchange
  keeps, and what any number of them keep; `Tidy.listed`: what a listing finds.
* `Sweep`: the clean-up of one client between what both of them do; `sweep_of_courses`;
  **`Sweep.not_mem_left`**, **`Sweep.mem_after`**: what it removes and what it spares.
* **`rival_creations`**: two creations in any interleaving; **`winner_removed`**: the one that has
  failed can remove what the other one has created.
-/

namespace LocalCluster.Cluster

open LocalCluster.Container LocalCluster.Text Script Bootstrap Containers

variable {c c' : Containers} {s : Spec} {cluster : String} {report : Status}
variable {o : Manager.Options} {r : Except Fault Unit} {L : List Turn}
variable {t A B : History} {store store' before after : List Kept}

/-! ## The course of a creation -/

/-- The check that the cluster is not there has been passed. -/
structure Passed (cluster : String) (seen : Except RuntimeFault Output) : Prop where
  plain : cluster ≠ "" ∧ ∀ ch ∈ cluster.toList, IsPlain ch
  unlisted : ∃ names, clustersIn seen = .ok names ∧ cluster ∉ names

/-- The ways in which a creation goes before an engine, with all that its tasks do. It comes no
further than the check, or it passes the check. Then it removes nothing, or it fails, and removes
the nodes that it has listed. -/
inductive Course (c : Containers) (cluster : String) : History → Except Fault Unit → Prop where
  | turnedAway {t : History} {fault : Fault} (h : ∀ x ∈ t, LeavesContainers x.question) :
      Course c cluster t (.error fault)
  | quiet {seen : Except RuntimeFault Output} {t : History} {r : Except Fault Unit}
      (passed : Passed cluster seen) (orderly : Orderly cluster t)
      (started : r = .ok () → wantedBy t = startedBy t) :
      Course c cluster (⟨.command c.clusterListing, seen⟩ :: t) r
  | swept {seen listed removal : Except RuntimeFault Output} {nodes : List Node} {t u v : History}
      {fault : Fault} (passed : Passed cluster seen) (hlisted : c.nodesIn listed = .ok nodes)
      (orderly : Orderly cluster (t ++ (u ++ v))) :
      Course c cluster (⟨.command c.clusterListing, seen⟩ ::
        (t ++ ⟨.command (c.nodeListing cluster), listed⟩ ::
          (u ++ ⟨.command (c.removing nodes), removal⟩ :: v))) (.error fault)

theorem leavesContainers_clusterListing {seen : Except RuntimeFault Output} :
    ∀ x ∈ ([⟨.command c.clusterListing, seen⟩] : History), LeavesContainers x.question := by
  refine List.forall_mem_singleton.2 ?_
  rintro command ⟨⟩
  exact ⟨rfl, rfl⟩

theorem leavesContainers_nodeListing {listed : Except RuntimeFault Output} :
    ∀ x ∈ ([⟨.command (c.nodeListing cluster), listed⟩] : History),
      LeavesContainers x.question := by
  refine List.forall_mem_singleton.2 ?_
  rintro command ⟨⟩
  exact ⟨rfl, rfl⟩

theorem passed_of_valid {seen : Except RuntimeFault Output} {names : List String}
    (hv : s.validate = .ok ()) (hseen : clustersIn seen = .ok names) (hnot : s.name ∉ names) :
    Passed s.name seen := by
  obtain ⟨hname, hchars, -⟩ := Spec.valid_iff.1 (Spec.validate_eq_ok_iff.1 hv)
  exact ⟨⟨hname, fun ch hch => isPlain_of_isNameChar (hchars ch hch)⟩, names, hseen, hnot⟩

theorem course_of_cleaned {seen : Except RuntimeFault Output} {fault : Fault} {P : List Turn}
    {cleaning : List (Exchange Demand Demand.Answer)}
    {mid tasks : List (Routine LocalCluster.Outcome)} (passed : Passed cluster seen)
    (orderly : ∀ M, Worked mid M tasks → Orderly cluster ((P ++ M).map Turn.exchange))
    (hclean : Cleaned c cluster cleaning) (hw : Weave mid cleaning L tasks) :
    Course c cluster (⟨.command c.clusterListing, seen⟩ :: (P ++ L).map Turn.exchange)
      (.error fault) := by
  obtain ⟨listed, ⟨rfl, -⟩ | ⟨nodes, removal, rfl, hnodes⟩⟩ := hclean.listing
  · cases hw with
    | @single _ _ _ _ _ _ M M' hM hrest =>
      cases hrest with
      | rest hM' =>
        have horderly := orderly (M ++ M') (hM.trans hM')
        rw [← List.append_assoc, List.map_append] at horderly
        rw [← List.append_assoc, List.map_append, List.map_cons]
        exact .quiet passed (horderly.insert leavesContainers_nodeListing) nofun
  · cases hw with
    | @single _ _ _ _ _ _ M _ hM hrest =>
      cases hrest with
      | @single _ _ _ _ _ _ M' M'' hM' hrest =>
        cases hrest with
        | rest hM'' =>
          have horderly := orderly (M ++ (M' ++ M'')) (hM.trans (hM'.trans hM''))
          rw [← List.append_assoc, List.map_append, List.map_append, List.map_append] at horderly
          rw [← List.append_assoc, List.map_append, List.map_cons, List.map_append,
            List.map_append]
          exact .swept passed hnodes horderly

/-- **Every creation takes one of these courses**, in whatever order its tasks take their turns. -/
theorem course_of_runs (run : (Manager.create ⟨.ofContainers c, report⟩ s o).run.Runs L r) :
    Course c s.name (L.map Turn.exchange) r := by
  obtain ⟨T, tasks, hT, hw, hdone⟩ := runs_iff_weave.1 run
  have haway : ∀ {t : History} {fault : Fault}, (∀ x ∈ t, LeavesContainers x.question) →
      T = t.map Exchange.single → Course c s.name (L.map Turn.exchange) (.error fault) := by
    rintro t fault ht rfl
    obtain ⟨rfl, -⟩ := hw.idle allDone_nil
    rw [map_exchange_own]
    exact .turnedAway ht
  cases attempted_of_follows hT with
  | invalid => exact haway (t := []) nofun rfl
  | unlisted => exact haway leavesContainers_clusterListing rfl
  | present => exact haway leavesContainers_clusterListing rfl
  | @ended seen names built cleaning _ hv hseen hnot hbuilt hok hfault =>
    have hw' : Weave [] ([⟨.single (.command c.clusterListing), seen⟩] ++ (built ++ cleaning)) L
      tasks := hw
    obtain ⟨P, L₁, mid₁, rfl, hlist, hrest⟩ := weave_append_iff.1 hw'
    obtain ⟨P₁, L₂, mid, rfl, hbuilding, hcleaning⟩ := weave_append_iff.1 hrest
    obtain ⟨rfl, rfl⟩ := Weave.idle (t := [⟨.command c.clusterListing, seen⟩]) allDone_nil hlist
    have horderly : ∀ M, Worked mid M tasks → Orderly s.name ((P₁ ++ M).map Turn.exchange) :=
      fun M hM => (orderly_of_built hbuilt hbuilding).1 M hM hdone
    have hpassed := passed_of_valid hv hseen hnot
    have hquiet : cleaning = [] → Course c s.name
        (⟨.command c.clusterListing, seen⟩ :: (P₁ ++ L₂).map Turn.exchange) r := by
      rintro rfl
      cases hcleaning with
      | rest hM =>
        exact .quiet hpassed (horderly L₂ hM) fun hr =>
          wantedBy_of_built (hr ▸ hbuilt) hbuilding hM
    show Course c s.name (⟨.command c.clusterListing, seen⟩ :: (P₁ ++ L₂).map Turn.exchange) r
    cases r with
    | ok u => exact hquiet (hok rfl)
    | error fault =>
      have hclean := hfault fault rfl
      cases hretain : o.retain with
      | true => exact hquiet (by simpa [hretain] using hclean)
      | false =>
        rw [hretain] at hclean
        exact course_of_cleaned hpassed horderly hclean hcleaning

/-! ## What listings find -/

theorem fill_clusterFormat_eq (k : Kept) :
    k.fill (labelFormat clusterLabel) = (k.label? clusterLabel).getD "" := by
  have hchars : k.fillChars none (labelFormat clusterLabel).toList =
      (k.field (".Label \"" ++ clusterLabel ++ "\"")).toList ++ [] := rfl
  rw [Kept.fill, hchars, field_label]
  simp

/-- **A cluster that is not listed has no container.** -/
theorem free_of_passed {seen : Except RuntimeFault Output} (passed : Passed cluster seen)
    (h : Handles store ⟨.command c.clusterListing, seen⟩ store') :
    ∀ k ∈ store, Member cluster k = false := by
  intro k hk
  rw [Bool.eq_false_iff]
  intro hmember
  have hlabel : k.label? clusterLabel = some cluster := of_decide_eq_true hmember
  obtain ⟨hfeed, hreturn, -⟩ := not_mem_of_isPlain passed.plain.2
  obtain ⟨names, hnames, hnot⟩ := passed.unlisted
  cases seen with
  | error fault => cases hnames
  | ok output =>
    obtain ⟨rows, stderr, hrows, heq⟩ := h.honest _ output rfl _ _ rfl
    obtain rfl := Except.ok.inj heq
    have hrow : k ∈ rows := by
      rw [hrows.mem_iff, List.mem_filter, passes_label (by decide), hlabel]
      exact ⟨hk, rfl⟩
    have hline : cluster ∈ rows.map (·.fill (labelFormat clusterLabel)) :=
      List.mem_map.2 ⟨k, hrow, by rw [fill_clusterFormat_eq, hlabel]; rfl⟩
    refine hnot ?_
    obtain rfl := Except.ok.inj hnames
    rw [mem_sortDistinct, List.mem_filter]
    exact ⟨mem_linesOfBytes_printLines hline passed.plain.1 hfeed hreturn,
      decide_eq_true passed.plain.1⟩

/-- The containers of the cluster are planned ones, no two with one name. -/
structure Tidy (cluster : String) (store : List Kept) : Prop where
  planned : ∀ k ∈ store, Member cluster k = true → Planned cluster k
  nodup : ((store.filter (Member cluster)).map Kept.name).Nodup

theorem tidy_of_free (h : ∀ k ∈ store, Member cluster k = false) : Tidy cluster store where
  planned k hk hmember := by
    rw [h k hk] at hmember
    cases hmember
  nodup := by
    rw [List.filter_eq_nil_iff.2 fun k hk => by simp [h k hk]]
    exact List.nodup_nil

theorem Tidy.of_sublist (h : Tidy cluster store) (hsub : store'.Sublist store) :
    Tidy cluster store' :=
  ⟨fun k hk => h.planned k (hsub.subset hk), ((hsub.filter _).map _).nodup h.nodup⟩

/-- **An exchange keeps the containers of a cluster tidy**, when what it is to start was planned. -/
theorem Tidy.step {x : Exchange Request Request.Answer} (h : Tidy cluster store)
    (hplanned : ∀ k ∈ wantedBy [x], Planned cluster k) (hx : Becomes store x store') :
    Tidy cluster store' := by
  rcases hx.cases with ⟨new, rfl, -, hwanted, hfresh⟩ | hsub
  · refine ⟨fun k hk hmember => ?_, ?_⟩
    · rcases List.mem_append.1 hk with hk | hk
      · exact h.planned k hk hmember
      · exact hplanned k (hwanted.subset hk)
    · rw [List.filter_append, List.map_append]
      refine h.nodup.append ?_ fun name hold hnew => ?_
      · exact ((List.filter_sublist.trans hwanted).map _).nodup nodup_wantedBy_singleton
      · obtain ⟨k, hk, rfl⟩ := List.mem_map.1 hnew
        obtain ⟨k', hk', hname⟩ := List.mem_map.1 hold
        refine hfresh k (List.mem_of_mem_filter hk) (hname ▸ ?_)
        exact List.mem_map_of_mem (List.mem_of_mem_filter hk')
  · exact h.of_sublist hsub

theorem Tidy.run (h : Tidy cluster store) (hplanned : ∀ k ∈ wantedBy t, Planned cluster k)
    (ht : Handling store t store') : Tidy cluster store' := by
  induction ht with
  | nil => exact h
  | @cons store middle store' x t first _ ih =>
    have hsplit : wantedBy (x :: t) = wantedBy [x] ++ wantedBy t := @wantedBy_append [x] t
    rw [hsplit] at hplanned
    exact ih (h.step (fun k hk => hplanned k (List.mem_append_left _ hk)) first.becomes)
      fun k hk => hplanned k (List.mem_append_right _ hk)

/-- **The nodes that are listed are those of the cluster** at that moment. -/
theorem Tidy.listed {listed : Except RuntimeFault Output} {nodes : List Node}
    (h : Tidy cluster store)
    (hx : Handles store ⟨.command (c.nodeListing cluster), listed⟩ store')
    (hlisted : c.nodesIn listed = .ok nodes) :
    (nodes.map Node.name).Perm ((store.filter (Member cluster)).map Kept.name) := by
  cases listed with
  | error fault => cases hlisted
  | ok output =>
    have hperm : store.Perm ((store.filter fun k => ! Member cluster k) ++
        store.filter (Member cluster)) :=
      (List.perm_append_comm.trans (List.filter_append_perm (Member cluster) store)).symm
    obtain ⟨nodes', hnodes', hnames⟩ := listed_of_kept
      (fun k hk => by simpa using (List.mem_filter.1 hk).2)
      (fun k hk => h.planned k (List.mem_of_mem_filter hk) (List.mem_filter.1 hk).2) h.nodup
      (Honest.of_perm (hx.honest _ output rfl) hperm)
    obtain rfl := Except.ok.inj (hlisted.symm.trans hnodes')
    exact hnames

/-! ## A sweep between two clients -/

theorem Course.planned (h : Course c cluster t r) : ∀ k ∈ wantedBy t, Planned cluster k := by
  cases h with
  | turnedAway h =>
    rw [wantedBy_eq_nil h]
    nofun
  | quiet _ orderly =>
    rw [wantedBy_cons rfl]
    exact orderly.planned
  | swept _ _ orderly =>
    have hplanned := orderly.planned
    rw [wantedBy_cons rfl, wantedBy_append, wantedBy_cons rfl, wantedBy_append, wantedBy_cons rfl]
    rwa [wantedBy_append, wantedBy_append] at hplanned

/-- A creation that ends well has removed nothing, and has started all that it was to start. -/
theorem Course.of_ok (h : Course c cluster t (.ok ())) : Quiet t ∧ wantedBy t = startedBy t := by
  cases h with
  | quiet _ orderly started =>
    refine ⟨quiet_cons_iff.2 ⟨?_, orderly.quiet⟩, ?_⟩
    · exact quiet_of_leavesContainers leavesContainers_clusterListing
    · rw [wantedBy_cons rfl, startedBy_cons rfl, started rfl]

/-- Where one client has passed the check, there was no container of the cluster in the beginning:
when the other one was there first, it has come no further than its own check, or has passed it. -/
theorem free_before {seen : Except RuntimeFault Output} {head rest : History}
    {here there : List Kept} (h : Course c cluster (head ++ rest) r) (passed : Passed cluster seen)
    (hhead : Handling before head here)
    (hseen : Handles here ⟨.command c'.clusterListing, seen⟩ there) :
    ∀ k ∈ before, Member cluster k = false := by
  cases hhead with
  | nil => exact free_of_passed passed hseen
  | @cons _ middle _ x head first hrest =>
    generalize hall : x :: head ++ rest = all at h
    cases h with
    | turnedAway h =>
      subst hall
      obtain rfl := (Handling.cons first hrest).eq_of_leavesContainers fun y hy =>
        h y (List.mem_append_left _ hy)
      exact free_of_passed passed hseen
    | quiet passed' =>
      obtain ⟨rfl, -⟩ := List.cons.inj hall
      exact free_of_passed passed' first
    | swept passed' =>
      obtain ⟨rfl, -⟩ := List.cons.inj hall
      exact free_of_passed passed' first

/-- A stretch of the exchanges of two clients in which the second one removes nothing. -/
structure Stretch where
  first : History
  second : History
  both : History
  interleaved : Interleaved first second both
  quiet : Quiet second

theorem Stretch.quiet_both (p : Stretch) (h : Quiet p.first) : Quiet p.both :=
  p.interleaved.quiet h p.quiet

/-- The second of two clients sweeps. It has passed the check that the cluster is not there, lists
its nodes later on, and asks for the removal of those listed; it asks for no other removal. What the
first client does is divided by that into what comes before the check, before the listing, before
the removal and after it. -/
structure Sweep (c : Containers) (cluster : String) (before : List Kept) (A B t : History)
    (after : List Kept) where
  seen : Except RuntimeFault Output
  listed : Except RuntimeFault Output
  removal : Except RuntimeFault Output
  nodes : List Node
  head : History
  early : Stretch
  meanwhile : Stretch
  late : Stretch
  atListing : List Kept
  atRemoval : List Kept
  left : List Kept
  passed : Passed cluster seen
  first : A = head ++ (early.first ++ (meanwhile.first ++ late.first))
  second : B = ⟨.command c.clusterListing, seen⟩ :: (early.second ++
    ⟨.command (c.nodeListing cluster), listed⟩ :: (meanwhile.second ++
      ⟨.command (c.removing nodes), removal⟩ :: late.second))
  both : t = head ++ ⟨.command c.clusterListing, seen⟩ :: (early.both ++
    ⟨.command (c.nodeListing cluster), listed⟩ :: (meanwhile.both ++
      ⟨.command (c.removing nodes), removal⟩ :: late.both))
  untilListing : Handling before (head ++ ⟨.command c.clusterListing, seen⟩ :: early.both) atListing
  untilRemoval : Handling atListing
    (⟨.command (c.nodeListing cluster), listed⟩ :: meanwhile.both) atRemoval
  removed : Handles atRemoval ⟨.command (c.removing nodes), removal⟩ left
  untilEnd : Handling left late.both after
  /-- The nodes listed are those of the cluster at that moment, whoever has created them. -/
  found : (nodes.map Node.name).Perm ((atListing.filter (Member cluster)).map Kept.name)

/-- **A client that removes anything sweeps.** -/
theorem sweep_of_courses {fault : Fault} (hA : Course c cluster A r)
    (hB : Course c' cluster B (.error fault)) (interleaved : Interleaved A B t)
    (handling : Handling before t after) (hquiet : ¬ Quiet B) :
    Nonempty (Sweep c' cluster before A B t after) := by
  have hplanned : ∀ k ∈ wantedBy t, Planned cluster k := fun k hk =>
    ((mem_wantedBy_of_interleaved interleaved).1 hk).elim (hA.planned k) (hB.planned k)
  cases hB with
  | turnedAway h => exact absurd (quiet_of_leavesContainers h) hquiet
  | quiet _ orderly =>
    exact absurd (quiet_cons_iff.2 ⟨quiet_of_leavesContainers leavesContainers_clusterListing,
      orderly.quiet⟩) hquiet
  | @swept seen listed removal nodes B₁ B₂ B₃ _ passed hlisted orderly =>
    obtain ⟨hquiet₁, hrest⟩ := quiet_append_iff.1 orderly.quiet
    obtain ⟨hquiet₂, hquiet₃⟩ := quiet_append_iff.1 hrest
    obtain ⟨head, A', t₀, t', rfl, rfl, hhead, hrest⟩ := interleaved.split []
    obtain rfl := hhead.eq_left
    obtain ⟨A₁, A'', t₁, t'', rfl, rfl, h₁, hrest⟩ := hrest.split _
    obtain ⟨A₂, A₃, t₂, t₃, rfl, rfl, h₂, h₃⟩ := hrest.split _
    obtain ⟨here, there, hbefore, hseen, hmore⟩ := handling_append_cons_iff.1 handling
    obtain ⟨atListing, atListing', hearly, hlisting, hmore⟩ := handling_append_cons_iff.1 hmore
    obtain ⟨atRemoval, left, hmeanwhile, hremoval, hlate⟩ := handling_append_cons_iff.1 hmore
    have huntil := handling_append_cons_iff.2 ⟨here, there, hbefore, hseen, hearly⟩
    have htidy : Tidy cluster atListing := by
      refine (tidy_of_free (free_before hA passed hbefore hseen)).run (fun k hk => hplanned k ?_)
        huntil
      rw [← List.cons_append, ← List.append_assoc, wantedBy_append]
      exact List.mem_append_left _ hk
    exact ⟨seen, listed, removal, nodes, t₀, ⟨A₁, B₁, t₁, h₁, hquiet₁⟩, ⟨A₂, B₂, t₂, h₂, hquiet₂⟩,
      ⟨A₃, B₃, t₃, h₃, hquiet₃⟩, atListing, atRemoval, left, passed, rfl, rfl, rfl, huntil,
      .cons hlisting hmeanwhile, hremoval, hlate, htidy.listed hlisting hlisted⟩

namespace Sweep

variable (w : Sweep c cluster before A B t after)

/-- Everything that the first client has started has been started before the check, before the
listing, before the removal or after it. -/
theorem mem_startedBy_first {k : Kept} (hk : k ∈ startedBy A) :
    k ∈ startedBy w.head ∨ k ∈ startedBy w.early.first ∨
      k ∈ startedBy (w.meanwhile.first ++ w.late.first) := by
  rw [w.first, startedBy_append, startedBy_append] at hk
  simpa only [List.mem_append] using hk

theorem quiet_parts (hA : Quiet A) : Quiet w.head ∧ Quiet w.early.first ∧
    Quiet w.meanwhile.first ∧ Quiet w.late.first := by
  rwa [w.first, quiet_append_iff, quiet_append_iff, quiet_append_iff] at hA

theorem quiet_untilListing (hA : Quiet A) :
    Quiet (w.head ++ ⟨.command c.clusterListing, w.seen⟩ :: w.early.both) := by
  obtain ⟨hhead, hearly, -⟩ := w.quiet_parts hA
  refine quiet_append_iff.2 ⟨hhead, quiet_cons_iff.2 ⟨?_, w.early.quiet_both hearly⟩⟩
  exact quiet_of_leavesContainers leavesContainers_clusterListing

theorem quiet_untilRemoval (hA : Quiet A) :
    Quiet (⟨.command (c.nodeListing cluster), w.listed⟩ :: w.meanwhile.both) := by
  obtain ⟨-, -, hmeanwhile, -⟩ := w.quiet_parts hA
  refine quiet_cons_iff.2 ⟨?_, w.meanwhile.quiet_both hmeanwhile⟩
  exact quiet_of_leavesContainers leavesContainers_nodeListing

/-- **At most the nodes that were listed are removed**, and if the removal succeeds they all are. -/
theorem left_eq : ∃ gone ⊆ w.nodes.map Node.name,
    w.left = (w.atRemoval.filter fun k => ! gone.contains k.name) ∧
      ∀ o, w.removal = .ok o → gone = w.nodes.map Node.name :=
  w.removed.becomes.of_removal rfl

/-- When the check was passed, the first client had not started anything. -/
theorem startedBy_head (hA : Quiet A) (hplanned : ∀ k ∈ startedBy A, Planned cluster k) :
    startedBy w.head = [] := by
  obtain ⟨here, there, hhead, hseen, -⟩ := handling_append_cons_iff.1 w.untilListing
  obtain ⟨new, rfl, hstarted, -⟩ := hhead.grows (w.quiet_parts hA).1
  rw [w.first] at hplanned
  refine List.eq_nil_iff_forall_not_mem.2 fun k hk => ?_
  have hmember := (hplanned k (by rw [startedBy_append]; exact List.mem_append_left _ hk)).member
  rw [free_of_passed w.passed hseen k (List.mem_append_right _ (hstarted hk))] at hmember
  cases hmember

/-- **What the first client had started when the nodes were listed is removed** by a removal that
succeeds, unless the client removes anything itself. -/
theorem not_mem_left (hA : Quiet A) (hplanned : ∀ k ∈ startedBy A, Planned cluster k) {o : Output}
    (hremoval : w.removal = .ok o) : ∀ k ∈ startedBy w.early.first, k ∉ w.left := by
  intro k hk
  have hthere : k ∈ w.atListing := by
    obtain ⟨new, hnew, hstarted, -⟩ := w.untilListing.grows (w.quiet_untilListing hA)
    rw [hnew]
    refine List.mem_append_right _ (hstarted ?_)
    rw [startedBy_append, startedBy_cons rfl]
    exact List.mem_append_right _ ((mem_startedBy_of_interleaved w.early.interleaved).2 (.inl hk))
  have hmember : Member cluster k = true := by
    refine (hplanned k ?_).member
    rw [w.first, startedBy_append, startedBy_append]
    exact List.mem_append_right _ (List.mem_append_left _ hk)
  have hlisted : k.name ∈ w.nodes.map Node.name :=
    w.found.mem_iff.2 (List.mem_map_of_mem (List.mem_filter.2 ⟨hthere, hmember⟩))
  obtain ⟨gone, -, hleft, hall⟩ := w.left_eq
  rw [hleft, hall o hremoval, List.mem_filter]
  rintro ⟨-, hspared⟩
  simp [hlisted] at hspared

/-- **What the first client starts later on is spared**, unless it removes anything itself. -/
theorem mem_after (hA : Quiet A) :
    ∀ k ∈ startedBy (w.meanwhile.first ++ w.late.first), k ∈ after := by
  intro k hk
  obtain ⟨last, hlast, hstarted, -⟩ :=
    w.untilEnd.grows (w.late.quiet_both (w.quiet_parts hA).2.2.2)
  rw [hlast]
  rw [startedBy_append] at hk
  rcases List.mem_append.1 hk with hk | hk
  · refine List.mem_append_left _ ?_
    obtain ⟨new, hnew, hin, -, hfresh⟩ := w.untilRemoval.grows (w.quiet_untilRemoval hA)
    rw [startedBy_cons rfl] at hin
    replace hin := hin ((mem_startedBy_of_interleaved w.meanwhile.interleaved).2 (.inl hk))
    have hspared : k.name ∉ w.nodes.map Node.name := fun hlisted => by
      refine hfresh k hin ?_
      obtain ⟨k', hk', hname⟩ := List.mem_map.1 (w.found.mem_iff.1 hlisted)
      exact List.mem_map.2 ⟨k', List.mem_of_mem_filter hk', hname⟩
    obtain ⟨gone, hgone, hleft, -⟩ := w.left_eq
    have hnot : k.name ∉ gone := fun hgoes => hspared (hgone hgoes)
    rw [hleft, hnew, List.mem_filter]
    exact ⟨List.mem_append_right _ hin, by simpa using hnot⟩
  · refine List.mem_append_right _ (hstarted ?_)
    exact (mem_startedBy_of_interleaved w.late.interleaved).2 (.inl hk)

end Sweep

/-! ## Two creations -/

/-- **What two creations of one cluster do to each other.** Two clients create a cluster of one name
before an engine that refuses names that are taken, in any interleaving of all that they ask, and
whatever fails of it. A creation that ends well has started all that it was to start, and removes
nothing. Either the other one removes nothing as well, and then everything that has been created by
one that ended well is there in the end. Or the other one has failed, having passed its check, and
it has swept: it has listed the nodes once, which are the ones that the cluster had at that moment,
whoever had created them; its one removal has taken those listed, or some of them if it failed, and
nothing else. When the first one has ended well, it had not created anything when the other one
passed its check; what it had created by the time of the listing is removed if the removal succeeds,
and everything else that it creates is there in the end. -/
theorem rival_creations (c c' : Containers) (report report' : Status) (s s' : Spec)
    (o o' : Manager.Options) {L L' : List Turn} {r r' : Except Fault Unit} {t : History}
    {before after : List Kept} (hname : s'.name = s.name)
    (run : (Manager.create ⟨.ofContainers c, report⟩ s o).run.Runs L r)
    (run' : (Manager.create ⟨.ofContainers c', report'⟩ s' o').run.Runs L' r')
    (interleaved : Interleaved (L.map Turn.exchange) (L'.map Turn.exchange) t)
    (handling : Handling before t after) :
    (r = .ok () → Quiet (L.map Turn.exchange) ∧
      wantedBy (L.map Turn.exchange) = startedBy (L.map Turn.exchange)) ∧
    (Quiet (L'.map Turn.exchange) ∧
        (r = .ok () → ∀ k ∈ startedBy (L.map Turn.exchange), k ∈ after) ∨
      (∃ fault, r' = .error fault) ∧
        ∃ w : Sweep c' s.name before (L.map Turn.exchange) (L'.map Turn.exchange) t after,
          (∃ gone ⊆ w.nodes.map Node.name,
            w.left = (w.atRemoval.filter fun k => ! gone.contains k.name) ∧
              ∀ output, w.removal = .ok output → gone = w.nodes.map Node.name) ∧
          (r = .ok () → startedBy w.head = [] ∧
            (∀ k ∈ startedBy (L.map Turn.exchange), k ∈ startedBy w.early.first ∨ k ∈ after) ∧
            ∀ output, w.removal = .ok output → ∀ k ∈ startedBy w.early.first, k ∉ w.left)) := by
  have hcourse := course_of_runs run
  have hcourse' := course_of_runs run'
  rw [hname] at hcourse'
  have hok : r = .ok () → Quiet (L.map Turn.exchange) ∧
      wantedBy (L.map Turn.exchange) = startedBy (L.map Turn.exchange) := by
    rintro rfl
    exact hcourse.of_ok
  refine ⟨hok, ?_⟩
  by_cases hquiet' : Quiet (L'.map Turn.exchange)
  · refine .inl ⟨hquiet', fun hr k hk => ?_⟩
    obtain ⟨new, rfl, hstarted, -⟩ := handling.grows (interleaved.quiet (hok hr).1 hquiet')
    exact List.mem_append_right _
      (hstarted ((mem_startedBy_of_interleaved interleaved).2 (.inl hk)))
  · cases r' with
    | ok u => exact absurd hcourse'.of_ok.1 hquiet'
    | error fault =>
      obtain ⟨w⟩ := sweep_of_courses hcourse hcourse' interleaved handling hquiet'
      refine .inr ⟨⟨fault, rfl⟩, w, w.left_eq, fun hr => ?_⟩
      have hquiet := (hok hr).1
      have hplanned : ∀ k ∈ startedBy (L.map Turn.exchange), Planned s.name k := fun k hk =>
        hcourse.planned k (startedBy_sublist_wantedBy.subset hk)
      have hhead := w.startedBy_head hquiet hplanned
      refine ⟨hhead, fun k hk => ?_, fun output => w.not_mem_left hquiet hplanned⟩
      rcases w.mem_startedBy_first hk with hk | hk | hk
      · rw [hhead] at hk
        cases hk
      · exact .inl hk
      · exact .inr (w.mem_after hquiet k hk)

/-! ## A client that loses -/

/-- All that a creation of one node does, up to its end. -/
def toTheEnd : List Crew.Choice :=
  List.replicate 12 .program ++ [.task 0, .tell 0] ++ List.replicate 40 .program

/-- One client checks that the cluster is not there. -/
def firstCheck : List Turn × Crew (Except Fault Unit) × List Kept :=
  Crew.drive (doorkeeper loneReply) ⟨.going loneCreation, []⟩ [] [.program]

/-- The other client does so as well. -/
def secondCheck : List Turn × Crew (Except Fault Unit) × List Kept :=
  Crew.drive (doorkeeper loneReply) ⟨.going loneCreation, []⟩ firstCheck.2.2 [.program]

/-- The first client creates the cluster. -/
def winning : List Turn × Crew (Except Fault Unit) × List Kept :=
  Crew.drive (doorkeeper loneReply) firstCheck.2.1 secondCheck.2.2 toTheEnd

/-- The other client finds the name taken. -/
def losing : List Turn × Crew (Except Fault Unit) × List Kept :=
  Crew.drive (doorkeeper loneReply) secondCheck.2.1 winning.2.2 toTheEnd

/-- What both clients have asked, in the order of its arrival. -/
def contest : History :=
  firstCheck.1.map Turn.exchange ++ (secondCheck.1.map Turn.exchange ++
    (winning.1.map Turn.exchange ++ losing.1.map Turn.exchange))

theorem contest_ends :
    (winning.2.1.result?.any Except.isOk && winning.2.1.isIdle) = true ∧
    ((losing.2.1.result?.any fun r => ! r.isOk) && losing.2.1.isIdle) = true ∧
    startedBy ((firstCheck.1 ++ winning.1).map Turn.exchange) =
      [⟨"lone-control-plane", [(roleLabel, "control-plane"), (clusterLabel, "lone")]⟩] ∧
    startedBy ((secondCheck.1 ++ losing.1).map Turn.exchange) = [] ∧ losing.2.2 = [] ∧
    ((commandsOf ((secondCheck.1 ++ losing.1).map Turn.exchange)).any
      (·.command.isRemoval)) = true := by
  decide +kernel

theorem winning_ends_well : loneCreation.Runs (firstCheck.1 ++ winning.1) (.ok ()) := by
  have hrun := (Crew.run_drive (doorkeeper loneReply) ⟨.going loneCreation, []⟩ [] [.program]).trans
    (Crew.run_drive (doorkeeper loneReply) firstCheck.2.1 secondCheck.2.2 toTheEnd)
  obtain ⟨hend, hidle⟩ := Bool.and_eq_true_iff.1 contest_ends.1
  cases hr : winning.2.1.result? with
  | none => simp [hr] at hend
  | some r =>
    cases r with
    | ok u => exact Crew.runs_of_run hrun hr hidle
    | error fault => simp [hr, Except.isOk, Except.toBool] at hend

theorem losing_fails : ∃ fault, loneCreation.Runs (secondCheck.1 ++ losing.1) (.error fault) := by
  have hrun := (Crew.run_drive (doorkeeper loneReply) ⟨.going loneCreation, []⟩ firstCheck.2.2
    [.program]).trans (Crew.run_drive (doorkeeper loneReply) secondCheck.2.1 winning.2.2 toTheEnd)
  obtain ⟨hend, hidle⟩ := Bool.and_eq_true_iff.1 contest_ends.2.1
  cases hr : losing.2.1.result? with
  | none => simp [hr] at hend
  | some r =>
    cases r with
    | ok u => simp [hr, Except.isOk, Except.toBool] at hend
    | error fault => exact ⟨fault, Crew.runs_of_run hrun hr hidle⟩

theorem contest_interleaved : Interleaved ((firstCheck.1 ++ winning.1).map Turn.exchange)
    ((secondCheck.1 ++ losing.1).map Turn.exchange) contest := by
  rw [List.map_append, List.map_append]
  exact .in_turns _ _ _ _

theorem contest_kept : Keeping [] contest losing.2.2 ∧ Handling [] contest losing.2.2 :=
  keeping_of_doorkeeper ((Crew.answers_drive _ _ _ _).trans
    ((Crew.answers_drive _ _ _ _).trans
      ((Crew.answers_drive _ _ _ _).trans (Crew.answers_drive _ _ _ _))))

/-- **The cluster of a client that has won can be removed by the one that has lost**, which has
created nothing itself. -/
theorem winner_removed : ∃ (L L' : List Turn) (fault : Fault) (t : History) (after : List Kept),
    loneCreation.Runs L (.ok ()) ∧ loneCreation.Runs L' (.error fault) ∧
    Interleaved (L.map Turn.exchange) (L'.map Turn.exchange) t ∧ Keeping [] t after ∧
    Handling [] t after ∧ startedBy (L'.map Turn.exchange) = [] ∧
    ∃ k ∈ startedBy (L.map Turn.exchange), k ∉ after := by
  obtain ⟨fault, hlosing⟩ := losing_fails
  obtain ⟨-, -, hone, hnone, hend, -⟩ := contest_ends
  refine ⟨_, _, fault, contest, _, winning_ends_well, hlosing, contest_interleaved,
    contest_kept.1, contest_kept.2, hnone, _, by rw [hone]; exact List.mem_singleton_self _, ?_⟩
  rw [hend]
  exact List.not_mem_nil

theorem contest_swept : ∃ w : Sweep {} "lone" [] ((firstCheck.1 ++ winning.1).map Turn.exchange)
    ((secondCheck.1 ++ losing.1).map Turn.exchange) contest losing.2.2,
      startedBy w.head = [] ∧
        ⟨"lone-control-plane", [(roleLabel, "control-plane"), (clusterLabel, "lone")]⟩ ∈
          startedBy w.early.first ∧
        (∃ gone ⊆ w.nodes.map Node.name,
          w.left = (w.atRemoval.filter fun k => ! gone.contains k.name)) ∧
        ∀ output, w.removal = .ok output → ∀ k ∈ startedBy w.early.first, k ∉ w.left := by
  obtain ⟨fault, hlosing⟩ := losing_fails
  obtain ⟨-, -, hone, -, hnone, hsome⟩ := contest_ends
  obtain ⟨-, ⟨hquiet, -⟩ | ⟨-, w, ⟨gone, hgone, hleft, -⟩, hw⟩⟩ := rival_creations {} {} .silent
    .silent loneSpec loneSpec ⟨"/tmp/config", false⟩ ⟨"/tmp/config", false⟩ rfl winning_ends_well
    hlosing contest_interleaved contest_kept.2
  · obtain ⟨e, he, hremoves⟩ := List.any_eq_true.1 hsome
    rw [hquiet e he] at hremoves
    cases hremoves
  · obtain ⟨hhead, hsplit, hremoved⟩ := hw rfl
    have hstarted := (hsplit _ (by rw [hone]; exact List.mem_singleton_self _)).resolve_right
      (hnone ▸ List.not_mem_nil)
    exact ⟨w, hhead, hstarted, ⟨gone, hgone, hleft⟩, hremoved⟩

end LocalCluster.Cluster
