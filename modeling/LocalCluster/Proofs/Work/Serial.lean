import LocalCluster.Proofs.Work.Driven
import LocalCluster.Proofs.Work.Woven
import Mathlib.Data.List.Perm.Basic

/-!
# Carrying out a program is one of its runs

A host serves tasks that run side by side one after the other, and tells of them in the order of
their times. That is one of the orders in which a program and its tasks can take turns.

* `delivered_result`: the result that a host comes to is a result of waiting.
* **`answers_runProgram`**, `runs_runProgram`: what a host carries out is a run of the program with
  its tasks, and the host goes through it.
-/

namespace LocalCluster

open LocalCluster.Cluster Script

variable {σ α : Type} (h : Host σ)

/-- A task that a host carries out follows its description, and the host goes through its run. -/
theorem follows_runRoutine (task : Routine α) (m : Moment σ) :
    ∃ t, Follows task t (h.runRoutine task m).1 ∧
      h.Answers m.state t (h.runRoutine task m).2.state := by
  induction task generalizing m with
  | done a => exact ⟨[], .done a, .nil⟩
  | ask r next ih =>
    obtain ⟨t, ht, hanswers⟩ := ih (h.serve r m).1 (h.serve r m).2
    exact ⟨_, .ask ht, .cons hanswers⟩

/-- Tasks that have ended so. -/
def ended (ends : List Completion) : List (Routine Outcome) := ends.map fun c => .done c.outcome

theorem worked_completions (before work : List (Routine Outcome)) (state : σ) :
    ∃ L, Worked (before ++ work) L (before ++ ended (h.completions work state).1) ∧
      h.Answers state (L.map Turn.exchange) (h.completions work state).2 := by
  induction work generalizing before state with
  | nil => exact ⟨[], .refl, .nil⟩
  | cons task rest ih =>
    obtain ⟨t, ht, hanswers⟩ := follows_runRoutine h task ⟨0, state⟩
    have hat : (before ++ task :: rest)[before.length]? = some task := by simp
    have hone := Worked.alone ht hat
    rw [List.set_append_right _ _ (Nat.le_refl _), Nat.sub_self, List.set_cons_zero] at hone
    obtain ⟨L, hrest, hlater⟩ := ih (before ++ [.done (h.runRoutine task ⟨0, state⟩).1])
      (h.runRoutine task ⟨0, state⟩).2.state
    rw [List.append_assoc, List.append_assoc] at hrest
    refine ⟨_, hone.trans hrest, ?_⟩
    rw [List.map_append, List.map_map]
    exact Host.Answers.trans (by simpa [Function.comp_def] using hanswers) hlater

/-! ## What a host tells -/

theorem lookup_of_mem {told : List (Nat × Outcome)} {x : Nat × Outcome}
    (hnodup : (told.map Prod.fst).Nodup) (hx : x ∈ told) : told.lookup x.1 = some x.2 := by
  obtain ⟨l₁, l₂, rfl⟩ := List.append_of_mem hx
  refine List.lookup_eq_some_iff.2 ⟨l₁, l₂, rfl, fun p hp => ?_⟩
  rw [List.map_append] at hnodup
  have hne : x.1 ≠ p.1 := fun he =>
    List.disjoint_of_nodup_append hnodup (List.mem_map_of_mem hp) (by simp [he])
  simpa using hne

/-- **The result that a host comes to is a result of waiting.** -/
theorem delivered_result (p : Policy) (before : List (Routine Outcome)) (ends : List Completion) :
    Delivered p (List.range' before.length ends.length) (before ++ ended ends) (p.result ends) := by
  -- the completions with the numbers of their tasks, as submitted and as delivered
  let submitted := ends.zipIdx before.length
  have hends : submitted.map Prod.fst = ends := List.zipIdx_map_fst _ _
  have hgroup : submitted.map Prod.snd = List.range' before.length ends.length :=
    List.zipIdx_map_snd _ _
  obtain ⟨delivered, hdelivered, hperm⟩ : Relation.Comp (· = List.map Prod.fst ·) List.Perm
      (deliveries ends) submitted := by
    rw [List.eq_map_comp_perm]
    show (deliveries ends).Perm (submitted.map Prod.fst)
    rw [hends]
    exact deliveries_perm ends
  have hnumbers : ((delivered.map fun x => (x.2, x.1.outcome)).map Prod.fst).Perm
      (List.range' before.length ends.length) := by
    rw [List.map_map, ← hgroup]
    exact hperm.map _
  have hnodup := hnumbers.nodup_iff.2 List.nodup_range'
  have hall : (List.range' before.length ends.length).all
      ((delivered.map fun x => (x.2, x.1.outcome)).map Prod.fst).contains = true := by
    refine List.all_eq_true.2 fun i hi => ?_
    rw [List.contains_iff_mem]
    exact hnumbers.mem_iff.2 hi
  refine ⟨delivered.map fun x => (x.2, x.1.outcome), ⟨hnodup, fun x hx => ?_⟩, ?_⟩
  · refine ⟨hnumbers.mem_iff.1 (List.mem_map_of_mem hx), ?_⟩
    obtain ⟨⟨c, i⟩, hmem, rfl⟩ := List.mem_map.1 hx
    obtain ⟨hle, hc⟩ := List.mk_mem_zipIdx_iff_le_and_getElem?_sub.1 (hperm.mem_iff.1 hmem)
    rw [List.getElem?_append_right hle, ended, List.getElem?_map, hc]
    rfl
  · cases p with
    | untilFirstFailure =>
      have hfirst : firstFailure ((delivered.map fun x => (x.2, x.1.outcome)).map Prod.snd) =
          Policy.untilFirstFailure.result ends := by
        rw [Policy.result, hdelivered, List.map_map, List.map_map]
        rfl
      simp only [Policy.verdict?]
      rw [hfirst, hall]
      cases Policy.untilFirstFailure.result ends <;> rfl
    | untilAllEnd =>
      have hsubmitted : (List.range' before.length ends.length).filterMap (fun i =>
          (delivered.map fun x => (x.2, x.1.outcome)).lookup i) = ends.map Completion.outcome := by
        conv => rhs; rw [← hends]
        rw [← hgroup, List.filterMap_map, List.map_map]
        refine (List.filterMap_congr fun x hx => ?_).trans (congrFun List.filterMap_eq_map' _)
        have hx' := List.mem_map_of_mem (f := fun x => (x.2, x.1.outcome)) (hperm.mem_iff.2 hx)
        exact lookup_of_mem hnodup hx'
      simp only [Policy.verdict?]
      rw [hall, hsubmitted]
      rfl

/-- **What a host carries out is a run of the program with its tasks**, which the host goes
through. -/
theorem answers_runProgram (p : Program α) (m : Moment σ) :
    ∃ L, p.Runs L (h.runProgram p m).1 ∧
      h.Answers m.state (L.map Turn.exchange) (h.runProgram p m).2.state := by
  suffices hweave : ∀ before, AllDone before → ∃ T L tasks,
      Follows p T (h.runProgram p m).1 ∧ Weave before T L tasks ∧ AllDone tasks ∧
        h.Answers m.state (L.map Turn.exchange) (h.runProgram p m).2.state by
    obtain ⟨T, L, tasks, hT, hL, hdone, hanswers⟩ := hweave [] allDone_nil
    exact ⟨L, runs_iff_weave.2 ⟨T, tasks, hT, hL, hdone⟩, hanswers⟩
  induction p generalizing m with
  | done a => exact fun before hdone => ⟨[], [], before, .done a, .rest .refl, hdone, .nil⟩
  | ask d next ih =>
    intro before hdone
    cases d with
    | single r =>
      obtain ⟨T, L, tasks, hT, hL, hend, hanswers⟩ :=
        ih (h.serve r m).1 (h.serve r m).2 before hdone
      exact ⟨_, _, tasks, .ask hT, .single .refl hL, hend, .cons hanswers⟩
    | together p work =>
      obtain ⟨L₁, hL₁, hanswers₁⟩ := worked_completions h before work m.state
      have hended : AllDone (before ++ ended (h.completions work m.state).1) := by
        intro task htask
        rcases List.mem_append.1 htask with htask | htask
        · exact hdone task htask
        · obtain ⟨c, -, rfl⟩ := List.mem_map.1 htask
          exact ⟨c.outcome, rfl⟩
      obtain ⟨T, L, tasks, hT, hL, hend, hanswers⟩ := ih (h.meet (.together p work) m).1
        (h.meet (.together p work) m).2 _ hended
      have hlength : (h.completions work m.state).1.length = work.length := by
        have hlen := hL₁.length_eq
        simp only [List.length_append, ended, List.length_map] at hlen
        omega
      have hresult := delivered_result p before (h.completions work m.state).1
      rw [hlength] at hresult
      refine ⟨_, _, tasks, .ask hT, .together .refl hL₁ hresult hL, hend, ?_⟩
      rw [List.nil_append, List.map_append]
      exact hanswers₁.trans hanswers

theorem runs_runProgram (p : Program α) (m : Moment σ) :
    ∃ L, p.Runs L (h.runProgram p m).1 := by
  obtain ⟨L, hL, -⟩ := answers_runProgram h p m
  exact ⟨L, hL⟩

end LocalCluster
