import LocalCluster.Proofs.Work.Crew
import LocalCluster.Work.Run

/-!
# Runs in a chosen order

Whoever chooses who comes next, and a host that answers, bring about a run of a program with its
tasks.

* `Crew.Choice`, `Crew.move`, `Crew.drive`: one choice, and a list of them; choices that are not
  possible change nothing.
* `Crew.result?`: the value that a program has come to.
* **`run_drive`**, `runs_of_run`, `runs_of_drive`: what is brought about is a run.
* `Host.Answers`: a host that goes through a list of exchanges; **`answers_drive`**: it goes through
  those that are brought about.
-/

namespace LocalCluster

open LocalCluster.Cluster Script

/-- The host answers these requests one after the other, and goes from one state to another. -/
inductive Host.Answers {σ : Type} (h : Host σ) :
    σ → List (Exchange Request Request.Answer) → σ → Prop where
  | nil {state : σ} : Answers h state [] state
  | cons {state state' : σ} {r : Request} {t : List (Exchange Request Request.Answer)}
      (rest : Answers h ((h.answer r).run state).2 t state') :
      Answers h state (⟨r, ((h.answer r).run state).1.1⟩ :: t) state'

theorem Host.Answers.trans {σ : Type} {h : Host σ} {state mid state' : σ}
    {t₁ t₂ : List (Exchange Request Request.Answer)} (h₁ : h.Answers state t₁ mid)
    (h₂ : h.Answers mid t₂ state') : h.Answers state (t₁ ++ t₂) state' := by
  induction h₁ with
  | nil => exact h₂
  | cons _ ih => exact .cons (ih h₂)

namespace Crew

variable {σ α : Type} (h : Host σ)

/-- What comes next: the program goes on, a task takes a turn, or the program is told of a task that
is done. -/
inductive Choice where
  | program
  | task (i : Nat)
  | tell (i : Nat)
  deriving DecidableEq, Repr

/-- What a choice brings about: turns, the crew and the state of the host afterwards. -/
def move (k : Crew α) (state : σ) : Choice → List Turn × Crew α × σ
  | .program =>
    match k.stand with
    | .going (.done _) => ([], k, state)
    | .going (.ask (.single r) next) =>
      let ((answer, _), state) := (h.answer r).run state
      ([.own ⟨r, answer⟩], ⟨.going (next answer), k.tasks⟩, state)
    | .going (.ask (.together policy work) next) =>
      ([], ⟨.waiting policy (List.range' k.tasks.length work.length) [] next, k.tasks ++ work⟩,
        state)
    | .waiting policy group told next =>
      match policy.verdict? group told with
      | some r => ([], ⟨.going (next r), k.tasks⟩, state)
      | none => ([], k, state)
  | .task i =>
    match k.tasks[i]? with
    | some (.ask r next) =>
      let ((answer, _), state) := (h.answer r).run state
      ([⟨.task i, ⟨r, answer⟩⟩], ⟨k.stand, k.tasks.set i (next answer)⟩, state)
    | _ => ([], k, state)
  | .tell i =>
    match k.stand, k.tasks[i]? with
    | .waiting policy group told next, some (.done outcome) =>
      if i ∈ group ∧ i ∉ told.map Prod.fst then
        ([], ⟨.waiting policy group (told ++ [(i, outcome)]) next, k.tasks⟩, state)
      else ([], k, state)
    | _, _ => ([], k, state)

/-- What a list of choices brings about. -/
def drive (k : Crew α) (state : σ) : List Choice → List Turn × Crew α × σ
  | [] => ([], k, state)
  | choice :: choices =>
    let (turns, k, state) := move h k state choice
    let (later, k, state) := drive k state choices
    (turns ++ later, k, state)

/-- The value that the program has come to. -/
def result? (k : Crew α) : Option α :=
  match k.stand with
  | .going (.done a) => some a
  | _ => none

/-- All tasks are done. -/
def isIdle (k : Crew α) : Bool :=
  k.tasks.all fun task => match task with
    | .done _ => true
    | .ask .. => false

theorem run_move (k : Crew α) (state : σ) (choice : Choice) :
    Run k (move h k state choice).1 (move h k state choice).2.1 := by
  have hone : ∀ {turns k'}, Step k turns k' → Run k turns k' := fun {turns k'} hs => by
    have := Run.step hs .refl
    rwa [List.append_nil] at this
  obtain ⟨stand, tasks⟩ := k
  cases choice with
  | program =>
    cases stand with
    | going p =>
      cases p with
      | done a => exact .refl
      | ask d next =>
        cases d with
        | single r => exact hone .ask
        | together policy work => exact hone .start
    | waiting policy group told next =>
      unfold move
      dsimp only
      split
      · next r hr => exact hone (.conclude hr)
      · exact .refl
  | task i =>
    unfold move
    dsimp only
    split
    · next r next hi => exact hone (.work hi)
    · exact .refl
  | tell i =>
    unfold move
    dsimp only
    split
    · next policy group told next outcome hstand hi =>
      split
      · next hin => exact hone (.tell hin.1 hin.2 hi)
      · exact .refl
    · exact .refl

/-- **Choosing who comes next brings about a run.** -/
theorem run_drive (k : Crew α) (state : σ) (choices : List Choice) :
    Run k (drive h k state choices).1 (drive h k state choices).2.1 := by
  induction choices generalizing k state with
  | nil => exact .refl
  | cons choice choices ih => exact (run_move h k state choice).trans (ih _ _)

theorem answers_move (k : Crew α) (state : σ) (choice : Choice) :
    h.Answers state ((move h k state choice).1.map Turn.exchange) (move h k state choice).2.2 := by
  cases choice with
  | program =>
    unfold move
    dsimp only
    split
    · exact .nil
    · exact .cons .nil
    · exact .nil
    · split <;> exact .nil
  | task i =>
    unfold move
    dsimp only
    split
    · exact .cons .nil
    · exact .nil
  | tell i =>
    unfold move
    dsimp only
    split
    · split <;> exact .nil
    · exact .nil

/-- **The host goes through what is brought about.** -/
theorem answers_drive (k : Crew α) (state : σ) (choices : List Choice) :
    h.Answers state ((drive h k state choices).1.map Turn.exchange)
      (drive h k state choices).2.2 := by
  induction choices generalizing k state with
  | nil => exact .nil
  | cons choice choices ih =>
    show h.Answers state (List.map _ (_ ++ _)) _
    rw [List.map_append]
    exact (answers_move h k state choice).trans (ih _ _)

theorem runs_of_run {p : Program α} {k : Crew α} {L : List Turn} {a : α}
    (hrun : Run ⟨.going p, []⟩ L k) (hend : k.result? = some a) (hidle : k.isIdle = true) :
    p.Runs L a := by
  obtain ⟨stand, tasks⟩ := k
  have hstand : stand = .going (.done a) := by
    unfold result? at hend
    split at hend
    · next b hb =>
      obtain rfl := Option.some.inj hend
      exact hb
    · cases hend
  subst hstand
  refine ⟨tasks, hrun, fun task htask => ?_⟩
  have hone := List.all_eq_true.1 hidle task htask
  cases task with
  | done outcome => exact ⟨outcome, rfl⟩
  | ask r next => cases hone

theorem runs_of_drive {p : Program α} {state : σ} {choices : List Choice} {a : α}
    (hend : (drive h ⟨.going p, []⟩ state choices).2.1.result? = some a)
    (hidle : (drive h ⟨.going p, []⟩ state choices).2.1.isIdle = true) :
    p.Runs (drive h ⟨.going p, []⟩ state choices).1 a :=
  runs_of_run (run_drive h _ state choices) hend hidle

end Crew

end LocalCluster
