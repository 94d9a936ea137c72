import LocalCluster.Proofs.Container.Store
import LocalCluster.Proofs.Work.Commands
import LocalCluster.Proofs.Work.Driven

/-!
# How the containers of an engine change

An engine keeps a container that it has started until it is asked to remove it. What it lists in
between are the containers that it keeps at that moment.

* `keptAfter`: the containers after an exchange.
* `Keeping`: an engine that goes through a list of exchanges; `keeping_append_iff`.
* `startedBy`: the containers that have been started; **`Keeping.eq_append`**: without a removal,
  these are the ones that come in addition. `wantedBy`: those that were to be started.
* `keeper`: a host that keeps containers but fails to start some; **`keeping_drive`**.
-/

namespace LocalCluster.Container

open LocalCluster.Text Script

variable {store store' middle : List Kept} {x : Exchange Request Request.Answer}
variable {t t₁ t₂ : List (Exchange Request Request.Answer)}

/-- The containers after an exchange: there is one more when one has been started, and those that
have been removed by their names are gone. -/
def keptAfter (store : List Kept) : Exchange Request Request.Answer → List Kept
  | ⟨.command c, .ok _⟩ =>
    if c.isStart then store ++ (kept? c.args).toList
    else if c.isRemoval then store.filter fun k => ! (c.args.drop 3).contains k.name
    else store
  | _ => store

/-- A removal succeeds. -/
def Removes (x : Exchange Request Request.Answer) : Prop :=
  ∀ c fault, x = ⟨.command c, .error fault⟩ → c.isRemoval = false

/-- An engine goes through exchanges, from some containers to others: it lists what it keeps, and
it removes what it is asked to remove. -/
inductive Keeping : List Kept → List (Exchange Request Request.Answer) → List Kept → Prop where
  | nil {store : List Kept} : Keeping store [] store
  | cons {store store' : List Kept} {x : Exchange Request Request.Answer}
      {t : List (Exchange Request Request.Answer)} (honest : Honest store x) (removes : Removes x)
      (rest : Keeping (keptAfter store x) t store') : Keeping store (x :: t) store'

theorem keeping_append_iff : Keeping store (t₁ ++ t₂) store' ↔
    ∃ middle, Keeping store t₁ middle ∧ Keeping middle t₂ store' := by
  constructor
  · intro h
    induction t₁ generalizing store with
    | nil => exact ⟨store, .nil, h⟩
    | cons x t₁ ih =>
      cases h with
      | cons honest removes rest =>
        obtain ⟨middle, h₁, h₂⟩ := ih rest
        exact ⟨middle, .cons honest removes h₁, h₂⟩
  · rintro ⟨middle, h₁, h₂⟩
    induction h₁ with
    | nil => exact h₂
    | cons honest removes _ ih => exact .cons honest removes (ih h₂)

/-- The containers that have been started, in order. -/
def startedBy (t : List (Exchange Request Request.Answer)) : List Kept :=
  ((startsOf t).filter (·.result.isOk)).filterMap fun e => kept? e.command.args

@[simp] theorem startedBy_nil : startedBy [] = [] := rfl

@[simp] theorem startedBy_append : startedBy (t₁ ++ t₂) = startedBy t₁ ++ startedBy t₂ := by
  simp [startedBy, startsOf]

theorem startedBy_eq_nil (h : ∀ x ∈ t, LeavesContainers x.question) : startedBy t = [] := by
  rw [startedBy, startsOf_eq_nil h]
  rfl

theorem startedBy_cons {c : Command} {answer : Except RuntimeFault Output}
    (h : c.isStart = false) : startedBy (⟨.command c, answer⟩ :: t) = startedBy t := by
  simp [startedBy, startsOf, commandsOf, executed?, h]

/-- The containers that were to be started, in order, whether that went well or not. -/
def wantedBy (t : List (Exchange Request Request.Answer)) : List Kept :=
  (startsOf t).filterMap fun e => kept? e.command.args

@[simp] theorem wantedBy_append : wantedBy (t₁ ++ t₂) = wantedBy t₁ ++ wantedBy t₂ := by
  simp [wantedBy, startsOf]

theorem wantedBy_eq_nil (h : ∀ x ∈ t, LeavesContainers x.question) : wantedBy t = [] := by
  rw [wantedBy, startsOf_eq_nil h]
  rfl

theorem wantedBy_cons {c : Command} {answer : Except RuntimeFault Output}
    (h : c.isStart = false) : wantedBy (⟨.command c, answer⟩ :: t) = wantedBy t := by
  simp [wantedBy, startsOf, commandsOf, executed?, h]

theorem startedBy_sublist_wantedBy : (startedBy t).Sublist (wantedBy t) :=
  List.filter_sublist.filterMap _

theorem wantedBy_eq_startedBy (h : ∀ e ∈ startsOf t, e.result.isOk = true) :
    wantedBy t = startedBy t := by
  rw [startedBy, List.filter_eq_self.2 h]
  rfl

theorem keptAfter_eq (h : ∀ c, x.question = .command c → c.isRemoval = false) :
    keptAfter store x = store ++ startedBy [x] := by
  obtain ⟨q, answer⟩ := x
  cases q with
  | command c =>
    cases answer with
    | error fault =>
      have hnone : startedBy [⟨.command c, .error fault⟩] = [] := by
        cases hstart : c.isStart <;> simp [startedBy, startsOf, commandsOf, executed?, hstart,
          Except.isOk, Except.toBool]
      rw [hnone, List.append_nil]
      rfl
    | ok o =>
      have hone : startedBy [⟨.command c, .ok o⟩] =
          if c.isStart then (kept? c.args).toList else [] := by
        cases hstart : c.isStart <;> cases hkept : kept? c.args <;> simp [startedBy, startsOf,
          commandsOf, executed?, hstart, hkept, Except.isOk, Except.toBool]
      rw [hone, keptAfter, h c rfl]
      cases c.isStart <;> simp
  | _ =>
    rw [startedBy_eq_nil (List.forall_mem_singleton.2 (leavesContainers_of_not_command rfl)),
      List.append_nil]
    rfl

/-- **Without a removal, the containers that have been started come in addition.** -/
theorem Keeping.eq_append (h : Keeping store t store')
    (hquiet : ∀ e ∈ commandsOf t, e.command.isRemoval = false) :
    store' = store ++ startedBy t := by
  induction h with
  | nil => simp
  | @cons store _ x t _ _ _ ih =>
    have hx : ∀ c, x.question = .command c → c.isRemoval = false := by
      obtain ⟨q, answer⟩ := x
      rintro c rfl
      exact hquiet ⟨c, answer⟩ (mem_commandsOf.2 List.mem_cons_self)
    have ht : ∀ e ∈ commandsOf t, e.command.isRemoval = false := fun e he =>
      hquiet e (mem_commandsOf.2 (List.mem_cons_of_mem x (mem_commandsOf.1 he)))
    rw [ih ht, keptAfter_eq hx, List.append_assoc, ← startedBy_append]
    rfl

/-! ## Hosts that keep containers -/

/-- The answers of an engine that keeps these containers but fails to start those of some names. -/
def keeperAnswer (failing : List String) (store : List Kept) : (r : Request) → r.Answer
  | .command c =>
    if c.isStart && ((kept? c.args).any fun k => failing.contains k.name) then
      .error (.invocation c.display (some 125) "")
    else answersOf store (.command c)
  | r => answersOf store r

/-- A host that keeps containers but fails to start those of some names. -/
def keeper (failing : List String) : Host (List Kept) where
  answer r := fun store =>
    let answer := keeperAnswer failing store r
    ((answer, 0), keptAfter store ⟨r, answer⟩)

variable {failing : List String}

theorem keeperAnswer_command {c : Command} : keeperAnswer failing store (.command c) =
    if c.isStart && ((kept? c.args).any fun k => failing.contains k.name) then
      .error (.invocation c.display (some 125) "")
    else answersOf store (.command c) := rfl

theorem honest_keeperAnswer (r : Request) : Honest store ⟨r, keeperAnswer failing store r⟩ := by
  cases r with
  | command c =>
    rw [keeperAnswer_command]
    split
    · next hstart =>
      rintro filter format hargs
      simp [Command.isStart, hargs] at hstart
    · exact honest_answersOf store _
  | _ => exact honest_answersOf store _

theorem removes_keeperAnswer (r : Request) : Removes ⟨r, keeperAnswer failing store r⟩ := by
  rintro c fault hx
  obtain ⟨rfl, hanswer⟩ := Exchange.mk.inj hx
  replace hanswer := eq_of_heq hanswer
  rw [keeperAnswer_command] at hanswer
  split at hanswer
  · next hstart =>
    have hhead : c.args.head? = some "run" := by
      simpa [Command.isStart] using (Bool.and_eq_true_iff.1 hstart).1
    simp [Command.isRemoval, hhead]
  · simp only [answersOf] at hanswer
    split at hanswer <;> cases hanswer

theorem keeping_of_answers (h : (keeper failing).Answers store t store') :
    Keeping store t store' := by
  induction h with
  | nil => exact .nil
  | @cons _ _ r _ _ ih => exact .cons (honest_keeperAnswer r) (removes_keeperAnswer r) ih

/-- **A host that keeps containers goes through the turns that it is driven through.** -/
theorem keeping_drive {α : Type} (k : Crew α) (choices : List Crew.Choice) :
    Keeping store ((Crew.drive (keeper failing) k store choices).1.map Turn.exchange)
      (Crew.drive (keeper failing) k store choices).2.2 :=
  keeping_of_answers (Crew.answers_drive _ k store choices)

end LocalCluster.Container
