import LocalCluster.Proofs.Container.EngineWork
import LocalCluster.Proofs.Work.Driven
import LocalCluster.Proofs.Work.Earliest

/-!
# Many callers make sure of one network

Whoever needs a network looks for it, makes it when it is missing, and looks again when making it
has failed. There is no lock: what holds of any number of callers at the same time rests on an
engine that makes a network only while there is none of the name, and that removes none.

* `Engine.ensuring`, `Engine.making`, `Engine.rechecking`: what is left of a caller.
* `Serving`: an engine goes through exchanges and tells the truth about the network; `thereAfter`:
  whether the network is there; `countP_makes_le`, `Serving.shows`, `Serving.absent`.
* `Ensuring`: how far a caller has come; **`Ensuring.step`**, **`ensuring_of_worked`**: what a turn
  of a caller keeps, and what all turns of all callers keep.
* **`one_network_made`**: every interleaving of any number of callers.
-/

namespace LocalCluster.Container

open LocalCluster.Cluster LocalCluster.Text Script

variable {e : Engine} {name : String} {ipv6 there there' : Bool} {i : Nat} {fault : RuntimeFault}
variable {t past rest : List (Exchange Request Request.Answer)}
variable {x : Exchange Request Request.Answer} {answer : Except RuntimeFault Output}

/-! ## A caller -/

/-- An answer to a look-up shows the network of this name. -/
def showsNetwork (name : String) : Except RuntimeFault Output → Bool
  | .ok output => output.lines.contains name
  | .error _ => false

namespace Engine

variable (e : Engine) (name : String) (ipv6 : Bool)

/-- A caller that makes sure of the network, as a task. -/
def ensuring : Routine Outcome := Work.outcome (e.ensureNetwork name ipv6).toWork

/-- What is left of a caller that has failed to make the network. -/
def rechecking (fault : RuntimeFault) : Routine Outcome :=
  .ask (.command (e.networkLookup name)) fun answer =>
    .done (if showsNetwork name answer then .succeeded else .failed (.runtime fault))

/-- What is left of a caller that has not found the network. -/
def making : Routine Outcome :=
  .ask (.command (e.networkCreation name ipv6)) fun
    | .ok _ => .done .succeeded
    | .error fault => e.rechecking name fault

end Engine

open Engine

theorem run_hasNetwork : (e.hasNetwork name).run =
    .ask (.command (e.networkLookup name)) fun answer => .done (.ok (showsNetwork name answer)) :=
  congrArg (Script.ask _) (funext fun answer => by cases answer <;> rfl)

theorem rechecking_eq : e.rechecking name fault = Work.outcome (do
    if ← e.hasNetwork name then return
    throw fault : Call Unit).toWork := by
  unfold Work.outcome Call.toWork
  rw [ExceptT.run_bind, run_hasNetwork]
  refine congrArg (Script.ask _) (funext fun answer => ?_)
  dsimp only [Script.bind]
  cases showsNetwork name answer <;> rfl

/-- A caller looks for the network first, and goes on to make it only when it is missing. -/
theorem ensuring_eq : e.ensuring name ipv6 = .ask (.command (e.networkLookup name)) fun answer =>
    if showsNetwork name answer then .done .succeeded else e.making name ipv6 := by
  unfold ensuring Work.outcome Call.toWork ensureNetwork
  rw [ExceptT.run_bind, run_hasNetwork]
  refine congrArg (Script.ask _) (funext fun answer => ?_)
  dsimp only [Script.bind]
  cases showsNetwork name answer with
  | true => rfl
  | false =>
    refine congrArg (Script.ask _) (funext fun made => ?_)
    cases made with
    | ok output => rfl
    | error fault => exact rechecking_eq.symm

/-! ## The engine -/

/-- The exchange has made the network. -/
def Engine.makes (e : Engine) (name : String) : Exchange Request Request.Answer → Bool
  | ⟨.command c, .ok _⟩ => c = e.networkCreation name false ∨ c = e.networkCreation name true
  | _ => false

/-- The network is there after these exchanges: it was so before, or it has been made. -/
def thereAfter (e : Engine) (name : String) (there : Bool)
    (t : List (Exchange Request Request.Answer)) : Bool :=
  there || t.any (e.makes name)

/-- A look-up shows the network just when it is there, and a network that is there is not made. -/
structure Truthful (e : Engine) (name : String) (there : Bool)
    (x : Exchange Request Request.Answer) : Prop where
  lookup : ∀ answer, x = ⟨.command (e.networkLookup name), answer⟩ →
    showsNetwork name answer = there
  creation : e.makes name x = true → there = false

/-- An engine goes through these exchanges. It makes the network only while it is not there, tells
the truth about it, and never removes it; making it may fail at any time. -/
inductive Serving (e : Engine) (name : String) :
    Bool → List (Exchange Request Request.Answer) → Prop where
  | nil {there : Bool} : Serving e name there []
  | cons {there : Bool} {x : Exchange Request Request.Answer}
      {t : List (Exchange Request Request.Answer)} (truthful : Truthful e name there x)
      (rest : Serving e name (thereAfter e name there [x]) t) : Serving e name there (x :: t)

@[simp] theorem thereAfter_nil : thereAfter e name there [] = there := by simp [thereAfter]

theorem thereAfter_append : thereAfter e name there (past ++ rest) =
    thereAfter e name (thereAfter e name there past) rest := by
  simp [thereAfter, Bool.or_assoc]

/-- **A network that is there stays.** -/
theorem thereAfter_of_there (h : thereAfter e name there past = true) :
    thereAfter e name there (past ++ rest) = true := by
  rw [thereAfter_append, h]
  rfl

theorem thereAfter_of_makes (h : e.makes name x = true) (hx : x ∈ t) :
    thereAfter e name there t = true := by
  rw [thereAfter, List.any_eq_true.2 ⟨x, hx, h⟩, Bool.or_true]

theorem Serving.truthful (h : Serving e name there t) (ht : t = past ++ x :: rest) :
    Truthful e name (thereAfter e name there past) x := by
  induction past generalizing there t with
  | nil =>
    subst ht
    cases h with
    | cons truthful _ => rwa [thereAfter_nil]
  | cons y past ih =>
    subst ht
    cases h with
    | cons _ later =>
      rw [← List.singleton_append, thereAfter_append]
      exact ih later rfl

theorem Serving.shows (h : Serving e name there t)
    (ht : t = past ++ ⟨.command (e.networkLookup name), answer⟩ :: rest) :
    showsNetwork name answer = thereAfter e name there past :=
  (h.truthful ht).lookup answer rfl

/-- **A network is made once at most**, and only when there was none before. -/
theorem countP_makes_le (h : Serving e name there t) :
    t.countP (e.makes name) + there.toNat ≤ 1 := by
  induction h with
  | @nil there => cases there <;> simp
  | @cons there x t truthful _ ih =>
    cases hmakes : e.makes name x with
    | false =>
      rw [List.countP_cons_of_neg (by simp [hmakes])]
      simpa [thereAfter, hmakes] using ih
    | true =>
      obtain rfl := truthful.creation hmakes
      rw [List.countP_cons_of_pos hmakes]
      simp only [thereAfter, List.any_cons, hmakes, Bool.true_or, Bool.or_true,
        Bool.toNat_true] at ih
      simp only [Bool.toNat_false]
      omega

/-! ## How far a caller has come -/

/-- How far a caller has come, by what it has asked and been told. -/
inductive Ensuring (e : Engine) (name : String) (ipv6 : Bool) :
    List (Exchange Request Request.Answer) → Routine Outcome → Prop where
  | begun : Ensuring e name ipv6 [] (e.ensuring name ipv6)
  | found {seen : Except RuntimeFault Output} (h : showsNetwork name seen = true) :
      Ensuring e name ipv6 [⟨.command (e.networkLookup name), seen⟩] (.done .succeeded)
  | missing {seen : Except RuntimeFault Output} (h : showsNetwork name seen = false) :
      Ensuring e name ipv6 [⟨.command (e.networkLookup name), seen⟩] (e.making name ipv6)
  | made {seen : Except RuntimeFault Output} {o : Output} (h : showsNetwork name seen = false) :
      Ensuring e name ipv6 [⟨.command (e.networkLookup name), seen⟩,
        ⟨.command (e.networkCreation name ipv6), .ok o⟩] (.done .succeeded)
  | refused {seen : Except RuntimeFault Output} {fault : RuntimeFault}
      (h : showsNetwork name seen = false) :
      Ensuring e name ipv6 [⟨.command (e.networkLookup name), seen⟩,
        ⟨.command (e.networkCreation name ipv6), .error fault⟩] (e.rechecking name fault)
  | rechecked {seen again : Except RuntimeFault Output} {fault : RuntimeFault}
      (h : showsNetwork name seen = false) :
      Ensuring e name ipv6 [⟨.command (e.networkLookup name), seen⟩,
        ⟨.command (e.networkCreation name ipv6), .error fault⟩,
        ⟨.command (e.networkLookup name), again⟩]
        (.done (if showsNetwork name again then .succeeded else .failed (.runtime fault)))

/-- **A turn takes a caller from one point to the next one.** -/
theorem Ensuring.step {task : Routine Outcome} {r : Request} {next : r.Answer → Routine Outcome}
    (h : Ensuring e name ipv6 past task) (htask : task = .ask r next) (answer : r.Answer) :
    Ensuring e name ipv6 (past ++ [⟨r, answer⟩]) (next answer) := by
  cases h with
  | begun =>
    rw [ensuring_eq] at htask
    cases htask
    cases hshown : showsNetwork name answer with
    | true => simpa [hshown] using Ensuring.found hshown
    | false => simpa [hshown] using Ensuring.missing hshown
  | found => cases htask
  | missing h =>
    cases htask
    cases answer with
    | ok o => exact .made h
    | error fault => exact .refused h
  | made => cases htask
  | refused h =>
    cases htask
    exact .rechecked h
  | rechecked => cases htask

variable {callers : List Bool} {L L₁ L₂ : List Turn} {tasks : List (Routine Outcome)}

/-- **Whatever turns the others take, every caller goes through these points.** -/
theorem ensuring_of_worked (h : Worked (callers.map (e.ensuring name)) L tasks)
    (hi : callers[i]? = some ipv6) :
    ∃ task, tasks[i]? = some task ∧ Ensuring e name ipv6 (exchangesOf (.task i) L) task := by
  have hbegun : (callers.map (e.ensuring name))[i]? = some (e.ensuring name ipv6) := by simp [hi]
  have hstep := fun past r next answer (h : Ensuring e name ipv6 past (.ask r next)) =>
    h.step rfl answer
  exact h.keeps hstep hbegun .begun

/-- A caller asks three things at most, and with the third one it has come to its end. -/
theorem Ensuring.length_le {task : Routine Outcome} (h : Ensuring e name ipv6 past task) :
    past.length ≤ 3 ∧ (past.length = 3 → ∃ outcome, task = .done outcome) := by
  cases h with
  | rechecked => exact ⟨Nat.le_refl 3, fun _ => ⟨_, rfl⟩⟩
  | _ => simp

theorem Ensuring.succeeded {task : Routine Outcome} (h : Ensuring e name ipv6 past task)
    (htask : task = .done .succeeded) :
    (∃ seen, ⟨.command (e.networkLookup name), seen⟩ ∈ past ∧ showsNetwork name seen = true) ∨
      ∃ o, ⟨.command (e.networkCreation name ipv6), .ok o⟩ ∈ past := by
  cases h with
  | begun =>
    rw [ensuring_eq] at htask
    cases htask
  | found h => exact .inl ⟨_, List.mem_cons_self, h⟩
  | missing => cases htask
  | @made _ o => exact .inr ⟨o, by simp⟩
  | refused => cases htask
  | @rechecked _ again =>
    refine .inl ⟨again, by simp, ?_⟩
    cases hagain : showsNetwork name again with
    | true => rfl
    | false => simp [hagain] at htask

/-- A caller that has failed could not make the network and did not see it after that. -/
theorem Ensuring.failed {task : Routine Outcome} {outcome : Outcome}
    (h : Ensuring e name ipv6 past task) (htask : task = .done outcome)
    (hne : outcome ≠ .succeeded) :
    ∃ seen fault again, past = [⟨.command (e.networkLookup name), seen⟩,
        ⟨.command (e.networkCreation name ipv6), .error fault⟩,
        ⟨.command (e.networkLookup name), again⟩] ∧
      showsNetwork name again = false ∧ outcome = .failed (.runtime fault) := by
  cases h with
  | begun =>
    rw [ensuring_eq] at htask
    cases htask
  | found => exact absurd (Script.done.inj htask).symm hne
  | missing => cases htask
  | made => exact absurd (Script.done.inj htask).symm hne
  | refused => cases htask
  | @rechecked seen again fault =>
    obtain rfl := Script.done.inj htask
    cases hagain : showsNetwork name again with
    | true => simp [hagain] at hne
    | false => exact ⟨seen, fault, again, rfl, hagain, rfl⟩

theorem networkLookup_ne_networkCreation : e.networkLookup name ≠ e.networkCreation name ipv6 := by
  simp [networkLookup, networkCreation, command]

theorem makes_networkCreation {o : Output} :
    e.makes name ⟨.command (e.networkCreation name ipv6), .ok o⟩ = true := by
  cases ipv6 <;> simp [makes]

theorem Ensuring.missed {task : Routine Outcome} (h : Ensuring e name ipv6 past task)
    {ipv6' : Bool} (hx : x ∈ past)
    (hcreate : x.question = .command (e.networkCreation name ipv6')) :
    ∃ seen, ⟨.command (e.networkLookup name), seen⟩ ∈ past ∧ showsNetwork name seen = false := by
  cases h with
  | begun => cases hx
  | found =>
    obtain rfl := List.mem_singleton.1 hx
    exact absurd (Request.command.inj hcreate) networkLookup_ne_networkCreation
  | missing h => exact ⟨_, List.mem_cons_self, h⟩
  | made h => exact ⟨_, List.mem_cons_self, h⟩
  | refused h => exact ⟨_, List.mem_cons_self, h⟩
  | rechecked h => exact ⟨_, List.mem_cons_self, h⟩

theorem eq_recheck {seen made again made' : Except RuntimeFault Output} {ipv6' : Bool}
    (h : [⟨.command (e.networkLookup name), seen⟩, ⟨.command (e.networkCreation name ipv6), made⟩,
      ⟨.command (e.networkLookup name), again⟩] =
      past ++ ⟨.command (e.networkCreation name ipv6'), made'⟩ :: rest) :
    rest = [⟨.command (e.networkLookup name), again⟩] := by
  have hne : ∀ answer, (⟨.command (e.networkLookup name), answer⟩ :
      Exchange Request Request.Answer) ≠ ⟨.command (e.networkCreation name ipv6'), made'⟩ :=
    fun _ he => networkLookup_ne_networkCreation (Request.command.inj (Exchange.mk.inj he).1)
  match past, h with
  | [], h => exact absurd (List.cons.inj h).1 (hne _)
  | [_], h => exact (List.cons.inj (List.cons.inj h).2).2.symm
  | [_, _], h => exact absurd (List.cons.inj (List.cons.inj (List.cons.inj h).2).2).1 (hne _)
  | _ :: _ :: _ :: past, h => exact absurd (congrArg List.length h) (by simp)

/-! ## All callers -/

theorem Serving.shows_turn (serving : Serving e name there (L.map Turn.exchange)) {a : Asker}
    (hL : L = L₁ ++ ⟨a, ⟨.command (e.networkLookup name), answer⟩⟩ :: L₂) :
    showsNetwork name answer = thereAfter e name there (L₁.map Turn.exchange) :=
  serving.shows (by rw [hL, List.map_append, List.map_cons])

/-- **Many callers at once make one network.** Any number of callers make sure of the network of a
name, in any interleaving, and have come to any point, before an engine that makes a network only
while there is none of the name and that never removes it. One creation succeeds at most, and none
when the network was there before. A caller that has succeeded has done so while the network was
there. One whose creation was refused while the network was there succeeds. One that fails has had
its own creation refused, has then looked again, while the network was not there, and fails with the
fault of its creation. When the network was there before, no caller tries to make it. Every caller
asks three things at most. -/
theorem one_network_made (e : Engine) (name : String) (there : Bool) (callers : List Bool)
    (L : List Turn) (tasks : List (Routine Outcome))
    (worked : Worked (callers.map (e.ensuring name)) L tasks)
    (serving : Serving e name there (L.map Turn.exchange)) :
    (L.map Turn.exchange).countP (e.makes name) + there.toNat ≤ 1 ∧
    (∀ i : Nat, tasks[i]? = some (.done .succeeded) →
      thereAfter e name there (L.map Turn.exchange) = true) ∧
    (∀ i ipv6 fault L₁ L₂ outcome,
      L = L₁ ++ ⟨.task i, ⟨.command (e.networkCreation name ipv6), .error fault⟩⟩ :: L₂ →
      thereAfter e name there (L₁.map Turn.exchange) = true →
      tasks[i]? = some (.done outcome) → outcome = .succeeded) ∧
    (∀ i outcome, tasks[i]? = some (.done outcome) → outcome ≠ .succeeded →
      ∃ ipv6 fault again L₁ L₂ L₃, callers[i]? = some ipv6 ∧
        L = L₁ ++ ⟨.task i, ⟨.command (e.networkCreation name ipv6), .error fault⟩⟩ ::
          (L₂ ++ ⟨.task i, ⟨.command (e.networkLookup name), again⟩⟩ :: L₃) ∧
        thereAfter e name there ((L₁ ++
          ⟨.task i, ⟨.command (e.networkCreation name ipv6), .error fault⟩⟩ :: L₂).map
            Turn.exchange) = false ∧
        outcome = .failed (.runtime fault)) ∧
    (there = true → ∀ turn ∈ L, ∀ ipv6,
      turn.exchange.question ≠ .command (e.networkCreation name ipv6)) ∧
    (∀ i task, tasks[i]? = some task → (exchangesOf (.task i) L).length ≤ 3 ∧
      ((exchangesOf (.task i) L).length = 3 → ∃ outcome, task = .done outcome)) := by
  have hcaller : ∀ i task, tasks[i]? = some task → ∃ ipv6, callers[i]? = some ipv6 ∧
      Ensuring e name ipv6 (exchangesOf (.task i) L) task := by
    intro i task hi
    have hlt : i < callers.length := by
      have := (List.getElem?_eq_some_iff.1 hi).1
      rwa [worked.length_eq, List.length_map] at this
    obtain ⟨task', hi', h⟩ := ensuring_of_worked worked (List.getElem?_eq_getElem hlt)
    obtain rfl := Option.some.inj (hi'.symm.trans hi)
    exact ⟨_, List.getElem?_eq_getElem hlt, h⟩
  refine ⟨countP_makes_le serving, fun i hi => ?_, ?_, ?_, ?_, fun i task hi => ?_⟩
  · obtain ⟨ipv6, -, h⟩ := hcaller i _ hi
    rcases h.succeeded rfl with ⟨seen, hmem, hshown⟩ | ⟨o, hmem⟩
    · obtain ⟨L₁, L₂, rfl⟩ := List.append_of_mem (mem_exchangesOf.1 hmem)
      rw [List.map_append]
      exact thereAfter_of_there ((serving.shows_turn rfl).symm.trans hshown)
    · exact thereAfter_of_makes makes_networkCreation (List.mem_map_of_mem (mem_exchangesOf.1 hmem))
  · rintro i ipv6' fault' L₁ L₂ outcome rfl hthere hi
    by_contra hne
    obtain ⟨ipv6, -, h⟩ := hcaller i _ hi
    obtain ⟨seen, fault, again, heq, hmissed, -⟩ := h.failed rfl hne
    rw [exchangesOf_append, exchangesOf_cons_self] at heq
    obtain ⟨M₁, M₂, rfl, -, -⟩ :=
      exchangesOf_eq_append_cons ((eq_recheck heq.symm).trans (List.nil_append _).symm)
    have hshown := serving.shows_turn (List.append_assoc L₁ (_ :: M₁) _).symm
    rw [List.map_append, thereAfter_of_there hthere, hmissed] at hshown
    cases hshown
  · intro i outcome hi hne
    obtain ⟨ipv6, hcall, h⟩ := hcaller i _ hi
    obtain ⟨seen, fault, again, heq, hmissed, houtcome⟩ := h.failed rfl hne
    obtain ⟨L₁, R, rfl, -, hrest⟩ :=
      exchangesOf_eq_append_cons (heq.trans (List.singleton_append).symm)
    obtain ⟨L₂, L₃, rfl, -, -⟩ :=
      exchangesOf_eq_append_cons (hrest.trans (List.nil_append _).symm)
    refine ⟨ipv6, fault, again, L₁, L₂, L₃, hcall, rfl, ?_, houtcome⟩
    exact (serving.shows_turn (List.append_assoc L₁ (_ :: L₂) _).symm).symm.trans hmissed
  · rintro rfl ⟨asker, x⟩ hturn ipv6' hcreate
    obtain ⟨i, hlt, rfl⟩ := worked.asker _ hturn
    rw [← worked.length_eq] at hlt
    obtain ⟨ipv6, -, h⟩ := hcaller i _ (List.getElem?_eq_getElem hlt)
    obtain ⟨seen, hmem, hmissed⟩ := h.missed (mem_exchangesOf.2 hturn) hcreate
    obtain ⟨L₁, L₂, rfl⟩ := List.append_of_mem (mem_exchangesOf.1 hmem)
    have hshown := serving.shows_turn rfl
    rw [hmissed, thereAfter, Bool.true_or] at hshown
    cases hshown
  · obtain ⟨ipv6, -, h⟩ := hcaller i task hi
    exact h.length_le

/-! ## A host with one network -/

/-- The answers of an engine that knows of the network or not, and prints it in this way. -/
def networkAnswer (e : Engine) (name : String) (printed : Output) (there : Bool) :
    (r : Request) → r.Answer
  | .command c =>
    if c = e.networkLookup name then
      if there then .ok printed else .error (.invocation c.display (some 1) "")
    else if there then .error (.invocation c.display (some 1) "") else .ok {}
  | r => r.compliance

/-- A host that keeps a network once it has been made. -/
def networkHost (e : Engine) (name : String) (printed : Output) : Host Bool where
  answer r := fun there =>
    let answer := networkAnswer e name printed there r
    ((answer, 0), thereAfter e name there [⟨r, answer⟩])

theorem networkAnswer_command {printed : Output} {c : Command} :
    networkAnswer e name printed there (.command c) =
      if c = e.networkLookup name then
        if there then .ok printed else .error (.invocation c.display (some 1) "")
      else if there then .error (.invocation c.display (some 1) "") else .ok {} := rfl

theorem truthful_networkAnswer {printed : Output}
    (hprinted : showsNetwork name (.ok printed) = true) (r : Request) :
    Truthful e name there ⟨r, networkAnswer e name printed there r⟩ := by
  refine ⟨?_, fun hmakes => ?_⟩
  · rintro answer hx
    obtain ⟨rfl, hanswer⟩ := Exchange.mk.inj hx
    obtain rfl := eq_of_heq hanswer
    rw [networkAnswer_command, if_pos rfl]
    cases there with
    | true => exact hprinted
    | false => rfl
  · cases there with
    | false => rfl
    | true =>
      cases r with
      | command c =>
        rw [networkAnswer_command] at hmakes
        split at hmakes
        · next hlookup =>
          subst hlookup
          simp [makes, networkLookup_ne_networkCreation] at hmakes
        · cases hmakes
      | _ => cases hmakes

theorem serving_of_answers {printed : Output} (hprinted : showsNetwork name (.ok printed) = true)
    (h : (networkHost e name printed).Answers there t there') : Serving e name there t := by
  induction h with
  | nil => exact .nil
  | cons _ ih => exact .cons (truthful_networkAnswer hprinted _) ih

/-- The task has succeeded. -/
def hasSucceeded : Routine Outcome → Bool
  | .done .succeeded => true
  | _ => false

theorem hasSucceeded_iff {task : Routine Outcome} :
    hasSucceeded task = true ↔ task = .done .succeeded := by
  match task with
  | .done .succeeded => simp [hasSucceeded]
  | .done (.failed _) | .done (.brokeDown _) | .ask .. => simp [hasSucceeded]

/-- Three callers of one network. Two of them look for it before it is made; the second one is
refused and looks again. -/
def raceRun : List Turn × Crew (Except Fault Unit) × Bool :=
  Crew.drive (networkHost {} "kind" (.ofText "kind\n"))
    (.returned (.ok ()) ([false, true, false].map (ensuring {} "kind"))) false
    [.task 0, .task 1, .task 0, .task 1, .task 2, .task 1]

theorem raceRun_one_network :
    raceRun.1.length = 6 ∧ (∀ task ∈ raceRun.2.1.tasks, task = .done .succeeded) ∧
    (raceRun.1.map Turn.exchange).countP (makes {} "kind") + false.toNat ≤ 1 ∧
    thereAfter {} "kind" false (raceRun.1.map Turn.exchange) = true := by
  have hrun : Crew.Run (.returned (.ok ()) ([false, true, false].map (ensuring {} "kind")))
      raceRun.1 raceRun.2.1 := Crew.run_drive _ _ _ _
  obtain ⟨tasks, hend, worked⟩ := run_of_returned hrun
  have hall : raceRun.2.1.tasks.all hasSucceeded = true := by decide +kernel
  have hdone : ∀ task ∈ raceRun.2.1.tasks, task = .done .succeeded := fun task htask =>
    hasSucceeded_iff.1 (List.all_eq_true.1 hall task htask)
  have hlength : 0 < tasks.length := by simp [worked.length_eq]
  have hfirst : tasks[0]? = some (.done .succeeded) := by
    rw [List.getElem?_eq_getElem hlength, hdone tasks[0] (by simp [hend, Crew.returned])]
  have hserving : Serving {} "kind" false (raceRun.1.map Turn.exchange) :=
    serving_of_answers (by decide +kernel) (Crew.answers_drive _ _ _ _)
  obtain ⟨hone, hthere, -⟩ := one_network_made {} "kind" false _ _ _ worked hserving
  exact ⟨by decide +kernel, hdone, hone, hthere 0 hfirst⟩

end LocalCluster.Container
