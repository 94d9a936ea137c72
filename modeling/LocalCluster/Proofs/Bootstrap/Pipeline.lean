import LocalCluster.Proofs.Bootstrap.Action

/-!
# Runs of pipelines

A run of a pipeline is a row of legs, one for each step that is executed. Each leg begins in the
context that the one before has left behind, and the first one that fails is the last one.

* `Leg`: one executed step, with all that was asked for it; `Leg.Gone`: it went like that.
* `Performed`: what a run has executed and how it ends; **`performed_of_follows`**: so it does.
* `Pipeline.runTimes`: several runs in a row; `run_of_ended`: a pipeline that has ended refuses.
* **`runs_only_once`**: the first run does everything, and the later ones nothing.
-/

namespace LocalCluster.Cluster.Bootstrap

open Script

variable {report : Status} {p : Provider} {step : Step} {steps : List Step} {index : Nat}
variable {ctx : Context} {t rest : History} {progress : Progress}

/-! ## Legs -/

/-- A step that has been executed. -/
structure Leg where
  step : Step
  /-- The context that the step was given. -/
  before : Context
  /-- What was asked to tell that the step begins. -/
  began : History
  /-- What the step itself has asked. -/
  asked : History
  result : Except Fault Unit
  /-- The context that the step has left behind. -/
  after : Context
  /-- What was asked to tell that the step has ended. -/
  ended : History

namespace Leg

/-- All that was asked in a leg, in order. -/
def trace (leg : Leg) : History := leg.began ++ (leg.asked ++ leg.ended)

/-- The step has gone as the leg says, and its beginning and its end were told. -/
structure Gone (report : Status) (p : Provider) (leg : Leg) : Prop where
  began : Follows (report (.stepBegan leg.step.label)) leg.began ()
  asked : Follows ((leg.step.run p).run leg.before : Routine (Except Fault Unit × Context))
    leg.asked (leg.result, leg.after)
  ended : Follows (report (.stepEnded leg.result.toBool)) leg.ended ()

end Leg

/-- Each leg is given the context that the one before has left behind, from `ctx` up to the last
one. -/
def Chained (ctx : Context) : List Leg → Context → Prop
  | [], last => last = ctx
  | leg :: later, last => leg.before = ctx ∧ Chained leg.after later last

/-- **What a run of steps has executed and how it ends**, when the first step has number `index`. -/
structure Performed (report : Status) (p : Provider) (index : Nat) (steps : List Step)
    (ctx : Context) (legs : List Leg) (t : History) (progress : Progress) : Prop where
  /-- The first steps were executed, each once and in order. -/
  order : legs.map Leg.step <+: steps
  gone : ∀ leg ∈ legs, leg.Gone report p
  shared : Chained ctx legs progress.context
  /-- Nothing else was asked or told. -/
  trace : t = legs.flatMap Leg.trace
  /-- No step follows one that fails. -/
  continued : ∀ leg ∈ legs.dropLast, leg.result = .ok ()
  succeeded : progress.state = .succeeded ↔ ∀ leg ∈ legs, leg.result = .ok ()
  complete : progress.state = .succeeded → legs.map Leg.step = steps ∧ progress.result = .ok ()
  failed : ∀ i leg fault, legs[i]? = some leg → leg.result = .error fault →
    progress.state = .failed (index + i) fault.message ∧
      progress.result = .error (.step leg.step.label fault)

/-! ## One run -/

/-- The first leg of a run; if it fails nothing follows, and else the run of the other steps. -/
theorem exists_leg (h : Follows (runSteps report p index (step :: steps) ctx) t progress) :
    ∃ leg : Leg, leg.step = step ∧ leg.before = ctx ∧ leg.Gone report p ∧
      match leg.result with
      | .ok () => ∃ rest, t = leg.trace ++ rest ∧
          Follows (runSteps report p (index + 1) steps leg.after) rest progress
      | .error fault => t = leg.trace ∧
          progress = ⟨.error (.step step.label fault), .failed index fault.message, leg.after⟩ := by
  obtain ⟨_, began, t₁, rfl, hbegan, h⟩ := follows_bind_iff.1 h
  obtain ⟨⟨result, after⟩, asked, t₂, rfl, hasked, h⟩ := follows_bind_iff.1 h
  cases result with
  | ok u =>
    obtain ⟨_, ended, rest, rfl, hended, h⟩ := follows_bind_iff.1 h
    refine ⟨⟨step, ctx, began, asked, .ok (), after, ended⟩, rfl, rfl, ⟨hbegan, hasked, hended⟩,
      rest, ?_, h⟩
    simp [Leg.trace]
  | error fault =>
    obtain ⟨_, ended, t₃, rfl, hended, h⟩ := follows_bind_iff.1 h
    obtain ⟨rfl, rfl⟩ := follows_pure_iff.1 h
    refine ⟨⟨step, ctx, began, asked, .error fault, after, ended⟩, rfl, rfl,
      ⟨hbegan, hasked, hended⟩, ?_, rfl⟩
    simp [Leg.trace]

theorem performed_nil : Performed report p index [] ctx [] [] ⟨.ok (), .succeeded, ctx⟩ where
  order := List.prefix_rfl
  gone := by simp
  shared := rfl
  trace := rfl
  continued := by simp
  succeeded := by simp
  complete _ := ⟨rfl, rfl⟩
  failed := by simp

theorem performed_failed {leg : Leg} {fault : Fault} (hleg : leg.Gone report p)
    (hfault : leg.result = .error fault) :
    Performed report p index (leg.step :: steps) leg.before [leg] leg.trace
      ⟨.error (.step leg.step.label fault), .failed index fault.message, leg.after⟩ where
  order := ⟨steps, rfl⟩
  gone := by simpa using hleg
  shared := ⟨rfl, rfl⟩
  trace := by simp
  continued := by simp
  succeeded := by simp [hfault]
  complete := nofun
  failed i only fault' hi hfault' := by
    obtain ⟨rfl, rfl⟩ : i = 0 ∧ leg = only := by
      cases i with
      | zero => exact ⟨rfl, Option.some.inj hi⟩
      | succ i => simp at hi
    obtain rfl := Except.error.inj (hfault.symm.trans hfault')
    exact ⟨rfl, rfl⟩

theorem Performed.cons {leg : Leg} {legs : List Leg} (hleg : leg.Gone report p)
    (hok : leg.result = .ok ())
    (h : Performed report p (index + 1) steps leg.after legs rest progress) :
    Performed report p index (leg.step :: steps) leg.before (leg :: legs) (leg.trace ++ rest)
      progress where
  order := List.cons_prefix_cons.2 ⟨rfl, h.order⟩
  gone := List.forall_mem_cons.2 ⟨hleg, h.gone⟩
  shared := ⟨rfl, h.shared⟩
  trace := by rw [List.flatMap_cons, ← h.trace]
  continued := by
    have hlast := h.continued
    cases legs with
    | nil => simp
    | cons second legs =>
      rw [List.dropLast_cons_of_ne_nil (List.cons_ne_nil _ _)]
      exact List.forall_mem_cons.2 ⟨hok, hlast⟩
  succeeded := by rw [h.succeeded, List.forall_mem_cons, and_iff_right hok]
  complete hs := ⟨congrArg (_ :: ·) (h.complete hs).1, (h.complete hs).2⟩
  failed i other fault hi hfault := by
    cases i with
    | zero =>
      obtain rfl := Option.some.inj hi
      rw [hok] at hfault
      cases hfault
    | succ i =>
      have hlater := h.failed i other fault hi hfault
      rwa [Nat.add_assoc, Nat.add_comm 1 i] at hlater

/-- **Every run of steps goes leg by leg up to the first that fails.** -/
theorem performed_of_follows (h : Follows (runSteps report p index steps ctx) t progress) :
    ∃ legs, Performed report p index steps ctx legs t progress := by
  induction steps generalizing index ctx t with
  | nil =>
    obtain ⟨rfl, rfl⟩ := follows_pure_iff.1 h
    exact ⟨[], performed_nil⟩
  | cons step steps ih =>
    obtain ⟨leg, rfl, rfl, hleg, hrest⟩ := exists_leg h
    cases hresult : leg.result with
    | ok u =>
      rw [hresult] at hrest
      obtain ⟨rest, rfl, hlater⟩ := hrest
      obtain ⟨legs, hlegs⟩ := ih hlater
      exact ⟨leg :: legs, hlegs.cons hleg hresult⟩
    | error fault =>
      rw [hresult] at hrest
      obtain ⟨rfl, rfl⟩ := hrest
      exact ⟨[leg], performed_failed hleg hresult⟩

theorem Performed.ended {legs : List Leg}
    (h : Performed report p index steps ctx legs t progress) : progress.state ≠ .pending := by
  by_cases hall : ∀ leg ∈ legs, leg.result = .ok ()
  · rw [h.succeeded.2 hall]
    simp
  · simp only [Classical.not_forall] at hall
    obtain ⟨leg, hmem, hne⟩ := hall
    obtain ⟨i, hi⟩ := List.mem_iff_getElem?.1 hmem
    cases hresult : leg.result with
    | ok u => exact absurd hresult hne
    | error fault =>
      rw [(h.failed i leg fault hi hresult).1]
      simp

/-! ## Several runs -/

/-- What comes of running a pipeline that has ended like this. -/
def Progress.again (progress : Progress) : Progress :=
  ⟨.error (.validation ("pipeline already ran (" ++ progress.state.display ++ ")")),
    progress.state, progress.context⟩

/-- Runs a pipeline several times in a row, each time on the context as it is by then. -/
def Pipeline.runTimes (report : Status) (p : Provider) :
    Nat → Pipeline → Context → Routine (List Progress)
  | 0, _, _ => return []
  | times + 1, pipeline, ctx => do
    let progress ← pipeline.run report p ctx
    let later ← runTimes report p times { pipeline with state := progress.state } progress.context
    return progress :: later

/-- **A pipeline that has ended refuses to run**, asks nothing and changes nothing. -/
theorem run_of_ended (h : progress.state ≠ .pending) :
    Pipeline.run report p ⟨steps, progress.state⟩ progress.context = pure progress.again := by
  unfold Pipeline.run
  split
  · next hpending => exact absurd hpending h
  · rfl

theorem runTimes_of_ended (h : progress.state ≠ .pending) (times : Nat) :
    Pipeline.runTimes report p times ⟨steps, progress.state⟩ progress.context =
      pure (List.replicate times progress.again) := by
  induction times generalizing progress with
  | zero => rfl
  | succ times ih =>
    have hagain := @ih progress.again h
    rw [Pipeline.runTimes, run_of_ended h, pure_bind]
    change (Pipeline.runTimes report p times ⟨steps, progress.again.state⟩
      progress.again.context >>= _) = _
    rw [hagain]
    rfl

/-- **A pipeline runs only once.** Of several runs in a row the first one executes the steps up to
the first that fails, and it alone asks and tells anything. It ends as that step did, or well; every
later one is refused and leaves the pipeline and the context as the first one did. -/
theorem runs_only_once {more : Nat} {all : List Progress}
    (h : Follows (Pipeline.runTimes report p (more + 1) { steps } ctx) t all) :
    ∃ legs first, Performed report p 0 steps ctx legs t first ∧
      all = first :: List.replicate more first.again := by
  obtain ⟨first, t₁, t₂, rfl, hfirst, hlater⟩ := follows_bind_iff.1 h
  obtain ⟨legs, hlegs⟩ := performed_of_follows hfirst
  rw [runTimes_of_ended hlegs.ended, pure_bind] at hlater
  obtain ⟨rfl, rfl⟩ := follows_pure_iff.1 hlater
  exact ⟨legs, first, by rwa [List.append_nil], rfl⟩

/-- Three steps, of which the second one fails. -/
def brittleSteps : List Step :=
  [⟨"one", fun _ => pure ()⟩, ⟨"two", fun _ => throw (.nodeNotFound "two")⟩,
    ⟨"three", fun _ => pure ()⟩]

/-- What a pipeline of these steps is run on. -/
def brittleContext : Context where
  clusterName := "b"
  kubeconfigPath := "config"
  spec := { name := "b", nodes := [], networking := .ofFamily .ipv4, network := "kind" }
  token := "abcdef.0123456789abcdef"

theorem brittle_once : ∃ legs first again,
    ((Pipeline.runTimes .telling (.fixed "there" []) 2 { steps := brittleSteps }
      brittleContext).play Request.compliance).2 = [first, again] ∧
    Performed .telling (.fixed "there" []) 0 brittleSteps brittleContext legs
      [⟨.tell (.stepBegan "one"), ()⟩, ⟨.tell (.stepEnded true), ()⟩,
        ⟨.tell (.stepBegan "two"), ()⟩, ⟨.tell (.stepEnded false), ()⟩] first ∧
    first.state = .failed 1 "node not found: two" ∧ again.state = first.state := by
  have hruns := follows_play Request.compliance (Pipeline.runTimes .telling (.fixed "there" [])
    (1 + 1) { steps := brittleSteps } brittleContext)
  obtain ⟨legs, first, hfirst, hall⟩ := runs_only_once hruns
  refine ⟨legs, first, _, hall, hfirst, ?_, rfl⟩
  obtain ⟨rfl, -⟩ := List.cons.inj hall
  rfl

end LocalCluster.Cluster.Bootstrap
