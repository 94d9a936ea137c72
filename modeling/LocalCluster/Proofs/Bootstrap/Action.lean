import LocalCluster.Cluster.Bootstrap.Pipeline
import LocalCluster.Proofs.Work.Ensures

/-!
# Reasoning about actions

An action is work on a context. `Leads` is the triple of such work: begun in a context and after
exchanges of which `pre` holds, the action asks only what is allowed, and if it succeeds then `post`
holds. Nothing is said of what holds after a failure.

* `Action.Leads` with its rules: `Leads.bind`, `Leads.during`, `Leads.forM`, `Leads.ofWork`, …
* `run_nodes_bind_known`, `run_nodes_bind_fresh`: nodes are listed once, and known from then on.
* `follows_action_bind_iff`, `follows_during_ofWork_iff`: runs of actions are taken apart.
* **`ensures_runSteps_cons`**: a pipeline runs its first step and, if that succeeds, the others.
-/

namespace LocalCluster.Cluster.Bootstrap

open Script

/-- What has been asked and answered. -/
abbrev History : Type := List (Exchange Request Request.Answer)

/-- A property of contexts and histories. -/
abbrev Stance : Type := Context → History → Prop

variable {α β : Type} {ok : History → Request → Prop}

theorem Action.run_bind (x : Action α) (f : α → Action β) (ctx : Context) :
    (x >>= f).run ctx = ((x.run ctx : Routine (Except Fault α × Context)) >>= fun p =>
      match p with
      | (.ok a, ctx) => (f a).run ctx
      | (.error e, ctx) => pure (.error e, ctx)) := by
  rw [ExceptT.run_bind]
  change (x.run ctx >>= fun p => _) = _
  congr 1
  funext ⟨r, ctx⟩
  cases r <;> rfl

theorem run_nodes (p : Provider) (ctx : Context) :
    ((nodes p).run ctx : Routine (Except Fault (List Node) × Context)) =
      match ctx.known with
      | some known => pure (.ok known, ctx)
      | none => (p.listNodes ctx.clusterName).run >>= fun r => match r with
        | .ok found => pure (.ok found, { ctx with known := some found })
        | .error fault => pure (.error fault, ctx) := by
  unfold nodes
  rw [Action.run_bind]
  change ((match ctx.known with
    | some nodes => _
    | none => _ : Action (List Node)).run ctx : Routine (Except Fault (List Node) × Context)) = _
  cases ctx.known with
  | some known => rfl
  | none =>
    change ((Action.ofWork (p.listNodes ctx.clusterName) >>= _ : Action (List Node)).run ctx :
      Routine (Except Fault (List Node) × Context)) = _
    rw [Action.run_bind]
    change ((p.listNodes ctx.clusterName).run >>= fun r => pure (r, ctx)) >>= _ = _
    simp only [bind_assoc, pure_bind]
    congr 1
    funext r
    cases r <;> rfl

theorem run_nodes_bind_known {p : Provider} {known : List Node} {ctx : Context}
    (hk : ctx.known = some known) (f : List Node → Action β) :
    ((nodes p >>= f).run ctx : Routine (Except Fault β × Context)) = (f known).run ctx := by
  rw [Action.run_bind, run_nodes, hk]
  rfl

theorem run_nodes_bind_fresh {p : Provider} {ctx : Context} (hk : ctx.known = none)
    (f : List Node → Action β) :
    ((nodes p >>= f).run ctx : Routine (Except Fault β × Context)) =
      (p.listNodes ctx.clusterName).run >>= fun r => match r with
        | .ok found => (f found).run { ctx with known := some found }
        | .error fault => pure (.error fault, ctx) := by
  rw [Action.run_bind, run_nodes, hk]
  simp only [bind_assoc]
  congr 1
  funext r
  cases r <;> rfl

/-- An action that begins with the nodes lists them first, if they are not known, and then does what
it does when they are. -/
theorem run_nodes_bind_listed {p : Provider} {ctx : Context} (hk : ctx.known = none)
    (f : List Node → Action β) :
    ((nodes p >>= f).run ctx : Routine (Except Fault β × Context)) =
      (p.listNodes ctx.clusterName).run >>= fun r => match r with
        | .ok found => (nodes p >>= f).run { ctx with known := some found }
        | .error fault => pure (.error fault, ctx) := by
  rw [run_nodes_bind_fresh hk]
  congr 1

/-! ## Runs of actions -/

section

variable {t : History} {ctx ctx' : Context}

theorem follows_action_bind_iff {x : Action α} {f : α → Action β} {r : Except Fault β} :
    Follows ((x >>= f).run ctx : Routine (Except Fault β × Context)) t (r, ctx') ↔
      (∃ fault, Follows (x.run ctx : Routine (Except Fault α × Context)) t (.error fault, ctx') ∧
        r = .error fault) ∨
      ∃ a mid t₁ t₂, t = t₁ ++ t₂ ∧
        Follows (x.run ctx : Routine (Except Fault α × Context)) t₁ (.ok a, mid) ∧
        Follows ((f a).run mid : Routine (Except Fault β × Context)) t₂ (r, ctx') := by
  rw [Action.run_bind, follows_bind_iff]
  constructor
  · rintro ⟨⟨r₁, mid⟩, t₁, t₂, rfl, h₁, h₂⟩
    cases r₁ with
    | error fault =>
      obtain ⟨rfl, hr⟩ := follows_pure_iff.1 h₂
      obtain ⟨rfl, rfl⟩ := Prod.mk.inj hr
      exact .inl ⟨fault, by simpa using h₁, rfl⟩
    | ok a => exact .inr ⟨a, mid, t₁, t₂, rfl, h₁, h₂⟩
  · rintro (⟨fault, h, rfl⟩ | ⟨a, mid, t₁, t₂, rfl, h₁, h₂⟩)
    · exact ⟨(.error fault, ctx'), t, [], (List.append_nil t).symm, h, .done _⟩
    · exact ⟨(.ok a, mid), t₁, t₂, rfl, h₁, h₂⟩

theorem follows_ofWork_iff {w : Work α} {r : Except Fault α} :
    Follows ((Action.ofWork w).run ctx : Routine (Except Fault α × Context)) t (r, ctx') ↔
      Follows w.run t r ∧ ctx' = ctx := by
  refine (follows_bind_iff (s := w.run)).trans ⟨?_, ?_⟩
  · rintro ⟨r₁, t₁, t₂, rfl, h₁, h₂⟩
    obtain ⟨rfl, hr⟩ := follows_pure_iff.1 h₂
    obtain ⟨rfl, rfl⟩ := Prod.mk.inj hr
    exact ⟨by rwa [List.append_nil], rfl⟩
  · rintro ⟨h, rfl⟩
    exact ⟨r, t, [], (List.append_nil t).symm, h, .done _⟩

theorem follows_during_ofWork_iff {operation : String} {w : Work α} {r : Except Fault α} :
    Follows ((during operation (Action.ofWork w)).run ctx :
      Routine (Except Fault α × Context)) t (r, ctx') ↔
      ∃ r₀, Follows w.run t r₀ ∧ r = naming operation r₀ ∧ ctx' = ctx := by
  refine (follows_bind_iff (s := ((Action.ofWork w).run ctx :
    Routine (Except Fault α × Context)))).trans ⟨?_, ?_⟩
  · rintro ⟨⟨r₀, mid⟩, t₁, t₂, rfl, h₁, h₂⟩
    obtain ⟨rfl, hr⟩ := follows_pure_iff.1 h₂
    obtain ⟨rfl, rfl⟩ := Prod.mk.inj hr
    obtain ⟨hw, rfl⟩ := follows_ofWork_iff.1 h₁
    exact ⟨r₀, by rwa [List.append_nil], rfl, rfl⟩
  · rintro ⟨r₀, h, rfl, rfl⟩
    exact ⟨(r₀, ctx'), t, [], (List.append_nil t).symm, follows_ofWork_iff.2 ⟨h, rfl⟩, .done _⟩

theorem spec_of_nodes {p : Provider} {r : Except Fault (List Node)}
    (h : Follows ((nodes p).run ctx : Routine (Except Fault (List Node) × Context)) t (r, ctx')) :
    ctx'.spec = ctx.spec := by
  rw [run_nodes] at h
  split at h
  · obtain ⟨-, hr⟩ := follows_pure_iff.1 h
    rw [(Prod.mk.inj hr).2]
  · obtain ⟨listed, t₁, t₂, -, -, h₂⟩ := follows_bind_iff.1 h
    cases listed with
    | ok found =>
      obtain ⟨-, hr⟩ := follows_pure_iff.1 h₂
      rw [(Prod.mk.inj hr).2]
    | error fault =>
      obtain ⟨-, hr⟩ := follows_pure_iff.1 h₂
      rw [(Prod.mk.inj hr).2]

end

/-! ## Triples -/

/-- From `pre` the action asks only what is allowed, and it succeeds only into `post`. -/
def Action.Leads (ok : History → Request → Prop) (pre : Stance) (a : Action α)
    (post : α → Stance) : Prop :=
  ∀ ctx h, pre ctx h →
    Ensures ok (fun h p => ∀ x, p.1 = .ok x → post x p.2 h) h
      (a.run ctx : Routine (Except Fault α × Context))

namespace Action.Leads

variable {pre pre' : Stance} {post post' : α → Stance}

theorem imp {a : Action α} (ha : a.Leads ok pre post) (hpre : ∀ ctx h, pre' ctx h → pre ctx h)
    (hpost : ∀ x ctx h, post x ctx h → post' x ctx h) : a.Leads ok pre' post' :=
  fun ctx h hp => (ha ctx h (hpre ctx h hp)).imp fun _ _ hq x hx => hpost x _ _ (hq x hx)

theorem bind {a : Action α} {f : α → Action β} {last : β → Stance} (ha : a.Leads ok pre post)
    (hf : ∀ x, (f x).Leads ok (post x) last) : (a >>= f).Leads ok pre last := by
  intro ctx h hp
  rw [run_bind, ensures_bind_iff]
  refine (ha ctx h hp).imp fun h ⟨r, ctx⟩ hq => ?_
  cases r with
  | error e => intro x hx; cases hx
  | ok x => exact hf x ctx h (hq x rfl)

theorem pure {x : α} (hx : ∀ ctx h, pre ctx h → post x ctx h) :
    (Pure.pure x : Action α).Leads ok pre post := by
  intro ctx h hp y hy
  cases hy
  exact hx ctx h hp

theorem check_bind {r : Except Fault α} {f : α → Action β} {last : β → Stance}
    (hf : ∀ x, r = .ok x → (f x).Leads ok pre last) :
    (Bootstrap.check r >>= f).Leads ok pre last := by
  intro ctx h hp
  rw [run_bind, ensures_bind_iff]
  cases r with
  | error e => rintro x ⟨⟩
  | ok x => exact hf x rfl ctx h hp

theorem context_bind {f : Context → Action β} {last : β → Stance}
    (hf : ∀ seen, (f seen).Leads ok pre last) : (Bootstrap.context >>= f).Leads ok pre last :=
  fun ctx h hp => hf ctx ctx h hp

theorem see_bind {f : Context → Action β} {last : β → Stance}
    (hf : ∀ seen, (f seen).Leads ok (fun ctx h => seen = ctx ∧ pre ctx h) last) :
    (Bootstrap.context >>= f).Leads ok pre last :=
  fun ctx h hp => hf ctx ctx h ⟨rfl, hp⟩

theorem remember {f : Context → Context} {post : Unit → Stance}
    (hf : ∀ ctx h, pre ctx h → post () (f ctx) h) : (Bootstrap.remember f).Leads ok pre post := by
  intro ctx h hp x hx
  cases hx
  exact hf ctx h hp

theorem ofWork {w : Work α} (hw : ∀ ctx h, pre ctx h →
    Ensures ok (fun h r => ∀ x, r = .ok x → post x ctx h) h w.run) :
    (Action.ofWork w).Leads ok pre post := by
  intro ctx h hp
  exact ensures_bind_iff.2 (hw ctx h hp)

theorem ofAsks {P : Request → Prop} {w : Work α} (hw : w.run.Asks P)
    (hok : ∀ h q, P q → ok h q)
    (hpost : ∀ ctx h t x, pre ctx h → Follows w.run t (.ok x) → post x ctx (h ++ t)) :
    (Action.ofWork w).Leads ok pre post :=
  ofWork fun ctx h hp => hw.ensures hok fun t _ ht x hx => hpost ctx h t x hp (hx ▸ ht)

theorem during {a : Action α} {operation : String} (ha : a.Leads ok pre post) :
    Action.Leads ok pre (LocalCluster.during operation a) post := by
  intro ctx h hp
  refine (ensures_bind_iff (s := (a.run ctx : Routine (Except Fault α × Context)))).2 ?_
  refine (ha ctx h hp).imp fun h ⟨r, ctx⟩ hq x hx => ?_
  exact hq x (naming_eq_ok_iff.1 hx)

/-- **A loop keeps what each of its rounds carries on.** -/
theorem forM {xs : List α} {f : α → Action Unit} (inv : List α → Stance)
    (hf : ∀ before x after, xs = before ++ x :: after →
      (f x).Leads ok (inv before) fun _ => inv (before ++ [x])) :
    (xs.forM f).Leads ok (inv []) fun _ => inv xs := by
  suffices hs : ∀ before after, xs = before ++ after →
      (after.forM f).Leads ok (inv before) fun _ => inv xs from hs [] xs rfl
  intro before after hsplit
  induction after generalizing before with
  | nil =>
    refine pure fun ctx h hp => ?_
    rwa [hsplit, List.append_nil]
  | cons x after ih =>
    exact (hf before x after hsplit).bind fun _ => ih (before ++ [x]) (by simpa using hsplit)

theorem nodes_bind {p : Provider} {known : List Node} {f : List Node → Action β}
    {last : β → Stance} (hk : ∀ ctx h, pre ctx h → ctx.known = some known)
    (hf : (f known).Leads ok pre last) : (Bootstrap.nodes p >>= f).Leads ok pre last := by
  intro ctx h hp
  rw [run_nodes_bind_known (hk ctx h hp)]
  exact hf ctx h hp

theorem ofFollows {w : Work α}
    (h : ∀ ctx past t x, pre ctx past → Follows w.run t (.ok x) → post x ctx (past ++ t)) :
    (Action.ofWork w).Leads (fun _ _ => True) pre post :=
  .ofAsks (asks_of_forall (fun _ => trivial) w.run) (fun _ _ hr => hr) h

end Action.Leads

/-! ## Pipelines -/

variable {report : Status} {p : Provider}

theorem ensures_notice {post : History → Unit → Prop} {h : History} {event : Event}
    (hok : ∀ h (r : Request), r.isCommand = false → ok h r)
    (hpost : ∀ t, (∀ x ∈ t, x.question.isCommand = false) → post (h ++ t) ()) :
    Ensures ok post h (report event) :=
  (report.runsNothing event).ensures (fun h r hr => hok h r (by simpa using hr)) fun t _ ht =>
    hpost t fun x hx => by simpa using ht.question (report.runsNothing event) x hx

/-- **A pipeline runs its first step and, if that succeeds, the others.** -/
theorem ensures_runSteps_cons {step : Step} {steps : List Step} {index : Nat}
    {pre mid : Stance} {post : History → Progress → Prop}
    (hok : ∀ h (r : Request), r.isCommand = false → ok h r)
    (hpre : ∀ ctx h t, pre ctx h → (∀ x ∈ t, x.question.isCommand = false) → pre ctx (h ++ t))
    (hmid : ∀ ctx h t, mid ctx h → (∀ x ∈ t, x.question.isCommand = false) → mid ctx (h ++ t))
    (hstep : (step.run p).Leads ok pre fun _ => mid)
    (hfail : ∀ h progress, progress.result ≠ .ok () → post h progress)
    (hrest : ∀ ctx h, mid ctx h → Ensures ok post h (runSteps report p (index + 1) steps ctx))
    {ctx : Context} {h : History} (hp : pre ctx h) :
    Ensures ok post h (runSteps report p index (step :: steps) ctx) := by
  rw [runSteps, ensures_bind_iff]
  refine ensures_notice hok fun t ht => ?_
  rw [ensures_bind_iff]
  refine (hstep ctx _ (hpre ctx h t hp ht)).imp fun h ⟨r, ctx⟩ hq => ?_
  cases r with
  | error fault =>
    rw [ensures_bind_iff]
    exact ensures_notice hok fun t _ => hfail _ _ (by simp)
  | ok u =>
    rw [ensures_bind_iff]
    exact ensures_notice hok fun t ht => hrest ctx _ (hmid ctx _ t (hq u rfl) ht)

end LocalCluster.Cluster.Bootstrap
