import LocalCluster.Cluster.Provider.Containers
import LocalCluster.Proofs.Cluster.Layout
import LocalCluster.Proofs.Cluster.Proxies
import LocalCluster.Proofs.Container.EngineWork

/-!
# What is prepared before containers are created

Before the first container of a cluster is created, its images and its network are made sure of, its
subnets are asked for if there are proxies, and it is planned. Nothing of this starts or removes a
container, and each of it has to end well.

* `Proxied`: a proxy variable is set; **`proxySettings_ne_nil_iff`**.
* `Preparing`: what may be asked; **`asks_prepare`**: nothing else is.
* `Ready`: what has been made sure of; **`ready_of_prepare`**.
* **`mem_imagesFor_iff`**: the images that are made sure of are those of the planned containers.
-/

namespace LocalCluster.Cluster

open LocalCluster.Container LocalCluster.Text Script Plan Containers

variable {c : Containers} {s : Spec} {common : List String} {creations : List Creation}
variable {t : List (Exchange Request Request.Answer)} {fault : Fault}

/-! ## Proxies -/

/-- A variable of the proxies is set, under its name in capitals or in small letters. -/
def Proxied (environment : String → Option String) : Prop :=
  ∃ name ∈ proxyNames, ∃ value ≠ "",
    environment name = some value ∨ environment (lowerName name) = some value

theorem inherited_ne_none_iff {environment : String → Option String} {name : String} :
    inherited environment name ≠ none ↔ ∃ value ≠ "",
      environment name = some value ∨ environment (lowerName name) = some value := by
  rw [ne_eq, inherited_eq_none_iff]
  constructor
  · intro h
    by_contra hnone
    simp only [not_exists, not_and, not_or] at hnone
    apply h
    constructor
    · cases hfound : environment name with
      | none => exact .inl rfl
      | some value => exact .inr (by_contra fun hne => (hnone value (by simpa using hne)).1 hfound)
    · cases hfound : environment (lowerName name) with
      | none => exact .inl rfl
      | some value => exact .inr (by_contra fun hne => (hnone value (by simpa using hne)).2 hfound)
  · rintro ⟨value, hne, hfound | hfound⟩ ⟨hupper, hlower⟩
    · simp [hfound, hne] at hupper
    · simp [hfound, hne] at hlower

/-- **There are proxy settings exactly when a variable of the proxies is set.** -/
theorem proxySettings_ne_nil_iff {environment : String → Option String} :
    Id.run (proxySettings environment) ≠ [] ↔ Proxied environment := by
  have hnone : Id.run (proxySettings environment) = [] ↔
      ∀ name ∈ proxyNames, inherited environment name = none := by
    simp [proxySettings_eq, named, proxyNames, and_left_comm]
  rw [ne_eq, hnone, Proxied]
  simp only [← inherited_ne_none_iff, not_forall, exists_prop]

/-! ## What is asked -/

/-- What may be asked before the first container is created. -/
inductive Preparing (c : Containers) (s : Spec) : Request → Prop where
  | check {image : String} (h : image ∈ imagesFor s) :
      Preparing c s (.command (c.engine.imageCheck image))
  | pull {image : String} (h : image ∈ imagesFor s) :
      Preparing c s (.command (c.engine.pulling image))
  | pause (milliseconds : Nat) : Preparing c s (.pause milliseconds)
  | lookup : Preparing c s (.command (c.engine.networkLookup s.network))
  | create : Preparing c s (.command (c.engine.networkCreation s.network s.isV6))
  | subnets (h : Proxied c.environment) :
      Preparing c s (.command (c.engine.subnetQuery s.network))
  | security : Preparing c s (.command c.engine.securityQuery)
  | listen (held : List Listener) (address : String) : Preparing c s (.listen held address)

theorem Preparing.leavesContainers {r : Request} (h : Preparing c s r) : LeavesContainers r := by
  rintro command rfl
  cases h <;> exact ⟨rfl, rfl⟩

theorem Preparing.mem_images {image : String}
    (h : Preparing c s (.command (c.engine.imageCheck image))) : image ∈ imagesFor s := by
  generalize hr : Request.command (c.engine.imageCheck image) = r at h
  cases h with
  | @check image' h =>
    obtain rfl : image = image' := by simpa [Engine.imageCheck, Engine.command] using hr
    exact h
  | _ =>
    simp [Engine.imageCheck, Engine.pulling, Engine.networkLookup, Engine.networkCreation,
      Engine.subnetQuery, Engine.securityQuery, Engine.command] at hr

theorem Preparing.proxied (h : Preparing c s (.command (c.engine.subnetQuery s.network))) :
    Proxied c.environment := by
  generalize hr : Request.command (c.engine.subnetQuery s.network) = r at h
  cases h with
  | subnets h => exact h
  | lookup =>
    have hformat : Engine.subnetsFormat = Engine.networkNameFormat := by
      simpa [Engine.subnetQuery, Engine.networkLookup, Engine.command] using hr
    exact absurd hformat (by decide)
  | _ =>
    simp [Engine.imageCheck, Engine.pulling, Engine.networkCreation, Engine.subnetQuery,
      Engine.securityQuery, Engine.command] at hr

theorem asks_sharedArgs : (c.sharedArgs s).run.Asks (Preparing c s) := by
  have hlast : ∀ (remaps : _ → Bool) (proxies : Settings), (do
      let remapped ← ExceptT.lift c.engine.remapsUsers.run
      return commonArgs s proxies (remaps remapped) :
        Work (List String)).run.Asks (Preparing c s) :=
    fun _ _ => (Asks.run_lift (asks_remapsUsers .security)).run_bind fun _ => asks_run_pure _
  unfold Containers.sharedArgs
  dsimp only
  split
  · exact (asks_run_pure _).run_bind (hlast _)
  · next hne =>
    have hproxied : Proxied c.environment := proxySettings_ne_nil_iff.1 (by simpa using hne)
    exact (asks_during (asks_toWork (asks_networkSubnets (.subnets hproxied)))).run_bind fun _ =>
      (asks_run_pure _).run_bind (hlast _)

/-- **Nothing else is asked before the first container is created.** -/
theorem asks_prepare : (c.prepare s).run.Asks (Preparing c s) := by
  refine (asks_run_mk_pure _).run_bind fun _ => ?_
  refine (Asks.run_forM fun image himage => asks_during (asks_toWork
    (asks_ensureImage .pause (.check himage) (.pull himage)))).run_bind fun _ => ?_
  refine (asks_during (asks_toWork (asks_ensureNetwork .lookup .create))).run_bind fun _ => ?_
  refine asks_sharedArgs.run_bind fun common => ?_
  exact (Asks.run_lift (asks_plan .listen)).run_bind fun planned => asks_run_mk_pure _

theorem prepare_leavesContainers {r : Except Fault (List Creation)}
    (h : Follows (c.prepare s).run t r) : ∀ x ∈ t, LeavesContainers x.question := fun x hx =>
  (h.question asks_prepare x hx).leavesContainers

theorem follows_prepare_invalid {r : Except Fault (List Creation)} (hv : s.validate = .error fault)
    (h : Follows (c.prepare s).run t r) : t = [] ∧ r = .error fault := by
  obtain ⟨fault', hv', rfl, rfl⟩ | ⟨_, hv', -⟩ := follows_run_mk_pure_bind_iff.1 h
  · exact ⟨rfl, congrArg Except.error (Except.error.inj (hv'.symm.trans hv))⟩
  · cases hv'.symm.trans hv

/-! ## What has been made sure of -/

/-- All is ready for the first container: whatever the planned containers need has been found or
made, and every answer on the way was good. -/
structure Ready (c : Containers) (s : Spec) (t : List (Exchange Request Request.Answer))
    (creations : List Creation) : Prop where
  valid : s.Valid
  images : ∀ image ∈ imagesFor s,
    (∃ answer, ⟨.command (c.engine.imageCheck image), answer⟩ ∈ t) ∧ Fetched c.engine image t
  network : Networked c.engine s.network s.isV6 t
  subnets : Proxied c.environment → ∃ o line,
    ⟨.command (c.engine.subnetQuery s.network), .ok o⟩ ∈ t ∧ o.lines = [line]
  planned : ∃ proxies remapped tp ports, tp <:+: t ∧
    Follows (plan s (commonArgs s proxies remapped) {}) tp (.ok creations, ports)

theorem follows_proxySubnets {r : Except Fault (List String)}
    (h : Follows (during "proxy setup error" (c.engine.networkSubnets s.network).toWork).run t r) :
    ∃ answer, t = [⟨.command (c.engine.subnetQuery s.network), answer⟩] ∧
      r = naming "proxy setup error" ((answer.bind
        (Engine.subnetsOf (c.engine.subnetQuery s.network))).mapError Fault.runtime) := by
  obtain ⟨_, hsubnets, rfl⟩ := follows_during_toWork_iff.1 h
  obtain ⟨answer, rfl, rfl⟩ := follows_networkSubnets_iff.1 hsubnets
  exact ⟨answer, rfl, rfl⟩

/-- **How it is found out which words all containers share**: the subnets are asked for if there are
proxies, and what cannot be read ends the preparation. -/
theorem follows_sharedArgs {r : Except Fault (List String)} (h : Follows (c.sharedArgs s).run t r) :
    (¬ Proxied c.environment ∧ ∃ remapped, r = .ok (commonArgs s [] remapped)) ∨
    Proxied c.environment ∧ ∃ answer rest,
      t = ⟨.command (c.engine.subnetQuery s.network), answer⟩ :: rest ∧
      (∀ x ∈ rest, x.question = .command c.engine.securityQuery) ∧
      (∀ subnets, answer.bind (Engine.subnetsOf (c.engine.subnetQuery s.network)) = .ok subnets →
        ∃ remapped, r = .ok (commonArgs s
          (exceptSubnets subnets (Id.run (proxySettings c.environment))) remapped)) ∧
      ∀ fault, answer.bind (Engine.subnetsOf (c.engine.subnetQuery s.network)) = .error fault →
        r = .error (.context "proxy setup error" (.runtime fault)) := by
  have hlast : ∀ {t₁} (remaps : _ → Bool) (chosen : Settings), Follows (do
      let proxies ← pure chosen
      let remapped ← ExceptT.lift c.engine.remapsUsers.run
      return commonArgs s proxies (remaps remapped) : Work (List String)).run t₁ r →
      (∀ x ∈ t₁, x.question = .command c.engine.securityQuery) ∧
        ∃ remapped, r = .ok (commonArgs s chosen remapped) := by
    intro t₁ remaps chosen hasked
    have hremaps : c.engine.remapsUsers.run.Asks (· = .command c.engine.securityQuery) :=
      asks_remapsUsers rfl
    refine ⟨hasked.question ((asks_run_pure _).run_bind fun _ =>
      (Asks.run_lift hremaps).run_bind fun _ => asks_run_pure _), ?_⟩
    obtain ⟨_, hpure, -⟩ | ⟨proxies, _, _, -, hpure, hasked⟩ := follows_run_bind_iff.1 hasked
    · cases (follows_run_pure_iff.1 hpure).2
    cases (follows_run_pure_iff.1 hpure).2
    obtain ⟨remapped, _, _, -, -, hcommon⟩ := follows_run_lift_bind_iff.1 hasked
    exact ⟨remaps remapped, (follows_run_pure_iff.1 hcommon).2⟩
  unfold Containers.sharedArgs at h
  dsimp only at h
  split at h
  · next hnone =>
    have hnil : Id.run (proxySettings c.environment) = [] := by simpa using hnone
    obtain ⟨-, remapped, rfl⟩ := hlast _ _ h
    exact .inl ⟨fun hproxied => proxySettings_ne_nil_iff.2 hproxied hnil, remapped, by rw [hnil]⟩
  · next hsome =>
    refine .inr ⟨proxySettings_ne_nil_iff.1 (by simpa using hsome), ?_⟩
    obtain ⟨fault, hasked, rfl⟩ | ⟨subnets, t₁, t₂, rfl, hasked, hrest⟩ := follows_run_bind_iff.1 h
    · obtain ⟨answer, rfl, hr⟩ := follows_proxySubnets hasked
      refine ⟨answer, [], rfl, nofun, fun subnets hread => ?_, fun fault' hread => ?_⟩
      · rw [hread] at hr
        cases hr
      · rw [hread] at hr
        cases hr
        rfl
    · obtain ⟨answer, rfl, hr⟩ := follows_proxySubnets hasked
      obtain ⟨hquestion, hcommon⟩ := hlast _ _ hrest
      refine ⟨answer, t₂, rfl, hquestion, fun subnets' hread => ?_, fun fault hread => ?_⟩
      · rw [hread] at hr
        cases hr
        exact hcommon
      · rw [hread] at hr
        cases hr

theorem shared_of_sharedArgs (h : Follows (c.sharedArgs s).run t (.ok common)) :
    (¬ Proxied c.environment ∧ ∃ remapped, common = commonArgs s [] remapped) ∨
    Proxied c.environment ∧ ∃ o line remapped,
      ⟨.command (c.engine.subnetQuery s.network), .ok o⟩ ∈ t ∧ o.lines = [line] ∧
      common = commonArgs s
        (exceptSubnets (words line) (Id.run (proxySettings c.environment))) remapped := by
  obtain ⟨hnone, remapped, hr⟩ | ⟨hproxied, answer, rest, rfl, -, hread, hfault⟩ :=
    follows_sharedArgs h
  · exact .inl ⟨hnone, remapped, Except.ok.inj hr⟩
  · refine .inr ⟨hproxied, ?_⟩
    cases hsubnets : answer.bind (Engine.subnetsOf (c.engine.subnetQuery s.network)) with
    | error fault => cases hfault fault hsubnets
    | ok subnets =>
      obtain ⟨remapped, hr⟩ := hread subnets hsubnets
      cases answer with
      | error fault => cases hsubnets
      | ok o =>
        obtain ⟨line, hline, rfl⟩ := subnetsOf_eq_ok_iff.1 hsubnets
        exact ⟨o, line, remapped, List.mem_cons_self, hline, Except.ok.inj hr⟩

/-- What has been prepared was prepared with the words that all containers share, and it is what was
planned with these. -/
theorem exists_shared_of_prepare (h : Follows (c.prepare s).run t (.ok creations)) :
    ∃ t₁ t₂ t₃ common ports, t = t₁ ++ (t₂ ++ t₃) ∧ Follows (c.sharedArgs s).run t₂ (.ok common) ∧
      Follows (plan s common {}) t₃ (.ok creations, ports) := by
  obtain ⟨_, t₁, _, rfl, -, h₁⟩ := follows_run_bind_ok_iff.1 h
  obtain ⟨_, t₂, _, rfl, -, h₂⟩ := follows_run_bind_ok_iff.1 h₁
  obtain ⟨_, t₃, _, rfl, -, h₃⟩ := follows_run_bind_ok_iff.1 h₂
  obtain ⟨common, t₄, _, rfl, hshared, h₄⟩ := follows_run_bind_ok_iff.1 h₃
  obtain ⟨⟨planned, ports⟩, t₅, t₆, rfl, hplan, hlast⟩ := follows_run_lift_bind_iff.1 h₄
  obtain ⟨rfl, he⟩ := follows_run_mk_pure_iff.1 hlast
  obtain rfl : Except.ok creations = planned := he
  exact ⟨t₁ ++ (t₂ ++ t₃), t₄, t₅, common, ports, by simp, hshared, hplan⟩

/-- **When all has been prepared, all is ready.** -/
theorem ready_of_prepare (h : Follows (c.prepare s).run t (.ok creations)) :
    Ready c s t creations := by
  obtain ⟨_, t₁, _, rfl, hvalid, h₁⟩ := follows_run_bind_ok_iff.1 h
  obtain ⟨rfl, hv⟩ := follows_run_mk_pure_iff.1 hvalid
  obtain ⟨_, t₂, _, rfl, himages, h₂⟩ := follows_run_bind_ok_iff.1 h₁
  obtain ⟨_, t₃, t₄, rfl, hnetwork, -⟩ := follows_run_bind_ok_iff.1 h₂
  obtain ⟨tb, ts, tp, common, ports, ht, hshared, hplan⟩ := exists_shared_of_prepare h
  refine ⟨Spec.validate_eq_ok_iff.1 hv.symm, fun image himage => ?_, ?_, fun hproxied => ?_, ?_⟩
  · obtain ⟨ti, hti, hensure⟩ := himages.forM_ok himage
    obtain ⟨_, hensure, hr⟩ := follows_toWork_iff.1 (follows_during_ok_iff.1 hensure)
    obtain rfl := mapError_eq_ok_iff.1 hr.symm
    obtain ⟨⟨answer, hanswer⟩, hfetched⟩ := fetched_of_ensureImage hensure
    have hsub : ti ⊆ [] ++ (t₂ ++ (t₃ ++ t₄)) := fun x hx => by simp [hti.subset hx]
    exact ⟨⟨answer, hsub hanswer⟩, hfetched.mono hsub⟩
  · obtain ⟨_, hensure, hr⟩ := follows_toWork_iff.1 (follows_during_ok_iff.1 hnetwork)
    obtain rfl := mapError_eq_ok_iff.1 hr.symm
    exact (networked_of_ensureNetwork hensure).mono fun x hx => by simp [hx]
  · obtain ⟨hnone, -⟩ | ⟨-, o, line, -, hmem, hline, -⟩ := shared_of_sharedArgs hshared
    · exact absurd hproxied hnone
    · exact ⟨o, line, by simp [ht, hmem], hline⟩
  · have hinfix : tp <:+: [] ++ (t₂ ++ (t₃ ++ t₄)) := ⟨tb ++ ts, [], by simp [ht]⟩
    obtain ⟨-, remapped, rfl⟩ | ⟨-, _, _, remapped, -, -, rfl⟩ := shared_of_sharedArgs hshared
    · exact ⟨_, remapped, tp, ports, hinfix, hplan⟩
    · exact ⟨_, remapped, tp, ports, hinfix, hplan⟩

theorem Ready.head? (h : Ready c s t creations) :
    ∀ creation ∈ creations, creation.args.head? = some "run" := by
  obtain ⟨proxies, remapped, tp, ports, -, hplan⟩ := h.planned
  exact Arranged.forall (plan_arranged h.valid hplan) (fun _ => rfl) fun _ _ _ => rfl

theorem Ready.getLast? (h : Ready c s t creations) :
    ∀ creation ∈ creations, ∃ image, creation.args.getLast? = some image := by
  obtain ⟨proxies, remapped, tp, ports, -, hplan⟩ := h.planned
  exact Arranged.forall (plan_arranged h.valid hplan) (fun _ => ⟨_, RunArgs.argv_getLast _⟩)
    fun _ _ _ => ⟨_, RunArgs.argv_getLast _⟩

/-! ## Images -/

theorem Laid.images {nodes : List NodeSpec} {namer : Namer} {ls : List Listener}
    (h : Laid s common nodes namer creations ls) :
    creations.map (·.args.getLast?) = nodes.map (some ·.image) := by
  induction h with
  | nil => rfl
  | cons _ _ ih =>
    rw [List.map_cons, List.map_cons, ih]
    exact congrArg (· :: _) (RunArgs.argv_getLast _)

/-- **The images that are made sure of are those of the planned containers**, the one of the load
balancer among them if it is planned. -/
theorem mem_imagesFor_iff {ls : List Listener} (h : Arranged s common creations ls)
    {image : String} :
    image ∈ imagesFor s ↔ ∃ creation ∈ creations, creation.args.getLast? = some image := by
  have hnodes : ∀ {creations namer ls}, Laid s common s.nodes namer creations ls →
      (image ∈ s.images ↔ ∃ creation ∈ creations, creation.args.getLast? = some image) := by
    intro creations namer ls laid
    have hmem : some image ∈ creations.map (·.args.getLast?) ↔ image ∈ s.images := by
      rw [laid.images, Spec.images, mem_sortDistinct]
      simp
    rw [← hmem, List.mem_map]
  cases h with
  | single hb laid =>
    rw [imagesFor, if_neg (by simp [hb])]
    exact hnodes laid
  | balanced hb _ laid =>
    rw [imagesFor, if_pos hb, mem_insertDistinct, hnodes laid]
    simp only [List.mem_cons, exists_eq_or_imp]
    rw [balancerCreation, RunArgs.argv_getLast, Option.some.injEq, eq_comm]

theorem Ready.mem_imagesFor_iff (h : Ready c s t creations) {image : String} :
    image ∈ imagesFor s ↔ ∃ creation ∈ creations, creation.args.getLast? = some image := by
  obtain ⟨proxies, remapped, tp, ports, -, hplan⟩ := h.planned
  exact LocalCluster.Cluster.mem_imagesFor_iff (plan_arranged h.valid hplan)

end LocalCluster.Cluster
