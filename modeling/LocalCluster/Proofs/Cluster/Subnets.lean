import LocalCluster.Proofs.Cluster.Provisioning
import LocalCluster.Proofs.Text.Printed
import LocalCluster.Proofs.Text.Trimmed

/-!
# The subnets that an engine tells of

An engine prints the subnets of a network on one line, each with a blank after it. They are read
back, unless there are none: then the line is empty, an empty line is no line, and what is answered
counts as unexpected. Behind a proxy nothing can be provisioned on such a network.

* `printedSubnets`: what an engine prints; `subnetsOf_printedSubnets`: what is read of it.
* **`follows_prepare_of_asked`**: what becomes of a preparation in which subnets were asked for.
* **`subnets_told`**: subnets are read back and used, and without any the provisioning fails.
* `bareNetwork_fails`: a network without subnets.
-/

namespace LocalCluster.Container

open LocalCluster.Text Script

variable {c : Command} {o : Output} {subnets : List String}

/-- What an engine prints for these subnets: each with a blank after it, and the end of the line. -/
def printedSubnets (subnets : List String) : Bytes := encode (printLines " " subnets ++ "\n")

/-- That not one line came where one was expected. -/
def lineMissing (c : Command) : RuntimeFault :=
  .unexpectedOutput c.display "expected 1 line of subnets, got 0"

theorem lines_printedSubnets (h : ∀ subnet ∈ subnets, Unbroken subnet)
    (ho : o.stdout = printedSubnets subnets) :
    o.lines = if subnets = [] then [] else [printLines " " subnets] := by
  have hend : ∀ ch, isBlank ch = true → ch ≠ ' ' → ch ∉ (printLines " " subnets).toList := by
    intro ch hblank hne hmem
    obtain ⟨subnet, hsubnet, hmem⟩ := exists_of_mem_printLines hmem
    rcases hmem with hmem | hmem
    · rw [(h subnet hsubnet).2 ch hmem] at hblank
      cases hblank
    · exact hne (by simpa using hmem)
  have hline : IsLine (printLines " " subnets) := ⟨hend '\n' (by decide) (by decide),
    fun hreturn => hend '\r' (by decide) (by decide) (List.mem_of_getLast? hreturn)⟩
  have hempty : printLines " " subnets = "" ↔ subnets = [] := by
    cases subnets <;> simp [printLines]
  have hprinted : printLines "\n" [printLines " " subnets] = printLines " " subnets ++ "\n" := by
    simp [printLines]
  have hread := lines_printLines_feeds (List.forall_mem_singleton.2 hline)
  unfold Output.lines
  rw [ho, printedSubnets, linesOfBytes_encode, ← hprinted, hread]
  simp only [List.cons.injEq, and_true, hempty]

theorem subnetsOf_printedSubnets (h : ∀ subnet ∈ subnets, Unbroken subnet)
    (ho : o.stdout = printedSubnets subnets) :
    Engine.subnetsOf c o = if subnets = [] then .error (lineMissing c) else .ok subnets := by
  unfold Engine.subnetsOf
  rw [lines_printedSubnets h ho]
  by_cases hnone : subnets = []
  · simp only [if_pos hnone]
    rfl
  · simp only [if_neg hnone, words_printLines h]

end LocalCluster.Container

namespace LocalCluster.Cluster

open LocalCluster.Container LocalCluster.Text Script Plan Containers

variable {c : Containers} {s : Spec} {t : List (Exchange Request Request.Answer)}
variable {answer : Except RuntimeFault Output}

/-- The fault of a cluster behind a proxy whose network has no subnets. -/
def bareFault (c : Containers) (s : Spec) : Fault :=
  .context "proxy setup error" (.runtime (lineMissing (c.engine.subnetQuery s.network)))

theorem follows_sharedArgs_of_asked {r : Except Fault (List String)}
    (h : Follows (c.sharedArgs s).run t r) (hproxied : Proxied c.environment)
    (hasked : ⟨.command (c.engine.subnetQuery s.network), answer⟩ ∈ t) :
    (∀ subnets, answer.bind (Engine.subnetsOf (c.engine.subnetQuery s.network)) = .ok subnets →
      ∃ remapped, r = .ok (commonArgs s
        (exceptSubnets subnets (Id.run (proxySettings c.environment))) remapped)) ∧
    ∀ fault, answer.bind (Engine.subnetsOf (c.engine.subnetQuery s.network)) = .error fault →
      r = .error (.context "proxy setup error" (.runtime fault)) := by
  obtain ⟨hnone, -⟩ | ⟨-, answer', rest, rfl, hrest, hread⟩ := follows_sharedArgs h
  · exact absurd hproxied hnone
  rcases List.mem_cons.1 hasked with heq | hlater
  · cases heq
    exact hread
  · have hsame := hrest _ hlater
    simp [Engine.subnetQuery, Engine.securityQuery, Engine.command] at hsame

/-- **What becomes of a preparation in which subnets were asked for.** If they cannot be read, that
ends it. Otherwise it comes to what is planned with them. -/
theorem follows_prepare_of_asked {r : Except Fault (List Creation)}
    (h : Follows (c.prepare s).run t r)
    (hasked : ⟨.command (c.engine.subnetQuery s.network), answer⟩ ∈ t) :
    (∀ subnets, answer.bind (Engine.subnetsOf (c.engine.subnetQuery s.network)) = .ok subnets →
      ∃ remapped tp ports, tp <:+ t ∧ Follows (plan s (commonArgs s
        (exceptSubnets subnets (Id.run (proxySettings c.environment))) remapped) {})
        tp (r, ports)) ∧
    ∀ fault, answer.bind (Engine.subnetsOf (c.engine.subnetQuery s.network)) = .error fault →
      r = .error (.context "proxy setup error" (.runtime fault)) := by
  have hproxied : Proxied c.environment := (h.question asks_prepare _ hasked).proxied
  have hlookup : Request.command (c.engine.networkLookup s.network) ≠
      .command (c.engine.subnetQuery s.network) := by
    have hformat : Engine.networkNameFormat ≠ Engine.subnetsFormat := by decide
    simpa [Engine.networkLookup, Engine.subnetQuery, Engine.command] using hformat
  obtain ⟨_, t₁, _, rfl, -, h₁, hasked⟩ := h.asked_later (asks_run_mk_pure _) hasked
  obtain ⟨_, t₂, _, rfl, -, h₂, hasked⟩ := h₁.asked_later (Asks.run_forM fun image himage =>
    asks_during (asks_toWork (asks_ensureImage (by simp)
      (by simp [Engine.imageCheck, Engine.subnetQuery, Engine.command])
      (by simp [Engine.pulling, Engine.subnetQuery, Engine.command])))) hasked
  obtain ⟨_, t₃, _, rfl, -, h₃, hasked⟩ := h₂.asked_later
    (asks_during (asks_toWork (asks_ensureNetwork hlookup
      (by simp [Engine.networkCreation, Engine.subnetQuery, Engine.command])))) hasked
  obtain ⟨fault, hshared, rfl⟩ | ⟨common, t₄, t₅, rfl, hshared, hrest⟩ := follows_run_bind_iff.1 h₃
  · obtain ⟨hread, hfault⟩ := follows_sharedArgs_of_asked hshared hproxied hasked
    refine ⟨fun subnets hsubnets => ?_, fun fault' hsubnets => ?_⟩
    · obtain ⟨_, he⟩ := hread subnets hsubnets
      cases he
    · cases hfault fault' hsubnets
      rfl
  · have hplan : ∃ ports, Follows (plan s common {}) t₅ (r, ports) := by
      obtain ⟨⟨planned, ports⟩, tp, t₆, rfl, hplan, hlast⟩ := follows_run_lift_bind_iff.1 hrest
      obtain ⟨rfl, rfl⟩ := follows_run_mk_pure_iff.1 hlast
      exact ⟨ports, by rwa [List.append_nil]⟩
    obtain ⟨ports, hplan⟩ := hplan
    have hlisten := hplan.question (asks_plan (P := (· ≠
      .command (c.engine.subnetQuery s.network))) fun _ _ => by simp)
    obtain ⟨hread, hfault⟩ := follows_sharedArgs_of_asked hshared hproxied
      ((List.mem_append.1 hasked).resolve_right fun hmem => hlisten _ hmem rfl)
    refine ⟨fun subnets hsubnets => ?_, fun fault hsubnets => ?_⟩
    · obtain ⟨remapped, he⟩ := hread subnets hsubnets
      cases he
      exact ⟨remapped, t₅, ports, ⟨t₁ ++ (t₂ ++ (t₃ ++ t₄)), by simp⟩, hplan⟩
    · cases hfault fault hsubnets

theorem follows_prepare_of_printed {subnets : List String} {o : Output}
    {r : Except Fault (List Creation)} (h : ∀ subnet ∈ subnets, Unbroken subnet)
    (ho : o.stdout = printedSubnets subnets) (hprepare : Follows (c.prepare s).run t r)
    (hasked : ⟨.command (c.engine.subnetQuery s.network), .ok o⟩ ∈ t) :
    (subnets ≠ [] → ∃ remapped tp ports, tp <:+ t ∧
      Follows (plan s (commonArgs s (exceptSubnets subnets
        (Id.run (proxySettings c.environment))) remapped) {}) tp (r, ports)) ∧
    (subnets = [] → r = .error (bareFault c s)) := by
  obtain ⟨hread, hfault⟩ := follows_prepare_of_asked hprepare hasked
  have hsubnets := subnetsOf_printedSubnets (c := c.engine.subnetQuery s.network) h ho
  constructor
  · intro hsome
    rw [if_neg hsome] at hsubnets
    exact hread subnets hsubnets
  · intro hnone
    rw [if_pos hnone] at hsubnets
    exact hfault _ hsubnets

/-- Behind a proxy, nothing of a cluster whose network has no subnets is started. -/
theorem runs_provision_bare {o : Output} {L : List Turn} {r : Except Fault Unit}
    (run : (c.provision s).run.Runs L r) (ho : o.stdout = printedSubnets [])
    (hasked : .own ⟨.command (c.engine.subnetQuery s.network), .ok o⟩ ∈ L) :
    r = .error (bareFault c s) ∧
      ∀ e ∈ commandsOf (L.map Turn.exchange), e.command.isStart = false := by
  obtain ⟨T, tasks, hT, hw, -⟩ := runs_iff_weave.1 run
  have hown : ∀ {t : List (Exchange Request Request.Answer)} {r₁ : Except Fault (List Creation)},
      Follows (c.prepare s).run t r₁ →
      .own ⟨.command (c.engine.subnetQuery s.network), .ok o⟩ ∈ t.map Turn.own →
      r₁ = .error (bareFault c s) := by
    intro t r₁ hprepare hmem
    obtain ⟨x, hx, heq⟩ := List.mem_map.1 hmem
    cases heq
    exact (follows_prepare_of_printed (List.forall_mem_nil _) ho hprepare hx).2 rfl
  obtain ⟨t, fault, hprepare, rfl, rfl, rfl⟩ | ⟨t, creations, W, hprepare, rfl, hworked, -⟩ :=
    provisioned_of_weave hT hw
  · refine ⟨congrArg Except.error (Except.error.inj (hown hprepare hasked)), fun e he => ?_⟩
    rw [map_exchange_own] at he
    exact (LeavesContainers.of_mem (prepare_leavesContainers hprepare) he).1
  · rcases List.mem_append.1 hasked with hmem | hmem
    · cases hown hprepare hmem
    · obtain ⟨i, -, hasker⟩ := hworked.asker _ hmem
      cases hasker

/-- **Subnets are read back and used, and without any the provisioning fails.** If an engine prints
the subnets of a network as it is asked to, then they are what is told, in order. If there are none,
that is a fault, since an empty line is no line. So it is with a cluster that is prepared behind a
proxy: with subnets its preparation comes to what is planned with them, and without any it ends
there, in that fault. Then no container of the cluster is started. -/
theorem subnets_told {subnets : List String} {o : Output}
    (h : ∀ subnet ∈ subnets, Unbroken subnet) (ho : o.stdout = printedSubnets subnets) :
    (∀ (e : Engine) name r,
      Follows (e.networkSubnets name).run [⟨.command (e.subnetQuery name), .ok o⟩] r ↔
        r = if subnets = [] then .error (lineMissing (e.subnetQuery name)) else .ok subnets) ∧
    (∀ (c : Containers) s t r, Follows (c.prepare s).run t r →
      ⟨.command (c.engine.subnetQuery s.network), .ok o⟩ ∈ t →
      (subnets ≠ [] → ∃ remapped tp ports, tp <:+ t ∧
        Follows (plan s (commonArgs s (exceptSubnets subnets
          (Id.run (proxySettings c.environment))) remapped) {}) tp (r, ports)) ∧
      (subnets = [] → r = .error (bareFault c s))) ∧
    ∀ (c : Containers) s L r, (c.provision s).run.Runs L r →
      .own ⟨.command (c.engine.subnetQuery s.network), .ok o⟩ ∈ L → subnets = [] →
      r = .error (bareFault c s) ∧
        ∀ x ∈ commandsOf (L.map Turn.exchange), x.command.isStart = false := by
  refine ⟨fun e name r => ?_,
    fun c s t r hprepare hasked => follows_prepare_of_printed h ho hprepare hasked,
    fun c s L r run hasked hnone => runs_provision_bare run (hnone ▸ ho) hasked⟩
  rw [← subnetsOf_printedSubnets h ho]
  constructor
  · intro hfollows
    obtain ⟨answer, heq, rfl⟩ := follows_networkSubnets_iff.1 hfollows
    cases heq
    rfl
  · rintro rfl
    exact follows_networkSubnets_iff.2 ⟨.ok o, rfl, rfl⟩

theorem twoSubnets_told :
    (∀ subnet ∈ ["172.18.0.0/16", "fc00:f853:ccd:e793::/64"], Unbroken subnet) ∧
    Follows (({} : Engine).networkSubnets "kind").run
      [⟨.command (({} : Engine).subnetQuery "kind"),
        .ok (.ofText "172.18.0.0/16 fc00:f853:ccd:e793::/64 \n")⟩]
      (.ok ["172.18.0.0/16", "fc00:f853:ccd:e793::/64"]) := by
  have hwords : ∀ subnet ∈ ["172.18.0.0/16", "fc00:f853:ccd:e793::/64"], Unbroken subnet := by
    decide
  exact ⟨hwords, ((subnets_told hwords rfl).1 {} "kind" _).2 rfl⟩

/-- Containers behind a proxy. -/
def proxiedContainers : Containers :=
  { environment := fun name => if name = "HTTPS_PROXY" then some "http://proxy:3128" else none }

/-- A host that does everything as it is asked, on which the network has no subnet. -/
def bareHost : Host Unit := ⟨fun r => pure (match r with
  | .command c =>
    if c = ({} : Engine).subnetQuery "kind" then .ok (.ofText "\n")
    else (Request.command c).compliance
  | r => r.compliance, 0)⟩

theorem bareNetwork_fails :
    (¬ Follows (({} : Engine).networkSubnets "kind").run
      [⟨.command (({} : Engine).subnetQuery "kind"), .ok (.ofText "\n")⟩] (.ok [])) ∧
    ∃ L, (proxiedContainers.provision pairSpec).run.Runs L
      (.error (bareFault proxiedContainers pairSpec)) := by
  constructor
  · intro h
    obtain ⟨answer, heq, hr⟩ := follows_networkSubnets_iff.1 h
    cases heq
    have hbare := subnetsOf_printedSubnets (c := ({} : Engine).subnetQuery "kind")
      (o := .ofText "\n") (List.forall_mem_nil _) rfl
    rw [if_pos rfl] at hbare
    cases hr.trans hbare
  · obtain ⟨L, run⟩ := runs_runProgram bareHost (proxiedContainers.provision pairSpec).run ⟨0, ()⟩
    have hfault : (bareHost.runProgram (proxiedContainers.provision pairSpec).run ⟨0, ()⟩).1 =
        .error (bareFault proxiedContainers pairSpec) := by
      have hparts : (match (bareHost.runProgram
          (proxiedContainers.provision pairSpec).run ⟨0, ()⟩).1 with
        | .error (.context operation (.runtime fault)) => some (operation, fault)
        | _ => none) =
          some ("proxy setup error", lineMissing (({} : Engine).subnetQuery "kind")) := by
        decide +kernel
      split at hparts
      · next heq => cases hparts; exact heq
      · cases hparts
    exact ⟨L, hfault ▸ run⟩

end LocalCluster.Cluster
