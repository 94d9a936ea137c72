import LocalCluster.Container.Network
import LocalCluster.Proofs.Work.Commands

/-!
# What work of the engine asks

The engine is driven by its commands, and besides that it lets time pass. Each kind of work has
commands of its own, so a property of these holds of everything that the work asks.

* `Engine.imageCheck`, `Engine.pulling`, `Engine.networkLookup`, …: the commands.
* `asks_ensureImage`, `asks_ensureNetwork`, …: one fact for each kind of work.
* `Fetched`, `Networked`: an image or a network has been found or made;
  **`fetched_of_ensureImage`**, **`networked_of_ensureNetwork`**: that is so when it has been made
  sure of.
-/

namespace LocalCluster.Container

open LocalCluster.Text Script

namespace Engine

variable (e : Engine)

/-- The command that looks for an image. -/
def imageCheck (image : String) : Command := e.command ["inspect", "--type=image", image]

/-- The command that fetches an image. -/
def pulling (image : String) : Command := e.command ["pull", image]

/-- The command that looks for a network. -/
def networkLookup (name : String) : Command :=
  e.command ["network", "inspect", "--format", networkNameFormat, name]

/-- The command that makes a network. -/
def networkCreation (name : String) (ipv6 : Bool) : Command :=
  e.command (["network", "create", "--driver=bridge", "--label=" ++ networkLabel ++ "=" ++ name] ++
    (if ipv6 then ["--ipv6"] else []) ++ [name])

/-- The command that asks for the subnets of a network. -/
def subnetQuery (name : String) : Command :=
  e.command ["network", "inspect", "--format", subnetsFormat, name]

/-- The command that asks for the security options. -/
def securityQuery : Command := e.command ["info", "--format", securityFormat]

/-- The command that puts a container into one more network. -/
def connecting (network container : String) : Command :=
  e.command ["network", "connect", network, container]

end Engine

variable {P : Request → Prop} {e : Engine} {image name : String} {ipv6 : Bool}

/-! ## What is asked -/

theorem asks_list {filter format : String}
    (h : P (.command (e.command ["ps", "-a", "--filter", filter, "--format", format]))) :
    (e.list filter format).run.Asks P :=
  (asks_runCommand h).run_bind fun _ => asks_run_pure _

theorem asks_pullFrom {attempt left : Nat} (hpause : ∀ milliseconds, P (.pause milliseconds))
    (h : P (.command (e.pulling image))) : (e.pullFrom image attempt left).run.Asks P := by
  induction left generalizing attempt with
  | zero => exact (asks_runCommand h).run_bind fun _ => asks_run_pure _
  | succ left ih =>
    refine (asks_runCommand h).bind fun r => ?_
    cases r with
    | ok output => trivial
    | error fault => exact (Asks.run_lift ((asks_lift P _).2 (hpause _))).run_bind fun _ => ih

theorem asks_ensureImage (hpause : ∀ milliseconds, P (.pause milliseconds))
    (hcheck : P (.command (e.imageCheck image))) (hpull : P (.command (e.pulling image))) :
    (e.ensureImage image).run.Asks P := by
  have hfind : (e.hasImage image).run.Asks P :=
    Asks.run_lift ((asks_runCommand hcheck).bind fun r => by cases r <;> trivial)
  refine hfind.run_bind fun found => ?_
  cases found with
  | true => trivial
  | false => exact asks_pullFrom hpause hpull

theorem asks_ensureNetwork (hlookup : P (.command (e.networkLookup name)))
    (hcreate : P (.command (e.networkCreation name ipv6))) :
    (e.ensureNetwork name ipv6).run.Asks P := by
  have hfind : (e.hasNetwork name).run.Asks P :=
    Asks.run_lift ((asks_runCommand hlookup).bind fun r => by cases r <;> trivial)
  have hmake : (e.createNetwork name ipv6).run.Asks P :=
    (asks_runCommand hcreate).run_bind fun _ => asks_run_pure _
  refine hfind.run_bind fun found => ?_
  cases found with
  | true => trivial
  | false =>
    refine (Asks.run_lift hmake).run_bind fun made => ?_
    cases made with
    | ok _ => trivial
    | error fault =>
      refine hfind.run_bind fun found => ?_
      cases found <;> trivial

theorem asks_networkSubnets (h : P (.command (e.subnetQuery name))) :
    (e.networkSubnets name).run.Asks P :=
  (asks_runCommand h).run_bind fun _ => asks_run_mk_pure _

theorem asks_remapsUsers (h : P (.command e.securityQuery)) : e.remapsUsers.run.Asks P := by
  refine (asks_runCommand h).run_bind fun output => ?_
  cases Engine.textsOfJson? (trim output.text) <;> trivial

/-! ## What has been made sure of -/

variable {t t' : List (Exchange Request Request.Answer)}

/-- The image has been found, or else fetched. -/
def Fetched (e : Engine) (image : String) (t : List (Exchange Request Request.Answer)) : Prop :=
  ∃ o, ⟨.command (e.imageCheck image), .ok o⟩ ∈ t ∨ ⟨.command (e.pulling image), .ok o⟩ ∈ t

/-- The network has been found, or else made. -/
def Networked (e : Engine) (name : String) (ipv6 : Bool)
    (t : List (Exchange Request Request.Answer)) : Prop :=
  ∃ o, ⟨.command (e.networkLookup name), .ok o⟩ ∈ t ∧ name ∈ o.lines ∨
    ⟨.command (e.networkCreation name ipv6), .ok o⟩ ∈ t

theorem Fetched.mono (h : Fetched e image t) (hsub : t ⊆ t') : Fetched e image t' := by
  obtain ⟨o, ho⟩ := h
  exact ⟨o, ho.imp (@hsub _) (@hsub _)⟩

theorem Networked.mono (h : Networked e name ipv6 t) (hsub : t ⊆ t') :
    Networked e name ipv6 t' := by
  obtain ⟨o, ho⟩ := h
  exact ⟨o, ho.imp (fun h => ⟨hsub h.1, h.2⟩) (@hsub _)⟩

theorem follows_hasImage {found : Bool} (h : Follows (e.hasImage image).run t (.ok found)) :
    ∃ answer, t = [⟨.command (e.imageCheck image), answer⟩] ∧
      (found = true → ∃ o, answer = .ok o) := by
  obtain ⟨_, h, hr⟩ := follows_run_lift_iff.1 h
  obtain rfl := Except.ok.inj hr
  obtain ⟨answer, t₁, t₂, rfl, h₁, h₂⟩ := follows_bind_iff.1 h
  obtain rfl := follows_runCommand_iff.1 h₁
  refine ⟨answer, ?_⟩
  cases answer with
  | ok o =>
    obtain ⟨rfl, -⟩ := follows_pure_iff.1 h₂
    exact ⟨rfl, fun _ => ⟨o, rfl⟩⟩
  | error fault =>
    obtain ⟨rfl, rfl⟩ := follows_pure_iff.1 h₂
    exact ⟨rfl, nofun⟩

theorem follows_hasNetwork {found : Bool} (h : Follows (e.hasNetwork name).run t (.ok found)) :
    ∃ answer, t = [⟨.command (e.networkLookup name), answer⟩] ∧
      (found = true → ∃ o, answer = .ok o ∧ name ∈ o.lines) := by
  obtain ⟨_, h, hr⟩ := follows_run_lift_iff.1 h
  obtain rfl := Except.ok.inj hr
  obtain ⟨answer, t₁, t₂, rfl, h₁, h₂⟩ := follows_bind_iff.1 h
  obtain rfl := follows_runCommand_iff.1 h₁
  refine ⟨answer, ?_⟩
  cases answer with
  | ok o =>
    obtain ⟨rfl, rfl⟩ := follows_pure_iff.1 h₂
    exact ⟨rfl, fun hfound => ⟨o, rfl, List.contains_iff_mem.1 hfound⟩⟩
  | error fault =>
    obtain ⟨rfl, rfl⟩ := follows_pure_iff.1 h₂
    exact ⟨rfl, nofun⟩

theorem pulled_of_pullFrom {attempt left : Nat}
    (h : Follows (e.pullFrom image attempt left).run t (.ok ())) :
    ∃ o, ⟨.command (e.pulling image), .ok o⟩ ∈ t := by
  induction left generalizing attempt t with
  | zero =>
    obtain ⟨o, t₁, t₂, rfl, h₁, -⟩ := follows_run_bind_ok_iff.1 h
    obtain rfl := follows_runCommand_iff.1 h₁
    exact ⟨o, List.mem_append_left _ List.mem_cons_self⟩
  | succ left ih =>
    obtain ⟨answer, t₁, t₂, rfl, h₁, h₂⟩ := follows_bind_iff.1 h
    obtain rfl := follows_runCommand_iff.1 h₁
    cases answer with
    | ok o => exact ⟨o, List.mem_append_left _ List.mem_cons_self⟩
    | error fault =>
      obtain ⟨_, t₃, t₄, rfl, -, hrest⟩ := follows_run_bind_ok_iff.1 h₂
      obtain ⟨o, ho⟩ := ih hrest
      exact ⟨o, List.mem_append_right _ (List.mem_append_right _ ho)⟩

/-- **An image that has been made sure of was looked for, and it is there.** -/
theorem fetched_of_ensureImage (h : Follows (e.ensureImage image).run t (.ok ())) :
    (∃ answer, ⟨.command (e.imageCheck image), answer⟩ ∈ t) ∧ Fetched e image t := by
  obtain ⟨found, t₁, t₂, rfl, h₁, h₂⟩ := follows_run_bind_ok_iff.1 h
  obtain ⟨answer, rfl, hfound⟩ := follows_hasImage h₁
  refine ⟨⟨answer, List.mem_append_left _ List.mem_cons_self⟩, ?_⟩
  cases found with
  | true =>
    obtain ⟨o, rfl⟩ := hfound rfl
    exact ⟨o, .inl (List.mem_append_left _ List.mem_cons_self)⟩
  | false =>
    obtain ⟨o, ho⟩ := pulled_of_pullFrom h₂
    exact ⟨o, .inr (List.mem_append_right _ ho)⟩

/-- **A network that has been made sure of is there.** -/
theorem networked_of_ensureNetwork (h : Follows (e.ensureNetwork name ipv6).run t (.ok ())) :
    Networked e name ipv6 t := by
  obtain ⟨found, t₁, t₂, rfl, h₁, h₂⟩ := follows_run_bind_ok_iff.1 h
  obtain ⟨answer, rfl, hfound⟩ := follows_hasNetwork h₁
  cases found with
  | true =>
    obtain ⟨o, rfl, hin⟩ := hfound rfl
    exact ⟨o, .inl ⟨List.mem_append_left _ List.mem_cons_self, hin⟩⟩
  | false =>
    obtain ⟨made, t₃, t₄, rfl, hcreate, h₄⟩ := follows_run_lift_bind_iff.1 h₂
    cases made with
    | ok u =>
      obtain ⟨o, t₅, t₆, rfl, h₅, -⟩ := follows_run_bind_ok_iff.1 hcreate
      obtain rfl := follows_runCommand_iff.1 h₅
      exact ⟨o, .inr (by simp [Engine.networkCreation])⟩
    | error fault =>
      obtain ⟨again, t₅, t₆, rfl, h₅, h₆⟩ := follows_run_bind_ok_iff.1 h₄
      obtain ⟨answer', rfl, hfound'⟩ := follows_hasNetwork h₅
      cases again with
      | true =>
        obtain ⟨o, rfl, hin⟩ := hfound' rfl
        exact ⟨o, .inl ⟨by simp, hin⟩⟩
      | false => cases (follows_run_throw_iff.1 h₆).2

theorem follows_networkSubnets_iff {r : Except RuntimeFault (List String)} :
    Follows (e.networkSubnets name).run t r ↔ ∃ answer,
      t = [⟨.command (e.subnetQuery name), answer⟩] ∧
        r = answer.bind (Engine.subnetsOf (e.subnetQuery name)) := by
  refine follows_run_judged_iff.trans ⟨?_, ?_⟩
  · rintro ⟨answer, h, rfl⟩
    exact ⟨answer, follows_runCommand_iff.1 h, rfl⟩
  · rintro ⟨answer, rfl, rfl⟩
    exact ⟨answer, follows_runCommand_iff.2 rfl, rfl⟩

theorem subnetsOf_eq_ok_iff {c : Command} {o : Output} {subnets : List String} :
    Engine.subnetsOf c o = .ok subnets ↔ ∃ line, o.lines = [line] ∧ subnets = words line := by
  unfold Engine.subnetsOf
  split
  · next line hline => simp [hline, eq_comm]
  · next hlines => exact ⟨nofun, fun ⟨line, hline, _⟩ => absurd hline (hlines line)⟩

end LocalCluster.Container
