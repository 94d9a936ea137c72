import LocalCluster.Cluster.Kubeconfig.File
import LocalCluster.Proofs.Work.Follows

/-!
# What work in nodes asks

Work in nodes runs commands inside containers and inspects containers; besides that it may read and
write on the host. A property of requests that holds of all this holds of every question of such
work.

* `AdmitsNodeWork P`: ordinary work in nodes is within `P`; `kubeadm` is no ordinary work.
* `AdmitsNodeWork.store`, `AdmitsNodeWork.fetch`, …: one fact for each kind of work.
* `Node.running`, `Node.reading`, `Node.writing`: the commands that such work runs;
  **`follows_fetch_ok_iff`**, **`writing_of_store_ok`**: what has been run when it ends well;
  `follows_store_ok`, `follows_store`: what is run to store a file.
-/

namespace LocalCluster.Cluster

open LocalCluster.Container LocalCluster.Files LocalCluster.Text Script

/-! ## Commands in nodes -/

namespace Node

/-- The command that runs another one in a node. -/
def running (n : Node) (argv : List String) : Command := n.engine.execution n.name argv none

/-- The command that reads a file of a node. -/
def reading (n : Node) (path : String) : Command := n.running ["cat", path]

/-- The command that writes a file of a node. -/
def writing (n : Node) (path : String) (contents : Bytes) : Command :=
  n.engine.execution n.name ["cp", "/dev/stdin", path] (some contents)

end Node

section

variable {n : Node} {t : List (Exchange Request Request.Answer)}

theorem follows_runCommand_toWork_iff {c : Command} {r : Except Fault Output} :
    Follows ((runCommand c).toWork).run t r ↔
      ∃ r₀, t = [⟨.command c, r₀⟩] ∧ r = r₀.mapError Fault.runtime := by
  refine follows_toWork_iff.trans ⟨?_, ?_⟩
  · rintro ⟨r₀, h, rfl⟩
    exact ⟨r₀, follows_runCommand_iff.1 h, rfl⟩
  · rintro ⟨r₀, rfl, rfl⟩
    exact ⟨r₀, follows_runCommand_iff.2 rfl, rfl⟩

theorem follows_exec_iff {argv : List String} {r : Except Fault Output} :
    Follows (n.exec argv).run t r ↔
      ∃ r₀, t = [⟨.command (n.running argv), r₀⟩] ∧ r = r₀.mapError Fault.runtime :=
  follows_runCommand_toWork_iff

theorem follows_exec_ok_iff {argv : List String} {o : Output} :
    Follows (n.exec argv).run t (.ok o) ↔ t = [⟨.command (n.running argv), .ok o⟩] := by
  rw [follows_exec_iff]
  constructor
  · rintro ⟨answer, rfl, h⟩
    rw [mapError_eq_ok_iff.1 h.symm]
  · rintro rfl
    exact ⟨.ok o, rfl, rfl⟩

theorem follows_exec_error_iff {argv : List String} {fault : Fault} :
    Follows (n.exec argv).run t (.error fault) ↔ ∃ cause, fault = .runtime cause ∧
      t = [⟨.command (n.running argv), .error cause⟩] := by
  rw [follows_exec_iff]
  constructor
  · rintro ⟨answer, rfl, h⟩
    obtain ⟨cause, rfl, rfl⟩ := mapError_eq_error_iff.1 h.symm
    exact ⟨cause, rfl, rfl⟩
  · rintro ⟨cause, rfl, rfl⟩
    exact ⟨.error cause, rfl, rfl⟩

theorem follows_execFed_iff {argv : List String} {stdin : Bytes} {r : Except Fault Output} :
    Follows (n.execFed argv stdin).run t r ↔
      ∃ r₀, t = [⟨.command (n.engine.execution n.name argv (some stdin)), r₀⟩] ∧
        r = r₀.mapError Fault.runtime :=
  follows_runCommand_toWork_iff

theorem follows_fetch_ok_iff {path : String} {contents : Bytes} :
    Follows (n.fetch path).run t (.ok contents) ↔
      ∃ o, t = [⟨.command (n.reading path), .ok o⟩] ∧ contents = o.stdout := by
  rw [Node.fetch, follows_run_bind_ok_iff]
  constructor
  · rintro ⟨o, t₁, t₂, rfl, h₁, h₂⟩
    obtain ⟨rfl, h⟩ := follows_run_pure_iff.1 h₂
    obtain rfl := follows_exec_ok_iff.1 h₁
    exact ⟨o, List.append_nil _, by simpa using h⟩
  · rintro ⟨o, rfl, rfl⟩
    exact ⟨o, _, [], (List.append_nil _).symm, follows_exec_ok_iff.2 rfl,
      follows_run_pure_iff.2 ⟨rfl, rfl⟩⟩

theorem follows_store_ok {path : String} {contents : Bytes}
    (h : Follows (n.store path contents).run t (.ok ())) : ∃ before o,
      t = before ++ [⟨.command (n.writing path contents), .ok o⟩] ∧
      ∀ x ∈ before, ∃ argv answer, x = ⟨.command (n.running argv), answer⟩ := by
  have hcopy : ∀ {t}, Follows (do
      let _ ← n.execFed ["cp", "/dev/stdin", path] contents
      pure () : Work Unit).run t (.ok ()) →
      ∃ o, t = [⟨.command (n.writing path contents), .ok o⟩] := by
    intro t h
    obtain ⟨o, t₁, t₂, rfl, h₁, h₂⟩ := follows_run_bind_ok_iff.1 h
    obtain ⟨answer, rfl, hr⟩ := follows_execFed_iff.1 h₁
    obtain rfl := mapError_eq_ok_iff.1 hr.symm
    obtain ⟨rfl, -⟩ := follows_run_pure_iff.1 h₂
    exact ⟨o, rfl⟩
  unfold Node.store at h
  split at h
  · obtain ⟨made, t₁, t₂, rfl, h₁, h₂⟩ := follows_run_bind_ok_iff.1 h
    obtain rfl := follows_exec_ok_iff.1 h₁
    obtain ⟨o, rfl⟩ := hcopy h₂
    refine ⟨_, o, rfl, fun x hx => ?_⟩
    obtain rfl := List.mem_singleton.1 hx
    exact ⟨_, .ok made, rfl⟩
  · obtain ⟨o, rfl⟩ := hcopy h
    exact ⟨[], o, rfl, nofun⟩

/-- **A file that is said to be written has been written.** -/
theorem writing_of_store_ok {path : String} {contents : Bytes}
    (h : Follows (n.store path contents).run t (.ok ())) :
    ∃ o, ⟨.command (n.writing path contents), .ok o⟩ ∈ t := by
  obtain ⟨before, o, rfl, -⟩ := follows_store_ok h
  exact ⟨o, List.mem_append_right before List.mem_cons_self⟩

/-- Storing a file makes its directory and then copies the file, until something of this fails. -/
theorem follows_store {path parent : String} {contents : Bytes} {r : Except Fault Unit}
    (hdir : Node.directoryFor? path = some parent) (h : Follows (n.store path contents).run t r) :
    (∃ cause, r = .error (.runtime cause) ∧
      t = [⟨.command (n.running ["mkdir", "-p", parent]), .error cause⟩]) ∨
    (∃ made cause, r = .error (.runtime cause) ∧
      t = [⟨.command (n.running ["mkdir", "-p", parent]), .ok made⟩,
        ⟨.command (n.writing path contents), .error cause⟩]) ∨
    ∃ made written, r = .ok () ∧
      t = [⟨.command (n.running ["mkdir", "-p", parent]), .ok made⟩,
        ⟨.command (n.writing path contents), .ok written⟩] := by
  simp only [Node.store, hdir] at h
  rcases follows_run_bind_iff.1 h with ⟨fault, hmake, rfl⟩ | ⟨made, t₁, t₂, rfl, hmake, hrest⟩
  · obtain ⟨cause, rfl, rfl⟩ := follows_exec_error_iff.1 hmake
    exact .inl ⟨cause, rfl, rfl⟩
  obtain rfl := follows_exec_ok_iff.1 hmake
  rcases follows_run_bind_iff.1 hrest with ⟨fault, hcopy, rfl⟩ | ⟨written, t₁, t₂, rfl, hcopy, hend⟩
  · obtain ⟨answer, rfl, hr⟩ := follows_execFed_iff.1 hcopy
    obtain ⟨cause, rfl, rfl⟩ := mapError_eq_error_iff.1 hr.symm
    exact .inr (.inl ⟨made, cause, rfl, rfl⟩)
  · obtain ⟨answer, rfl, hr⟩ := follows_execFed_iff.1 hcopy
    obtain rfl := mapError_eq_ok_iff.1 hr.symm
    obtain ⟨rfl, rfl⟩ := follows_run_pure_iff.1 hend
    exact .inr (.inr ⟨made, written, rfl, rfl⟩)

end

/-! ## What is asked -/

/-- Ordinary work in nodes is within `P`. -/
structure AdmitsNodeWork (P : Request → Prop) : Prop where
  exec : ∀ (e : Engine) container argv stdin, argv.head? ≠ some "kubeadm" →
    P (.command (e.execution container argv stdin))
  inspect : ∀ (e : Engine) target format, P (.command (e.inspection target format))
  other : ∀ r : Request, r.isCommand = false → P r

namespace AdmitsNodeWork

variable {P : Request → Prop} (hP : AdmitsNodeWork P) (n : Node)
include hP

theorem run (argv : List String) (h : argv.head? ≠ some "kubeadm") : (n.exec argv).run.Asks P :=
  asks_toWork (asks_runCommand (hP.exec _ _ _ _ h))

theorem fetch (path : String) : (n.fetch path).run.Asks P :=
  (hP.run n _ (by simp)).run_bind fun _ => asks_run_pure _

theorem store (path : String) (contents : Bytes) : (n.store path contents).run.Asks P := by
  have hcopy : (do
      let _ ← n.execFed ["cp", "/dev/stdin", path] contents
      pure () : Work Unit).run.Asks P :=
    (asks_toWork (asks_runCommand (hP.exec _ _ _ _ (by simp)))).run_bind fun _ => asks_run_pure _
  unfold Node.store
  split
  · exact (hP.run n _ (by simp)).run_bind fun _ => hcopy
  · exact hcopy

theorem inspectLines (format : String) :
    ((n.engine.inspectLines n.name format).toWork).run.Asks P :=
  asks_toWork ((asks_runCommand (hP.inspect _ _ _)).run_bind fun _ => asks_run_pure _)

theorem hostPort (p : Port) : (n.hostPort p).run.Asks P := by
  refine Asks.run_bind (Asks.run_bind ?_ fun _ => asks_run_mk_pure _) fun _ => asks_run_pure _
  exact asks_toWork ((asks_runCommand (hP.inspect _ _ _)).run_bind fun _ => asks_run_mk_pure _)

theorem addresses (network : String) : (n.addresses network).run.Asks P :=
  (hP.inspectLines n _).run_bind fun _ => asks_run_mk_pure _

theorem versionText : n.versionText.run.Asks P :=
  (hP.fetch n _).run_bind fun _ => asks_run_mk_pure _

omit n in
theorem hostWork {r : Request} (hr : r.isCommand = false)
    (f : r.Answer → Except IoFault Unit) :
    (ExceptT.lift (Script.lift r) >>= fun a => ofIo (f a) : Work Unit).run.Asks P :=
  (Asks.run_lift ((asks_lift P r).2 (hP.other r hr))).run_bind fun _ => asks_run_mk_pure _

omit n in
theorem save (dest : String) (contents : Bytes) : (Kubeconfig.save dest contents).run.Asks P := by
  have hmake : ∀ path, (makeDirs path).run.Asks P := fun path =>
    hP.hostWork (r := .makeDirs path) rfl id
  have hwrite : (writeFile dest contents).run.Asks P :=
    hP.hostWork (r := .writeFile dest contents) rfl id
  have hrestrict : (restrict dest).run.Asks P := hP.hostWork (r := .restrict dest) rfl id
  unfold Kubeconfig.save
  split
  · exact (hmake _).run_bind fun _ => (asks_during hwrite).run_bind fun _ => hrestrict
  · exact (asks_during hwrite).run_bind fun _ => hrestrict

theorem copyOut (dest : String) (port : Port) (cluster : String) :
    (Kubeconfig.copyOut n dest port cluster).run.Asks P :=
  (asks_during (hP.fetch n _)).run_bind fun _ =>
    (asks_run_mk_pure _).run_bind fun _ => hP.save _ _

end AdmitsNodeWork

end LocalCluster.Cluster
