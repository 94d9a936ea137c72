import LocalCluster.Proofs.Cluster.NodeWork

/-!
# Runs that copy credentials

Copying the credentials of a node into a file of the host takes at most four steps, and each of them
can fail. These are all the runs there are, by their last step.

* `Filled`, `Stored`, `Copied`: the file, its directory, and what is to be stored;
  **`follows_save_iff`**, **`follows_copyOut_iff`**.
-/

namespace LocalCluster.Cluster.Kubeconfig

open LocalCluster.Container LocalCluster.Files LocalCluster.Text Script

variable {n : Node} {dest cluster : String} {port : Port} {contents : Bytes}
variable {t : List (Exchange Request Request.Answer)} {r : Except Fault Unit}

/-- The directory that is made for a file. -/
def directoryOf? (dest : String) : Option String := (parentPath? dest).filter (· ≠ "")

/-- A file is filled, and made private if that has worked. -/
inductive Filled (dest : String) (contents : Bytes) :
    List (Exchange Request Request.Answer) → Except Fault Unit → Prop where
  | failed {cause : IoFault} : Filled dest contents [⟨.writeFile dest contents, .error cause⟩]
      (.error (.context ("failed to write kubeconfig " ++ dest) (.io cause)))
  | written {answer : Except IoFault Unit} : Filled dest contents
      [⟨.writeFile dest contents, .ok ()⟩, ⟨.restrict dest, answer⟩] (answer.mapError Fault.io)

/-- A file is filled once there is a directory for it. -/
inductive Stored (dest : String) (contents : Bytes) :
    List (Exchange Request Request.Answer) → Except Fault Unit → Prop where
  | homeless {parent : String} {cause : IoFault} (hparent : directoryOf? dest = some parent) :
      Stored dest contents [⟨.makeDirs parent, .error cause⟩] (.error (.io cause))
  | housed {parent : String} {t : List (Exchange Request Request.Answer)} {r : Except Fault Unit}
      (hparent : directoryOf? dest = some parent) (h : Filled dest contents t r) :
      Stored dest contents (⟨.makeDirs parent, .ok ()⟩ :: t) r
  | here {t : List (Exchange Request Request.Answer)} {r : Except Fault Unit}
      (hparent : directoryOf? dest = none) (h : Filled dest contents t r) : Stored dest contents t r

/-- The credentials of a node are stored once they have been read and pointed at the host. -/
inductive Copied (n : Node) (dest : String) (port : Port) (cluster : String) :
    List (Exchange Request Request.Answer) → Except Fault Unit → Prop where
  | unread {fault : RuntimeFault} : Copied n dest port cluster
      [⟨.command (n.reading adminKubeconfigPath), .error fault⟩]
      (.error (.context "failed to get kubeconfig from node" (.runtime fault)))
  | unusable {o : Output} {fault : Fault}
      (h : redirect o.stdout cluster (hostServer port.toNat) = .error fault) :
      Copied n dest port cluster [⟨.command (n.reading adminKubeconfigPath), .ok o⟩] (.error fault)
  | bundled {o : Output} {bundle : String} {t : List (Exchange Request Request.Answer)}
      {r : Except Fault Unit} (h : redirect o.stdout cluster (hostServer port.toNat) = .ok bundle)
      (stored : Stored dest (encode bundle) t r) :
      Copied n dest port cluster (⟨.command (n.reading adminKubeconfigPath), .ok o⟩ :: t) r

theorem Filled.eq_of_ok (h : Filled dest contents t r) (hr : r = .ok ()) :
    t = [⟨.writeFile dest contents, .ok ()⟩, ⟨.restrict dest, .ok ()⟩] := by
  cases h with
  | failed => cases hr
  | written =>
    obtain rfl := mapError_eq_ok_iff.1 hr
    rfl

theorem Stored.writing_of_ok (h : Stored dest contents t r) (hr : r = .ok ()) :
    ⟨.writeFile dest contents, .ok ()⟩ ∈ t := by
  cases h with
  | homeless => cases hr
  | housed _ h => simp [h.eq_of_ok hr]
  | here _ h => simp [h.eq_of_ok hr]

theorem follows_fill_iff : Follows (do
      during ("failed to write kubeconfig " ++ dest) (writeFile dest contents)
      restrict dest : Work Unit).run t r ↔ Filled dest contents t r := by
  rw [follows_run_bind_iff]
  constructor
  · rintro (⟨fault, h, rfl⟩ | ⟨_, t₁, t₂, rfl, h₁, h₂⟩)
    · obtain ⟨x, hx, hfault⟩ := follows_during_iff.1 h
      obtain ⟨answer, hlift, rfl⟩ := follows_ofIo_iff.1 hx
      obtain rfl := follows_lift_iff.1 hlift
      cases answer with
      | ok => cases hfault
      | error cause =>
        cases hfault
        exact .failed
    · obtain ⟨answer, hlift, hanswer⟩ := follows_ofIo_iff.1 (follows_during_ok_iff.1 h₁)
      obtain rfl := mapError_eq_ok_iff.1 hanswer.symm
      obtain rfl := follows_lift_iff.1 hlift
      obtain ⟨answer, hlift, rfl⟩ := follows_ofIo_iff.1 h₂
      obtain rfl := follows_lift_iff.1 hlift
      exact .written
  · intro h
    cases h with
    | @failed cause =>
      exact .inl ⟨_, follows_during_iff.2 ⟨_, follows_ofIo_iff.2 ⟨.error cause,
        follows_lift_iff.2 rfl, rfl⟩, rfl⟩, rfl⟩
    | @written answer =>
      exact .inr ⟨(), [_], [_], rfl, follows_during_ok_iff.2 (follows_ofIo_iff.2
        ⟨.ok (), follows_lift_iff.2 rfl, rfl⟩),
        follows_ofIo_iff.2 ⟨answer, follows_lift_iff.2 rfl, rfl⟩⟩

theorem follows_save_iff : Follows (save dest contents).run t r ↔ Stored dest contents t r := by
  unfold save
  split
  · next parent hparent =>
    rw [follows_run_bind_iff]
    constructor
    · rintro (⟨fault, h, rfl⟩ | ⟨_, t₁, t₂, rfl, h₁, h₂⟩)
      · obtain ⟨answer, hlift, hfault⟩ := follows_ofIo_iff.1 h
        obtain rfl := follows_lift_iff.1 hlift
        cases answer with
        | ok => cases hfault
        | error cause =>
          cases hfault
          exact .homeless hparent
      · obtain ⟨answer, hlift, hanswer⟩ := follows_ofIo_iff.1 h₁
        obtain rfl := mapError_eq_ok_iff.1 hanswer.symm
        obtain rfl := follows_lift_iff.1 hlift
        exact .housed hparent (follows_fill_iff.1 h₂)
    · intro h
      cases h with
      | @homeless _ cause hparent' =>
        obtain rfl := Option.some.inj (hparent.symm.trans hparent')
        exact .inl ⟨_, follows_ofIo_iff.2 ⟨.error cause, follows_lift_iff.2 rfl, rfl⟩, rfl⟩
      | housed hparent' h =>
        obtain rfl := Option.some.inj (hparent.symm.trans hparent')
        exact .inr ⟨(), [_], _, rfl, follows_ofIo_iff.2 ⟨.ok (), follows_lift_iff.2 rfl, rfl⟩,
          follows_fill_iff.2 h⟩
      | here hparent' _ => exact absurd (hparent.symm.trans hparent') (by simp)
  · next hnone =>
    have hparent : directoryOf? dest = none := Option.eq_none_iff_forall_ne_some.2 hnone
    refine follows_fill_iff.trans ⟨.here hparent, fun h => ?_⟩
    cases h with
    | homeless hparent' => exact absurd (hparent.symm.trans hparent') (by simp)
    | housed hparent' _ => exact absurd (hparent.symm.trans hparent') (by simp)
    | here _ h => exact h

theorem follows_adminOf_iff {r : Except Fault Bytes} : Follows (adminOf n).run t r ↔
    ∃ answer, t = [⟨.command (n.reading adminKubeconfigPath), answer⟩] ∧
      r = naming "failed to get kubeconfig from node"
        ((answer.map Output.stdout).mapError Fault.runtime) := by
  rw [adminOf, follows_during_iff]
  constructor
  · rintro ⟨x, h, rfl⟩
    obtain ⟨told, hexec, rfl⟩ := follows_run_judged_iff.1 h
    obtain ⟨answer, rfl, rfl⟩ := follows_exec_iff.1 hexec
    exact ⟨answer, rfl, by cases answer <;> rfl⟩
  · rintro ⟨answer, rfl, rfl⟩
    refine ⟨_, follows_run_judged_iff.2 ⟨_, follows_exec_iff.2 ⟨answer, rfl, rfl⟩, ?_⟩, rfl⟩
    cases answer <;> rfl

/-- **A run is as far as its steps have come**: the node is read, the credentials are pointed at the
host, a directory is made, and the file is filled and made private. -/
theorem follows_copyOut_iff :
    Follows (copyOut n dest port cluster).run t r ↔ Copied n dest port cluster t r := by
  unfold copyOut
  rw [follows_run_bind_iff]
  constructor
  · rintro (⟨fault, h, rfl⟩ | ⟨raw, t₁, t₂, rfl, h₁, h₂⟩)
    · obtain ⟨answer, rfl, hfault⟩ := follows_adminOf_iff.1 h
      cases answer with
      | ok => cases hfault
      | error fault =>
        cases hfault
        exact .unread
    · obtain ⟨answer, rfl, hraw⟩ := follows_adminOf_iff.1 h₁
      cases answer with
      | error => cases hraw
      | ok o =>
        cases hraw
        rcases follows_run_mk_pure_bind_iff.1 h₂ with ⟨fault, h, rfl, rfl⟩ | ⟨bundle, h, h₃⟩
        · exact .unusable h
        · exact .bundled h (follows_save_iff.1 h₃)
  · intro h
    cases h with
    | @unread fault => exact .inl ⟨_, follows_adminOf_iff.2 ⟨.error fault, rfl, rfl⟩, rfl⟩
    | @unusable o fault h =>
      refine .inr ⟨o.stdout, [_], [], rfl, follows_adminOf_iff.2 ⟨.ok o, rfl, rfl⟩, ?_⟩
      exact follows_run_mk_pure_bind_iff.2 (.inl ⟨fault, h, rfl, rfl⟩)
    | @bundled o bundle t r h stored =>
      refine .inr ⟨o.stdout, [_], t, rfl, follows_adminOf_iff.2 ⟨.ok o, rfl, rfl⟩, ?_⟩
      exact follows_run_mk_pure_bind_iff.2 (.inr ⟨bundle, h, follows_save_iff.2 stored⟩)

end LocalCluster.Cluster.Kubeconfig
