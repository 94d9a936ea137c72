import LocalCluster.Proofs.Cluster.Copying
import LocalCluster.Rehearsal.Stage

/-!
# Credentials in a file of the host

The file that credentials are copied into is written where it is to stand and made private
afterwards, so what it holds and who may read it depends on how far the steps have come.

* `Held`, `Touched`, `Along`: a file of the host and what becomes of it, step by step;
  `Along.ownerOnly`: one that is private from the beginning stays so.
* `Stands`: the file once its writing has been answered; **`Copied.stands`**: at every point of a
  run, nothing has become of it or it stands like that.
* **`credentials_copied`**: what the file holds at every point of every run, and who may read it.
* `copying_in_place`: it is neither private nor whole from the first step to the last.
-/

namespace LocalCluster.Cluster.Kubeconfig

open LocalCluster.Container LocalCluster.Files LocalCluster.Text Script

variable {n : Node} {dest cluster : String} {port : Port} {contents : Bytes} {mode : Nat}
variable {t : List (Exchange Request Request.Answer)} {r : Except Fault Unit}

/-! ## The file -/

/-- What a file of the host holds, and who may do what with it. -/
structure Held where
  mode : Nat
  contents : Bytes
  deriving DecidableEq

/-- The mode of a file that nobody but its owner may read or write. -/
def ownerOnly : Nat := 0o600

/-- The mode of a file that is written, where new files get this mode. A file keeps its mode. -/
def modeWritten (mode : Nat) (before : Option Held) : Nat := (before.map Held.mode).getD mode

/-- What becomes of the file at a path when something is asked and answered, where new files get
this mode. Writing that fails can leave a part. -/
inductive Touched (path : String) (mode : Nat) :
    Exchange Request Request.Answer → Option Held → Option Held → Prop where
  | written {contents : Bytes} {before : Option Held} :
      Touched path mode ⟨.writeFile path contents, .ok ()⟩ before
        (some ⟨modeWritten mode before, contents⟩)
  | broken {contents part : Bytes} {cause : IoFault} {before : Option Held}
      (h : part <+: contents) : Touched path mode ⟨.writeFile path contents, .error cause⟩ before
        (some ⟨modeWritten mode before, part⟩)
  | unwritten {contents : Bytes} {cause : IoFault} {before : Option Held} :
      Touched path mode ⟨.writeFile path contents, .error cause⟩ before before
  | restricted {before : Option Held} : Touched path mode ⟨.restrict path, .ok ()⟩ before
      (before.map fun held => { held with mode := ownerOnly })
  | unrestricted {cause : IoFault} {before : Option Held} :
      Touched path mode ⟨.restrict path, .error cause⟩ before before
  | elsewhere {e : Exchange Request Request.Answer} {before : Option Held}
      (hwrite : ∀ contents, e.question ≠ .writeFile path contents)
      (hrestrict : e.question ≠ .restrict path) : Touched path mode e before before

/-- What becomes of the file along a run. -/
inductive Along (path : String) (mode : Nat) :
    List (Exchange Request Request.Answer) → Option Held → Option Held → Prop where
  | nil {before : Option Held} : Along path mode [] before before
  | cons {e : Exchange Request Request.Answer} {t : List (Exchange Request Request.Answer)}
      {before between after : Option Held} (first : Touched path mode e before between)
      (rest : Along path mode t between after) : Along path mode (e :: t) before after

variable {before after : Option Held} {past future t₁ t₂ : List (Exchange Request Request.Answer)}
variable {path : String}

theorem exists_touched (e : Exchange Request Request.Answer) (before : Option Held) :
    ∃ after, Touched path mode e before after := by
  obtain ⟨question, answer⟩ := e
  cases question with
  | writeFile other contents =>
    by_cases hpath : other = path
    · subst hpath
      cases answer with
      | ok => exact ⟨_, .written⟩
      | error => exact ⟨_, .unwritten⟩
    · exact ⟨before, .elsewhere (by simp [hpath]) nofun⟩
  | restrict other =>
    by_cases hpath : other = path
    · subst hpath
      cases answer with
      | ok => exact ⟨_, .restricted⟩
      | error => exact ⟨_, .unrestricted⟩
    · exact ⟨before, .elsewhere nofun (by simp [hpath])⟩
  | command | pause | listen | draw | makeDirs | tell => exact ⟨before, .elsewhere nofun nofun⟩

theorem exists_along (t : List (Exchange Request Request.Answer)) (before : Option Held) :
    ∃ after, Along path mode t before after := by
  induction t generalizing before with
  | nil => exact ⟨before, .nil⟩
  | cons e rest ih =>
    obtain ⟨between, first⟩ := exists_touched e before
    obtain ⟨after, h⟩ := ih between
    exact ⟨after, .cons first h⟩

theorem along_append_iff : Along path mode (t₁ ++ t₂) before after ↔
    ∃ between, Along path mode t₁ before between ∧ Along path mode t₂ between after := by
  constructor
  · intro h
    induction t₁ generalizing before with
    | nil => exact ⟨before, .nil, h⟩
    | cons e rest ih =>
      cases h with
      | cons first h =>
        obtain ⟨between, h₁, h₂⟩ := ih h
        exact ⟨between, .cons first h₁, h₂⟩
  · rintro ⟨between, h₁, h₂⟩
    induction h₁ with
    | nil => exact h₂
    | cons first _ ih => exact .cons first (ih h₂)

/-- No file is written and none made private. -/
def Quiet (t : List (Exchange Request Request.Answer)) : Prop :=
  ∀ e ∈ t, (∀ path contents, e.question ≠ .writeFile path contents) ∧
    ∀ path, e.question ≠ .restrict path

theorem Along.eq_of_quiet (h : Along path mode t before after) (hq : Quiet t) : after = before := by
  induction h with
  | nil => rfl
  | cons first _ ih =>
    obtain ⟨⟨hwrite, hrestrict⟩, hrest⟩ := List.forall_mem_cons.1 hq
    rw [ih hrest]
    cases first with
    | written | broken _ | unwritten => exact absurd rfl (hwrite _ _)
    | restricted | unrestricted => exact absurd rfl (hrestrict _)
    | elsewhere => rfl

theorem Quiet.path_eq (hq : Quiet t) : ∀ e ∈ t, ∀ path,
    (∀ contents, e.question = .writeFile path contents → path = dest) ∧
      (e.question = .restrict path → path = dest) :=
  fun e he path => ⟨fun contents hwrite => absurd hwrite ((hq e he).1 path contents),
    fun hrestrict => absurd hrestrict ((hq e he).2 path)⟩

theorem Quiet.left (hq : Quiet (t₁ ++ t₂)) : Quiet t₁ :=
  fun e he => hq e (List.mem_append_left _ he)

/-- The node has been asked for its credentials, and the bundle is what they are once they are
pointed at the host. -/
def Bundled (n : Node) (port : Port) (cluster : String)
    (t : List (Exchange Request Request.Answer)) (bundle : String) : Prop :=
  ∃ o : Output, ⟨.command (n.reading adminKubeconfigPath), .ok o⟩ ∈ t ∧
    redirect o.stdout cluster (hostServer port.toNat) = .ok bundle

/-- A run fails before it touches the file, or comes to fill it with the bundle. -/
theorem Copied.split (h : Copied n dest port cluster t r) :
    (Quiet t ∧ ∃ fault, r = .error fault) ∨ ∃ quiet filling bundle, t = quiet ++ filling ∧
      Quiet quiet ∧ Bundled n port cluster quiet bundle ∧
      Filled dest (encode bundle) filling r := by
  cases h with
  | unread => exact .inl ⟨by simp [Quiet], _, rfl⟩
  | unusable => exact .inl ⟨by simp [Quiet], _, rfl⟩
  | @bundled o bundle t r hbundle stored =>
    cases stored with
    | homeless => exact .inl ⟨by simp [Quiet], _, rfl⟩
    | housed _ h =>
      exact .inr ⟨[_, _], _, bundle, rfl, by simp [Quiet], ⟨o, List.mem_cons_self, hbundle⟩, h⟩
    | here _ h =>
      exact .inr ⟨[_], _, bundle, rfl, by simp [Quiet], ⟨o, List.mem_cons_self, hbundle⟩, h⟩

/-- What has become of the file once its writing has been answered, when this much of the run is
over and that much is to come. Writing that has failed ends the run, and the file is as before or
holds a part. When it has succeeded the file holds everything, and it has the mode of any file that
is written until its restriction succeeds. -/
inductive Stands (dest : String) (contents : Bytes) (mode : Nat) (before : Option Held)
    (past future : List (Exchange Request Request.Answer)) (r : Except Fault Unit) :
    Option Held → Prop where
  | asBefore {cause : IoFault} (failed : ⟨.writeFile dest contents, .error cause⟩ ∈ past)
      (ended : future = [])
      (hr : r = .error (.context ("failed to write kubeconfig " ++ dest) (.io cause))) :
      Stands dest contents mode before past future r before
  | inPart {cause : IoFault} {part : Bytes}
      (failed : ⟨.writeFile dest contents, .error cause⟩ ∈ past) (ended : future = [])
      (hr : r = .error (.context ("failed to write kubeconfig " ++ dest) (.io cause)))
      (hpart : part <+: contents) :
      Stands dest contents mode before past future r (some ⟨modeWritten mode before, part⟩)
  | whole (written : ⟨.writeFile dest contents, .ok ()⟩ ∈ past)
      (unrestricted : ⟨.restrict dest, .ok ()⟩ ∉ past)
      (ended : future = [] →
        ∃ cause, ⟨.restrict dest, .error cause⟩ ∈ past ∧ r = .error (.io cause)) :
      Stands dest contents mode before past future r (some ⟨modeWritten mode before, contents⟩)
  | wholeAndRestricted (written : ⟨.writeFile dest contents, .ok ()⟩ ∈ past)
      (restricted : ⟨.restrict dest, .ok ()⟩ ∈ past) (ended : future = []) (hr : r = .ok ()) :
      Stands dest contents mode before past future r (some ⟨ownerOnly, contents⟩)

theorem Stands.append_left {quiet : List (Exchange Request Request.Answer)}
    (h : Stands dest contents mode before past future r after) (hquiet : Quiet quiet) :
    Stands dest contents mode before (quiet ++ past) future r after := by
  cases h with
  | asBefore failed ended hr => exact .asBefore (List.mem_append_right _ failed) ended hr
  | inPart failed ended hr hpart => exact .inPart (List.mem_append_right _ failed) ended hr hpart
  | whole written unrestricted ended =>
    refine .whole (List.mem_append_right _ written) (fun hin => ?_) fun hend => ?_
    · rcases List.mem_append.1 hin with hin | hin
      · exact absurd rfl ((hquiet _ hin).2 dest)
      · exact unrestricted hin
    · obtain ⟨cause, hin, hr⟩ := ended hend
      exact ⟨cause, List.mem_append_right _ hin, hr⟩
  | wholeAndRestricted written restricted ended hr =>
    exact .wholeAndRestricted (List.mem_append_right _ written)
      (List.mem_append_right _ restricted) ended hr

theorem Filled.stands (h : Filled dest contents t r) (ht : t = past ++ future)
    (ha : Along dest mode past before after) :
    (past = [] ∧ after = before) ∨ Stands dest contents mode before past future r after := by
  rcases past with _ | ⟨e, past⟩
  · cases ha
    exact .inl ⟨rfl, rfl⟩
  right
  cases h with
  | @failed cause =>
    obtain ⟨rfl, hnil⟩ := List.cons.inj ht
    obtain ⟨rfl, rfl⟩ := List.append_eq_nil_iff.1 hnil.symm
    cases ha with
    | cons first rest =>
      cases rest
      cases first with
      | broken hpart => exact .inPart List.mem_cons_self rfl rfl hpart
      | unwritten => exact .asBefore List.mem_cons_self rfl rfl
      | elsewhere => exact .asBefore List.mem_cons_self rfl rfl
  | @written answer =>
    obtain ⟨rfl, htail⟩ := List.cons.inj ht
    cases ha with
    | cons first rest =>
      cases first with
      | elsewhere hwrite => exact absurd rfl (hwrite _)
      | written =>
        rcases past with _ | ⟨e, past⟩
        · cases rest
          refine .whole List.mem_cons_self (by simp) ?_
          rintro rfl
          cases htail
        · obtain ⟨rfl, hnil⟩ := List.cons.inj htail
          obtain ⟨rfl, rfl⟩ := List.append_eq_nil_iff.1 hnil.symm
          cases rest with
          | cons second last =>
            cases last
            cases second with
            | restricted => exact .wholeAndRestricted List.mem_cons_self (by simp) rfl rfl
            | unrestricted => exact .whole List.mem_cons_self (by simp) fun _ => ⟨_, by simp, rfl⟩
            | elsewhere _ hrestrict => exact absurd rfl hrestrict

theorem Filled.path_eq (h : Filled dest contents t r) :
    ∀ e ∈ t, ∀ path, (∀ bytes, e.question = .writeFile path bytes → path = dest) ∧
      (e.question = .restrict path → path = dest) := by
  intro e he path
  cases h with
  | failed =>
    obtain rfl := List.mem_singleton.1 he
    exact ⟨by rintro _ ⟨⟩; rfl, nofun⟩
  | written =>
    rcases List.mem_cons.1 he with rfl | he
    · exact ⟨by rintro _ ⟨⟩; rfl, nofun⟩
    · obtain rfl := List.mem_singleton.1 he
      exact ⟨nofun, by rintro ⟨⟩; rfl⟩

/-! ## Files that are private from the beginning -/

theorem Touched.ownerOnly {e : Exchange Request Request.Answer}
    (h : Touched path mode e before after) (hbefore : modeWritten mode before = ownerOnly) :
    modeWritten mode after = ownerOnly := by
  cases h with
  | written | broken => exact hbefore
  | unwritten | unrestricted | elsewhere => exact hbefore
  | restricted =>
    cases before with
    | none => exact hbefore
    | some held => rfl

theorem Along.ownerOnly (h : Along path mode t before after)
    (hbefore : modeWritten mode before = ownerOnly) : modeWritten mode after = ownerOnly := by
  induction h with
  | nil => exact hbefore
  | cons first _ ih => exact ih (first.ownerOnly hbefore)

/-! ## The whole run -/

theorem Copied.path_eq (h : Copied n dest port cluster t r) : ∀ e ∈ t, ∀ path,
    (∀ contents, e.question = .writeFile path contents → path = dest) ∧
      (e.question = .restrict path → path = dest) := by
  rcases h.split with ⟨hquiet, -⟩ | ⟨quiet, filling, bundle, rfl, hquiet, -, hfilled⟩
  · exact hquiet.path_eq
  · exact List.forall_mem_append.2 ⟨hquiet.path_eq, hfilled.path_eq⟩

/-- **The file at every point of the run**: nothing has become of it, or it is being filled. -/
theorem Copied.stands (h : Copied n dest port cluster t r) (ht : t = past ++ future)
    (ha : Along dest mode past before after) :
    (Quiet past ∧ after = before) ∨ ∃ bundle, Bundled n port cluster past bundle ∧
      Stands dest (encode bundle) mode before past future r after := by
  rcases h.split with ⟨hquiet, -⟩ | ⟨quiet, filling, bundle, rfl, hquiet, hbundle, hfilled⟩
  · rw [ht] at hquiet
    exact .inl ⟨hquiet.left, ha.eq_of_quiet hquiet.left⟩
  · rcases List.append_eq_append_iff.1 ht with ⟨begun, rfl, hbegun⟩ | ⟨left, rfl, -⟩
    · obtain ⟨between, hbefore, hafter⟩ := along_append_iff.1 ha
      obtain rfl := hbefore.eq_of_quiet hquiet
      rcases hfilled.stands hbegun hafter with ⟨rfl, rfl⟩ | hstands
      · exact .inl ⟨by simpa using hquiet, rfl⟩
      · obtain ⟨o, ho, hredirect⟩ := hbundle
        exact .inr ⟨bundle, ⟨o, List.mem_append_left _ ho, hredirect⟩,
          hstands.append_left hquiet⟩
    · exact .inl ⟨hquiet.left, ha.eq_of_quiet hquiet.left⟩

theorem Copied.restricted_of_ok (h : Copied n dest port cluster t r) (hr : r = .ok ()) :
    ⟨.restrict dest, .ok ()⟩ ∈ t := by
  rcases h.split with ⟨-, fault, hfault⟩ | ⟨quiet, filling, bundle, rfl, -, -, hfilled⟩
  · cases hr.symm.trans hfault
  · simp [hfilled.eq_of_ok hr]

/-- **What the file holds at every point of copying the credentials, and who may read it.** Until it
is written it is as it was before, contents and mode. Writing that fails ends the run with an error,
and at most a part of the bundle is in the file. Once it is written it holds all of the bundle; its
mode is the one that it had, or that of any new file, until it has been restricted to its owner, as
it has exactly when the copying succeeds. A file that only its owner may read, and a new one where
new files are such, is never anything else. No other file is written or restricted. -/
theorem credentials_copied (h : Follows (copyOut n dest port cluster).run t r) (mode : Nat)
    (before : Option Held) :
    (∀ e ∈ t, ∀ path, (∀ contents, e.question = .writeFile path contents → path = dest) ∧
      (e.question = .restrict path → path = dest)) ∧
    (∀ past future after, t = past ++ future → Along dest mode past before after →
      (Quiet past ∧ after = before) ∨ ∃ bundle, Bundled n port cluster past bundle ∧
        Stands dest (encode bundle) mode before past future r after) ∧
    (∃ after, Along dest mode t before after) ∧
    (r = .ok () → ∀ after, Along dest mode t before after →
      ∃ bundle, Bundled n port cluster t bundle ∧ after = some ⟨ownerOnly, encode bundle⟩) ∧
    (modeWritten mode before = ownerOnly → ∀ past future held, t = past ++ future →
      Along dest mode past before (some held) → held.mode = ownerOnly) := by
  have copied := follows_copyOut_iff.1 h
  refine ⟨copied.path_eq, fun past future after ht ha => copied.stands ht ha,
    exists_along t before, fun hr after ha => ?_,
    fun hbefore past future held _ ha => ha.ownerOnly hbefore⟩
  have hrestricted := copied.restricted_of_ok hr
  rcases copied.stands (List.append_nil t).symm ha with ⟨hquiet, -⟩ | ⟨bundle, hbundle, hstands⟩
  · exact absurd rfl ((hquiet _ hrestricted).2 dest)
  · cases hstands with
    | asBefore _ _ hfault | inPart _ _ hfault => cases hr.symm.trans hfault
    | whole _ unrestricted => exact absurd hrestricted unrestricted
    | wholeAndRestricted => exact ⟨bundle, hbundle, rfl⟩

/-! ## One node and its credentials -/

def keeper : Node := { name := "demo-control-plane", role := .controlPlane }

def keptConfig : Output := .ofText "clusters:\n- name: demo\n  cluster: {}\n"

def keptBundle : String :=
  "clusters:\n- name: demo\n  cluster:\n    server: https://localhost:54321\n"

def keptReading : Exchange Request Request.Answer :=
  ⟨.command (keeper.reading adminKubeconfigPath), .ok keptConfig⟩

theorem redirect_keptConfig :
    redirect keptConfig.stdout "demo" (hostServer (54321 : Port).toNat) = .ok keptBundle :=
  eq_ok_of_toOption (by decide +kernel)

theorem follows_kept {filling : List (Exchange Request Request.Answer)}
    (h : Filled "config" (encode keptBundle) filling r) :
    Follows (copyOut keeper "config" 54321 "demo").run (keptReading :: filling) r :=
  follows_copyOut_iff.2 (.bundled redirect_keptConfig (.here (by decide +kernel) h))

theorem eq_keptBundle {bundle : String}
    (h : Bundled keeper 54321 "demo" (keptReading :: t) bundle)
    (hquiet : ∀ e ∈ t, e.question.isCommand = false) : bundle = keptBundle := by
  obtain ⟨o, ho, hbundle⟩ := h
  rcases List.mem_cons.1 ho with ho | ho
  · injection ho with _ ho
    obtain rfl := Except.ok.inj ho
    exact Except.ok.inj (hbundle.symm.trans redirect_keptConfig)
  · exact absurd (hquiet _ ho) (by simp [Request.isCommand])

/-- An old file that all may read comes to hold the bundle for its owner only. -/
theorem keptBundle_copied : ∃ t after,
    Follows (copyOut keeper "config" 54321 "demo").run t (.ok ()) ∧
    Along "config" 0o644 t (some ⟨0o644, encode "old"⟩) after ∧
    ∃ bundle, Bundled keeper 54321 "demo" t bundle ∧ after = some ⟨ownerOnly, encode bundle⟩ := by
  have hrun : Follows (copyOut keeper "config" 54321 "demo").run [keptReading,
      ⟨.writeFile "config" (encode keptBundle), .ok ()⟩, ⟨.restrict "config", .ok ()⟩] (.ok ()) :=
    follows_kept .written
  have halong : Along "config" 0o644 [keptReading,
      ⟨.writeFile "config" (encode keptBundle), .ok ()⟩, ⟨.restrict "config", .ok ()⟩]
      (some ⟨0o644, encode "old"⟩) (some ⟨ownerOnly, encode keptBundle⟩) :=
    .cons (.elsewhere nofun nofun) (.cons .written (.cons .restricted .nil))
  exact ⟨_, _, hrun, halong, (credentials_copied hrun 0o644 _).2.2.2.1 rfl _ halong⟩

/-- The file is as it was before, or it is private and holds all of the bundle. -/
def WholeAndPrivate (n : Node) (port : Port) (cluster : String)
    (t : List (Exchange Request Request.Answer)) (before after : Option Held) : Prop :=
  after = before ∨ ∃ bundle, Bundled n port cluster t bundle ∧
    after = some ⟨ownerOnly, encode bundle⟩

/-- The stage on which that node is asked. -/
def keptStage : Rehearsal.Stage where
  rules := [.replies (keeper.reading adminKubeconfigPath).argv [.succeed keptConfig]]

/-- **The file is not whole or as before at every point, and not private.** A disk can be full when
the first byte has been written; between its writing and its restriction a new file has the mode of
any other, and if the restriction fails it keeps that mode; and a directory that is made for the
file can be where the file was to be. -/
theorem copying_in_place :
    (∃ t r after, Follows (copyOut keeper "config" 54321 "demo").run t r ∧
      Along "config" ownerOnly t none after ∧
      ¬ WholeAndPrivate keeper 54321 "demo" t none after) ∧
    (∃ past future r after, Follows (copyOut keeper "config" 54321 "demo").run (past ++ future) r ∧
      Along "config" 0o644 past none after ∧ after = some ⟨0o644, encode keptBundle⟩ ∧
      ¬ WholeAndPrivate keeper 54321 "demo" past none after) ∧
    (∃ t cause, Follows (copyOut keeper "config" 54321 "demo").run t (.error (.io cause)) ∧
      Along "config" 0o644 t none (some ⟨0o644, encode keptBundle⟩)) ∧
    (keptStage.files.resolve "x/../x").toOption = none ∧
    (Rehearsal.rehearse (copyOut keeper "x/../x" 54321 "demo").run keptStage).1.toOption = none ∧
    ((Rehearsal.rehearse (copyOut keeper "x/../x" 54321 "demo").run
      keptStage).2.2.files.resolve "x/../x").toOption = some (["work", "x"], .directory) := by
  have hbroken : Along "config" ownerOnly [keptReading,
      ⟨.writeFile "config" (encode keptBundle), .error (.other "No space left on device")⟩] none
      (some ⟨ownerOnly, []⟩) :=
    .cons (.elsewhere nofun nofun) (.cons (.broken List.nil_prefix) .nil)
  have hopen : Along "config" 0o644 [keptReading, ⟨.writeFile "config" (encode keptBundle), .ok ()⟩]
      none (some ⟨0o644, encode keptBundle⟩) :=
    .cons (.elsewhere nofun nofun) (.cons .written .nil)
  have hleft : Along "config" 0o644 [keptReading, ⟨.writeFile "config" (encode keptBundle), .ok ()⟩,
      ⟨.restrict "config", .error (.other "Operation not permitted")⟩] none
      (some ⟨0o644, encode keptBundle⟩) :=
    .cons (.elsewhere nofun nofun) (.cons .written (.cons .unrestricted .nil))
  refine ⟨⟨_, _, _, follows_kept .failed, hbroken, ?_⟩,
    ⟨_, [⟨.restrict "config", .ok ()⟩], _, _, follows_kept .written, hopen, rfl, ?_⟩,
    ⟨_, _, follows_kept .written, hleft⟩,
    by decide +kernel, by decide +kernel, by decide +kernel⟩
  · rintro (h | ⟨bundle, hbundle, h⟩)
    · cases h
    · obtain rfl := eq_keptBundle hbundle (by simp [Request.isCommand])
      exact absurd h (by decide +kernel)
  · rintro (h | ⟨bundle, hbundle, h⟩)
    · cases h
    · injection h with h
      injection h with hmode
      exact absurd hmode (by decide)

end LocalCluster.Cluster.Kubeconfig
