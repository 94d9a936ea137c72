import LocalCluster.Proofs.Bootstrap.Documents
import LocalCluster.Proofs.Cluster.Backends
import LocalCluster.Proofs.Cluster.Selection

/-!
# The load balancer is pointed at the control planes

First every control plane is asked for its address. If one of them has none, nothing is run inside
the load balancer; otherwise its configuration is written once, and then it is told to read it.

* `Located`: what the answer to the question for an address says; `Located.unique`: only one thing.
* `Surveyed`: the course of the questions; `Applied`: that of the commands in the load balancer;
  **`parts_of_balance`**: one after the other.
* `Mirrors`: the servers of the configuration that is written, as they are read back.
* **`pointed_or_left_alone`**: the load balancer is pointed at the control planes, or left alone.
-/

namespace LocalCluster.Cluster.Bootstrap

open LocalCluster.Container LocalCluster.Text LocalCluster.Net Node Script
open Balancer (Server Backend readServers?)

variable {s : Spec} {n balancer : Node} {nodes all : List Node} {t t₀ : History}
variable {ctx ctx' : Context}

/-! ## Questions -/

/-- What the answer to the question for the addresses of a node says: the address, of the family of
a specification and on its network, or none. -/
inductive Located (s : Spec) : Except RuntimeFault Output → Option String → Prop where
  | found {o : Output} {attached : List Attachment} {a : Attachment}
      (reports : Reports o.lines attached) (preferred : Preferred s.network attached a)
      (address : a.address s.isV6 ≠ "") : Located s (.ok o) (some (a.address s.isV6))
  | failed (fault : RuntimeFault) : Located s (.error fault) none
  | malformed {o : Output} {line : String} (hline : line ∈ o.lines) (hne : line ≠ "")
      (hparts : (split ',' line).length ≠ 3) : Located s (.ok o) none
  | nowhere {o : Output} (hempty : ∀ line ∈ o.lines, line = "") : Located s (.ok o) none
  | addressless {o : Output} {attached : List Attachment} {a : Attachment}
      (reports : Reports o.lines attached) (preferred : Preferred s.network attached a)
      (address : a.address s.isV6 = "") : Located s (.ok o) none

/-- Nodes are asked for their addresses one after the other, until one of them has none; and the
backends that they become. -/
inductive Surveyed (s : Spec) : List Node → History → Option (List Backend) → Prop where
  | done : Surveyed s [] [] (some [])
  | next {n : Node} {nodes : List Node} {answer : Except RuntimeFault Output} {address : String}
      {t : History} {backends : Option (List Backend)} (located : Located s answer (some address))
      (rest : Surveyed s nodes t backends) :
      Surveyed s (n :: nodes) (⟨.command n.addressQuery, answer⟩ :: t)
        (backends.map (⟨n.name, address, apiServerPort⟩ :: ·))
  | stopped {n : Node} {nodes : List Node} {answer : Except RuntimeFault Output}
      (located : Located s answer none) :
      Surveyed s (n :: nodes) [⟨.command n.addressQuery, answer⟩] none

theorem located_of_backendOf {r : Except Fault Backend} (h : Follows (backendOf ctx n).run t r) :
    ∃ answer address, t = [⟨.command n.addressQuery, answer⟩] ∧
      Located ctx.spec answer address ∧
      r.toOption = address.map fun address => ⟨n.name, address, apiServerPort⟩ := by
  rcases follows_run_bind_iff.1 h with ⟨fault, hfind, rfl⟩ | ⟨a, t₁, t₂, rfl, hfind, hrest⟩
  · obtain ⟨r₀, hfind, hr⟩ := follows_during_iff.1 hfind
    obtain ⟨answer, rfl, rfl⟩ := follows_addresses hfind
    refine ⟨answer, none, rfl, ?_, rfl⟩
    cases answer with
    | error fault => exact .failed fault
    | ok o =>
      change Except.error fault = naming _ (n.attachmentOfLines ctx.spec.network o.lines) at hr
      cases hlines : n.attachmentOfLines ctx.spec.network o.lines with
      | ok a =>
        rw [hlines] at hr
        cases hr
      | error fault =>
        rcases attachmentOfLines_error hlines with ⟨line, hline, hne, hparts⟩ | hempty
        · exact .malformed hline hne hparts
        · exact .nowhere hempty
  · obtain ⟨answer, rfl, hr⟩ := follows_addresses (follows_during_ok_iff.1 hfind)
    cases answer with
    | error fault => cases hr
    | ok o =>
      obtain ⟨attached, hreports, hpreferred⟩ := attachmentOfLines_eq_ok_iff.1 hr.symm
      change Follows (if a.address ctx.spec.isV6 = "" then throw _ >>= _ else pure _ :
        Work Backend).run t₂ r at hrest
      by_cases haddress : a.address ctx.spec.isV6 = ""
      · rw [if_pos haddress] at hrest
        refine ⟨.ok o, none, ?_⟩
        rcases follows_run_bind_iff.1 hrest with ⟨fault, hthrow, rfl⟩ | ⟨_, _, _, rfl, hthrow, -⟩
        · obtain ⟨rfl, -⟩ := follows_run_throw_iff.1 hthrow
          exact ⟨rfl, .addressless hreports hpreferred haddress, rfl⟩
        · cases (follows_run_throw_iff.1 hthrow).2
      · rw [if_neg haddress] at hrest
        obtain ⟨rfl, rfl⟩ := follows_run_pure_iff.1 hrest
        exact ⟨.ok o, some (a.address ctx.spec.isV6), rfl,
          .found hreports hpreferred haddress, rfl⟩

theorem surveyed_of_mapM {r : Except Fault (List Backend)}
    (h : Follows (nodes.mapM (backendOf ctx)).run t r) : Surveyed ctx.spec nodes t r.toOption := by
  induction nodes generalizing t r with
  | nil =>
    rw [List.mapM_nil] at h
    obtain ⟨rfl, rfl⟩ := follows_run_pure_iff.1 h
    exact .done
  | cons n nodes ih =>
    rw [List.mapM_cons] at h
    rcases follows_run_bind_iff.1 h with ⟨fault, hfirst, rfl⟩ | ⟨b, t₁, t₂, rfl, hfirst, hrest⟩
    · obtain ⟨answer, address, rfl, hlocated, hnone⟩ := located_of_backendOf hfirst
      obtain rfl := Option.map_eq_none_iff.1 hnone.symm
      exact .stopped hlocated
    · obtain ⟨answer, address, rfl, hlocated, hsome⟩ := located_of_backendOf hfirst
      obtain ⟨address, rfl, rfl⟩ := Option.map_eq_some_iff.1 hsome.symm
      rcases follows_run_bind_iff.1 hrest with
        ⟨fault, hlater, rfl⟩ | ⟨later, t₃, t₄, rfl, hlater, hend⟩
      · exact .next hlocated (ih hlater)
      · obtain ⟨rfl, rfl⟩ := follows_run_pure_iff.1 hend
        rw [List.append_nil]
        exact .next hlocated (ih hlater)

namespace Located

variable {answer : Except RuntimeFault Output} {address : String}

theorem feed_not_mem (h : Located s answer (some address)) : '\n' ∉ address.toList := by
  cases h with
  | found reports preferred => exact reports.feed_not_mem preferred.mem

theorem eq_of_ok {o : Output} {found : Option String} (h : Located s (.ok o) found) (n : Node) :
    found = ((n.attachmentOfLines s.network o.lines).toOption.map
      (Attachment.address s.isV6)).filter (· ≠ "") := by
  cases hlines : n.attachmentOfLines s.network o.lines with
  | error fault =>
    have hnone : ∀ {attached a}, Reports o.lines attached → ¬ Preferred s.network attached a := by
      intro attached a reports preferred
      rw [attachmentOfLines_eq_ok_iff.2 ⟨attached, reports, preferred⟩] at hlines
      cases hlines
    cases h with
    | found reports preferred => exact absurd preferred (hnone reports)
    | malformed | nowhere | addressless => rfl
  | ok a =>
    have hsame : ∀ {attached b}, Reports o.lines attached → Preferred s.network attached b →
        a = b := by
      intro attached b reports preferred
      exact Except.ok.inj
        (hlines.symm.trans (attachmentOfLines_eq_ok_iff.2 ⟨attached, reports, preferred⟩))
    obtain ⟨attached, reports, preferred⟩ := attachmentOfLines_eq_ok_iff.1 hlines
    cases h with
    | found reports preferred address =>
      obtain rfl := hsame reports preferred
      exact (Option.filter_eq_some_iff.2 ⟨rfl, by simpa using address⟩).symm
    | addressless reports preferred address =>
      obtain rfl := hsame reports preferred
      exact (Option.filter_eq_none_iff.2 (by simpa [Except.toOption] using address)).symm
    | @malformed _ line hline hne hparts =>
      obtain ⟨b, -, hsplit⟩ := exists_mem_of_forall₂ reports.flip
        (List.mem_filter.2 ⟨hline, by simpa using hne⟩)
      rw [hsplit] at hparts
      exact absurd rfl hparts
    | nowhere hempty =>
      obtain ⟨line, hline, -⟩ := exists_mem_of_forall₂ reports preferred.mem
      obtain ⟨hline, hne⟩ := List.mem_filter.1 hline
      simp [hempty line hline] at hne

theorem unique {found found' : Option String} (h : Located s answer found)
    (h' : Located s answer found') : found = found' := by
  cases answer with
  | error fault =>
    cases h
    cases h'
    rfl
  | ok o => exact (h.eq_of_ok ⟨"", .worker, {}⟩).trans (h'.eq_of_ok _).symm

end Located

namespace Surveyed

variable {backends : List Backend} {found : Option (List Backend)}

theorem outside (h : Surveyed s nodes t found) : ∀ e ∈ commandsOf t, e.command.inside? = none := by
  induction h with
  | done => simp [commandsOf]
  | next located rest ih =>
    intro e he
    rcases List.mem_cons.1 he with rfl | he
    · rfl
    · exact ih e he
  | stopped located =>
    intro e he
    obtain rfl := List.mem_singleton.1 he
    rfl

theorem serves (h : Surveyed s nodes t (some backends)) :
    List.Forall₂ (fun n b => b.name = n.name ∧ b.port = apiServerPort ∧
      ∃ answer, ⟨.command n.addressQuery, answer⟩ ∈ t ∧ Located s answer (some b.address))
      nodes backends := by
  generalize hfound : some backends = found at h
  induction h generalizing backends with
  | done =>
    obtain rfl := Option.some.inj hfound
    exact .nil
  | next located rest ih =>
    obtain ⟨later, rfl, rfl⟩ := Option.map_eq_some_iff.1 hfound.symm
    refine .cons ⟨rfl, rfl, _, List.mem_cons_self, located⟩ ?_
    refine (ih rfl).imp fun n b ⟨hname, hport, answer, hmem, hlocated⟩ => ?_
    exact ⟨hname, hport, answer, List.mem_cons_of_mem _ hmem, hlocated⟩
  | stopped => cases hfound

theorem readBack {ipv6 : Bool} (h : Surveyed s nodes t (some backends))
    (hblank : ∀ n ∈ nodes, ∀ ch ∈ n.name.toList, isBlank ch = false) :
    readServers? (encode (Balancer.render backends ipv6)) = some (backends.map Backend.server) := by
  have hnode : ∀ b ∈ backends, (∃ n ∈ nodes, b.name = n.name) ∧ '\n' ∉ b.address.toList := by
    intro b hb
    obtain ⟨n, hn, hname, -, answer, -, hlocated⟩ := exists_mem_of_forall₂ h.serves hb
    exact ⟨⟨n, hn, hname⟩, hlocated.feed_not_mem⟩
  have hname : ∀ b ∈ backends, ∀ ch ∈ b.name.toList, isBlank ch = false := by
    intro b hb
    obtain ⟨⟨n, hn, hname⟩, -⟩ := hnode b hb
    exact hname ▸ hblank n hn
  refine Balancer.readServers?_render (fun b hb hmem => ?_) (fun b hb hmem => ?_)
    fun b hb => (hnode b hb).2
  · exact absurd (hname b hb ' ' hmem) (by decide)
  · exact absurd (hname b hb '\n' hmem) (by decide)

end Surveyed

/-! ## Commands in the load balancer -/

/-- The command that makes the directory of the configuration. -/
def preparing (balancer : Node) : Command :=
  balancer.running ["mkdir", "-p", "/usr/local/etc/haproxy"]

/-- The command that makes the load balancer read its configuration. -/
def reloading (balancer : Node) : Command := balancer.running ["kill", "-s", "HUP", "1"]

/-- The faults of putting a configuration into place. -/
def copyFault (cause : RuntimeFault) : Fault :=
  .context "failed to copy loadbalancer config to node" (.runtime cause)

/-- The faults of having a configuration read. -/
def reloadFault (cause : RuntimeFault) : Fault :=
  .context "failed to reload loadbalancer" (.runtime cause)

/-- A configuration is written and then read, as far as the commands for that succeed. -/
inductive Applied (balancer : Node) (contents : Bytes) : History → Except Fault Unit → Prop where
  | unprepared (cause : RuntimeFault) : Applied balancer contents
      [⟨.command (preparing balancer), .error cause⟩] (.error (copyFault cause))
  | unwritten (made : Output) (cause : RuntimeFault) : Applied balancer contents
      [⟨.command (preparing balancer), .ok made⟩,
        ⟨.command (balancer.writing Balancer.configPath contents), .error cause⟩]
      (.error (copyFault cause))
  | unread (made written : Output) (cause : RuntimeFault) : Applied balancer contents
      [⟨.command (preparing balancer), .ok made⟩,
        ⟨.command (balancer.writing Balancer.configPath contents), .ok written⟩,
        ⟨.command (reloading balancer), .error cause⟩] (.error (reloadFault cause))
  | applied (made written read : Output) : Applied balancer contents
      [⟨.command (preparing balancer), .ok made⟩,
        ⟨.command (balancer.writing Balancer.configPath contents), .ok written⟩,
        ⟨.command (reloading balancer), .ok read⟩] (.ok ())

namespace Applied

variable {contents : Bytes} {r : Except Fault Unit}

theorem writes (h : Applied balancer contents t r) :
    writesOf Balancer.configPath (commandsOf t) = [] ∨
      ∃ done, writesOf Balancer.configPath (commandsOf t) = [(balancer.name, contents, done)] := by
  cases h with
  | unprepared => exact .inl rfl
  | unwritten | unread | applied =>
    exact .inr ⟨_, writesOf_running.trans writesOf_writing⟩

theorem writes_ok (h : Applied balancer contents t (.ok ())) :
    writesOf Balancer.configPath (commandsOf t) = [(balancer.name, contents, true)] := by
  cases h with
  | applied => exact writesOf_running.trans writesOf_writing

end Applied

theorem applied_of_follows {contents : Bytes} {r : Except Fault Unit}
    (h : Follows ((do
        during "failed to copy loadbalancer config to node"
          (Action.ofWork (balancer.store Balancer.configPath contents))
        let _ ← during "failed to reload loadbalancer"
          (Action.ofWork (balancer.exec ["kill", "-s", "HUP", "1"])) : Action Unit).run ctx :
      Routine (Except Fault Unit × Context)) t (r, ctx')) : Applied balancer contents t r := by
  have hdir : Node.directoryFor? Balancer.configPath = some "/usr/local/etc/haproxy" := by
    decide +kernel
  rcases follows_action_bind_iff.1 h with ⟨fault, hcopy, rfl⟩ | ⟨_, mid, t₁, t₂, rfl, hcopy, hrest⟩
  · obtain ⟨r₀, hstore, hr, -⟩ := follows_during_ofWork_iff.1 hcopy
    rcases follows_store hdir hstore with
      ⟨cause, rfl, rfl⟩ | ⟨made, cause, rfl, rfl⟩ | ⟨made, written, rfl, rfl⟩
    · obtain rfl := Except.error.inj hr
      exact .unprepared cause
    · obtain rfl := Except.error.inj hr
      exact .unwritten made cause
    · cases hr
  obtain ⟨r₀, hstore, hr, -⟩ := follows_during_ofWork_iff.1 hcopy
  obtain rfl := naming_eq_ok_iff.1 hr.symm
  rcases follows_store hdir hstore with ⟨_, hr, -⟩ | ⟨_, _, hr, -⟩ | ⟨made, written, -, rfl⟩
  · cases hr
  · cases hr
  rcases follows_action_bind_iff.1 hrest with
    ⟨fault, hkill, rfl⟩ | ⟨read, last, t₁, t₂, rfl, hkill, hend⟩
  · obtain ⟨r₀, hexec, hr, -⟩ := follows_during_ofWork_iff.1 hkill
    obtain ⟨fault, rfl, rfl⟩ := mapError_eq_error_iff.1 hr.symm
    obtain ⟨cause, rfl, rfl⟩ := follows_exec_error_iff.1 hexec
    exact .unread made written cause
  · obtain ⟨r₀, hexec, hr, -⟩ := follows_during_ofWork_iff.1 hkill
    obtain rfl := naming_eq_ok_iff.1 hr.symm
    obtain rfl := follows_exec_ok_iff.1 hexec
    obtain ⟨rfl, hr⟩ := follows_pure_iff.1 hend
    obtain ⟨rfl, -⟩ := Prod.mk.inj hr
    exact .applied made written read

/-- Once the nodes are known, the control planes are asked for their addresses, and if all have one
a configuration is put into the load balancer. -/
theorem parts_of_balance {p : Provider} {ctx₁ : Context} {r : Except Fault Unit}
    (hnodes : Follows ((Bootstrap.nodes p).run ctx :
      Routine (Except Fault (List Node) × Context)) t₀ (.ok all, ctx₁))
    (run : Follows ((balance p).run ctx : Routine (Except Fault Unit × Context)) (t₀ ++ t)
      (r, ctx'))
    (hone : all.filter (·.role = .externalLoadBalancer) = [balancer]) :
    (∃ fault, Surveyed ctx.spec (controlPlanes all) t none ∧ r = .error fault) ∨
    ∃ backends asked told, t = asked ++ told ∧
      Surveyed ctx.spec (controlPlanes all) asked (some backends) ∧
      Applied balancer (encode (Balancer.render backends ctx.spec.isV6)) told r := by
  have hspec : ctx₁.spec = ctx.spec := spec_of_nodes hnodes
  rcases follows_action_bind_iff.1 run with
    ⟨fault, hfail, -⟩ | ⟨all', mid, t₁, t₂, ht, hlisted, hrest⟩
  · -- the nodes are known to be found, so this run does not stop with them
    have hends : t₀ ++ t = (t₀ ++ t) ++ [] := (List.append_nil _).symm
    obtain ⟨-, hresult, -⟩ := hnodes.eq_of_append_eq hfail hends
    cases hresult
  obtain ⟨rfl, hresult, rfl⟩ := hnodes.eq_of_append_eq hlisted ht
  obtain ⟨hall, rfl⟩ := Prod.mk.inj hresult
  obtain rfl := Except.ok.inj hall
  rw [externalLoadBalancer_eq hone] at hrest
  change Follows ((Action.ofWork ((controlPlanes all).mapM (backendOf ctx₁)) >>= _).run ctx₁ :
    Routine (Except Fault Unit × Context)) t (r, ctx') at hrest
  rcases follows_action_bind_iff.1 hrest with
    ⟨fault, hasked, rfl⟩ | ⟨backends, mid, asked, told, rfl, hasked, htold⟩
  · obtain ⟨hasked, -⟩ := follows_ofWork_iff.1 hasked
    exact .inl ⟨fault, hspec ▸ surveyed_of_mapM hasked, rfl⟩
  · obtain ⟨hasked, rfl⟩ := follows_ofWork_iff.1 hasked
    exact .inr ⟨backends, asked, told, rfl, hspec ▸ surveyed_of_mapM hasked,
      hspec ▸ applied_of_follows htold⟩

/-! ## The configuration -/

/-- A server stands for a node: it has the name of the node and the address that the node was found
to have. -/
structure Stands (s : Spec) (asked : History) (n : Node) (server : Server) : Prop where
  name : server.name = n.name
  port : server.port = 6443
  host : ∃ answer address, ⟨.command n.addressQuery, answer⟩ ∈ asked ∧
    Located s answer (some address) ∧ server.host = bracketHost address

/-- The servers of a configuration stand for the control planes among some nodes, by name. -/
structure Mirrors (s : Spec) (all : List Node) (asked : History) (servers : List Server) :
    Prop where
  each : List.Forall₂ (Stands s asked) (controlPlanes all) servers
  ordered : servers.Pairwise (·.name < ·.name)
  members : ∀ n ∈ all, n.name ∈ servers.map Server.name ↔ n.role = .controlPlane

theorem mirrors_of_surveyed {backends : List Backend}
    (hdistinct : (all.map Node.name).Nodup)
    (h : Surveyed s (controlPlanes all) t (some backends)) :
    Mirrors s all t (backends.map Backend.server) := by
  have heach := h.serves
  have hnames : (backends.map Backend.server).map Server.name =
      (controlPlanes all).map Node.name := by
    have hsame : List.Forall₂ (· = ·) ((backends.map Backend.server).map Server.name)
        ((controlPlanes all).map Node.name) := by
      rw [List.map_map, List.forall₂_map_left_iff, List.forall₂_map_right_iff]
      exact heach.flip.imp fun b n h => h.1
    rwa [List.forall₂_eq_eq_eq] at hsame
  have hsorted : (controlPlanes all).Pairwise (·.name < ·.name) :=
    sortOn_pairwise_lt ((List.filter_sublist.map _).nodup hdistinct)
  refine ⟨?_, ?_, fun n hn => ?_⟩
  · rw [List.forall₂_map_right_iff]
    refine heach.imp fun n b ⟨hname, hport, answer, hmem, hlocated⟩ => ?_
    exact ⟨hname, hport, answer, b.address, hmem, hlocated, rfl⟩
  · rw [← List.pairwise_map (f := Server.name) (R := (· < ·)), hnames, List.pairwise_map]
    exact hsorted
  · rw [hnames, List.mem_map]
    constructor
    · rintro ⟨m, hm, hname⟩
      obtain ⟨hm, hrole⟩ := mem_controlPlanes.1 hm
      rwa [eq_of_name_eq hdistinct hn hm hname.symm]
    · exact fun hrole => ⟨n, mem_controlPlanes.2 ⟨hn, hrole⟩, rfl⟩

/-- **The load balancer is pointed at the control planes, or left alone.** Either some control plane
has no address, and then nothing is run inside any node; or every one has been found to have one,
and the only configuration that is written names just these, as its servers are read back. It is
written before the load balancer is told to read it, and if all goes well both have been done. -/
theorem pointed_or_left_alone {p : Provider} {ctx₁ : Context} {r : Except Fault Unit}
    (hnodes : Follows ((Bootstrap.nodes p).run ctx :
      Routine (Except Fault (List Node) × Context)) t₀ (.ok all, ctx₁))
    (run : Follows ((balance p).run ctx : Routine (Except Fault Unit × Context)) (t₀ ++ t)
      (r, ctx'))
    (hone : all.filter (·.role = .externalLoadBalancer) = [balancer])
    (hdistinct : (all.map Node.name).Nodup)
    (hblank : ∀ n ∈ all, ∀ ch ∈ n.name.toList, isBlank ch = false) :
    (Surveyed ctx.spec (controlPlanes all) t none ∧ (∃ fault, r = .error fault) ∧
      ∀ e ∈ commandsOf t, e.command.inside? = none) ∨
    ∃ (asked told : History) (backends : List Backend) (contents : Bytes),
      t = asked ++ told ∧ Surveyed ctx.spec (controlPlanes all) asked (some backends) ∧
      (∀ e ∈ commandsOf asked, e.command.inside? = none) ∧
      Applied balancer contents told r ∧
      (writesOf Balancer.configPath (commandsOf t) = [] ∨ ∃ done,
        writesOf Balancer.configPath (commandsOf t) = [(balancer.name, contents, done)]) ∧
      (r = .ok () →
        writesOf Balancer.configPath (commandsOf t) = [(balancer.name, contents, true)]) ∧
      readServers? contents = some (backends.map Backend.server) ∧
      Mirrors ctx.spec all asked (backends.map Backend.server) := by
  rcases parts_of_balance hnodes run hone with
    ⟨fault, hsurvey, rfl⟩ | ⟨backends, asked, told, rfl, hsurvey, happlied⟩
  · exact .inl ⟨hsurvey, ⟨fault, rfl⟩, hsurvey.outside⟩
  · have hwrites : writesOf Balancer.configPath (commandsOf (asked ++ told)) =
        writesOf Balancer.configPath (commandsOf told) := by
      rw [commandsOf_append, writesOf_append, writesOf_outside hsurvey.outside, List.nil_append]
    refine .inr ⟨asked, told, backends, _, rfl, hsurvey, hsurvey.outside, happlied, ?_, ?_, ?_,
      mirrors_of_surveyed hdistinct hsurvey⟩
    · rw [hwrites]
      exact happlied.writes
    · rintro rfl
      rw [hwrites]
      exact happlied.writes_ok
    · exact hsurvey.readBack fun n hn => hblank n (mem_controlPlanes.1 hn).1

/-- The nodes of a cluster with a load balancer, in another order than that of their names. -/
def pairedNodes : List Node :=
  [⟨"d-worker", .worker, {}⟩, ⟨"d-control-plane2", .controlPlane, {}⟩,
    ⟨"d-external-load-balancer", .externalLoadBalancer, {}⟩, ⟨"d-control-plane", .controlPlane, {}⟩]

/-- What the steps for that cluster share, which has addresses of version 6. -/
def pairedContext : Context where
  clusterName := "d"
  kubeconfigPath := "config"
  spec := { name := "d", nodes := [], networking := .ofFamily .ipv6, network := "kind" }
  token := "abcdef.0123456789abcdef"
  known := some pairedNodes

/-- Its first control plane has joined the network of the cluster besides another one, and its
second control plane only another one. -/
def pairedReply (c : Command) : Except RuntimeFault Output :=
  match c.args with
  | ["inspect", _, _, "d-control-plane"] =>
    .ok (.ofText "bridge,172.17.0.2,fd00::2\nkind,172.18.0.2,fc00:f853::2\n")
  | ["inspect", _, _, _] => .ok (.ofText "bridge,172.17.0.3,fd00::3\n")
  | _ => .ok {}

/-- The pointing of its load balancer. -/
def pairedBalance : History × Except Fault Unit × Context :=
  ((balance (.fixed "there" [])).run pairedContext :
    Routine (Except Fault Unit × Context)).play (answering pairedReply)

theorem pairedBalance_ok : pairedBalance.2.1 = .ok () := eq_ok_of_toOption (by decide +kernel)

/-- The host that a node of it is reached at, by the answer to the question for its addresses. -/
def pairedHost (n : Node) : Option String :=
  ((pairedReply n.addressQuery).toOption.bind fun o =>
    ((n.attachmentOfLines "kind" o.lines).toOption.map (Attachment.address true)).filter
      (· ≠ "")).map bracketHost

theorem pairedHost_eq :
    pairedHost ⟨"d-control-plane", .controlPlane, {}⟩ = some "[fc00:f853::2]" ∧
    pairedHost ⟨"d-control-plane2", .controlPlane, {}⟩ = some "[fd00::3]" := by
  decide +kernel

theorem paired_pointed : ∃ asked told contents, pairedBalance.1 = asked ++ told ∧
    Applied ⟨"d-external-load-balancer", .externalLoadBalancer, {}⟩ contents told (.ok ()) ∧
    readServers? contents = some
      [⟨"d-control-plane", "[fc00:f853::2]", 6443⟩, ⟨"d-control-plane2", "[fd00::3]", 6443⟩] := by
  have hnodes : Follows ((Bootstrap.nodes (.fixed "there" [])).run pairedContext :
      Routine (Except Fault (List Node) × Context)) [] (.ok pairedNodes, pairedContext) :=
    .done _
  have run : Follows ((balance (.fixed "there" [])).run pairedContext :
      Routine (Except Fault Unit × Context)) ([] ++ pairedBalance.1)
      (.ok (), pairedBalance.2.2) := by
    rw [← pairedBalance_ok, Prod.eta]
    exact follows_play _ _
  have hblank : ∀ n ∈ pairedNodes, ∀ ch ∈ n.name.toList, isBlank ch = false := by
    have hall : (pairedNodes.all fun n => n.name.toList.all fun ch => !isBlank ch) = true := by
      decide +kernel
    simpa only [List.all_eq_true, Bool.not_eq_true'] using hall
  rcases pointed_or_left_alone hnodes run rfl (by decide) hblank with
    ⟨-, ⟨fault, hfault⟩, -⟩ |
    ⟨asked, told, backends, contents, ht, -, -, happlied, -, -, hread, hmirrors⟩
  · cases hfault
  have hserver : ∀ {n : Node} {server : Server} {host : String},
      Stands pairedContext.spec asked n server → pairedHost n = some host →
      server = ⟨n.name, host, 6443⟩ := by
    rintro n ⟨_, _, _⟩ host ⟨rfl, rfl, answer, address, hmem, hlocated, rfl⟩ hexpected
    have hanswer : answer = pairedReply n.addressQuery :=
      (steady_play _).result (ht ▸ List.mem_append_left told hmem)
    cases answer with
    | error fault => cases hlocated
    | ok o =>
      have hfound : pairedHost n = (some address).map bracketHost := by
        rw [pairedHost, ← hanswer, hlocated.eq_of_ok n]
        rfl
      rw [Option.some.inj (hexpected.symm.trans hfound)]
  have hplanes : controlPlanes pairedNodes = [⟨"d-control-plane", .controlPlane, {}⟩,
      ⟨"d-control-plane2", .controlPlane, {}⟩] := by decide
  have heach := hmirrors.each
  rw [hplanes] at heach
  obtain ⟨first, _, hfirst, hrest, hservers⟩ := List.forall₂_cons_left_iff.1 heach
  obtain ⟨second, _, hsecond, hnone, rfl⟩ := List.forall₂_cons_left_iff.1 hrest
  obtain rfl := List.forall₂_nil_left_iff.1 hnone
  refine ⟨asked, told, contents, ht, happlied, ?_⟩
  rw [hread, hservers, hserver hfirst pairedHost_eq.1, hserver hsecond pairedHost_eq.2]

end LocalCluster.Cluster.Bootstrap
