import LocalCluster.Proofs.Cluster.Layout
import Mathlib.Data.List.Nodup

/-!
# What is kept of ports

Ports are asked for one after the other, in any order of addresses, some of them given and some
free, and a refusal ends nothing. What is kept by then is just what has been granted so far.

* `Settled`: what one request can come to; `follows_settle_iff`: these are all its runs.
* `Ports.Served`: requests one after the other; `Served.held_eq`: what is kept after them.
* `FreeOn`: grants of a machine, for any notion of addresses that overlap.
* **`granted_ports_kept`**: nothing is kept but what was granted, nothing is let go, and no port is
  granted twice on an address.
-/

namespace LocalCluster.Cluster

open LocalCluster.Container Script

variable {ports ports' mid : Ports} {port : Port} {address : String} {r : Except Fault Port}
variable {t : List (Exchange Request Request.Answer)}

/-! ## One request -/

/-- What a request for a port takes, what it comes to and what is kept afterwards. -/
inductive Settled (ports : Ports) (port : Port) (address : String) :
    List (Exchange Request Request.Answer) → Except Fault Port → Ports → Prop where
  | given (h : port ≠ 0) : Settled ports port address [] (.ok port) ports
  | granted {free : Port} (h : port = 0) :
      Settled ports port address [⟨.listen ports.held (bindAddress address), .ok free⟩] (.ok free)
        ⟨⟨bindAddress address, free⟩ :: ports.held⟩
  | refused {cause : IoFault} (h : port = 0) :
      Settled ports port address [⟨.listen ports.held (bindAddress address), .error cause⟩]
        (.error (.io cause)) ports

/-- **These are all the runs of a request.** -/
theorem follows_settle_iff :
    Follows (ports.settle port address) t (r, ports') ↔ Settled ports port address t r ports' := by
  unfold Ports.settle
  by_cases hport : port = 0
  · rw [if_neg (by simpa using hport), follows_bind_iff]
    constructor
    · rintro ⟨asked, t₁, t₂, rfl, hasked, hrest⟩
      obtain ⟨answer, rfl, rfl⟩ := follows_listen_iff.1 hasked
      cases answer with
      | ok free =>
        obtain ⟨rfl, hr⟩ := follows_pure_iff.1 hrest
        cases hr
        exact .granted hport
      | error cause =>
        obtain ⟨rfl, hr⟩ := follows_pure_iff.1 hrest
        cases hr
        exact .refused hport
    · intro h
      cases h with
      | given h => exact absurd hport h
      | @granted free =>
        exact ⟨.ok free, _, [], rfl, follows_listen_iff.2 ⟨.ok free, rfl, rfl⟩, .done _⟩
      | @refused cause =>
        exact ⟨.error (.io cause), _, [], rfl, follows_listen_iff.2 ⟨.error cause, rfl, rfl⟩,
          .done _⟩
  · rw [if_pos hport, follows_pure_iff, Prod.mk.injEq]
    constructor
    · rintro ⟨rfl, rfl, rfl⟩
      exact .given hport
    · intro h
      cases h with
      | given => exact ⟨rfl, rfl, rfl⟩
      | granted h | refused h => exact absurd h hport

/-! ## Requests one after the other -/

/-- A request for a port, with what it took and what it came to. -/
structure PortRequest where
  port : Port
  address : String
  exchanges : List (Exchange Request Request.Answer)
  result : Except Fault Port

namespace PortRequest

variable (q : PortRequest)

/-- A free port was asked for, and one was granted. -/
def isGranted : Bool := q.port = 0 ∧ q.result.isOk

/-- The listener that was granted, if one was. -/
def listener? : Option Listener :=
  if q.port = 0 then q.result.toOption.map fun port => ⟨bindAddress q.address, port⟩ else none

theorem isSome_listener? : q.listener?.isSome = q.isGranted := by
  unfold listener? isGranted
  by_cases h : q.port = 0
  · cases hr : q.result <;> simp [h, Except.toOption, Except.isOk, Except.toBool]
  · simp [h]

end PortRequest

/-- The requests are settled one after the other, whatever becomes of each. -/
inductive Ports.Served : Ports → List PortRequest → Ports → Prop where
  | nil {ports : Ports} : Served ports [] ports
  | cons {ports mid ports' : Ports} {q : PortRequest} {qs : List PortRequest}
      (first : Follows (ports.settle q.port q.address) q.exchanges (q.result, mid))
      (rest : Served mid qs ports') : Served ports (q :: qs) ports'

variable {qs before after : List PortRequest} {q : PortRequest}

theorem served_append_iff : ports.Served (before ++ after) ports' ↔
    ∃ mid, ports.Served before mid ∧ mid.Served after ports' := by
  constructor
  · intro h
    induction before generalizing ports with
    | nil => exact ⟨ports, .nil, h⟩
    | cons q before ih =>
      cases h with
      | cons first rest =>
        obtain ⟨mid, h₁, h₂⟩ := ih rest
        exact ⟨mid, .cons first h₁, h₂⟩
  · rintro ⟨mid, h₁, h₂⟩
    induction h₁ with
    | nil => exact h₂
    | cons first _ ih => exact .cons first (ih h₂)

theorem Settled.held_eq (h : Settled ports port address t r ports') :
    ports'.held = (PortRequest.mk port address t r).listener?.toList ++ ports.held := by
  cases h with
  | given h => simp [PortRequest.listener?, h]
  | granted h => simp [PortRequest.listener?, h, Except.toOption]
  | refused h => simp [PortRequest.listener?, h, Except.toOption]

/-- **What is kept after some requests is what they have been granted**, the latest first, and what
was kept before. -/
theorem Ports.Served.held_eq (h : ports.Served qs ports') :
    ports'.held = (qs.filterMap PortRequest.listener?).reverse ++ ports.held := by
  induction h with
  | nil => rfl
  | @cons ports mid ports' q qs first _ ih =>
    have hmid : mid.held = q.listener?.toList ++ ports.held := (follows_settle_iff.1 first).held_eq
    rw [ih, hmid]
    cases hq : q.listener? with
    | none => simp [List.filterMap_cons_none hq]
    | some l => simp [List.filterMap_cons_some hq]

/-- **Nothing is let go.** -/
theorem Ports.Served.suffix (h : ports.Served qs ports') : ports.held <:+ ports'.held := by
  rw [h.held_eq]
  exact List.suffix_append _ _

theorem length_filterMap_listener? (qs : List PortRequest) :
    (qs.filterMap PortRequest.listener?).length = qs.countP PortRequest.isGranted := by
  induction qs with
  | nil => rfl
  | cons q qs ih =>
    have hq := q.isSome_listener?
    cases hl : q.listener? with
    | none =>
      rw [hl] at hq
      rw [List.filterMap_cons_none hl, List.countP_cons_of_neg (by simp [← hq]), ih]
    | some l =>
      rw [hl] at hq
      rw [List.filterMap_cons_some hl, List.countP_cons_of_pos (by simp [← hq]), List.length_cons,
        ih]

/-! ## Free ports -/

variable {overlaps : String → String → Prop}

/-- A port that is granted is free: it is not zero, and nothing that is kept has it on an address
that overlaps the one it is asked for on. -/
def FreeOn (overlaps : String → String → Prop) : Exchange Request Request.Answer → Prop
  | ⟨.listen held address, .ok port⟩ =>
    port ≠ 0 ∧ ∀ l ∈ held, l.port = port → ¬ overlaps l.address address
  | _ => True

/-- Of two listeners kept, the one that was granted earlier has another port, or its address does
not overlap that of the other. -/
def Apart (overlaps : String → String → Prop) (later earlier : Listener) : Prop :=
  earlier.port = later.port → ¬ overlaps earlier.address later.address

/-- What is kept is apart, and none of it has port zero. -/
structure Ports.Tidy (overlaps : String → String → Prop) (ports : Ports) : Prop where
  nonzero : ∀ l ∈ ports.held, l.port ≠ 0
  apart : ports.held.Pairwise (Apart overlaps)

theorem Settled.tidy (h : Settled ports port address t r ports') (tidy : ports.Tidy overlaps)
    (free : ∀ x ∈ t, FreeOn overlaps x) : ports'.Tidy overlaps := by
  cases h with
  | given h => exact tidy
  | refused h => exact tidy
  | @granted granted h =>
    obtain ⟨hnonzero, hfree⟩ := free _ List.mem_cons_self
    exact ⟨List.forall_mem_cons.2 ⟨hnonzero, tidy.nonzero⟩,
      List.pairwise_cons.2 ⟨hfree, tidy.apart⟩⟩

/-- **A machine that grants free ports keeps what is kept apart.** -/
theorem Ports.Served.tidy (h : ports.Served qs ports') (tidy : ports.Tidy overlaps)
    (free : ∀ q ∈ qs, ∀ x ∈ q.exchanges, FreeOn overlaps x) : ports'.Tidy overlaps := by
  induction h with
  | nil => exact tidy
  | cons first _ ih =>
    obtain ⟨hfirst, hrest⟩ := List.forall_mem_cons.1 free
    exact ih ((follows_settle_iff.1 first).tidy tidy hfirst) hrest

/-! ## Grants are kept -/

/-- **Ports that are granted are kept, and nothing else.** Take any requests one after the other, on
a machine that grants free ports or refuses. A port that is given is returned as it is, and nothing
is asked for it. Of two free ports granted on one address, or on addresses that overlap, no two are
the same, and none is zero. As many listeners are kept as free ports have been granted. At every
request the machine is asked while all that is kept by then is held: a refusal is returned and
changes nothing of it, a grant is added to it, and all of it is still kept in the end. -/
theorem granted_ports_kept (hself : ∀ address, overlaps address address)
    (h : Ports.Served {} qs ports) (free : ∀ q ∈ qs, ∀ x ∈ q.exchanges, FreeOn overlaps x) :
    (∀ q ∈ qs, q.port ≠ 0 → q.result = .ok q.port ∧ q.exchanges = []) ∧
    (qs.Pairwise fun p q => ∀ port, p.port = 0 → q.port = 0 → p.result = .ok port →
      q.result = .ok port → ¬ overlaps (bindAddress p.address) (bindAddress q.address) ∧
        p.address ≠ q.address) ∧
    (∀ q ∈ qs, q.port = 0 → q.result ≠ .ok 0) ∧
    ports.held.length = qs.countP PortRequest.isGranted ∧
    ∀ before q after, qs = before ++ q :: after → ∃ earlier later,
      Ports.Served {} before earlier ∧
      Follows (earlier.settle q.port q.address) q.exchanges (q.result, later) ∧
      later.Served after ports ∧ earlier.held <:+ later.held ∧ later.held <:+ ports.held ∧
      (q.port ≠ 0 → later = earlier) ∧
      (q.port = 0 → ∃ answer,
        q.exchanges = [⟨.listen earlier.held (bindAddress q.address), answer⟩] ∧
        (∀ cause, answer = .error cause → q.result = .error (.io cause) ∧ later = earlier) ∧
        ∀ port, answer = .ok port → q.result = .ok port ∧
          later.held = ⟨bindAddress q.address, port⟩ :: earlier.held) := by
  have hheld : ports.held = (qs.filterMap PortRequest.listener?).reverse := by
    simpa using h.held_eq
  have htidy : ports.Tidy overlaps := h.tidy ⟨by simp, by simp⟩ free
  have hsplit : ∀ before q after, qs = before ++ q :: after → ∃ earlier later,
      Ports.Served {} before earlier ∧
      Follows (earlier.settle q.port q.address) q.exchanges (q.result, later) ∧
      later.Served after ports := by
    rintro before q after rfl
    obtain ⟨earlier, hbefore, hrest⟩ := served_append_iff.1 h
    cases hrest with
    | cons first rest => exact ⟨earlier, _, hbefore, first, rest⟩
  have hlistener : ∀ q : PortRequest, ∀ port, q.port = 0 → q.result = .ok port →
      q.listener? = some ⟨bindAddress q.address, port⟩ := by
    intro q port hq hr
    simp [PortRequest.listener?, hq, hr, Except.toOption]
  refine ⟨fun q hq hport => ?_, ?_, fun q hq hport hzero => ?_, ?_, fun before q after hqs => ?_⟩
  · obtain ⟨before, after, hqs⟩ := List.append_of_mem hq
    obtain ⟨earlier, later, -, hsettle, -⟩ := hsplit before q after hqs
    generalize q.exchanges = t, q.result = r at hsettle ⊢
    cases follows_settle_iff.1 hsettle with
    | given => exact ⟨rfl, rfl⟩
    | granted h | refused h => exact absurd h hport
  · have hpairwise := htidy.apart
    rw [hheld, List.pairwise_reverse, List.pairwise_filterMap] at hpairwise
    refine hpairwise.imp fun {p q} hapart port hp hq hrp hrq => ?_
    have hoverlap := hapart _ (hlistener p port hp hrp) _ (hlistener q port hq hrq) rfl
    exact ⟨hoverlap, fun he => hoverlap (he ▸ hself _)⟩
  · refine htidy.nonzero ⟨bindAddress q.address, 0⟩ ?_ rfl
    rw [hheld, List.mem_reverse, List.mem_filterMap]
    exact ⟨q, hq, hlistener q 0 hport hzero⟩
  · rw [hheld, List.length_reverse, length_filterMap_listener?]
  · obtain ⟨earlier, later, hbefore, hsettle, hafter⟩ := hsplit before q after hqs
    have hgrows : earlier.held <:+ later.held := Ports.Served.suffix (.cons hsettle .nil)
    refine ⟨earlier, later, hbefore, hsettle, hafter, hgrows, hafter.suffix, ?_, ?_⟩ <;>
      generalize q.exchanges = t, q.result = r at hsettle ⊢ <;> intro hport
    · cases follows_settle_iff.1 hsettle with
      | given => rfl
      | granted h | refused h => exact absurd h hport
    · cases follows_settle_iff.1 hsettle with
      | given h => exact absurd hport h
      | @granted port =>
        exact ⟨.ok port, rfl, nofun, fun _ h => ⟨by rw [Except.ok.inj h], by rw [Except.ok.inj h]⟩⟩
      | @refused cause =>
        exact ⟨.error cause, rfl, fun _ h => ⟨by rw [Except.error.inj h], rfl⟩, nofun⟩

/-- The requests made one after the other, on a machine that answers from a table. -/
def Ports.serve (answer : (r : Request) → r.Answer) :
    Ports → List (Port × String) → List PortRequest × Ports
  | ports, [] => ([], ports)
  | ports, (port, address) :: wishes =>
    let (t, r, mid) := (ports.settle port address).play answer
    let (qs, last) := serve answer mid wishes
    (⟨port, address, t, r⟩ :: qs, last)

/-- **Every sequence of requests is served.** -/
theorem served_serve (answer : (r : Request) → r.Answer) (ports : Ports)
    (wishes : List (Port × String)) :
    ports.Served (ports.serve answer wishes).1 (ports.serve answer wishes).2 := by
  induction wishes generalizing ports with
  | nil => exact .nil
  | cons wish wishes ih => exact .cons (follows_play answer _) (ih _)

/-- A machine that grants the ports from 40000 on, one after the other, but none on one address. -/
def choosy : (r : Request) → r.Answer
  | .listen held address =>
    if address = "192.0.2.1" then .error .addressUnavailable
    else .ok (40000 + UInt16.ofNat held.length)
  | r => r.compliance

/-- Two free ports on one address, with a given port and a refusal between them. -/
def choosyService : List PortRequest × Ports :=
  ({} : Ports).serve choosy
    [(0, "127.0.0.1"), (7443, "127.0.0.1"), (0, "192.0.2.1"), (0, "127.0.0.1")]

theorem choosyService_kept :
    choosyService.2.held = [⟨"127.0.0.1", 40001⟩, ⟨"127.0.0.1", 40000⟩] ∧
    choosyService.2.held.length = choosyService.1.countP PortRequest.isGranted ∧
    (∀ q ∈ choosyService.1, q.port = 7443 → q.exchanges = []) ∧
    ∀ q ∈ choosyService.1, q.port = 0 → q.result ≠ .ok 0 := by
  have hall : ∀ x ∈ choosyService.1.flatMap PortRequest.exchanges, FreeOn (· = ·) x := by
    have hqs : choosyService.1.flatMap PortRequest.exchanges =
        [⟨.listen [] "127.0.0.1", .ok 40000⟩,
          ⟨.listen [⟨"127.0.0.1", 40000⟩] "192.0.2.1", .error .addressUnavailable⟩,
          ⟨.listen [⟨"127.0.0.1", 40000⟩] "127.0.0.1", .ok 40001⟩] := by rfl
    rw [hqs]
    simp only [List.forall_mem_cons, List.not_mem_nil, false_implies, implies_true, and_true,
      FreeOn]
    decide
  have hfree : ∀ q ∈ choosyService.1, ∀ x ∈ q.exchanges, FreeOn (· = ·) x := fun q hq x hx =>
    hall x (List.mem_flatMap.2 ⟨q, hq, hx⟩)
  obtain ⟨hgiven, -, hzero, hlength, -⟩ :=
    granted_ports_kept (fun _ => rfl) (served_serve choosy {} _) hfree
  exact ⟨by rfl, hlength, fun q hq hport => (hgiven q hq (by rw [hport]; decide)).2, hzero⟩

end LocalCluster.Cluster
