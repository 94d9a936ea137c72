import LocalCluster.Proofs.Container.Keeping

/-!
# Two clients of one engine

Two clients that know nothing of each other use one engine. What they ask arrives at it in some
order, each client's own questions in the client's order. The engine keeps one set of containers for
both of them, and it starts none under a name that is taken. It may fail at anything that it is
asked, and leave it half done.

* `Interleaved`: two lists in one; `Interleaved.split`: what comes before an element of one of them.
* `Quiet`: exchanges that remove no container.
* `Becomes`: what a single exchange makes of the containers; `Becomes.of_removal`: a removal;
  **`Becomes.grows`**: anything else.
* `Handles`, `Handling`: an engine that may fail goes through exchanges; **`Handling.grows`**:
  without a removal, containers only come in addition, under new names.
* `doorkeeper`: a host that refuses names that are taken.
-/

namespace LocalCluster.Container

open LocalCluster.Text Script

/-! ## Two orders in one -/

/-- The elements of two lists in one list, each in the order of its own list. -/
inductive Interleaved {α : Type} : List α → List α → List α → Prop where
  | nil : Interleaved [] [] []
  | left {x : α} {xs ys zs : List α} (h : Interleaved xs ys zs) : Interleaved (x :: xs) ys (x :: zs)
  | right {y : α} {xs ys zs : List α} (h : Interleaved xs ys zs) :
      Interleaved xs (y :: ys) (y :: zs)

namespace Interleaved

variable {α : Type} {xs ys zs xs' ys' zs' : List α} {x y : α}

theorem alone_left (xs : List α) : Interleaved xs [] xs := by
  induction xs with
  | nil => exact .nil
  | cons x xs ih => exact .left ih

theorem alone_right (ys : List α) : Interleaved [] ys ys := by
  induction ys with
  | nil => exact .nil
  | cons y ys ih => exact .right ih

theorem append (h : Interleaved xs ys zs) (h' : Interleaved xs' ys' zs') :
    Interleaved (xs ++ xs') (ys ++ ys') (zs ++ zs') := by
  induction h with
  | nil => exact h'
  | left _ ih => exact .left ih
  | right _ ih => exact .right ih

theorem in_turns (xs ys xs' ys' : List α) :
    Interleaved (xs ++ xs') (ys ++ ys') (xs ++ (ys ++ (xs' ++ ys'))) := by
  have hlast : Interleaved xs' ys' (xs' ++ ys') := by
    simpa using (alone_left xs').append (alone_right ys')
  have hmiddle : Interleaved xs' (ys ++ ys') (ys ++ (xs' ++ ys')) := (alone_right ys).append hlast
  exact (alone_left xs).append hmiddle

theorem eq_left (h : Interleaved xs [] zs) : zs = xs := by
  generalize hys : ([] : List α) = ys at h
  induction h with
  | nil => rfl
  | left _ ih => rw [ih hys]
  | right => cases hys

theorem mem_iff (h : Interleaved xs ys zs) : x ∈ zs ↔ x ∈ xs ∨ x ∈ ys := by
  induction h with
  | nil => simp
  | left _ ih => simp only [List.mem_cons, ih, or_assoc]
  | right _ ih => simp only [List.mem_cons, ih, or_left_comm]

theorem mem_iff_of_append {β : Type} {F : List α → List β} {k : β}
    (happend : ∀ l l', F (l ++ l') = F l ++ F l') (h : Interleaved xs ys zs) :
    k ∈ F zs ↔ k ∈ F xs ∨ k ∈ F ys := by
  have hcons : ∀ x l, F (x :: l) = F [x] ++ F l := fun x l => happend [x] l
  induction h with
  | nil => simp
  | @left x xs ys zs _ ih =>
    rw [hcons x zs, hcons x xs, List.mem_append, List.mem_append, or_assoc]
    exact or_congr_right ih
  | @right y xs ys zs _ ih =>
    rw [hcons y zs, hcons y ys, List.mem_append, List.mem_append, or_left_comm]
    exact or_congr_right ih

/-- **An element of one list divides both.** -/
theorem split (ys : List α) (h : Interleaved xs (ys ++ y :: ys') zs) :
    ∃ xs₁ xs₂ zs₁ zs₂, xs = xs₁ ++ xs₂ ∧ zs = zs₁ ++ y :: zs₂ ∧ Interleaved xs₁ ys zs₁ ∧
      Interleaved xs₂ ys' zs₂ := by
  generalize hall : ys ++ y :: ys' = all at h
  induction h generalizing ys with
  | nil => simp at hall
  | @left x _ _ _ _ ih =>
    obtain ⟨xs₁, xs₂, zs₁, zs₂, rfl, rfl, h₁, h₂⟩ := ih _ hall
    exact ⟨x :: xs₁, xs₂, x :: zs₁, zs₂, rfl, rfl, .left h₁, h₂⟩
  | @right z xs all zs h ih =>
    cases ys with
    | nil =>
      obtain ⟨rfl, rfl⟩ := List.cons.inj hall
      exact ⟨[], xs, [], zs, rfl, rfl, .nil, h⟩
    | cons w ys =>
      obtain ⟨rfl, hrest⟩ := List.cons.inj hall
      obtain ⟨xs₁, xs₂, zs₁, zs₂, rfl, rfl, h₁, h₂⟩ := ih _ hrest
      exact ⟨xs₁, xs₂, w :: zs₁, zs₂, rfl, rfl, .right h₁, h₂⟩

end Interleaved

/-! ## Containers after exchanges -/

variable {store store' : List Kept} {x : Exchange Request Request.Answer}
variable {t t₁ t₂ a b : List (Exchange Request Request.Answer)} {k : Kept}

/-- No container is removed in these exchanges. -/
def Quiet (t : List (Exchange Request Request.Answer)) : Prop :=
  ∀ e ∈ commandsOf t, e.command.isRemoval = false

theorem quiet_append_iff : Quiet (t₁ ++ t₂) ↔ Quiet t₁ ∧ Quiet t₂ := by
  simp only [Quiet, commandsOf_append, List.forall_mem_append]

theorem quiet_cons_iff : Quiet (x :: t) ↔ Quiet [x] ∧ Quiet t :=
  @quiet_append_iff [x] t

theorem quiet_of_leavesContainers (h : ∀ x ∈ t, LeavesContainers x.question) : Quiet t :=
  fun _ he => (LeavesContainers.of_mem h he).2

theorem quiet_singleton_iff :
    Quiet [x] ↔ ∀ c, x.question = .command c → c.isRemoval = false := by
  obtain ⟨q, answer⟩ := x
  cases q with
  | command c => simp [Quiet, commandsOf, executed?]
  | _ => simp [Quiet, commandsOf, executed?]

theorem Interleaved.quiet (h : Interleaved a b t) (ha : Quiet a) (hb : Quiet b) : Quiet t := by
  intro e he
  rcases h.mem_iff.1 (mem_commandsOf.1 he) with hmem | hmem
  · exact ha e (mem_commandsOf.2 hmem)
  · exact hb e (mem_commandsOf.2 hmem)

theorem Honest.of_perm (h : Honest store x) (hperm : store.Perm store') : Honest store' x := by
  obtain ⟨q, answer⟩ := x
  cases q with
  | command command =>
    intro filter format hargs
    obtain ⟨rows, stderr, hrows, rfl⟩ := h filter format hargs
    exact ⟨rows, stderr, hrows.trans (hperm.filter _), rfl⟩
  | _ => trivial

theorem nodup_wantedBy_singleton : ((wantedBy [x]).map Kept.name).Nodup := by
  have hlength : (wantedBy [x]).length ≤ 1 :=
    calc (wantedBy [x]).length
      _ ≤ (startsOf [x]).length := List.length_filterMap_le _ _
      _ ≤ (commandsOf [x]).length := List.length_filter_le _ _
      _ ≤ 1 := List.length_filterMap_le _ _
  match wantedBy [x], hlength with
  | [], _ => exact List.nodup_nil
  | [_], _ => simp

theorem mem_startedBy : k ∈ startedBy t ↔
    ∃ c o, ⟨.command c, .ok o⟩ ∈ t ∧ c.isStart = true ∧ kept? c.args = some k := by
  simp only [startedBy, startsOf, List.mem_filterMap, List.mem_filter, mem_commandsOf]
  constructor
  · rintro ⟨⟨c, answer⟩, ⟨⟨hmem, hstart⟩, hok⟩, hk⟩
    cases answer with
    | error fault => cases hok
    | ok o => exact ⟨c, o, hmem, hstart, hk⟩
  · rintro ⟨c, o, hmem, hstart, hk⟩
    exact ⟨⟨c, .ok o⟩, ⟨⟨hmem, hstart⟩, rfl⟩, hk⟩

theorem mem_startedBy_of_interleaved (h : Interleaved a b t) :
    k ∈ startedBy t ↔ k ∈ startedBy a ∨ k ∈ startedBy b :=
  h.mem_iff_of_append fun _ _ => startedBy_append

theorem mem_wantedBy_of_interleaved (h : Interleaved a b t) :
    k ∈ wantedBy t ↔ k ∈ wantedBy a ∨ k ∈ wantedBy b :=
  h.mem_iff_of_append fun _ _ => wantedBy_append

/-! ## An engine that may fail -/

/-- **What an exchange makes of the containers.** It has done what its answer says, but where it has
failed, something can have come of it all the same: the container that was to be started can be
there, and some of those that were to be removed can be gone. Nothing comes under a name that is
taken. -/
inductive Becomes (store : List Kept) : Exchange Request Request.Answer → List Kept → Prop where
  | done {x : Exchange Request Request.Answer}
      (fresh : ∀ k ∈ startedBy [x], k.name ∉ store.map Kept.name) :
      Becomes store x (keptAfter store x)
  | halfStarted {c : Command} {fault : RuntimeFault} {k : Kept} (start : c.isStart = true)
      (hk : kept? c.args = some k) (fresh : k.name ∉ store.map Kept.name) :
      Becomes store ⟨.command c, .error fault⟩ (store ++ [k])
  | halfRemoved {c : Command} {fault : RuntimeFault} {gone : List String}
      (removal : c.isRemoval = true) (named : gone ⊆ c.args.drop 3) :
      Becomes store ⟨.command c, .error fault⟩ (store.filter fun k => ! gone.contains k.name)

/-- The containers have grown by all those that have been started, and by no others than were to be
started, under names that were not taken. -/
def Grows (store : List Kept) (t : List (Exchange Request Request.Answer)) (store' : List Kept) :
    Prop :=
  ∃ new, store' = store ++ new ∧ startedBy t ⊆ new ∧ new.Sublist (wantedBy t) ∧
    ∀ k ∈ new, k.name ∉ store.map Kept.name

/-- A removal takes some of the containers that it names, and if it succeeds it takes them all. -/
theorem Becomes.of_removal {c : Command} {answer : Except RuntimeFault Output}
    (h : Becomes store ⟨.command c, answer⟩ store') (hc : c.isRemoval = true) :
    ∃ gone ⊆ c.args.drop 3, store' = (store.filter fun k => ! gone.contains k.name) ∧
      ∀ o, answer = .ok o → gone = c.args.drop 3 := by
  have hhead : c.args.head? = some "rm" := by simpa [Command.isRemoval] using hc
  have hstart : c.isStart = false := by simp [Command.isStart, hhead]
  cases h with
  | done =>
    cases answer with
    | ok o => exact ⟨_, List.Subset.refl _, by simp [keptAfter, hstart, hc], fun _ _ => rfl⟩
    | error fault =>
      exact ⟨[], List.nil_subset _, by simp [keptAfter], fun _ hok => by cases hok⟩
  | halfStarted start => simp [hstart] at start
  | halfRemoved _ named => exact ⟨_, named, rfl, fun _ hok => by cases hok⟩

theorem Becomes.grows (h : Becomes store x store') (hquiet : Quiet [x]) :
    Grows store [x] store' := by
  rw [quiet_singleton_iff] at hquiet
  cases h with
  | done fresh =>
    exact ⟨_, keptAfter_eq hquiet, List.Subset.refl _, startedBy_sublist_wantedBy, fresh⟩
  | @halfStarted c fault k start hk fresh =>
    have hstarted : startedBy [⟨.command c, .error fault⟩] = [] := by
      simp [startedBy, startsOf, commandsOf, executed?, start, Except.isOk, Except.toBool]
    have hwanted : wantedBy [⟨.command c, .error fault⟩] = [k] := by
      simp [wantedBy, startsOf, commandsOf, executed?, start, hk]
    refine ⟨[k], rfl, ?_, ?_, List.forall_mem_singleton.2 fresh⟩
    · rw [hstarted]
      exact List.nil_subset _
    · rw [hwanted]
  | halfRemoved removal =>
    rw [hquiet _ rfl] at removal
    cases removal

/-- An exchange adds containers, or some are left after it. -/
theorem Becomes.cases (h : Becomes store x store') :
    Grows store [x] store' ∨ store'.Sublist store := by
  by_cases hquiet : Quiet [x]
  · exact .inl (h.grows hquiet)
  · refine .inr ?_
    obtain ⟨q, answer⟩ := x
    cases q with
    | command c =>
      obtain ⟨gone, -, rfl, -⟩ := h.of_removal (by simpa [quiet_singleton_iff] using hquiet)
      exact List.filter_sublist
    | _ => exact absurd (quiet_singleton_iff.2 fun _ hcommand => by cases hcommand) hquiet

/-- An engine that keeps these containers goes through an exchange. A listing fails, or it tells
what is kept. -/
structure Handles (store : List Kept) (x : Exchange Request Request.Answer) (store' : List Kept) :
    Prop where
  honest : ∀ c o, x = ⟨.command c, .ok o⟩ → Honest store x
  becomes : Becomes store x store'

/-- An engine that may fail goes through exchanges, from some containers to others. -/
inductive Handling : List Kept → List (Exchange Request Request.Answer) → List Kept → Prop where
  | nil {store : List Kept} : Handling store [] store
  | cons {store middle store' : List Kept} {x : Exchange Request Request.Answer}
      {t : List (Exchange Request Request.Answer)} (first : Handles store x middle)
      (rest : Handling middle t store') : Handling store (x :: t) store'

theorem handling_append_iff : Handling store (t₁ ++ t₂) store' ↔
    ∃ middle, Handling store t₁ middle ∧ Handling middle t₂ store' := by
  constructor
  · intro h
    induction t₁ generalizing store with
    | nil => exact ⟨store, .nil, h⟩
    | cons x t₁ ih =>
      cases h with
      | cons first rest =>
        obtain ⟨middle, h₁, h₂⟩ := ih rest
        exact ⟨middle, .cons first h₁, h₂⟩
  · rintro ⟨middle, h₁, h₂⟩
    induction h₁ with
    | nil => exact h₂
    | cons first _ ih => exact .cons first (ih h₂)

theorem handling_append_cons_iff : Handling store (t₁ ++ x :: t₂) store' ↔
    ∃ here there, Handling store t₁ here ∧ Handles here x there ∧ Handling there t₂ store' := by
  rw [handling_append_iff]
  constructor
  · rintro ⟨here, h₁, _ | ⟨first, rest⟩⟩
    exact ⟨here, _, h₁, first, rest⟩
  · rintro ⟨here, there, h₁, first, rest⟩
    exact ⟨here, h₁, .cons first rest⟩

/-- **Without a removal, containers only come in addition.** -/
theorem Handling.grows (h : Handling store t store') (hquiet : Quiet t) : Grows store t store' := by
  induction h with
  | nil => exact ⟨[], by simp, List.Subset.refl _, List.Sublist.refl _, nofun⟩
  | @cons store middle store' x t first _ ih =>
    obtain ⟨hx, ht⟩ := quiet_cons_iff.1 hquiet
    obtain ⟨new, rfl, hstarted, hwanted, hfresh⟩ := first.becomes.grows hx
    obtain ⟨more, rfl, hstarted', hwanted', hfresh'⟩ := ih ht
    refine ⟨new ++ more, List.append_assoc .., ?_, ?_, List.forall_mem_append.2 ⟨hfresh, ?_⟩⟩
    · rw [← List.singleton_append, startedBy_append]
      exact List.append_subset.2 ⟨fun k hk => List.mem_append_left _ (hstarted hk),
        fun k hk => List.mem_append_right _ (hstarted' hk)⟩
    · rw [← List.singleton_append, wantedBy_append]
      exact hwanted.append hwanted'
    · intro k hk htaken
      refine hfresh' k hk ?_
      rw [List.map_append]
      exact List.mem_append_left _ htaken

theorem Handling.eq_of_leavesContainers (h : Handling store t store')
    (ht : ∀ x ∈ t, LeavesContainers x.question) : store' = store := by
  obtain ⟨new, rfl, -, hwanted, -⟩ := h.grows (quiet_of_leavesContainers ht)
  rw [wantedBy_eq_nil ht] at hwanted
  rw [List.eq_nil_of_sublist_nil hwanted, List.append_nil]

/-! ## Hosts that refuse -/

/-- The answers of an engine that keeps these containers, refuses names that are taken, and replies
to all other commands in a fixed way. -/
def doorkeeperAnswer (reply : Command → Output) (store : List Kept) : (r : Request) → r.Answer
  | .command c =>
    if c.isStart && ((kept? c.args).any fun k => (store.map Kept.name).contains k.name) then
      .error (.invocation c.display (some 125) "")
    else if c.isListing then answersOf store (.command c)
    else .ok (reply c)
  | r => answersOf store r

/-- A host that keeps containers and refuses names that are taken. -/
def doorkeeper (reply : Command → Output) : Host (List Kept) where
  answer r := fun store =>
    let answer := doorkeeperAnswer reply store r
    ((answer, 0), keptAfter store ⟨r, answer⟩)

variable {reply : Command → Output}

theorem doorkeeperAnswer_command {c : Command} : doorkeeperAnswer reply store (.command c) =
    if c.isStart && ((kept? c.args).any fun k => (store.map Kept.name).contains k.name) then
      .error (.invocation c.display (some 125) "")
    else if c.isListing then answersOf store (.command c)
    else .ok (reply c) := rfl

theorem honest_doorkeeperAnswer (r : Request) :
    Honest store ⟨r, doorkeeperAnswer reply store r⟩ := by
  cases r with
  | command c =>
    rintro filter format hargs
    have hstart : c.isStart = false := by simp [Command.isStart, hargs]
    have hlisting : c.isListing = true := by simp [Command.isListing, hargs]
    rw [doorkeeperAnswer_command, hstart, hlisting]
    exact honest_answersOf store (.command c) filter format hargs
  | _ => exact honest_answersOf store _

theorem removes_doorkeeperAnswer (r : Request) :
    Removes ⟨r, doorkeeperAnswer reply store r⟩ := by
  rintro c fault hx
  obtain ⟨rfl, hanswer⟩ := Exchange.mk.inj hx
  replace hanswer := eq_of_heq hanswer
  cases hremoval : c.isRemoval with
  | false => rfl
  | true =>
    have hhead : c.args.head? = some "rm" := by simpa [Command.isRemoval] using hremoval
    rw [doorkeeperAnswer_command, show c.isStart = false by simp [Command.isStart, hhead],
      show c.isListing = false by simp [Command.isListing, hhead]] at hanswer
    cases hanswer

theorem refuses_doorkeeperAnswer (r : Request) :
    ∀ k ∈ startedBy [⟨r, doorkeeperAnswer reply store r⟩], k.name ∉ store.map Kept.name := by
  intro k hk htaken
  obtain ⟨c, o, hmem, hstart, hkept⟩ := mem_startedBy.1 hk
  obtain ⟨rfl, hanswer⟩ := Exchange.mk.inj (List.mem_singleton.1 hmem)
  replace hanswer := eq_of_heq hanswer
  rw [doorkeeperAnswer_command, if_pos (by simpa [hstart, hkept] using htaken)] at hanswer
  cases hanswer

/-- Such a host goes through exchanges as an engine does, and it fails at no listing and no
removal. -/
theorem keeping_of_doorkeeper (h : (doorkeeper reply).Answers store t store') :
    Keeping store t store' ∧ Handling store t store' := by
  induction h with
  | nil => exact ⟨.nil, .nil⟩
  | cons _ ih =>
    exact ⟨.cons (honest_doorkeeperAnswer _) (removes_doorkeeperAnswer _) ih.1,
      .cons ⟨fun _ _ _ => honest_doorkeeperAnswer _, .done (refuses_doorkeeperAnswer _)⟩ ih.2⟩

end LocalCluster.Container
