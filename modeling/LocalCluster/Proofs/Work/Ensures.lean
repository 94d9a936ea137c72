import LocalCluster.Proofs.Work.Follows

/-!
# Guards and postconditions of scripts

What a script may ask next can depend on what has been asked and answered before. `Ensures` says
that every question of a script is allowed at the point where it is asked, and that a postcondition
holds of all exchanges and of the value at the end.

* `Script.Ensures`, by recursion on the script; `ensures_bind_iff`: for sequences.
* `Asks.ensures`: a script whose questions are always allowed.
* **`Ensures.sound`**: in every run, each question is allowed by the exchanges before it.
-/

namespace LocalCluster.Script

variable {Q : Type} {A : Q → Type} {α β : Type}
variable {ok : List (Exchange Q A) → Q → Prop} {post post' : List (Exchange Q A) → α → Prop}
variable {h : List (Exchange Q A)} {s : Script Q A α}

/-- After the exchanges `h` the script asks only what `ok` allows by then, and it ends with
exchanges and a value of which `post` holds. -/
def Ensures (ok : List (Exchange Q A) → Q → Prop) (post : List (Exchange Q A) → α → Prop) :
    List (Exchange Q A) → Script Q A α → Prop
  | h, .done a => post h a
  | h, .ask q next => ok h q ∧ ∀ answer, Ensures ok post (h ++ [⟨q, answer⟩]) (next answer)

@[simp] theorem ensures_done_iff {a : α} : Ensures ok post h (.done a) ↔ post h a := Iff.rfl

@[simp] theorem ensures_pure_iff {a : α} : Ensures ok post h (pure a) ↔ post h a := Iff.rfl

theorem ensures_lift_iff {q : Q} {post : List (Exchange Q A) → A q → Prop} :
    Ensures ok post h (lift q) ↔ ok h q ∧ ∀ answer, post (h ++ [⟨q, answer⟩]) answer := Iff.rfl

theorem Ensures.imp (hs : Ensures ok post h s) (himp : ∀ h a, post h a → post' h a) :
    Ensures ok post' h s := by
  induction s generalizing h with
  | done a => exact himp h a hs
  | ask q next ih => exact ⟨hs.1, fun answer => ih answer (hs.2 answer)⟩

theorem ensures_bind_iff {f : α → Script Q A β} {post : List (Exchange Q A) → β → Prop} :
    Ensures ok post h (s >>= f) ↔ Ensures ok (fun h a => Ensures ok post h (f a)) h s := by
  induction s generalizing h with
  | done a => rfl
  | ask q next ih => exact and_congr_right fun _ => forall_congr' fun answer => ih answer

/-- **A script whose questions are always allowed has its guard for free.** -/
theorem Asks.ensures {P : Q → Prop} (hs : s.Asks P) (hok : ∀ h q, P q → ok h q)
    (hpost : ∀ t a, Follows s t a → post (h ++ t) a) : Ensures ok post h s := by
  induction s generalizing h with
  | done a => simpa using hpost [] a (.done a)
  | ask q next ih =>
    refine ⟨hok h q hs.1, fun answer => ih answer (hs.2 answer) fun t a ht => ?_⟩
    simpa using hpost (⟨q, answer⟩ :: t) a (.ask ht)

/-- **In every run each question is allowed by the exchanges before it**, and the postcondition
holds at the end. -/
theorem Ensures.sound {t : List (Exchange Q A)} {a : α} (hs : Ensures ok post h s)
    (run : Follows s t a) :
    post (h ++ t) a ∧ ∀ before x after, t = before ++ x :: after → ok (h ++ before) x.question := by
  induction run generalizing h with
  | done a => exact ⟨by simpa using hs, by simp⟩
  | @ask q next answer rest a _ ih =>
    obtain ⟨hpost, hguard⟩ := ih (hs.2 answer)
    refine ⟨by simpa using hpost, fun before x after hsplit => ?_⟩
    cases before with
    | nil =>
      obtain ⟨rfl, _⟩ := List.cons.inj hsplit
      simpa using hs.1
    | cons y before =>
      obtain ⟨rfl, hrest⟩ := List.cons.inj hsplit
      simpa using hguard before x after hrest

end LocalCluster.Script
