import LocalCluster.Cluster.Fault
import Mathlib.Data.List.Infix

/-!
# The wordings of faults

A fault is a tree, and its wording is put together from the wordings of its parts, none of which is
cut short. Wrappers say what was being tried and hide nothing of what they wrap.

* `Within`: the faults that a fault is made of; `wording_of_within`: their wordings stand in its
  own.
* `InOrder`: texts that stand in a text one after the other; `inOrder_members`: so do the wordings
  of faults that are gathered.
* `Wrapper`, `wrapped`: a stack of wrappers; `runtime?_eq_some_iff`: what is seen through it.
* **`wording_keeps_parts`**: no part of a fault is lost, whatever it is wrapped in.
-/

namespace LocalCluster.Cluster.Fault

open LocalCluster.Container LocalCluster.Text

variable {fault inner source first : Fault} {rest : List Fault} {label operation : String}

/-! ## Wordings -/

theorem message_step :
    (Fault.step label source).message = "step " ++ quote label ++ " failed: " ++ source.message :=
  rfl

theorem message_context :
    (Fault.context operation source).message = operation ++ ": " ++ source.message := rfl

theorem bullets_cons : bullets (first :: rest) = "\n\t* " ++ first.message ++ bullets rest := rfl

theorem message_several (h : rest ≠ []) : (Fault.aggregate first rest).message =
    toString (rest.length + 1) ++ " errors occurred:" ++ bullets (first :: rest) := by
  have hmany : rest.isEmpty = false := by simpa using h
  show (if rest.isEmpty then first.message else toString (rest.length + 1) ++ " errors occurred:" ++
    "\n\t* " ++ first.message ++ bullets rest) = _
  rw [hmany, bullets_cons]
  simp only [Bool.false_eq_true, if_false, String.append_assoc]

/-! ## Texts in order -/

/-- The pieces stand in a text one after the other, with anything around them. -/
inductive InOrder : List (List Char) → List Char → Prop where
  | nil {text : List Char} : InOrder [] text
  | cons {gap piece text : List Char} {pieces : List (List Char)} (h : InOrder pieces text) :
      InOrder (piece :: pieces) (gap ++ piece ++ text)

/-- The wording of a fault, as characters. -/
abbrev wording (fault : Fault) : List Char := fault.message.toList

theorem InOrder.append_left {pieces : List (List Char)} {text : List Char} (h : InOrder pieces text)
    (before : List Char) : InOrder pieces (before ++ text) := by
  cases h with
  | nil => exact .nil
  | @cons gap piece text pieces h =>
    rw [← List.append_assoc, ← List.append_assoc]
    exact .cons h

theorem InOrder.append_right {pieces : List (List Char)} {text : List Char}
    (h : InOrder pieces text) (after : List Char) : InOrder pieces (text ++ after) := by
  induction h with
  | nil => exact .nil
  | cons _ ih =>
    rw [List.append_assoc]
    exact .cons ih

theorem InOrder.lift {pieces : List (List Char)} {text whole : List Char}
    (h : InOrder pieces text) (hin : text <:+: whole) : InOrder pieces whole := by
  obtain ⟨before, after, rfl⟩ := hin
  exact (h.append_left before).append_right after

theorem inOrder_bullets (faults : List Fault) :
    InOrder (faults.map wording) (bullets faults).toList := by
  induction faults with
  | nil => exact .nil
  | cons fault faults ih =>
    rw [bullets_cons, String.toList_append, String.toList_append]
    exact .cons ih

/-- **What is gathered is listed in the order in which it was submitted.** -/
theorem inOrder_members (first : Fault) (rest : List Fault) :
    InOrder ((first :: rest).map wording) (Fault.aggregate first rest).message.toList := by
  by_cases h : rest = []
  · subst h
    have hone : InOrder [wording first] ([] ++ wording first ++ []) := .cons .nil
    rwa [List.nil_append, List.append_nil] at hone
  · rw [message_several h, String.toList_append]
    exact (inOrder_bullets _).append_left _

theorem InOrder.of_mem {pieces : List (List Char)} {text : List Char} (h : InOrder pieces text) :
    ∀ piece ∈ pieces, piece <:+: text := by
  induction h with
  | nil => nofun
  | @cons gap piece text pieces _ ih =>
    refine List.forall_mem_cons.2 ⟨⟨gap, text, rfl⟩, fun later hlater => ?_⟩
    exact (ih later hlater).trans (List.suffix_append _ text).isInfix

/-! ## Parts -/

/-- The fault is one that another one is made of: that one itself, or a part of what it wraps or of
one that it gathers. -/
inductive Within (inner : Fault) : Fault → Prop where
  | here : Within inner inner
  | step {label : String} {source : Fault} (h : Within inner source) :
      Within inner (.step label source)
  | context {operation : String} {source : Fault} (h : Within inner source) :
      Within inner (.context operation source)
  | gathered {first member : Fault} {rest : List Fault} (hmember : member ∈ first :: rest)
      (h : Within inner member) : Within inner (.aggregate first rest)

theorem told_after (before text : String) : text.toList <:+: (before ++ text).toList := by
  rw [String.toList_append]
  exact (List.suffix_append _ _).isInfix

/-- **The wording of a part stands in the wording of the whole.** -/
theorem wording_of_within (h : Within inner fault) : wording inner <:+: wording fault := by
  induction h with
  | here => exact List.infix_refl _
  | @step label source _ ih =>
    show wording inner <:+: (Fault.step label source).message.toList
    rw [message_step]
    exact ih.trans (told_after _ _)
  | @context operation source _ ih =>
    show wording inner <:+: (Fault.context operation source).message.toList
    rw [message_context]
    exact ih.trans (told_after _ _)
  | @gathered first member rest hmember _ ih =>
    exact ih.trans ((inOrder_members first rest).of_mem _ (List.mem_map_of_mem hmember))

theorem ioCause?_told {r : RuntimeFault} {cause : IoFault} (h : r.ioCause? = some cause) :
    cause.message.toList <:+: r.message.toList := by
  cases r with
  | invocation | unexpectedOutput => cases h
  | spawn | io =>
    obtain rfl := Option.some.inj h
    exact told_after _ _

/-- **Every cause that is told below a fault stands in its own wording.** -/
theorem wording_of_causes (fault : Fault) :
    ∀ text ∈ fault.causes, text.toList <:+: wording fault := by
  have honly : ∀ before text : String,
      ∀ other ∈ [text], other.toList <:+: (before ++ text).toList := fun before text other hother =>
    List.mem_singleton.1 hother ▸ told_after before text
  have hwrapped : ∀ (before : String) (source : Fault),
      (∀ text ∈ source.causes, text.toList <:+: wording source) →
      ∀ text ∈ source.message :: source.causes,
        text.toList <:+: (before ++ source.message).toList := fun before source ih =>
    List.forall_mem_cons.2 ⟨told_after _ _, fun text ht => (ih text ht).trans (told_after _ _)⟩
  match fault with
  | .runtime r =>
    refine List.forall_mem_cons.2 ⟨told_after _ _, fun text ht => ?_⟩
    obtain ⟨cause, hcause, rfl⟩ := Option.map_eq_some_iff.1 (Option.mem_toList.1 ht)
    exact (ioCause?_told hcause).trans (told_after _ _)
  | .step _ source => exact hwrapped _ source (wording_of_causes source)
  | .context _ source => exact hwrapped _ source (wording_of_causes source)
  | .yaml _ | .json _ | .io _ | .task _ => exact honly _ _
  | .validation _ | .unknownRole _ | .aggregate .. | .kubeconfig _ | .clusterExists _
  | .nodeNotFound _ => nofun

/-! ## Wrappers -/

/-- Something that is said of a fault and leaves it as it is. -/
inductive Wrapper where
  | step (label : String)
  | context (operation : String)
  deriving DecidableEq, Repr

/-- A fault in one wrapper. -/
def Wrapper.around : Wrapper → Fault → Fault
  | .step label, source => .step label source
  | .context operation, source => .context operation source

/-- A fault in a stack of wrappers, the outermost one first. -/
def wrapped (ws : List Wrapper) (fault : Fault) : Fault := ws.foldr Wrapper.around fault

/-- The fault wraps nothing. -/
def isBare : Fault → Bool
  | .step .. | .context .. => false
  | _ => true

theorem within_wrapped (ws : List Wrapper) (h : Within inner fault) :
    Within inner (wrapped ws fault) := by
  induction ws with
  | nil => exact h
  | cons w ws ih =>
    cases w with
    | step label => exact .step ih
    | context operation => exact .context ih

theorem runtime?_wrapped (ws : List Wrapper) (fault : Fault) :
    (wrapped ws fault).runtime? = fault.runtime? := by
  induction ws with
  | nil => rfl
  | cons w ws ih =>
    rw [← ih]
    cases w <;> rfl

theorem exists_wrapped (fault : Fault) :
    ∃ ws bare, isBare bare = true ∧ fault = wrapped ws bare := by
  match fault with
  | .step label source =>
    obtain ⟨ws, bare, hbare, rfl⟩ := exists_wrapped source
    exact ⟨.step label :: ws, bare, hbare, rfl⟩
  | .context operation source =>
    obtain ⟨ws, bare, hbare, rfl⟩ := exists_wrapped source
    exact ⟨.context operation :: ws, bare, hbare, rfl⟩
  | .runtime _ | .validation _ | .unknownRole _ | .aggregate .. | .kubeconfig _ | .clusterExists _
  | .nodeNotFound _ | .yaml _ | .json _ | .io _ | .task _ => exact ⟨[], _, rfl, rfl⟩

/-- **The fault of a command is seen exactly if nothing but wrappers are around it.** -/
theorem runtime?_eq_some_iff {r : RuntimeFault} :
    fault.runtime? = some r ↔ ∃ ws, fault = wrapped ws (.runtime r) := by
  constructor
  · intro h
    obtain ⟨ws, bare, hbare, rfl⟩ := exists_wrapped fault
    rw [runtime?_wrapped] at h
    cases bare with
    | runtime r' =>
      obtain rfl := Option.some.inj h
      exact ⟨ws, rfl⟩
    | step | context => cases hbare
    | _ => cases h
  · rintro ⟨ws, rfl⟩
    rw [runtime?_wrapped]
    rfl

/-- A fault of a command that is named in one wrapper after the other is the same fault in a stack
of wrappers. -/
theorem foldr_naming {α : Type} (operations : List String) (fault : Fault) :
    operations.foldr naming (.error fault : Except Fault α) =
      .error (wrapped (operations.map Wrapper.context) fault) := by
  induction operations with
  | nil => rfl
  | cons operation operations ih =>
    rw [List.foldr_cons, ih]
    rfl

/-! ## Nothing is lost -/

/-- **No part of a fault is lost.** The wording of every fault that a fault is made of, through any
wrappers and gatherings, stands in its own wording, as do all the causes that are told below it, and
what is gathered somewhere in it stands there in the order of submission. The fault of a command is
seen through any stack of wrappers, exactly if there is nothing else around it, with its kind; it is
not seen in what is gathered. -/
theorem wording_keeps_parts (fault : Fault) :
    (∀ inner, Within inner fault → wording inner <:+: wording fault) ∧
    (∀ first rest, Within (.aggregate first rest) fault →
      InOrder ((first :: rest).map wording) (wording fault)) ∧
    (∀ text ∈ fault.causes, text.toList <:+: wording fault) ∧
    (∀ ws, (wrapped ws fault).runtime? = fault.runtime?) ∧
    (∀ r, fault.runtime? = some r ↔ ∃ ws, fault = wrapped ws (.runtime r)) ∧
    (∀ ws first rest, fault = wrapped ws (.aggregate first rest) → fault.runtime? = none) ∧
    (∀ ws r, fault = wrapped ws (.runtime r) →
      fault.runtime?.map RuntimeFault.isInvocation = some r.isInvocation ∧
      fault.runtime?.map RuntimeFault.isUnexpectedOutput = some r.isUnexpectedOutput) ∧
    ∀ (α : Type) (operations : List String), ∃ outer,
      operations.foldr naming (.error fault : Except Fault α) = .error outer ∧
        Within fault outer ∧ outer.runtime? = fault.runtime? := by
  refine ⟨fun inner => wording_of_within, fun first rest h =>
      (inOrder_members first rest).lift (wording_of_within h), wording_of_causes fault,
    fun ws => runtime?_wrapped ws fault, fun r => runtime?_eq_some_iff, ?_, ?_, ?_⟩
  · rintro ws first rest rfl
    rw [runtime?_wrapped]
    rfl
  · rintro ws r rfl
    rw [runtime?_wrapped]
    exact ⟨rfl, rfl⟩
  · intro α operations
    refine ⟨_, foldr_naming operations fault, ?_, runtime?_wrapped _ fault⟩
    exact within_wrapped _ .here

/-- Why an image could not be fetched. -/
def deniedPull : RuntimeFault := .invocation "docker pull node" (some 1) "denied"

/-- Two tasks have failed, one of them in an operation of its own that gathered a single fault. -/
def pairedFaults : Fault :=
  .aggregate (.context "failed to pull image node" (.runtime deniedPull))
    [.step "Joining worker nodes" (.aggregate (.nodeNotFound "demo-worker") [])]

/-- The same, after a step that was part of an operation. -/
def nestedFault : Fault := wrapped [.context "creating demo", .step "Starting"] pairedFaults

theorem nestedFault_keeps_parts :
    wording (.nodeNotFound "demo-worker") <:+: wording nestedFault ∧
    InOrder [("failed to pull image node: runtime error: " ++
        "command `docker pull node` failed with exit code 1: denied").toList,
      "step \"Joining worker nodes\" failed: node not found: demo-worker".toList]
      (wording nestedFault) ∧
    nestedFault.runtime? = none ∧
    (wrapped [.step "Starting", .context "creating demo"]
      (.runtime deniedPull)).runtime?.map RuntimeFault.isInvocation = some true := by
  have hpair : Within pairedFaults nestedFault := within_wrapped _ .here
  have hlone : Within (.nodeNotFound "demo-worker") nestedFault :=
    within_wrapped _ (.gathered (List.mem_cons_of_mem _ List.mem_cons_self)
      (.step (.gathered List.mem_cons_self .here)))
  obtain ⟨hparts, horder, -, -, -, hnone, -⟩ := wording_keeps_parts nestedFault
  have hkind := (wording_keeps_parts _).2.2.2.2.2.2.1 [.step "Starting", .context "creating demo"]
    deniedPull rfl
  exact ⟨hparts _ hlone, horder _ _ hpair, hnone _ _ _ rfl, hkind.1⟩

end LocalCluster.Cluster.Fault
