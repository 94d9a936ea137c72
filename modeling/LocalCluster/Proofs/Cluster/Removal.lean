import LocalCluster.Container.Process
import LocalCluster.Proofs.Cluster.Listing
import LocalCluster.Proofs.Text.Trimmed
import Mathlib.Data.List.Nodup

/-!
# Many nodes removed at once

One command removes all nodes of a cluster. It fails if it could not remove all of them, and then
only the lines it has printed tell the nodes that were gone already from those that are still there.

* `Fate`, `Says`: what becomes of a node and the line that says so; `Printed`: all lines, in any
  order and spacing.
* `Answered`: the answer to a removal with these fates; `answered_of_ended`: by its process.
* **`onlyGone_iff`**: how the printed lines are read; **`removal_ok_iff`**: removing nodes ends well
  exactly if none has failed to be removed.
-/

namespace LocalCluster.Cluster

open LocalCluster.Container LocalCluster.Text Script Containers

/-- What becomes of a node in a removal. -/
inductive Fate where
  | removed
  /-- It was gone already. -/
  | gone
  /-- It is still there. -/
  | failed
  deriving DecidableEq

/-- The text that says of a container that it is gone. -/
def goneText : String := "No such container"

variable {c : Containers} {nodes : List Node} {node : Node} {fate : Node → Fate}
variable {line : String} {printed : List String} {answer : Except RuntimeFault Output}

/-- A line tells what becomes of a node: the name of one that is removed, the text for one that was
gone, and anything that is neither for one that has failed. -/
inductive Says (nodes : List Node) (node : Node) : Fate → String → Prop where
  | removed {line : String} (h : Padded node.name line) : Says nodes node .removed line
  | gone {line : String} (h : goneText.toList <:+: line.toList) : Says nodes node .gone line
  | failed {line : String} (blank : ¬ Blank line) (gone : ¬ goneText.toList <:+: line.toList)
      (names : ∀ other ∈ nodes, ¬ Padded other.name line) : Says nodes node .failed line

/-- The lines that a removal prints: one for each node, in any order, and blank ones. -/
structure Printed (nodes : List Node) (fate : Node → Fate) (printed : List String) : Prop where
  line_feed : ∀ line ∈ printed, '\n' ∉ line.toList
  perm : ∃ (told : Node → String) (blanks : List String),
    printed.Perm (nodes.map told ++ blanks) ∧ (∀ line ∈ blanks, Blank line) ∧
      ∀ node ∈ nodes, Says nodes node (fate node) (told node)

/-- The answer to a removal of nodes with these fates. -/
inductive Answered (nodes : List Node) (fate : Node → Fate) :
    Except RuntimeFault Output → Prop where
  | well {output : Output} (h : ∀ node ∈ nodes, fate node = .removed) :
      Answered nodes fate (.ok output)
  | faulty {command : String} {code : Option Int} {printed : List String} (hcode : code ≠ some 0)
      (h : ¬ ∀ node ∈ nodes, fate node = .removed) (hprinted : Printed nodes fate printed) :
      Answered nodes fate (.error (.invocation command code (join "\n" printed)))

/-- The process of a removal ends well if it has removed all nodes. Its lines are those of both of
its streams. -/
theorem answered_of_ended {command : Command} {e : ProcessEnd} (hfed : e.feedFault = none)
    (hcode : e.code = some 0 ↔ ∀ node ∈ nodes, fate node = .removed)
    (h : Printed nodes fate e.output.combinedLines) : Answered nodes fate (e.conclude command) := by
  unfold ProcessEnd.conclude
  split
  · next hzero =>
    rw [hfed]
    exact .well (hcode.1 hzero)
  · next hzero => exact .faulty hzero (fun hall => hzero (hcode.2 hall)) h

/-! ## Reading the lines -/

theorem toList_goneText : goneText.toList =
    ['N', 'o', ' ', 's', 'u', 'c', 'h', ' ', 'c', 'o', 'n', 't', 'a', 'i', 'n', 'e', 'r'] := by
  decide +kernel

theorem saysGone_iff : saysGone line = true ↔ goneText.toList <:+: line.toList := occursIn_iff

theorem saysGone_trim_iff : saysGone (trim line) = true ↔ goneText.toList <:+: line.toList := by
  rw [saysGone_iff, trim, String.toList_ofList, toList_goneText]
  exact infix_trimChars_iff (List.cons_ne_nil _ _) (by decide) (by decide)

theorem Says.gone_iff (h : Says nodes node (fate node) line) (hname : Unbroken node.name) :
    saysGone (trim line) = true ↔ fate node = .gone := by
  rw [saysGone_trim_iff]
  generalize hf : fate node = f at h
  cases h with
  | removed hpad =>
    -- a name holds no blank, and the text does
    rw [← saysGone_trim_iff, (trim_eq_iff hname).2 hpad, saysGone_iff]
    refine iff_of_false (fun hin => ?_) (by simp)
    have hblank : ' ' ∈ node.name.toList := hin.subset (by simp [toList_goneText])
    exact absurd (hname.2 _ hblank) (by decide)
  | gone hin => simp [hin]
  | failed _ hin _ => simp [hin]

theorem Says.mem_names (h : Says nodes node (fate node) line) (hnode : node ∈ nodes)
    (hnames : ∀ node ∈ nodes, Unbroken node.name) :
    trim line ≠ "" ∧ (saysGone (trim line) = true ∨ trim line ∈ nodes.map Node.name ↔
      fate node ≠ .failed) := by
  rw [saysGone_trim_iff]
  generalize hf : fate node = f at h
  cases h with
  | removed hpad =>
    have hname := (trim_eq_iff (hnames node hnode)).2 hpad
    rw [hname]
    exact ⟨(hnames node hnode).1, iff_of_true (.inr (List.mem_map_of_mem hnode)) (by simp)⟩
  | gone hin =>
    refine ⟨fun hempty => ?_, iff_of_true (.inl hin) (by simp)⟩
    have hblank := trim_eq_empty_iff.1 hempty 'N' (hin.subset (by simp [toList_goneText]))
    exact absurd hblank (by decide)
  | failed hblank hin hpad =>
    refine ⟨fun hempty => hblank (trim_eq_empty_iff.1 hempty), iff_of_false ?_ (by simp)⟩
    rintro (hgone | hname)
    · exact hin hgone
    · obtain ⟨other, hother, hsame⟩ := List.mem_map.1 hname
      exact hpad other hother ((trim_eq_iff (hnames other hother)).1 hsame.symm)

theorem mem_sayings_iff {said : String} :
    said ∈ sayings printed ↔ ∃ line ∈ printed, trim line = said ∧ said ≠ "" := by
  simp only [sayings, List.mem_filter, List.mem_map, decide_eq_true_eq, ← and_assoc,
    exists_and_right]

/-- **The printed lines are those of a removal that failed only because nodes were gone, if some
were gone and none has failed.** -/
theorem onlyGone_iff (hnames : ∀ node ∈ nodes, Unbroken node.name)
    (h : Printed nodes fate printed) :
    onlyGone (nodes.map Node.name) (join "\n" printed) = true ↔
      (∀ node ∈ nodes, fate node ≠ .failed) ∧ ∃ node ∈ nodes, fate node = .gone := by
  obtain ⟨told, blanks, hperm, hblanks, htold⟩ := h.perm
  have hsaid : ∀ said, said ∈ removalLines (join "\n" printed) ↔
      ∃ node ∈ nodes, trim (told node) = said := by
    intro said
    have hsayings : removalLines (join "\n" printed) = sayings printed := sayings_join h.line_feed
    rw [hsayings, mem_sayings_iff]
    constructor
    · rintro ⟨line, hline, rfl, hne⟩
      rcases List.mem_append.1 (hperm.mem_iff.1 hline) with hline | hline
      · obtain ⟨node, hnode, rfl⟩ := List.mem_map.1 hline
        exact ⟨node, hnode, rfl⟩
      · exact absurd (trim_eq_empty_iff.2 (hblanks line hline)) hne
    · rintro ⟨node, hnode, rfl⟩
      refine ⟨told node, hperm.mem_iff.2 ?_, rfl, ((htold node hnode).mem_names hnode hnames).1⟩
      exact List.mem_append_left _ (List.mem_map_of_mem hnode)
  simp only [onlyGone, Bool.and_eq_true, List.all_eq_true, List.any_eq_true, Bool.or_eq_true,
    List.contains_iff_mem, hsaid]
  refine and_congr ⟨fun hall node hnode => ?_, ?_⟩ ⟨?_, ?_⟩
  · exact ((htold node hnode).mem_names hnode hnames).2.1 (hall _ ⟨node, hnode, rfl⟩)
  · rintro hall _ ⟨node, hnode, rfl⟩
    exact ((htold node hnode).mem_names hnode hnames).2.2 (hall node hnode)
  · rintro ⟨_, ⟨node, hnode, rfl⟩, hgone⟩
    exact ⟨node, hnode, ((htold node hnode).gone_iff (hnames node hnode)).1 hgone⟩
  · rintro ⟨node, hnode, hgone⟩
    exact ⟨_, ⟨node, hnode, rfl⟩, ((htold node hnode).gone_iff (hnames node hnode)).2 hgone⟩

/-! ## The result -/

theorem removedBy_ok_iff (hnames : ∀ node ∈ nodes, Unbroken node.name)
    (h : Answered nodes fate answer) :
    removedBy nodes answer = .ok () ↔ ∀ node ∈ nodes, fate node = .removed ∨ fate node = .gone := by
  have hfate : ∀ f : Fate, f ≠ .failed ↔ f = .removed ∨ f = .gone := by rintro ⟨⟩ <;> simp
  cases h with
  | well hall => exact iff_of_true rfl fun node hnode => .inl (hall node hnode)
  | faulty _ hsome hprinted =>
    simp only [← hfate, removedBy]
    have hread := onlyGone_iff hnames hprinted
    split
    · next honly => exact iff_of_true rfl (hread.1 honly).1
    · next honly =>
      refine iff_of_false (by simp) fun hall => honly (hread.2 ⟨hall, ?_⟩)
      -- some node was not removed, and it has not failed either
      obtain ⟨node, hnode, hne⟩ : ∃ node ∈ nodes, fate node ≠ .removed := by simpa using hsome
      exact ⟨node, hnode, ((hfate _).1 (hall node hnode)).resolve_left hne⟩

/-- A removal that goes wrong without an exit code of its own is never taken for a success. -/
theorem removedBy_error {fault : RuntimeFault}
    (h : ∀ command code output, fault ≠ .invocation command code output) :
    removedBy nodes (.error fault : Except RuntimeFault Output) =
      .error (.context "failed to delete nodes" (.runtime fault)) := by
  cases fault with
  | invocation command code output => exact absurd rfl (h command code output)
  | unexpectedOutput _ _ => rfl
  | spawn _ _ => rfl
  | io _ => rfl

/-- **Removing nodes ends well exactly if none of them has failed to be removed**, so that each of
them is gone. All are named in one command, each of them once; a fault of the command that is not
its exit code is returned. Where there are no nodes, nothing is asked. -/
theorem removal_ok_iff (c : Containers) (nodes : List Node)
    (hnames : ∀ node ∈ nodes, Unbroken node.name) (hdistinct : (nodes.map Node.name).Nodup) :
    (∀ t r, Follows (c.deleteNodes []).run t r ↔ t = [] ∧ r = .ok ()) ∧
    (∃ operands, (c.removing nodes).args = ["rm", "-f", "-v"] ++ operands ∧
      operands.length = nodes.length ∧ ∀ node ∈ nodes, operands.count node.name = 1) ∧
    (nodes ≠ [] →
      (∀ answer, ∃ r, Follows (c.deleteNodes nodes).run
        [⟨.command (c.removing nodes), answer⟩] r) ∧
      ∀ t r, Follows (c.deleteNodes nodes).run t r →
        ∃ answer, t = [⟨.command (c.removing nodes), answer⟩] ∧
          (∀ fate, Answered nodes fate answer →
            (r = .ok () ↔ ∀ node ∈ nodes, fate node = .removed ∨ fate node = .gone)) ∧
          (∀ fault, answer = .error fault →
            r = .ok () ∨ r = .error (.context "failed to delete nodes" (.runtime fault))) ∧
          ∀ fault, answer = .error fault →
            (∀ command code output, fault ≠ .invocation command code output) →
            r = .error (.context "failed to delete nodes" (.runtime fault))) := by
  refine ⟨fun t r => follows_deleteNodes_nil_iff, ⟨nodes.map Node.name, rfl, List.length_map ..,
    fun node hnode => List.count_eq_one_of_mem hdistinct (List.mem_map_of_mem hnode)⟩,
    fun hne => ⟨fun answer => ⟨_, (follows_deleteNodes_iff hne).2 ⟨answer, rfl, rfl⟩⟩,
      fun t r h => ?_⟩⟩
  obtain ⟨answer, rfl, rfl⟩ := (follows_deleteNodes_iff hne).1 h
  refine ⟨answer, rfl, fun fate hanswer => removedBy_ok_iff hnames hanswer, ?_, ?_⟩
  · rintro (⟨_, _, output⟩ | _ | _ | _) rfl
    case invocation =>
      dsimp only [removedBy]
      split
      · exact .inl rfl
      · exact .inr rfl
    all_goals exact .inr rfl
  · rintro fault rfl hfault
    exact removedBy_error hfault

/-- A node that is removed and one that was gone already. -/
def halfGone : List Node :=
  [{ name := "demo-control-plane", role := .controlPlane },
    { name := "demo-worker", role := .worker }]

/-- How the process of their removal ends. -/
def halfGoneEnd : ProcessEnd where
  code := some 1
  output :=
    { stdout := encode "demo-control-plane\n"
      stderr := encode "\nError response from daemon: No such container: demo-worker\r\n" }

theorem halfGone_removal : Follows (({} : Containers).deleteNodes halfGone).run
    [⟨.command (({} : Containers).removing halfGone),
      halfGoneEnd.conclude (({} : Containers).removing halfGone)⟩] (.ok ()) := by
  let fate : Node → Fate := fun node => if node.role = .worker then .gone else .removed
  have hlines : halfGoneEnd.output.combinedLines =
      ["demo-control-plane", "", "Error response from daemon: No such container: demo-worker"] := by
    decide +kernel
  have hprinted : Printed halfGone fate halfGoneEnd.output.combinedLines := by
    rw [hlines]
    refine ⟨by decide +kernel, fun node => if node.role = .worker then
      "Error response from daemon: No such container: demo-worker" else node.name, [""],
      .cons _ (.swap _ _ _), by simp [Blank], ?_⟩
    refine List.forall_mem_cons.2 ⟨.removed ⟨[], [], by simp, by simp, by simp⟩,
      List.forall_mem_singleton.2 (.gone (saysGone_iff.1 (by decide +kernel)))⟩
  obtain ⟨-, -, hsome⟩ := removal_ok_iff {} halfGone (by decide +kernel) (by decide +kernel)
  obtain ⟨r, h⟩ := (hsome (List.cons_ne_nil _ _)).1
    (halfGoneEnd.conclude (({} : Containers).removing halfGone))
  obtain ⟨answer, ht, hok, -⟩ := (hsome (List.cons_ne_nil _ _)).2 _ _ h
  obtain rfl : halfGoneEnd.conclude (({} : Containers).removing halfGone) = answer := by
    injection ht with ht
    injection ht with _ ht
  obtain rfl := (hok fate (answered_of_ended rfl (by decide +kernel) hprinted)).2 (by
    intro node _
    by_cases hrole : node.role = .worker <;> simp [fate, hrole])
  exact h

end LocalCluster.Cluster
