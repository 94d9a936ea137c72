import LocalCluster.Cluster.Namer
import LocalCluster.Cluster.Spec
import LocalCluster.Proofs.Text.Numerals
import Mathlib.Data.List.Nodup

/-!
# Names of nodes are distinct

A name is read from its end. The digits there are the number of the node, since no role ends in one;
the three letters before them tell the role, and what stands before the role and its dash is the
cluster, whatever it holds.

* `digits_at_end`, `stem_inj`: a name taken apart from its end.
* **`nodeName_inj`**: nodes with the same name have the same cluster, role and number.
* `nodeName_one_le`: as texts, names begin with the first one of their role.
* `names_getElem?`: which name a call gives; `nodup_names`: a naming gives no name twice.
* **`names_tell_calls`**: a name tells the cluster and the call that gave it.
* `IsPlain`: characters that stand inside one field of one line; `isPlain_nodeName`.
-/

namespace LocalCluster.Cluster

open LocalCluster.Text

variable {cluster cluster' : String} {role role' : Role} {j k : Nat}

/-! ## Ordinals -/

/-- What a name ends in: nothing for the first node, and its number for a later one. -/
def ordinal (k : Nat) : String := if k = 1 then "" else toString k

theorem ordinal_inj (h : ordinal j = ordinal k) : j = k := by
  unfold ordinal at h
  split at h
  · split at h
    · omega
    · exact absurd h.symm toString_nat_ne_empty
  · split at h
    · exact absurd h toString_nat_ne_empty
    · exact toString_nat_inj h

theorem isDigit_of_mem_ordinal {ch : Char} (h : ch ∈ (ordinal k).toList) :
    ch.isDigit = true := by
  unfold ordinal at h
  split at h
  · simp at h
  · exact isDigit_of_mem_toString h

/-- Digits at the end of a text are told from what stands before them, if that ends in none. -/
theorem digits_at_end {xs ys ds es : List Char} (hds : ∀ d ∈ ds, d.isDigit = true)
    (hes : ∀ d ∈ es, d.isDigit = true) (hxs : ∀ c, xs.getLast? = some c → c.isDigit = false)
    (hys : ∀ c, ys.getLast? = some c → c.isDigit = false) (h : xs ++ ds = ys ++ es) :
    xs = ys ∧ ds = es := by
  -- what one of them has more before its digits, the other one has among its digits
  have hnil : ∀ {longer shorter more digits : List Char}, (∀ d ∈ digits, d.isDigit = true) →
      (∀ c, longer.getLast? = some c → c.isDigit = false) → longer = shorter ++ more →
      more ⊆ digits → more = [] := by
    intro longer shorter more digits hdigits hlonger hmore hsub
    by_contra hne
    have hlast := hlonger (more.getLast hne) (by
      rw [hmore, List.getLast?_append, List.getLast?_eq_some_getLast hne]
      rfl)
    rw [hdigits _ (hsub (List.getLast_mem hne))] at hlast
    cases hlast
  rcases List.append_eq_append_iff.1 h with ⟨more, rfl, rfl⟩ | ⟨more, rfl, rfl⟩
  · obtain rfl := hnil hds hys rfl (List.subset_append_left ..)
    simp
  · obtain rfl := hnil hes hxs rfl (List.subset_append_left ..)
    simp

/-! ## Names -/

theorem nodeName_eq : nodeName cluster role k = cluster ++ "-" ++ role.name ++ ordinal k := rfl

/-- The first name of a role comes before the others, however large their numbers are, for it is
what they all begin with. -/
theorem nodeName_one_le : nodeName cluster role 1 ≤ nodeName cluster role k := by
  have hprefix : (nodeName cluster role 1).toList <+: (nodeName cluster role k).toList :=
    ⟨(ordinal k).toList, by simp [nodeName_eq, ordinal]⟩
  exact hprefix.le

theorem not_isDigit_of_stem {c : Char}
    (h : (cluster ++ "-" ++ role.name).toList.getLast? = some c) : c.isDigit = false := by
  rw [String.toList_append, List.getLast?_append] at h
  cases role <;> cases h <;> decide

/-- No role ends as another one does, so what stands before it is told apart. -/
theorem stem_inj (h : cluster ++ "-" ++ role.name = cluster' ++ "-" ++ role'.name) :
    cluster = cluster' ∧ role = role' := by
  have hchars := congrArg String.toList h
  simp only [String.toList_append, List.append_assoc] at hchars
  have hrole : role = role' := by
    have hend := congrArg (fun cs : List Char => cs.reverse.take 3) hchars
    cases role <;> cases role' <;> first | rfl | simp [Role.name] at hend
  subst hrole
  exact ⟨String.toList_injective (List.append_cancel_right hchars), rfl⟩

/-- **Nodes with the same name have the same cluster, role and number.** -/
theorem nodeName_inj (h : nodeName cluster role j = nodeName cluster' role' k) :
    cluster = cluster' ∧ role = role' ∧ j = k := by
  have hchars : (cluster ++ "-" ++ role.name).toList ++ (ordinal j).toList =
      (cluster' ++ "-" ++ role'.name).toList ++ (ordinal k).toList := by
    rw [← String.toList_append, ← String.toList_append]
    exact congrArg String.toList h
  obtain ⟨hstem, hordinal⟩ := digits_at_end (fun _ => isDigit_of_mem_ordinal)
    (fun _ => isDigit_of_mem_ordinal) (fun _ => not_isDigit_of_stem)
    (fun _ => not_isDigit_of_stem) hchars
  obtain ⟨hcluster, hrole⟩ := stem_inj (String.toList_injective hstem)
  exact ⟨hcluster, hrole, ordinal_inj (String.toList_injective hordinal)⟩

/-! ## Namings -/

/-- **Which name a call gives**: that of its role, with the number of the call among those for the
role. -/
theorem names_getElem? (n : Namer) (roles : List Role) (i : Nat) : (n.names roles)[i]? =
    roles[i]?.map fun role =>
      nodeName n.cluster role (n.named.count role + (roles.take (i + 1)).count role) := by
  induction roles generalizing n i with
  | nil => rfl
  | cons role rest ih =>
    cases i with
    | zero => simp [Namer.names, Namer.next]
    | succ i =>
      have hcount : ∀ other : Role,
          (role :: n.named).count other + (rest.take (i + 1)).count other =
            n.named.count other + (role :: rest.take (i + 1)).count other := by
        intro other
        rw [List.count_cons, List.count_cons]
        omega
      rw [Namer.names, List.getElem?_cons_succ, List.getElem?_cons_succ, ih]
      simp only [Namer.next, hcount, List.take_succ_cons]

theorem length_names (n : Namer) (roles : List Role) :
    (n.names roles).length = roles.length := by
  induction roles generalizing n with
  | nil => rfl
  | cons role rest ih => exact congrArg Nat.succ (ih _)

theorem exists_of_mem_names {n : Namer} {roles : List Role} {name : String}
    (h : name ∈ n.names roles) :
    ∃ role ∈ roles, ∃ k, n.named.count role < k ∧ name = nodeName n.cluster role k := by
  induction roles generalizing n with
  | nil => cases h
  | cons role rest ih =>
    rcases List.mem_cons.1 h with rfl | h
    · exact ⟨role, List.mem_cons_self, _, Nat.lt_succ_self _, rfl⟩
    · obtain ⟨role', hrole, k, hk, rfl⟩ := ih h
      refine ⟨role', List.mem_cons_of_mem _ hrole, k, ?_, rfl⟩
      exact Nat.lt_of_le_of_lt (List.Sublist.count_le _ (List.sublist_cons_self ..)) hk

/-- **A naming gives no name twice.** -/
theorem nodup_names (n : Namer) (roles : List Role) : (n.names roles).Nodup := by
  induction roles generalizing n with
  | nil => exact List.nodup_nil
  | cons role rest ih =>
    refine List.nodup_cons.2 ⟨fun h => ?_, ih _⟩
    obtain ⟨role', -, k, hk, he⟩ := exists_of_mem_names h
    obtain ⟨-, rfl, rfl⟩ := nodeName_inj he
    simp [Namer.next] at hk

/-- **A name tells the cluster and the call that gave it.** A naming gives a name for each call. Two
names, of any clusters and any sequences of calls, are equal exactly if the clusters are, the calls
are for the same role and have the same number among those for it. So no name comes twice in a
cluster, and none in two clusters. -/
theorem names_tell_calls (cluster cluster' : String) (roles roles' : List Role) :
    (Namer.names { cluster } roles).length = roles.length ∧
    (∀ (i : Fin roles.length) (j : Fin roles'.length),
      (Namer.names { cluster } roles)[(i : Nat)]? =
          (Namer.names { cluster := cluster' } roles')[(j : Nat)]? ↔
        cluster = cluster' ∧ roles[i] = roles'[j] ∧
          (roles.take (i + 1)).count roles[i] = (roles'.take (j + 1)).count roles'[j]) ∧
    (Namer.names { cluster } roles).Nodup ∧
    (cluster ≠ cluster' →
      (Namer.names { cluster } roles).Disjoint (Namer.names { cluster := cluster' } roles')) := by
  refine ⟨length_names _ _, fun i j => ?_, nodup_names _ _, fun hne name h h' => ?_⟩
  · rw [names_getElem?, names_getElem?, List.getElem?_eq_getElem i.isLt,
      List.getElem?_eq_getElem j.isLt]
    simp only [Option.map_some, Option.some_inj, List.count_nil, Nat.zero_add]
    constructor
    · exact nodeName_inj
    · rintro ⟨rfl, hrole, hcount⟩
      exact congrArg₂ (nodeName cluster) hrole hcount
  · obtain ⟨role, -, j, -, rfl⟩ := exists_of_mem_names h
    obtain ⟨role', -, k, -, heq⟩ := exists_of_mem_names h'
    exact hne (nodeName_inj heq).1

/-- A cluster that is called as a node of another one. -/
theorem names_tell_namesake : "lab" ≠ "lab-worker2" ∧
    (Namer.names { cluster := "lab" } [.worker, .controlPlane, .worker]).Disjoint
      (Namer.names { cluster := "lab-worker2" } [.worker, .worker]) := by
  have hne : "lab" ≠ "lab-worker2" := by decide
  exact ⟨hne, (names_tell_calls "lab" "lab-worker2" _ _).2.2.2 hne⟩

/-! ## Characters of names -/

/-- The character ends neither a line nor a field of a line. -/
def IsPlain (ch : Char) : Prop := ch ≠ '\n' ∧ ch ≠ '\r' ∧ ch ≠ '\t'

theorem isPlain_of_isNameChar {ch : Char} (h : Spec.isNameChar ch = true) : IsPlain ch := by
  refine ⟨?_, ?_, ?_⟩ <;> rintro rfl <;> exact absurd h (by decide)

theorem isPlain_of_isDigit {ch : Char} (h : ch.isDigit = true) : IsPlain ch := by
  refine ⟨?_, ?_, ?_⟩ <;> rintro rfl <;> exact absurd h (by decide)

theorem isPlain_roleName (role : Role) : ∀ ch ∈ role.name.toList, IsPlain ch := by
  intro ch hch
  have hall : ∀ role : Role, role.name.toList.all Spec.isNameChar = true := by
    intro role
    cases role <;> decide
  exact isPlain_of_isNameChar (List.all_eq_true.1 (hall role) ch hch)

theorem isPlain_nodeName (h : ∀ ch ∈ cluster.toList, IsPlain ch) :
    ∀ ch ∈ (nodeName cluster role k).toList, IsPlain ch := by
  intro ch hch
  have hdash : IsPlain '-' := isPlain_of_isNameChar (by decide)
  rw [nodeName_eq] at hch
  simp only [String.toList_append, List.mem_append] at hch
  rcases hch with ((hch | hch) | hch) | hch
  · exact h ch hch
  · rwa [List.mem_singleton.1 hch]
  · exact isPlain_roleName role ch hch
  · exact isPlain_of_isDigit (isDigit_of_mem_ordinal hch)

theorem nodeName_ne_empty : nodeName cluster role k ≠ "" := by
  intro h
  simpa [nodeName_eq] using congrArg String.toList h

end LocalCluster.Cluster
