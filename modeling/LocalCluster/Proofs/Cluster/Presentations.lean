import LocalCluster.Proofs.Cluster.Schema
import Mathlib.Data.List.Nodup
import Mathlib.Data.List.Perm.Basic

/-!
# One specification, many documents

How a document presents a specification makes no difference: the order of members, members that are
not looked for, and fields that are left out because they are as they would be anyway. Other fields
cannot be left out, and what is wrong anywhere in a document is not read.

* `Restated`: two values say the same; **`Restated.read_eq`**: they are read alike.
* `Within`, `Wrong`: what stands inside a document, and what cannot be read;
  **`Within.read_eq_none`**: what holds such a thing cannot be read either.
* **`read_however_presented`**: specifications are read back from whatever presents them.
-/

namespace LocalCluster

/-! ## Members -/

/-- Order can only matter from two on. -/
theorem eq_or_two_le_of_perm {α : Type} {xs ys : List α} (h : xs.Perm ys) :
    xs = ys ∨ 2 ≤ xs.length ∧ 2 ≤ ys.length := by
  rcases xs with _ | ⟨x, _ | ⟨x', rest⟩⟩
  · exact .inl (List.nil_perm.1 h).symm
  · exact .inl (List.singleton_perm.1 h)
  · exact .inr ⟨by simp, by simp [← h.length_eq]⟩

namespace Json

variable {name : String} {j : Json} {ms ms' : List (String × Json)} {m : String × Json}

theorem member?_of_two_le (h : 2 ≤ (ms.filter (·.1 == name)).length) : member? name ms = none := by
  unfold member?
  split
  · next hms => simp [hms] at h
  · next hms => simp [hms] at h
  · rfl

theorem variant?_of_two_le (h : 2 ≤ ms.length) : (object ms).variant? = none := by
  rcases ms with _ | ⟨m, _ | ⟨m', rest⟩⟩
  · simp at h
  · simp at h
  · simp [variant?]

theorem member?_perm (h : ms.Perm ms') : member? name ms = member? name ms' := by
  rcases eq_or_two_le_of_perm (h.filter (·.1 == name)) with heq | ⟨hms, hms'⟩
  · unfold member?
    rw [heq]
  · rw [member?_of_two_le hms, member?_of_two_le hms']

theorem variant?_perm (h : ms.Perm ms') : (object ms).variant? = (object ms').variant? := by
  rcases eq_or_two_le_of_perm h with rfl | ⟨hms, hms'⟩
  · rfl
  · rw [variant?_of_two_le hms, variant?_of_two_le hms']

theorem member?_cons_ne (h : m.1 ≠ name) : member? name (m :: ms) = member? name ms := by
  unfold member?
  rw [List.filter_cons_of_neg (by simpa using h)]

theorem filter_eq_nil (h : ∀ m ∈ ms, m.1 ≠ name) : ms.filter (·.1 == name) = [] := by
  simpa [List.filter_eq_nil_iff] using h

theorem member?_of_absent (h : ∀ m ∈ ms, m.1 ≠ name) : member? name ms = some none := by
  unfold member?
  rw [filter_eq_nil h]

theorem member?_cons_self (h : ∀ m ∈ ms, m.1 ≠ name) :
    member? name ((name, j) :: ms) = some (some j) := by
  unfold member?
  rw [List.filter_cons_of_pos (by simp), filter_eq_nil h]

theorem member?_cons_repeated (h : ¬ ∀ m ∈ ms, m.1 ≠ name) :
    member? name ((name, j) :: ms) = none := by
  have hne : ms.filter (·.1 == name) ≠ [] := by simpa [List.filter_eq_nil_iff] using h
  apply member?_of_two_le
  rw [List.filter_cons_of_pos (by simp), List.length_cons]
  have hpos := List.length_pos_iff.2 hne
  omega

theorem member?_of_mem (h : (name, j) ∈ ms) :
    member? name ms = none ∨ member? name ms = some (some j) := by
  obtain ⟨before, after, rfl⟩ := List.append_of_mem h
  rw [member?_perm List.perm_middle]
  by_cases habsent : ∀ m ∈ before ++ after, m.1 ≠ name
  · exact .inr (member?_cons_self habsent)
  · exact .inl (member?_cons_repeated habsent)

end Json

end LocalCluster

namespace LocalCluster.Cluster

open LocalCluster.Container LocalCluster.Text

variable {k k' : Kind} {p q : Field} {ps : List Field} {j j' : Json}
variable {ms ms' : List (String × Json)}

/-! ## Reading fields -/

theorem readMembers_congr
    (h : ∀ p ∈ ps, (Json.member? p.name ms).bind p.read = (Json.member? p.name ms').bind p.read) :
    readMembers ms ps = readMembers ms' ps := by
  induction ps with
  | nil => rfl
  | cons p ps ih =>
    obtain ⟨hp, hps⟩ := List.forall_mem_cons.1 h
    rw [readMembers, readMembers, hp, ih hps]

theorem readMembers_eq_none (hp : p ∈ ps) (h : (Json.member? p.name ms).bind p.read = none) :
    readMembers ms ps = none := by
  induction ps with
  | nil => cases hp
  | cons q ps ih =>
    rw [readMembers]
    rcases List.mem_cons.1 hp with rfl | hp
    · rw [h]
      rfl
    · rw [ih hp]
      simp

theorem readSlots_congr {before after : List (Option Json)} (hp : ps[before.length]? = some p)
    (h : p.kind.read j = p.kind.read j') :
    readSlots ps (before ++ some j :: after) = readSlots ps (before ++ some j' :: after) := by
  induction before generalizing ps with
  | nil =>
    cases ps with
    | nil => cases hp
    | cons q ps =>
      obtain rfl : q = p := by simpa using hp
      simp [readSlots, h]
  | cons slot before ih =>
    cases ps with
    | nil => cases hp
    | cons q ps => simp [readSlots, ih (by simpa using hp)]

theorem readSlots_eq_none {i : Nat} {slots : List (Option Json)} {slot : Option Json}
    (hp : ps[i]? = some p) (hslot : slots[i]? = some slot) (h : p.read slot = none) :
    readSlots ps slots = none := by
  induction ps generalizing i slots with
  | nil => simp at hp
  | cons q ps ih =>
    cases slots with
    | nil => rfl
    | cons s slots =>
      rw [readSlots]
      cases i with
      | zero =>
        obtain rfl : q = p := by simpa using hp
        obtain rfl : s = slot := by simpa using hslot
        rw [h]
        rfl
      | succ i =>
        rw [ih (by simpa using hp) (by simpa using hslot)]
        simp

theorem field_eq_of_name_eq (hp : p ∈ k.fields) (hq : q ∈ k.fields) (h : p.name = q.name) :
    p = q := by
  have hnodup : (k.fields.map Field.name).Nodup := by
    cases k with
    | list item => exact List.nodup_nil
    | _ => decide
  exact List.inj_on_of_nodup_map hnodup hp hq h

theorem read_object_congr (hk : k.fields ≠ []) (h : ∀ p ∈ k.fields,
      (Json.member? p.name ms).bind p.read = (Json.member? p.name ms').bind p.read) :
    k.read (.object ms) = k.read (.object ms') := by
  obtain ⟨make, hmake⟩ := exists_make hk
  rw [hmake, hmake, slots?_object, slots?_object, readMembers_congr h]

theorem read_object_eq_none (hp : p ∈ k.fields)
    (h : (Json.member? p.name ms).bind p.read = none) : k.read (.object ms) = none := by
  obtain ⟨make, hmake⟩ := exists_make (List.ne_nil_of_mem hp)
  rw [hmake, slots?_object, readMembers_eq_none hp h]
  rfl

theorem slots?_array {js : List Json} {names : List String} (h : js.length ≤ names.length) :
    (Json.array js).slots? names =
      some (js.map some ++ List.replicate (names.length - js.length) none) := if_pos h

/-! ## Values that say the same -/

/-- Two values say the same where a kind is expected: the members of an object may stand in another
order, members that are not looked for may be there or not, and so may a field that is what it would
be if it were missing; and what stands in them may say the same in another way. -/
inductive Restated : Kind → Json → Json → Prop where
  | refl {k : Kind} {j : Json} : Restated k j j
  | symm {k : Kind} {j j' : Json} (h : Restated k j j') : Restated k j' j
  | trans {k : Kind} {j j' j'' : Json} (h : Restated k j j') (h' : Restated k j' j'') :
      Restated k j j''
  | permuted {k : Kind} {ms ms' : List (String × Json)} (h : ms.Perm ms') :
      Restated k (.object ms) (.object ms')
  | unknown {k : Kind} {name : String} {j : Json} {ms : List (String × Json)} (hk : k.fields ≠ [])
      (h : ∀ p ∈ k.fields, p.name ≠ name) : Restated k (.object ms) (.object ((name, j) :: ms))
  | omitted {k : Kind} {p : Field} {v : p.kind.Value} {j : Json} {ms : List (String × Json)}
      (hp : p ∈ k.fields) (hsole : ∀ m ∈ ms, m.1 ≠ p.name) (hdefault : p.default? = some v)
      (hj : p.kind.read j = some v) : Restated k (.object ((p.name, j) :: ms)) (.object ms)
  | member {k : Kind} {p : Field} {j j' : Json} {ms : List (String × Json)} (hp : p ∈ k.fields)
      (h : Restated p.kind j j') :
      Restated k (.object ((p.name, j) :: ms)) (.object ((p.name, j') :: ms))
  | element {k : Kind} {p : Field} {j j' : Json} {before after : List Json}
      (hp : k.fields[before.length]? = some p) (h : Restated p.kind j j') :
      Restated k (.array (before ++ j :: after)) (.array (before ++ j' :: after))
  | item {k : Kind} {j j' : Json} {before after : List Json} (h : Restated k j j') :
      Restated (.list k) (.array (before ++ j :: after)) (.array (before ++ j' :: after))

theorem bind_member?_cons {name : String} (hq : q.name ≠ name) :
    (Json.member? q.name ((name, j) :: ms)).bind q.read = (Json.member? q.name ms).bind q.read := by
  rw [Json.member?_cons_ne (Ne.symm hq)]

theorem read_permuted (h : ms.Perm ms') : k.read (.object ms) = k.read (.object ms') := by
  by_cases hk : k.fields = []
  · have hvariant := Json.variant?_perm h
    cases k with
    | text | truth | port | list => rfl
    | role => simp only [Kind.read, Role.ofJson?, hvariant]
    | family => simp only [Kind.read, Family.ofJson?, hvariant]
    | protocol => simp only [Kind.read, Protocol.ofJson?, hvariant]
    | propagation => simp only [Kind.read, Propagation.ofJson?, hvariant]
    | mount | portMapping | node | networking | spec => cases hk
  · exact read_object_congr hk fun p _ => by rw [Json.member?_perm h]

theorem read_omitted (hp : p ∈ k.fields) (hsole : ∀ m ∈ ms, m.1 ≠ p.name)
    (hdefault : p.kind.read j = p.default?) :
    k.read (.object ((p.name, j) :: ms)) = k.read (.object ms) := by
  refine read_object_congr (List.ne_nil_of_mem hp) fun q hq => ?_
  by_cases hname : q.name = p.name
  · obtain rfl := field_eq_of_name_eq hq hp hname
    rw [Json.member?_cons_self hsole, Json.member?_of_absent hsole]
    simp [hdefault]
  · exact bind_member?_cons hname

theorem read_member (hp : p ∈ k.fields) (h : p.kind.read j = p.kind.read j') :
    k.read (.object ((p.name, j) :: ms)) = k.read (.object ((p.name, j') :: ms)) := by
  refine read_object_congr (List.ne_nil_of_mem hp) fun q hq => ?_
  by_cases hname : q.name = p.name
  · obtain rfl := field_eq_of_name_eq hq hp hname
    by_cases hsole : ∀ m ∈ ms, m.1 ≠ q.name
    · rw [Json.member?_cons_self hsole, Json.member?_cons_self hsole]
      simp [h]
    · rw [Json.member?_cons_repeated hsole, Json.member?_cons_repeated hsole]
  · rw [bind_member?_cons hname, bind_member?_cons hname]

theorem read_element {before after : List Json} (hp : k.fields[before.length]? = some p)
    (h : p.kind.read j = p.kind.read j') :
    k.read (.array (before ++ j :: after)) = k.read (.array (before ++ j' :: after)) := by
  obtain ⟨make, hmake⟩ := exists_make (k := k) (by
    rintro hk
    simp [hk] at hp)
  rw [hmake, hmake]
  by_cases hlength : (before ++ j :: after).length ≤ (k.fields.map Field.name).length
  · rw [slots?_array hlength, slots?_array (by simpa using hlength)]
    simp only [Option.bind_some, List.map_append, List.map_cons, List.append_assoc,
      List.cons_append, List.length_append, List.length_cons]
    rw [readSlots_congr (by simpa using hp) h]
  · have hnone : ∀ {js : List Json}, js.length = (before ++ j :: after).length →
        (Json.array js).slots? (k.fields.map Field.name) = none := by
      intro js hjs
      exact if_neg (by rwa [hjs])
    rw [hnone rfl, hnone (by simp)]

theorem read_item {before after : List Json} (h : k.read j = k.read j') :
    (Kind.list k).read (.array (before ++ j :: after)) =
      (Kind.list k).read (.array (before ++ j' :: after)) := by
  simp [Kind.read, Json.list?, List.mapM_append, h]

/-- **What says the same is read alike.** -/
theorem Restated.read_eq (h : Restated k j j') : k.read j = k.read j' := by
  induction h with
  | refl => rfl
  | symm _ ih => exact ih.symm
  | trans _ _ ih ih' => exact ih.trans ih'
  | permuted h => exact read_permuted h
  | unknown hk h => exact read_object_congr hk fun q hq => (bind_member?_cons (h q hq)).symm
  | omitted hp hsole hdefault hj => exact read_omitted hp hsole (hj.trans hdefault.symm)
  | member hp _ ih => exact read_member hp ih
  | element hp _ ih => exact read_element hp ih
  | item _ ih => exact read_item ih

/-! ## What cannot be read -/

/-- Where one kind is expected a value stands, and inside it a value where another one is. -/
inductive Within : Kind → Json → Kind → Json → Prop where
  | here {k : Kind} {j : Json} : Within k j k j
  | member {k k' : Kind} {p : Field} {j j' : Json} {ms : List (String × Json)} (hp : p ∈ k.fields)
      (hj : (p.name, j) ∈ ms) (h : Within p.kind j k' j') : Within k (.object ms) k' j'
  | element {k k' : Kind} {p : Field} {i : Nat} {j j' : Json} {js : List Json}
      (hp : k.fields[i]? = some p) (hj : js[i]? = some j) (h : Within p.kind j k' j') :
      Within k (.array js) k' j'
  | item {k k' : Kind} {j j' : Json} {js : List Json} (hj : j ∈ js) (h : Within k j k' j') :
      Within (.list k) (.array js) k' j'

/-- What cannot be read where a kind is expected: a record without a field that has no default, what
is no port, and a name that is none of its alternatives. -/
inductive Wrong : Kind → Json → Prop where
  | missing {k : Kind} {p : Field} {ms : List (String × Json)} (hp : p ∈ k.fields)
      (hrequired : p.default? = none) (h : ∀ m ∈ ms, m.1 ≠ p.name) : Wrong k (.object ms)
  | short {k : Kind} {p : Field} {i : Nat} {js : List Json} (hp : k.fields[i]? = some p)
      (hrequired : p.default? = none) (h : js.length ≤ i) : Wrong k (.array js)
  | port {j : Json}
      (h : ∀ spelling n, j = .number spelling → Numeral spelling.toList n → 65535 < n) :
      Wrong .port j
  | name {k : Kind} {j : Json} {name : String} (hk : k.names ≠ []) (h : name ∉ k.names)
      (hj : j = .string name ∨ j = .object [(name, .null)]) : Wrong k j

theorem read_element_eq_none {i : Nat} {js : List Json} (hp : k.fields[i]? = some p)
    (h : ∀ slot,
      (js.map some ++ List.replicate (k.fields.length - js.length) none)[i]? = some slot →
      p.read slot = none) : k.read (.array js) = none := by
  have hi : i < k.fields.length := (List.getElem?_eq_some_iff.1 hp).1
  obtain ⟨make, hmake⟩ := exists_make (List.ne_nil_of_length_pos (Nat.zero_lt_of_lt hi))
  rw [hmake]
  by_cases hlength : js.length ≤ k.fields.length
  · rw [slots?_array (by simpa using hlength), List.length_map]
    obtain ⟨slot, hslot⟩ : ∃ slot,
        (js.map some ++ List.replicate (k.fields.length - js.length) none)[i]? = some slot :=
      ⟨_, List.getElem?_eq_getElem (by simp; omega)⟩
    rw [Option.bind_some, readSlots_eq_none hp hslot (h slot hslot)]
    rfl
  · have hnone : (Json.array js).slots? (k.fields.map Field.name) = none :=
      if_neg (by simpa using hlength)
    rw [hnone]
    rfl

theorem read_item_eq_none {js : List Json} (hj : j ∈ js) (h : k.read j = none) :
    (Kind.list k).read (.array js) = none := by
  obtain ⟨before, after, rfl⟩ := List.append_of_mem hj
  simp [Kind.read, Json.list?, List.mapM_append, h]

/-- **What holds something unreadable cannot be read.** -/
theorem Within.read_eq_none (h : Within k j k' j') (hnone : k'.read j' = none) :
    k.read j = none := by
  induction h with
  | here => exact hnone
  | member hp hj _ ih =>
    refine read_object_eq_none hp ?_
    rcases Json.member?_of_mem hj with hrepeated | hfound
    · rw [hrepeated]
      rfl
    · rw [hfound, Option.bind_some, Field.read_some, ih hnone]
  | @element k k' p i j j' js hp hj _ ih =>
    refine read_element_eq_none hp fun slot hslot => ?_
    have hi : i < js.length := (List.getElem?_eq_some_iff.1 hj).1
    rw [List.getElem?_append_left (by simpa using hi), List.getElem?_map, hj] at hslot
    obtain rfl := Option.some.inj hslot
    rw [Field.read_some, ih hnone]
  | item hj _ ih => exact read_item_eq_none hj (ih hnone)

theorem Wrong.read_eq_none (h : Wrong k j) : k.read j = none := by
  cases h with
  | missing hp hrequired h =>
    refine read_object_eq_none hp ?_
    rw [Json.member?_of_absent h]
    simpa using hrequired
  | @short _ p i js hp hrequired h =>
    refine read_element_eq_none hp fun slot hslot => ?_
    rw [List.getElem?_append_right (by simpa using h)] at hslot
    obtain ⟨_, rfl⟩ := List.getElem?_eq_some_iff.1 hslot
    simpa using hrequired
  | port h =>
    have hnone : j.natural? 65535 = none := by
      by_contra hsome
      obtain ⟨n, hn⟩ := Option.ne_none_iff_exists'.1 hsome
      obtain ⟨spelling, hj, hnumeral, hle⟩ := Json.natural?_eq_some_iff.1 hn
      exact absurd (h spelling n hj hnumeral) (by omega)
    change (j.natural? 65535).map _ = none
    rw [hnone]
    rfl
  | @name _ _ name hk h hj =>
    have hvariant : j.variant? = some name := by
      rcases hj with rfl | rfl <;> rfl
    cases k with
    | role =>
      simp only [Kind.names, List.mem_cons, List.not_mem_nil, or_false, not_or] at h
      simp [Kind.read, Role.ofJson?, hvariant, Role.parse?, h]
    | family =>
      simp only [Kind.names, List.mem_cons, List.not_mem_nil, or_false, not_or] at h
      simp [Kind.read, Family.ofJson?, hvariant, Family.name, Ne.symm h.1, Ne.symm h.2]
    | protocol =>
      simp only [Kind.names, List.mem_cons, List.not_mem_nil, or_false, not_or] at h
      simp [Kind.read, Protocol.ofJson?, hvariant, Protocol.name, Ne.symm h.1, Ne.symm h.2.1,
        Ne.symm h.2.2]
    | propagation =>
      simp only [Kind.names, List.mem_cons, List.not_mem_nil, or_false, not_or] at h
      simp [Kind.read, Propagation.ofJson?, hvariant, Propagation.documentName, Ne.symm h.1,
        Ne.symm h.2.1, Ne.symm h.2.2]
    | _ => exact absurd rfl hk

/-! ## Specifications -/

/-- **Specifications are read back from whatever presents them.** Each is read back from the
document it is written as, and from any other that says the same. Values that say the same are read
alike in any case, or none of them is read. What is missing without a default, a port out of range
and an unknown name, wherever they stand in a document, keep it from being read. -/
theorem read_however_presented :
    (∀ s : Spec, Spec.ofJson? s.toJson = some s) ∧
    (∀ (s : Spec) j, Restated .spec s.toJson j → Spec.ofJson? j = some s) ∧
    (∀ k j j', Restated k j j' → k.read j = k.read j') ∧
    ∀ j k j', Within .spec j k j' → Wrong k j' → Spec.ofJson? j = none :=
  ⟨Spec.ofJson?_toJson, fun s _ h => h.read_eq.symm.trans (Spec.ofJson?_toJson s),
    fun _ _ _ h => h.read_eq, fun _ _ _ hwithin hwrong => hwithin.read_eq_none hwrong.read_eq_none⟩

/-- A control plane of which all but the role is as it would be anyway. -/
def plainSpec : Spec where
  name := "plain"
  nodes := [{ role := .controlPlane, image := "" }]
  networking := .ofFamily .ipv4
  network := "kind"

/-- A document of that specification, with these network settings. -/
def sparseDocument (networking : Json) : Json :=
  .object
    [("nodes", .array [.object [("comment", .null), ("role", .string "control-plane")]]),
      ("name", .string "plain"), ("networking", networking), ("network", .string "kind")]

/-- The settings of an API server on a port that there is not. -/
def overflowingNetworking : Json :=
  .object
    [("ipFamily", .string "ipv4"), ("apiServerAddress", .string "127.0.0.1"),
      ("apiServerPort", .number "65536"), ("podSubnet", .string "10.244.0.0/16"),
      ("serviceSubnet", .string "10.96.0.0/16")]

theorem sparseDocument_read :
    Spec.ofJson? (sparseDocument plainSpec.networking.toJson) = some plainSpec ∧
    Spec.ofJson? (sparseDocument overflowingNetworking) = none := by
  obtain ⟨-, hread, -, hwrong⟩ := read_however_presented
  constructor
  · apply hread
    have hnode : Restated .node (NodeSpec.toJson { role := .controlPlane, image := "" })
        (.object [("comment", .null), ("role", .string "control-plane")]) := by
      refine .trans (.permuted (List.perm_append_singleton _ _).symm) ?_
      refine .trans (.omitted (p := ⟨"image", .text, some ""⟩) ?_ ?_ rfl rfl) ?_
      · simp [Kind.fields]
      · simp
      refine .trans (.omitted (p := ⟨"extraMounts", .list .mount, some []⟩) ?_ ?_ rfl rfl) ?_
      · simp [Kind.fields]
      · simp
      refine .trans (.omitted (p := ⟨"extraPortMappings", .list .portMapping, some []⟩) ?_ ?_ rfl
        rfl) ?_
      · simp [Kind.fields]
      · simp
      refine .trans (.omitted (p := ⟨"networks", .list .text, some []⟩) ?_ ?_ rfl rfl) ?_
      · simp [Kind.fields]
      · simp
      exact .unknown (List.cons_ne_nil _ _) (by decide)
    refine .trans (.permuted (List.Perm.swap _ _ _)) ?_
    exact .member (p := ⟨"nodes", .list .node, none⟩) (by simp [Kind.fields])
      (@Restated.item _ _ _ [] [] hnode)
  · refine hwrong _ .port (.number "65536") ?_ (.port fun spelling n hj hn => ?_)
    · refine .member (p := ⟨"networking", .networking, none⟩) (j := overflowingNetworking)
        (by simp [Kind.fields]) (by simp) ?_
      exact .member (p := ⟨"apiServerPort", .port, none⟩) (j := .number "65536")
        (by simp [Kind.fields]) (by simp) .here
    · cases hj
      have hvalue := hn.value
      have hdigits : digitsValue "65536".toList = 65536 := by decide
      omega

end LocalCluster.Cluster
