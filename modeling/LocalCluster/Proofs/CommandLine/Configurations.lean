import LocalCluster.CommandLine.Configuration
import LocalCluster.Proofs.Cluster.Drafts
import LocalCluster.Proofs.Cluster.Parts
import LocalCluster.Proofs.Text.Numerals

/-!
# Configurations and the clusters they ask for

A configuration is looked at twice: on its own, and when the cluster that it asks for is specified.
The second look sees all that the first one does, and more.

* `Counts`, `FromVariables`: what the variables of an environment say;
  **`fromVariables_ofEnvironment`**: that is what stands in the configuration.
* `outline`: the specification that a configuration comes to; **`spec_eq`**: it is validated, and
  then it is what is specified.
* `Specifiable`: what only the second look sees; **`valid_outline_iff`**: when an outline is valid.
* `Described`: the cluster that a configuration asks for; `described_outline`.
* **`looks_agree`**: what is wrong with a configuration keeps it from being specified.
-/

namespace LocalCluster.CommandLine

open LocalCluster.Cluster LocalCluster.Container LocalCluster.Net LocalCluster.Text

/-! ## Variables -/

/-- What a variable says of a number: the number that it is, or the default if it is unset, is no
number, or is one beyond the limit. -/
inductive Counts (limit default : Nat) : Option String → Nat → Prop where
  | unset : Counts limit default none default
  | written {text : String} {n : Nat} (h : Denotes text n) (hle : n ≤ limit) :
      Counts limit default (some text) n
  | unreadable {text : String} (h : ∀ n, Denotes text n → limit < n) :
      Counts limit default (some text) default

theorem counts_read (limit default : Nat) (found : Option String) :
    Counts limit default found ((found.bind (readNat limit)).getD default) := by
  cases found with
  | none => exact .unset
  | some text =>
    rw [Option.bind_some]
    cases hread : readNat limit text with
    | none =>
      refine .unreadable fun n h => Nat.lt_of_not_le fun hle => ?_
      rw [readNat_eq_some_iff.2 ⟨h, hle⟩] at hread
      cases hread
    | some n =>
      obtain ⟨h, hle⟩ := readNat_eq_some_iff.1 hread
      exact .written h hle

theorem familyRead_eq_ok_iff {text : String} {family : Family} :
    Family.read text = .ok family ↔ text.toList.map Char.toLower = family.name.toList := by
  rw [← String.toList_ofList (l := text.toList.map Char.toLower), String.toList_inj]
  unfold Family.read
  dsimp only
  split_ifs with h4 h6
  · rw [h4]
    cases family <;> simp [Family.name]
  · rw [h6]
    cases family <;> simp [Family.name]
  · cases family <;> simp [Family.name, h4, h6]

namespace Configuration

/-- What the variables of an environment say. -/
structure FromVariables (find : String → Option String) (c : Configuration) : Prop where
  name : c.name = (find "KINDER_NAME").getD "kind"
  image : c.image = (find "KINDER_IMAGE").getD defaultNodeImage
  controlPlanes : Counts maxCount 1 (find "KINDER_CONTROL_PLANES") c.controlPlanes
  workers : Counts maxCount 0 (find "KINDER_WORKERS") c.workers
  apiAddress : ∀ text, c.apiAddress = some text ↔ find "KINDER_API_ADDRESS" = some text ∧ text ≠ ""
  apiPort : Counts maxPort 0 (find "KINDER_API_PORT") c.apiPort.toNat
  family : c.family = (find "KINDER_IP_FAMILY").getD "ipv4"
  kubeconfig : ∀ path, c.kubeconfig = some path ↔ find "KINDER_KUBECONFIG" = some path ∧ path ≠ ""
  retain : c.retain = true ↔ find "KINDER_RETAIN" = some "true" ∨ find "KINDER_RETAIN" = some "1"
  network : c.network = (find "KINDER_NETWORK").getD defaultNetwork

theorem toNat_apiPort (find : String → Option String) : (ofEnvironment find).apiPort.toNat =
    ((find "KINDER_API_PORT").bind (readNat maxPort)).getD 0 := by
  unfold ofEnvironment
  dsimp only
  cases hread : (find "KINDER_API_PORT").bind (readNat maxPort) with
  | none => rfl
  | some n =>
    obtain ⟨text, -, hn⟩ := Option.bind_eq_some_iff.1 hread
    have hle : n ≤ 65535 := (readNat_eq_some_iff.1 hn).2
    exact UInt16.toNat_ofNat_of_lt' (Nat.lt_succ_of_le hle)

/-- **What the variables say is what stands in the configuration.** -/
theorem fromVariables_ofEnvironment (find : String → Option String) :
    FromVariables find (ofEnvironment find) where
  name := rfl
  image := rfl
  controlPlanes := counts_read _ _ _
  workers := counts_read _ _ _
  apiAddress text := by simp [ofEnvironment, Option.filter_eq_some_iff]
  apiPort := by
    rw [toNat_apiPort]
    exact counts_read _ _ _
  family := rfl
  kubeconfig path := by simp [ofEnvironment, Option.filter_eq_some_iff]
  retain := by
    cases h : find "KINDER_RETAIN" <;> simp [ofEnvironment, h]
  network := rfl

/-! ## Specifications -/

variable {c : Configuration} {family : Family} {s : Spec}

/-- The specification that a configuration comes to, in a family of addresses. -/
def outline (c : Configuration) (family : Family) : Spec where
  name := c.name
  nodes := List.replicate c.controlPlanes { role := .controlPlane, image := c.image } ++
    List.replicate c.workers { role := .worker, image := c.image }
  networking := { Networking.ofFamily family with
    apiServerAddress := c.apiAddress.getD family.loopback
    apiServerPort := c.apiPort }
  network := c.network

/-- The settings that a configuration comes to, once its family has been read. -/
def settings (c : Configuration) (family : Family) : List Setting :=
  [.name c.name, .image c.image, .controlPlanes c.controlPlanes, .workers c.workers,
    .family family, .apiServerPort c.apiPort, .network c.network] ++
    (c.apiAddress.map .apiServerAddress).toList

theorem complete_settings (c : Configuration) (family : Family) :
    ((c.settings family).foldl Draft.apply {}).complete = c.outline family := by
  have hfill : ∀ role, Draft.fillImage c.image { role } = { role, image := c.image } :=
    fun role => if_pos rfl
  cases haddress : c.apiAddress <;> cases family <;>
    simp [settings, haddress, Draft.apply, Setting.nodes, Draft.complete, hfill, outline,
      Networking.ofFamily]

/-- **A configuration is specified as it is outlined**, once its family has been read, if nothing is
wrong with that. -/
theorem spec_eq (c : Configuration) : c.spec = (Family.read c.family >>= fun family =>
    (c.outline family).validate.map fun _ => c.outline family) := by
  refine bind_congr fun family => ?_
  rw [← complete_settings]
  rfl

theorem spec_eq_ok_iff : c.spec = .ok s ↔
    ∃ family, Family.read c.family = .ok family ∧ s = c.outline family ∧
      (c.outline family).Valid := by
  rw [spec_eq]
  cases Family.read c.family with
  | error fault => simp [Bind.bind, Except.bind]
  | ok family => simpa [Bind.bind, Except.bind] using validate_map_eq_ok_iff

theorem controlPlaneCount_outline : (c.outline family).controlPlaneCount = c.controlPlanes := by
  simp [outline, Spec.controlPlaneCount, List.countP_append, List.countP_replicate]

theorem image_outline (h : c.controlPlanes ≠ 0) :
    (∀ n ∈ (c.outline family).nodes, n.role ≠ .externalLoadBalancer ∧ n.image ≠ "") ↔
      c.image ≠ "" := by
  rw [outline, List.forall_mem_append]
  constructor
  · rintro ⟨hcontrol, -⟩
    exact (hcontrol _ (List.mem_replicate.2 ⟨h, rfl⟩)).2
  · intro himage
    constructor <;> intro n hn <;> rw [List.eq_of_mem_replicate hn] <;>
      exact ⟨nofun, himage⟩

/-- The address that a configuration names, if it names one, is an address of the family; the one of
the host itself always is. -/
theorem address_outline : Spec.addressIssue? (c.outline family).networking = none ↔
    ∀ text, c.apiAddress = some text →
      ∃ a, Address.parse? text = some a ∧ (a.isV6 = true ↔ family = .ipv6) := by
  have hfamily : (c.outline family).networking.family = family := family_ofFamily family
  rw [Spec.addressIssue?_eq_none_iff, hfamily]
  cases haddress : c.apiAddress with
  | some text => simp [outline, haddress]
  | none => simpa [outline, haddress] using exists_loopback family

/-! ## Both looks at a configuration -/

theorem issue?_eq_none_iff : c.issue? = none ↔ c.name ≠ "" ∧ c.controlPlanes ≠ 0 ∧
    (∃ family, Family.read c.family = .ok family) ∧ c.network ≠ "" := by
  have hfamily : isFamily c.family = true ↔ ∃ family, Family.read c.family = .ok family := by
    unfold isFamily
    cases Family.read c.family <;> simp
  rw [← hfamily, issue?]
  split_ifs <;> simp_all

/-- What only the second look sees: the characters of the name, the image, and whether the address
is one of the family. -/
structure Specifiable (c : Configuration) (family : Family) : Prop where
  plain : ∀ ch ∈ c.name.toList, Spec.isNameChar ch = true
  image : c.image ≠ ""
  address : ∀ text, c.apiAddress = some text →
    ∃ a, Address.parse? text = some a ∧ (a.isV6 = true ↔ family = .ipv6)

/-- **When an outline is valid.** -/
theorem valid_outline_iff (hread : Family.read c.family = .ok family) :
    (c.outline family).Valid ↔ c.issue? = none ∧ c.Specifiable family := by
  rw [Spec.valid_iff, issue?_eq_none_iff, controlPlaneCount_outline, address_outline]
  constructor
  · rintro ⟨hname, hplain, hnetwork, hnodes, hcount, haddress⟩
    exact ⟨⟨hname, hcount, ⟨family, hread⟩, hnetwork⟩, hplain, (image_outline hcount).1 hnodes,
      haddress⟩
  · rintro ⟨⟨hname, hcount, -, hnetwork⟩, hplain, himage, haddress⟩
    exact ⟨hname, hplain, hnetwork, (image_outline hcount).2 himage, hcount, haddress⟩

/-- The cluster that a configuration asks for. -/
structure Described (c : Configuration) (s : Spec) : Prop where
  name : s.name = c.name
  network : s.network = c.network
  /-- The control planes come first; all nodes have the image of the configuration. -/
  nodes : s.nodes = List.replicate c.controlPlanes { role := .controlPlane, image := c.image } ++
    List.replicate c.workers { role := .worker, image := c.image }
  port : s.networking.apiServerPort = c.apiPort
  /-- The case of letters does not matter. -/
  family : c.family.toList.map Char.toLower = s.networking.family.name.toList
  address : s.networking.apiServerAddress = c.apiAddress.getD s.networking.family.loopback
  subnets : s.networking.podSubnet = (Networking.ofFamily s.networking.family).podSubnet ∧
    s.networking.serviceSubnet = (Networking.ofFamily s.networking.family).serviceSubnet
  balancer : s.hasBalancer = true ↔ 1 < c.controlPlanes
  /-- Every plan of the cluster has a load balancer just as well. -/
  planned : ∀ p : PlannedCluster, p.spec = s → (p.balancer?.isSome ↔ 1 < c.controlPlanes)

theorem described_outline (hread : Family.read c.family = .ok family) :
    Described c (c.outline family) where
  name := rfl
  network := rfl
  nodes := rfl
  port := rfl
  family := by
    rw [familyRead_eq_ok_iff.1 hread]
    cases family <;> rfl
  address := by cases family <;> rfl
  subnets := by cases family <;> exact ⟨rfl, rfl⟩
  balancer := by
    rw [Spec.hasBalancer, controlPlaneCount_outline]
    exact decide_eq_true_iff
  planned p hp := by rw [p.isSome_balancer?, hp, controlPlaneCount_outline]

/-- **Both looks at a configuration agree.** Whatever is in the environment, the configuration is
what its variables say. What is wrong with it on the first look keeps it from being specified; so if
it is specified, nothing is, and what is specified is the cluster that it asks for. It is specified
exactly if nothing is wrong with it on the first look and on what only the second one sees. -/
theorem looks_agree (find : String → Option String) :
    FromVariables find (ofEnvironment find) ∧
    (∀ issue, (ofEnvironment find).issue? = some issue →
      ∃ fault, (ofEnvironment find).spec = .error fault) ∧
    (∀ s, (ofEnvironment find).spec = .ok s →
      (ofEnvironment find).issue? = none ∧ Described (ofEnvironment find) s) ∧
    ((∃ s, (ofEnvironment find).spec = .ok s) ↔ (ofEnvironment find).issue? = none ∧
      ∃ family, Family.read (ofEnvironment find).family = .ok family ∧
        Specifiable (ofEnvironment find) family) := by
  generalize hc : ofEnvironment find = c
  have hagree : ∀ s, c.spec = .ok s → c.issue? = none ∧ Described c s := by
    intro s hs
    obtain ⟨family, hread, rfl, hvalid⟩ := spec_eq_ok_iff.1 hs
    exact ⟨((valid_outline_iff hread).1 hvalid).1, described_outline hread⟩
  refine ⟨hc ▸ fromVariables_ofEnvironment find, fun issue hissue => ?_, hagree, ?_, ?_⟩
  · cases hs : c.spec with
    | error fault => exact ⟨fault, rfl⟩
    | ok s =>
      rw [(hagree s hs).1] at hissue
      cases hissue
  · rintro ⟨s, hs⟩
    obtain ⟨family, hread, -, hvalid⟩ := spec_eq_ok_iff.1 hs
    obtain ⟨hissue, hspecifiable⟩ := (valid_outline_iff hread).1 hvalid
    exact ⟨hissue, family, hread, hspecifiable⟩
  · rintro ⟨hissue, family, hread, hspecifiable⟩
    exact ⟨_, spec_eq_ok_iff.2
      ⟨family, hread, rfl, (valid_outline_iff hread).2 ⟨hissue, hspecifiable⟩⟩⟩

/-- Numbers with a plus sign and with a zero before them, one that is none, an address that is empty
and a family in other letters. -/
def spelledEnvironment (key : String) : Option String :=
  [("KINDER_NAME", "lab"), ("KINDER_CONTROL_PLANES", "+3"), ("KINDER_WORKERS", "many"),
    ("KINDER_IP_FAMILY", "IPv6"), ("KINDER_API_ADDRESS", ""),
    ("KINDER_API_PORT", "06443")].lookup key

theorem spelledEnvironment_agree :
    (ofEnvironment fun _ => some "").issue? = some .emptyName ∧
    (∃ fault, (ofEnvironment fun _ => some "").spec = .error fault) ∧
    ∃ s, (ofEnvironment spelledEnvironment).spec = .ok s ∧
      (ofEnvironment spelledEnvironment).issue? = none ∧
      Described (ofEnvironment spelledEnvironment) s ∧ s.nodes.length = 3 ∧
      s.networking.apiServerAddress = "::1" ∧ s.networking.apiServerPort = 6443 := by
  have hempty : (ofEnvironment fun _ => some "").issue? = some .emptyName := by decide
  have hspec : (ofEnvironment spelledEnvironment).spec =
      .ok ((ofEnvironment spelledEnvironment).outline .ipv6) :=
    spec_eq_ok_iff.2 ⟨.ipv6, rfl, rfl, by decide⟩
  obtain ⟨hissue, hdescribed⟩ := (looks_agree spelledEnvironment).2.2.1 _ hspec
  exact ⟨hempty, (looks_agree _).2.1 _ hempty, _, hspec, hissue, hdescribed, by decide, by decide,
    by decide⟩

end Configuration

end LocalCluster.CommandLine
