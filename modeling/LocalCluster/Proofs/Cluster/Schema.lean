import LocalCluster.Cluster.Document
import LocalCluster.Proofs.Text.Numerals
import LocalCluster.Proofs.Text.Printed

/-!
# The schema of specifications

What a document of a specification is made of: values of some kinds, and records with named fields,
some of which have a default. Records are read by their fields, and each value is read back from
what it is written as.

* `Kind`, `Kind.read`, `Kind.write`: what values stand for and are written as, by kind.
* `Field`, `Kind.fields`: the fields of records; `Kind.names`: the names of plain alternatives.
* **`exists_make`**: a record is read by its fields (`readSlots`), from an object by their names
  (`readMembers`) and from an array in their order.
* **`read_write`**: what is written is read back; `Spec.ofJson?_toJson`: a whole specification.
-/

namespace LocalCluster.Cluster

open LocalCluster.Container LocalCluster.Text

/-! ## Kinds -/

/-- What a value in a document is expected to be. -/
inductive Kind where
  | text
  | truth
  | port
  | role
  | family
  | protocol
  | propagation
  | mount
  | portMapping
  | node
  | networking
  | spec
  | list (item : Kind)
  deriving DecidableEq, Repr

namespace Kind

/-- What the values of a kind stand for. -/
@[reducible] def Value : Kind → Type
  | .text => String
  | .truth => Bool
  | .port => Port
  | .role => Role
  | .family => Family
  | .protocol => Protocol
  | .propagation => Propagation
  | .mount => Mount
  | .portMapping => PortMapping
  | .node => NodeSpec
  | .networking => Networking
  | .spec => Spec
  | .list item => List item.Value

/-- What a value stands for where that kind is expected. -/
def read : (k : Kind) → Json → Option k.Value
  | .text => Json.text?
  | .truth => Json.bool?
  | .port => Port.ofJson?
  | .role => Role.ofJson?
  | .family => Family.ofJson?
  | .protocol => Protocol.ofJson?
  | .propagation => Propagation.ofJson?
  | .mount => Mount.ofJson?
  | .portMapping => PortMapping.ofJson?
  | .node => NodeSpec.ofJson?
  | .networking => Networking.ofJson?
  | .spec => Spec.ofJson?
  | .list item => Json.list? item.read

/-- What it is written as. -/
def write : (k : Kind) → k.Value → Json
  | .text, v => .string v
  | .truth, v => .bool v
  | .port, v => Port.toJson v
  | .role, v => Role.toJson v
  | .family, v => Family.toJson v
  | .protocol, v => Protocol.toJson v
  | .propagation, v => Propagation.toJson v
  | .mount, v => Mount.toJson v
  | .portMapping, v => PortMapping.toJson v
  | .node, v => NodeSpec.toJson v
  | .networking, v => Networking.toJson v
  | .spec, v => Spec.toJson v
  | .list item, v => .array (v.map item.write)

/-- The names of plain alternatives; other kinds have none. -/
def names : Kind → List String
  | .role => ["control-plane", "worker", "external-load-balancer"]
  | .family => ["ipv4", "ipv6"]
  | .protocol => ["TCP", "UDP", "SCTP"]
  | .propagation => ["None", "HostToContainer", "Bidirectional"]
  | _ => []

end Kind

/-- A field of a record: its name, its kind, and what it stands for when it is missing, if it may
be. -/
structure Field where
  name : String
  kind : Kind
  default? : Option kind.Value

/-- The fields of the records of a kind, in order; other kinds have none. -/
def Kind.fields : Kind → List Field
  | .mount =>
    [⟨"hostPath", .text, none⟩, ⟨"containerPath", .text, none⟩, ⟨"readOnly", .truth, some false⟩,
      ⟨"selinuxRelabel", .truth, some false⟩, ⟨"propagation", .propagation, some .none⟩]
  | .portMapping =>
    [⟨"listenAddress", .text, some ""⟩, ⟨"hostPort", .port, none⟩, ⟨"containerPort", .port, none⟩,
      ⟨"protocol", .protocol, some .tcp⟩]
  | .node =>
    [⟨"role", .role, none⟩, ⟨"image", .text, some ""⟩, ⟨"extraMounts", .list .mount, some []⟩,
      ⟨"extraPortMappings", .list .portMapping, some []⟩, ⟨"networks", .list .text, some []⟩]
  | .networking =>
    [⟨"ipFamily", .family, none⟩, ⟨"apiServerAddress", .text, none⟩,
      ⟨"apiServerPort", .port, none⟩, ⟨"podSubnet", .text, none⟩, ⟨"serviceSubnet", .text, none⟩]
  | .spec =>
    [⟨"name", .text, none⟩, ⟨"nodes", .list .node, none⟩, ⟨"networking", .networking, none⟩,
      ⟨"network", .text, none⟩]
  | _ => []

/-! ## Records -/

/-- What the fields of a record stand for. -/
@[reducible] def Values : List Field → Type
  | [] => Unit
  | p :: ps => p.kind.Value × Values ps

/-- What a field stands for, if it is there or has a default. -/
def Field.read (p : Field) (slot : Option Json) : Option p.kind.Value :=
  match p.default? with
  | none => Json.required p.kind.read slot
  | some default => Json.optional default p.kind.read slot

/-- What the fields of a record stand for, from what is there of each. -/
def readSlots : (ps : List Field) → List (Option Json) → Option (Values ps)
  | [], [] => some ()
  | p :: ps, slot :: slots =>
    (p.read slot).bind fun v => (readSlots ps slots).map fun vs => (v, vs)
  | _, _ => none

/-- What the fields of a record stand for, from the members of an object. -/
def readMembers (members : List (String × Json)) : (ps : List Field) → Option (Values ps)
  | [] => some ()
  | p :: ps => ((Json.member? p.name members).bind p.read).bind fun v =>
    (readMembers members ps).map fun vs => (v, vs)

variable {k : Kind} {p : Field} {ps : List Field} {j : Json} {members : List (String × Json)}

@[simp] theorem Field.read_some : p.read (some j) = p.kind.read j := by
  unfold Field.read
  cases p.default? <;> rfl

@[simp] theorem Field.read_none : p.read none = p.default? := by
  unfold Field.read
  cases p.default? <;> rfl

theorem slots?_object : ((Json.object members).slots? (ps.map Field.name)).bind (readSlots ps) =
    readMembers members ps := by
  induction ps with
  | nil => rfl
  | cons p ps ih =>
    have hslots : (Json.object members).slots? ((p :: ps).map Field.name) =
        (Json.member? p.name members).bind fun slot =>
          ((Json.object members).slots? (ps.map Field.name)).map (slot :: ·) := by
      simp [Json.slots?, Option.map_eq_bind, Function.comp_def]
    rw [hslots, readMembers, ← ih]
    cases Json.member? p.name members with
    | none => rfl
    | some slot =>
      cases (Json.object members).slots? (ps.map Field.name) <;> simp [readSlots]

theorem exists_make_of {build : List (Option Json) → Option k.Value}
    (make : Values k.fields → k.Value)
    (hread : ∀ j, k.read j = (j.slots? (k.fields.map Field.name)).bind build)
    (hbuild : ∀ slots, build slots = (readSlots k.fields slots).map make) :
    ∃ make : Values k.fields → k.Value, ∀ j,
      k.read j = ((j.slots? (k.fields.map Field.name)).bind (readSlots k.fields)).map make := by
  refine ⟨make, fun j => ?_⟩
  rw [hread, Option.map_bind]
  exact congrArg _ (funext hbuild)

/-- **A record is read by its fields.** -/
theorem exists_make (hk : k.fields ≠ []) : ∃ make : Values k.fields → k.Value, ∀ j,
    k.read j = ((j.slots? (k.fields.map Field.name)).bind (readSlots k.fields)).map make := by
  cases k with
  | mount =>
    refine exists_make_of (fun (host, container, readOnly, relabel, propagation, _) =>
      ⟨host, container, readOnly, relabel, propagation⟩) (fun _ => rfl) fun slots => ?_
    rcases slots with _ | ⟨a, _ | ⟨b, _ | ⟨c, _ | ⟨d, _ | ⟨e, _ | ⟨f, rest⟩⟩⟩⟩⟩⟩ <;>
      simp only [Kind.fields, readSlots, Option.map_none, Option.bind_fun_none]
    simp only [Option.map_bind, Function.comp_def]
    rfl
  | portMapping =>
    refine exists_make_of (fun (listen, host, container, protocol, _) =>
      ⟨listen, host, container, protocol⟩) (fun _ => rfl) fun slots => ?_
    rcases slots with _ | ⟨a, _ | ⟨b, _ | ⟨c, _ | ⟨d, _ | ⟨e, rest⟩⟩⟩⟩⟩ <;>
      simp only [Kind.fields, readSlots, Option.map_none, Option.bind_fun_none]
    simp only [Option.map_bind, Function.comp_def]
    rfl
  | node =>
    refine exists_make_of (fun (role, image, mounts, ports, networks, _) =>
      ⟨role, image, mounts, ports, networks⟩) (fun _ => rfl) fun slots => ?_
    rcases slots with _ | ⟨a, _ | ⟨b, _ | ⟨c, _ | ⟨d, _ | ⟨e, _ | ⟨f, rest⟩⟩⟩⟩⟩⟩ <;>
      simp only [Kind.fields, readSlots, Option.map_none, Option.bind_fun_none]
    simp only [Option.map_bind, Function.comp_def]
    rfl
  | networking =>
    refine exists_make_of (fun (family, address, port, pods, services, _) =>
      ⟨family, address, port, pods, services⟩) (fun _ => rfl) fun slots => ?_
    rcases slots with _ | ⟨a, _ | ⟨b, _ | ⟨c, _ | ⟨d, _ | ⟨e, _ | ⟨f, rest⟩⟩⟩⟩⟩⟩ <;>
      simp only [Kind.fields, readSlots, Option.map_none, Option.bind_fun_none]
    simp only [Option.map_bind, Function.comp_def]
    rfl
  | spec =>
    refine exists_make_of (fun (name, nodes, networking, network, _) =>
      ⟨name, nodes, networking, network⟩) (fun _ => rfl) fun slots => ?_
    rcases slots with _ | ⟨a, _ | ⟨b, _ | ⟨c, _ | ⟨d, _ | ⟨e, rest⟩⟩⟩⟩⟩ <;>
      simp only [Kind.fields, readSlots, Option.map_none, Option.bind_fun_none]
    simp only [Option.map_bind, Function.comp_def]
    rfl
  | _ => exact absurd rfl hk

end LocalCluster.Cluster

/-! ## Round trips -/

namespace LocalCluster

open LocalCluster.Text

variable {j : Json} {limit n : Nat}

theorem Json.natural?_eq_some_iff : j.natural? limit = some n ↔
    ∃ spelling, j = .number spelling ∧ Numeral spelling.toList n ∧ n ≤ limit := by
  cases j with
  | number spelling => simp [Json.natural?, readDigits_eq_some_iff]
  | _ => exact ⟨nofun, nofun⟩

theorem Json.list?_map {α : Type} {read : Json → Option α} {write : α → Json} {xs : List α}
    (h : ∀ x ∈ xs, read (write x) = some x) :
    Json.list? read (.array (xs.map write)) = some xs := by
  rw [Json.list?, mapM_eq_some_iff, List.map_map]
  exact List.map_congr_left h

end LocalCluster

namespace LocalCluster.Container

open LocalCluster.Text

theorem Port.ofJson?_toJson (p : Port) : Port.ofJson? (Port.toJson p) = some p := by
  have hread : (Port.toJson p).natural? 65535 = some p.toNat :=
    Json.natural?_eq_some_iff.2 ⟨_, rfl, numeral_toString _, Nat.le_of_lt_succ p.toNat_lt⟩
  rw [Port.ofJson?, hread]
  simp

theorem Propagation.ofJson?_toJson (p : Propagation) : Propagation.ofJson? p.toJson = some p := by
  cases p <;> rfl

theorem Protocol.ofJson?_toJson (p : Protocol) : Protocol.ofJson? p.toJson = some p := by
  cases p <;> rfl

theorem Mount.ofJson?_toJson (m : Mount) : Mount.ofJson? m.toJson = some m := by
  simp [Mount.ofJson?, Mount.toJson, Json.slots?, Mount.parts, Json.member?, Json.required,
    Json.optional, Json.text?, Json.bool?, Propagation.ofJson?_toJson]

theorem PortMapping.ofJson?_toJson (p : PortMapping) : PortMapping.ofJson? p.toJson = some p := by
  simp [PortMapping.ofJson?, PortMapping.toJson, Json.slots?, PortMapping.parts, Json.member?,
    Json.required, Json.optional, Json.text?, Port.ofJson?_toJson, Protocol.ofJson?_toJson]

end LocalCluster.Container

namespace LocalCluster.Cluster

open LocalCluster.Container

theorem Role.ofJson?_toJson (r : Role) : Role.ofJson? r.toJson = some r := by
  cases r <;> rfl

theorem Family.ofJson?_toJson (f : Family) : Family.ofJson? f.toJson = some f := by
  cases f <;> rfl

theorem NodeSpec.ofJson?_toJson (n : NodeSpec) : NodeSpec.ofJson? n.toJson = some n := by
  have hmounts : Json.list? Mount.ofJson? (.array (n.mounts.map Mount.toJson)) = some n.mounts :=
    Json.list?_map fun m _ => Mount.ofJson?_toJson m
  have hports : Json.list? PortMapping.ofJson? (.array (n.ports.map PortMapping.toJson)) =
      some n.ports := Json.list?_map fun p _ => PortMapping.ofJson?_toJson p
  have hnetworks : Json.list? Json.text? (.array (n.networks.map .string)) = some n.networks :=
    Json.list?_map fun _ _ => rfl
  simp [NodeSpec.ofJson?, NodeSpec.toJson, Json.slots?, NodeSpec.parts, Json.member?, Json.required,
    Json.optional, Json.text?, Role.ofJson?_toJson, hmounts, hports, hnetworks]

theorem Networking.ofJson?_toJson (n : Networking) : Networking.ofJson? n.toJson = some n := by
  simp [Networking.ofJson?, Networking.toJson, Json.slots?, Networking.parts, Json.member?,
    Json.required, Json.text?, Family.ofJson?_toJson, Port.ofJson?_toJson]

/-- **A specification is read back.** -/
theorem Spec.ofJson?_toJson (s : Spec) : Spec.ofJson? s.toJson = some s := by
  have hnodes : Json.list? NodeSpec.ofJson? (.array (s.nodes.map NodeSpec.toJson)) =
      some s.nodes := Json.list?_map fun n _ => NodeSpec.ofJson?_toJson n
  simp [Spec.ofJson?, Spec.toJson, Json.slots?, Spec.parts, Json.member?, Json.required,
    Json.text?, Networking.ofJson?_toJson, hnodes]

/-- **What a value is written as is read back**, whatever its kind. -/
theorem read_write (k : Kind) (v : k.Value) : k.read (k.write v) = some v := by
  induction k with
  | text | truth => rfl
  | port => exact Port.ofJson?_toJson v
  | role => exact Role.ofJson?_toJson v
  | family => exact Family.ofJson?_toJson v
  | protocol => exact Protocol.ofJson?_toJson v
  | propagation => exact Propagation.ofJson?_toJson v
  | mount => exact Mount.ofJson?_toJson v
  | portMapping => exact PortMapping.ofJson?_toJson v
  | node => exact NodeSpec.ofJson?_toJson v
  | networking => exact Networking.ofJson?_toJson v
  | spec => exact Spec.ofJson?_toJson v
  | list item ih => exact Json.list?_map fun x _ => ih x

end LocalCluster.Cluster
