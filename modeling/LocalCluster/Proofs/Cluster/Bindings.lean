import LocalCluster.Cluster.Node
import LocalCluster.Container.Mount
import LocalCluster.Proofs.Cluster.Endpoints
import LocalCluster.Proofs.Text.Printed

/-!
# Mounts and published ports are read back

A mount is two paths and perhaps options with colons between, and a published port ends in the port
of the container and a protocol, so that what remains before them can have colons of its own.

* `readMount?`; **`readMount?_binding`**: a mount is read back, if no path of it holds a colon.
* `withoutBrackets`: an address without the brackets that version 6 needs before a port;
  `PortMapping.unbracketed`: a published port with such an address.
* `readBinding?`; **`readBinding?_binding`**: a published port is read back, up to these brackets.
-/

namespace LocalCluster

open LocalCluster.Container LocalCluster.Net LocalCluster.Text

namespace Cluster

/-! ## Mounts -/

/-- The options that a mount can have. -/
def mountOptions : List String := ["ro", "Z", "rslave", "rshared"]

/-- The mount that a text asks for. -/
def readMount? (text : String) : Option Mount :=
  match split ':' text with
  | [host, container] => some { hostPath := host, containerPath := container }
  | [host, container, listed] =>
    let options := split ',' listed
    if ∀ option ∈ options, option ∈ mountOptions then
      some
        { hostPath := host
          containerPath := container
          readOnly := "ro" ∈ options
          selinuxRelabel := "Z" ∈ options
          propagation :=
            if "rshared" ∈ options then .bidirectional
            else if "rslave" ∈ options then .hostToContainer
            else .none }
    else none
  | _ => none

/-- The options of a mount that is not plain are told apart by their commas, and hold no colon. -/
theorem split_options (m : Mount) (h : m.options ≠ []) :
    split ',' (join "," m.options) = m.options ∧ ':' ∉ (join "," m.options).toList := by
  obtain ⟨host, container, readOnly, relabel, propagation⟩ := m
  -- the options do not hang on the paths
  change (Mount.mk "" "" readOnly relabel propagation).options ≠ [] at h
  change split ',' (join "," (Mount.mk "" "" readOnly relabel propagation).options) =
      (Mount.mk "" "" readOnly relabel propagation).options ∧
    ':' ∉ (join "," (Mount.mk "" "" readOnly relabel propagation).options).toList
  cases readOnly <;> cases relabel <;> cases propagation <;>
    first | exact absurd rfl h | exact ⟨by decide, by decide⟩

/-- **A mount is read back.** -/
theorem readMount?_binding {m : Mount} (hhost : ':' ∉ m.hostPath.toList)
    (hcontainer : ':' ∉ m.containerPath.toList) : readMount? m.binding = some m := by
  have hcolon : (":" : String) = String.singleton ':' := rfl
  by_cases hplain : m.options = []
  · have hbinding : m.binding = m.hostPath ++ String.singleton ':' ++ m.containerPath := by
      simp [Mount.binding, hplain, hcolon]
    rw [readMount?, hbinding, split_append hhost, split_singleton hcontainer]
    obtain ⟨host, container, readOnly, relabel, propagation⟩ := m
    cases readOnly <;> cases relabel <;> cases propagation <;> first | rfl | cases hplain
  · obtain ⟨hsplit, hoptions⟩ := split_options m hplain
    have hbinding : m.binding = m.hostPath ++ String.singleton ':' ++
        (m.containerPath ++ String.singleton ':' ++ join "," m.options) := by
      simp [Mount.binding, hplain, hcolon, String.append_assoc]
    rw [readMount?, hbinding, split_append hhost, split_append hcontainer,
      split_singleton hoptions]
    dsimp only
    rw [hsplit]
    obtain ⟨host, container, readOnly, relabel, propagation⟩ := m
    cases readOnly <;> cases relabel <;> cases propagation <;>
      first | exact absurd rfl hplain | rfl

/-! ## Published ports -/

/-- An address without the brackets that version 6 needs before a port. -/
def withoutBrackets (host : String) : String :=
  match host.toList with
  | '[' :: inner =>
    match stripSuffix [']'] inner with
    | some bare => if isV6Text (String.ofList bare) then String.ofList bare else host
    | none => host
  | _ => host

end Cluster

/-- A mapping whose address is without such brackets. -/
def Container.PortMapping.unbracketed (p : PortMapping) : PortMapping :=
  { p with listenAddress := Cluster.withoutBrackets p.listenAddress }

namespace Cluster

/-- The protocol of a name. -/
def readProtocol? (name : String) : Option Protocol :=
  if name = "TCP" then some .tcp
  else if name = "UDP" then some .udp
  else if name = "SCTP" then some .sctp
  else none

/-- The mapping that a text asks for. -/
def readBinding? (text : String) : Option PortMapping := do
  let (front, protocol) ← cutLast '/' text.toList
  let (listener, container) ← cutLast ':' front
  let containerPort ← Node.readPort? (String.ofList container)
  let protocol ← readProtocol? (String.ofList protocol)
  match cutLast ':' listener with
  | some (host, port) =>
    let hostPort ← Node.readPort? (String.ofList port)
    return ⟨withoutBrackets (String.ofList host), hostPort, containerPort, protocol⟩
  | none =>
    let hostPort ← Node.readPort? (String.ofList listener)
    return ⟨"", hostPort, containerPort, protocol⟩

theorem readPort?_toString (p : Port) : Node.readPort? (toString p.toNat) = some p := by
  have hlimit : p.toNat ≤ maxPort := Nat.le_of_lt_succ p.toNat_lt
  rw [Node.readPort?, readNat_toString hlimit]
  simp

theorem readProtocol?_name (p : Protocol) :
    readProtocol? p.name = some p ∧ '/' ∉ p.name.toList := by
  cases p <;> decide

theorem cutLast_eq_none {c : Char} {xs : List Char} (h : c ∉ xs) : cutLast c xs = none := by
  induction xs with
  | nil => rfl
  | cons x xs ih =>
    obtain ⟨hx, hxs⟩ := not_or.1 (mt List.mem_cons.2 h)
    simp [cutLast, ih hxs, Ne.symm hx]

theorem withoutBrackets_bracketHost (host : String) :
    withoutBrackets (bracketHost host) = withoutBrackets host := by
  unfold bracketHost
  split
  · next hv6 =>
    obtain ⟨address, haddress⟩ : ∃ address, Address.parse? host = some address := by
      cases hparse : Address.parse? host with
      | some address => exact ⟨address, rfl⟩
      | none => simp [isV6Text, hparse] at hv6
    obtain ⟨ch, rest, hhost, hch⟩ := head_of_address haddress
    have hbare : withoutBrackets host = host := by
      unfold withoutBrackets
      split
      · next inner hinner =>
        rw [hhost] at hinner
        cases hinner
        exact absurd hch (by decide)
      · rfl
    have hlist : ("[" ++ host ++ "]").toList = '[' :: (host.toList ++ [']']) := by simp
    rw [hbare, withoutBrackets, hlist]
    simp [stripSuffix_append, hv6]
  · rfl

/-- **A published port is read back**, up to the brackets around a version 6 address. -/
theorem readBinding?_binding (p : PortMapping) : readBinding? p.binding = some p.unbracketed := by
  have hcolon : ∀ {n : Nat}, ':' ∉ (toString n).toList := not_mem_toString (by decide)
  obtain ⟨hprotocol, hslash⟩ := readProtocol?_name p.protocol
  have hfront : cutLast '/' p.binding.toList =
      some (p.listener.toList ++ ':' :: (toString p.containerPort.toNat).toList,
        p.protocol.name.toList) := by
    have htext : p.binding.toList = (p.listener.toList ++
        ':' :: (toString p.containerPort.toNat).toList) ++ '/' :: p.protocol.name.toList := by
      simp [PortMapping.binding]
    rw [htext, cutLast_append _ _ _ hslash]
  rw [readBinding?, hfront]
  have hback : cutLast ':' (p.listener.toList ++ ':' :: (toString p.containerPort.toNat).toList) =
      some (p.listener.toList, (toString p.containerPort.toNat).toList) :=
    cutLast_append _ _ _ hcolon
  simp only [Option.bind_eq_bind, Option.bind_some, hback, String.ofList_toList,
    readPort?_toString, hprotocol]
  by_cases haddress : p.listenAddress = ""
  · have hlistener : p.listener = toString p.hostPort.toNat := if_pos haddress
    simp only [hlistener, cutLast_eq_none hcolon, readPort?_toString]
    simp [PortMapping.unbracketed, haddress, withoutBrackets]
  · have hlistener : p.listener.toList =
        (bracketHost p.listenAddress).toList ++ ':' :: (toString p.hostPort.toNat).toList := by
      simp [PortMapping.listener, haddress]
    simp only [hlistener, cutLast_append _ _ _ hcolon, String.ofList_toList, readPort?_toString,
      withoutBrackets_bracketHost]
    rfl

end Cluster

end LocalCluster
