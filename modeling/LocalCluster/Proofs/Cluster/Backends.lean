import LocalCluster.Cluster.Balancer
import LocalCluster.Proofs.Cluster.Bindings
import LocalCluster.Proofs.Cluster.NodeWork
import LocalCluster.Proofs.Container.Reading

/-!
# Backends are read back

The configuration of a load balancer has a line for each server. Such a line is read from both ends:
the name stands before the first blank, the options at the end are known, and the port stands after
the last colon before them. What remains is the host, whatever it holds.

The addresses of a node come in lines too, one for each network that it has joined.

* `Server`, `readServer?`, `readServers?`; **`readServers?_render`**: backends are read back.
* `Node.Reports`: the networks that lines tell of; `Node.Preferred`: the one that counts.
* **`Node.attachmentOfLines_eq_ok_iff`**, `Node.attachmentOfLines_error`: what lines give;
  `Node.follows_addresses`: lines are asked for with one command.
-/

namespace LocalCluster.Cluster

open LocalCluster.Container LocalCluster.Net LocalCluster.Text Script

/-! ## Servers -/

namespace Balancer

/-- A server that a configuration names. -/
structure Server where
  name : String
  /-- Its address, in brackets where a port could not follow it otherwise. -/
  host : String
  port : Port
  deriving DecidableEq, Repr

/-- The server that a backend becomes. -/
def Backend.server (b : Backend) : Server := ⟨b.name, bracketHost b.address, b.port⟩

/-- What the line of a server begins with. -/
def serverMark : String := "  server "

/-- What the line of a server ends with. -/
def serverOptions (ipv6 : Bool) : String :=
  " check check-ssl verify none resolvers docker resolve-prefer " ++ familyName ipv6

/-- The line of a server without the options at its end. -/
def withoutOptions? (line : List Char) : Option (List Char) :=
  (stripSuffix (serverOptions false).toList line).or (stripSuffix (serverOptions true).toList line)

/-- The server that a line tells of. -/
def readServer? (line : String) : Option Server := do
  let marked ← stripPrefix serverMark.toList line.toList
  let (name, rest) ← cutFirst ' ' marked
  let listener ← withoutOptions? rest
  let (host, port) ← cutLast ':' listener
  let port ← Node.readPort? (String.ofList port)
  return ⟨String.ofList name, String.ofList host, port⟩

/-- The line tells of a server. -/
def isServerLine (line : String) : Bool := serverMark.toList.isPrefixOf line.toList

/-- The servers in the contents of a configuration, in order. -/
def readServers? (contents : Bytes) : Option (List Server) := do
  let text ← decode? contents
  ((split '\n' text).filter isServerLine).mapM readServer?

variable {ipv6 : Bool} {b : Backend} {backends : List Backend}

theorem withoutOptions?_append (listener : List Char) :
    withoutOptions? (listener ++ (serverOptions ipv6).toList) = some listener := by
  cases ipv6 with
  | false => simp [withoutOptions?, stripSuffix_append]
  | true =>
    have hother : stripSuffix (serverOptions false).toList
        (listener ++ (serverOptions true).toList) = none := by
      -- the last character tells them apart
      rw [stripSuffix, List.reverse_append]
      rfl
    rw [withoutOptions?, hother, stripSuffix_append]
    rfl

theorem serverLine_eq : serverLine ipv6 b = serverMark ++ (b.name ++ " " ++
    (bracketHost b.address ++ ":" ++ toString b.port.toNat ++ serverOptions ipv6)) := by
  unfold serverLine serverMark serverOptions
  simp only [String.append_assoc]

theorem serverLine_toList : (serverLine ipv6 b).toList = serverMark.toList ++
    (b.name.toList ++ ' ' :: (((bracketHost b.address).toList ++
      ':' :: (toString b.port.toNat).toList) ++ (serverOptions ipv6).toList)) := by
  simp [serverLine_eq]

theorem readServer?_serverLine (hname : ' ' ∉ b.name.toList) :
    readServer? (serverLine ipv6 b) = some b.server := by
  have hport : ':' ∉ (toString b.port.toNat).toList := not_mem_toString (by decide)
  rw [readServer?, serverLine_toList, stripPrefix_append]
  simp only [Option.bind_eq_bind, Option.bind_some, cutFirst_append _ hname,
    withoutOptions?_append, cutLast_append _ _ _ hport, String.ofList_toList, readPort?_toString]
  rfl

theorem mapM_serverLine (hname : ∀ b ∈ backends, ' ' ∉ b.name.toList) :
    (backends.map (serverLine ipv6)).mapM readServer? = some (backends.map Backend.server) := by
  rw [mapM_eq_some_iff, List.map_map, List.map_map]
  exact List.map_congr_left fun b hb => readServer?_serverLine (hname b hb)

theorem isServerLine_serverLine : isServerLine (serverLine ipv6 b) = true := by
  rw [isServerLine, serverLine_toList]
  exact List.isPrefixOf_iff_prefix.2 (List.prefix_append _ _)

theorem feed_not_mem_serverLine (hname : '\n' ∉ b.name.toList)
    (haddress : '\n' ∉ b.address.toList) : '\n' ∉ (serverLine ipv6 b).toList := by
  have hhost : '\n' ∉ (bracketHost b.address).toList := by
    rw [bracketHost_toList]
    split
    · simpa using haddress
    · exact haddress
  have hport : '\n' ∉ (toString b.port.toNat).toList := not_mem_toString (by decide)
  have hmark : '\n' ∉ serverMark.toList := by decide
  have hoptions : '\n' ∉ (serverOptions ipv6).toList := by cases ipv6 <;> decide
  rw [serverLine_toList]
  simp only [List.mem_append, List.mem_cons, not_or]
  exact ⟨hmark, hname, by decide, ⟨hhost, by decide, hport⟩, hoptions⟩

/-- The lines of a configuration before those of its servers. -/
def headLines (ipv6 : Bool) : List String :=
  preamble ++ binds ipv6 ++
    ["  default_backend kube-apiservers", "", "backend kube-apiservers",
      "  option httpchk GET /healthz"]

theorem headLines_plain (ipv6 : Bool) :
    (headLines ipv6).filter isServerLine = [] ∧ ∀ l ∈ headLines ipv6, '\n' ∉ l.toList := by
  cases ipv6 <;> decide +kernel

/-- **Backends are read back from the configuration** that names them, if no name holds a blank and
nothing of them ends a line. -/
theorem readServers?_render (hblank : ∀ b ∈ backends, ' ' ∉ b.name.toList)
    (hname : ∀ b ∈ backends, '\n' ∉ b.name.toList)
    (haddress : ∀ b ∈ backends, '\n' ∉ b.address.toList) :
    readServers? (encode (render backends ipv6)) = some (backends.map Backend.server) := by
  obtain ⟨hhead, hplain⟩ := headLines_plain ipv6
  have hlines : split '\n' (render backends ipv6) =
      headLines ipv6 ++ backends.map (serverLine ipv6) ++ [""] := by
    refine split_printLines fun l hl => ?_
    rcases List.mem_append.1 hl with hl | hl
    · exact hplain l hl
    · obtain ⟨b, hb, rfl⟩ := List.mem_map.1 hl
      exact feed_not_mem_serverLine (hname b hb) (haddress b hb)
  have hservers : (backends.map (serverLine ipv6)).filter isServerLine =
      backends.map (serverLine ipv6) := by
    refine List.filter_eq_self.2 fun l hl => ?_
    obtain ⟨b, -, rfl⟩ := List.mem_map.1 hl
    exact isServerLine_serverLine
  have hend : [""].filter isServerLine = [] := by decide
  rw [readServers?, decode?_encode]
  simp only [Option.bind_eq_bind, Option.bind_some, hlines, List.filter_append, hhead, hservers,
    hend, List.nil_append, List.append_nil]
  exact mapM_serverLine hblank

end Balancer

/-! ## Addresses -/

namespace Node

/-- The command that asks for the addresses of a node. -/
def addressQuery (n : Node) : Command := n.engine.inspection n.name addressFormat

/-- The address of a family. -/
def Attachment.address (ipv6 : Bool) (a : Attachment) : String := if ipv6 then a.v6 else a.v4

/-- The lines tell of these networks, in this order; empty lines tell of none. -/
def Reports (lines : List String) (attached : List Attachment) : Prop :=
  List.Forall₂ (fun line a => split ',' line = [a.network, a.v4, a.v6])
    (lines.filter (· ≠ "")) attached

/-- The attachment that counts: the one to the network, or the first one of a node that has not
joined it. -/
inductive Preferred (network : String) : List Attachment → Attachment → Prop where
  | joined {before after : List Attachment} {a : Attachment}
      (hbefore : ∀ b ∈ before, b.network ≠ network) (ha : a.network = network) :
      Preferred network (before ++ a :: after) a
  | elsewhere {a : Attachment} {rest : List Attachment}
      (h : ∀ b ∈ a :: rest, b.network ≠ network) : Preferred network (a :: rest) a

variable {n : Node} {network line : String} {lines : List String} {attached : List Attachment}
  {a : Attachment} {fault : Fault}

theorem Preferred.mem (h : Preferred network attached a) : a ∈ attached := by
  cases h with
  | joined => exact List.mem_append_right _ List.mem_cons_self
  | elsewhere => exact List.mem_cons_self

theorem chooseAttachment?_eq_some_iff :
    chooseAttachment? network attached = some a ↔ Preferred network attached a := by
  constructor
  · intro h
    unfold chooseAttachment? at h
    cases hfind : attached.find? (·.network = network) with
    | some found =>
      rw [hfind] at h
      obtain rfl := Option.some.inj h
      obtain ⟨hfound, before, after, rfl, hbefore⟩ := List.find?_eq_some_iff_append.1 hfind
      exact .joined (fun b hb => by simpa using hbefore b hb) (by simpa using hfound)
    | none =>
      rw [hfind] at h
      obtain ⟨rest, rfl⟩ := List.head?_eq_some_iff.1 h
      exact .elsewhere fun b hb => by simpa using List.find?_eq_none.1 hfind b hb
  · intro h
    unfold chooseAttachment?
    cases h with
    | @joined before after _ hbefore ha =>
      have hfind : (before ++ a :: after).find? (·.network = network) = some a :=
        List.find?_eq_some_iff_append.2
          ⟨by simpa using ha, before, after, rfl, fun b hb => by simpa using hbefore b hb⟩
      rw [hfind]
      rfl
    | @elsewhere _ rest h =>
      have hfind : (a :: rest).find? (·.network = network) = none :=
        List.find?_eq_none.2 fun b hb => by simpa using h b hb
      rw [hfind]
      rfl

theorem attachmentOfLine_eq_ok_iff :
    n.attachmentOfLine line = .ok a ↔ split ',' line = [a.network, a.v4, a.v6] := by
  constructor
  · intro h
    unfold attachmentOfLine at h
    split at h
    · next hparts =>
      cases h
      exact hparts
    · cases h
  · intro h
    rw [attachmentOfLine, h]

theorem attachmentOfLine_error (h : n.attachmentOfLine line = .error fault) :
    (split ',' line).length ≠ 3 := by
  intro hlength
  obtain ⟨network, v4, v6, hsplit⟩ := List.length_eq_three.1 hlength
  have hok : n.attachmentOfLine line = .ok ⟨network, v4, v6⟩ := attachmentOfLine_eq_ok_iff.2 hsplit
  rw [hok] at h
  cases h

theorem attachmentOfLines_eq (n : Node) (network : String) (lines : List String) :
    n.attachmentOfLines network lines =
      ((lines.filter (· ≠ "")).mapM n.attachmentOfLine).bind fun attached =>
        match chooseAttachment? network attached with
        | some a => .ok a
        | none => .error (n.unexpected "node is not attached to any network") := rfl

/-- **What lines give is the attachment that counts** among those that they tell of. -/
theorem attachmentOfLines_eq_ok_iff : n.attachmentOfLines network lines = .ok a ↔
    ∃ attached, Reports lines attached ∧ Preferred network attached a := by
  have hreports : ∀ attached, (lines.filter (· ≠ "")).mapM n.attachmentOfLine = .ok attached ↔
      Reports lines attached := fun attached => by
    simp only [mapM_eq_ok_iff, attachmentOfLine_eq_ok_iff, Reports]
  rw [attachmentOfLines_eq]
  constructor
  · intro h
    cases hmap : (lines.filter (· ≠ "")).mapM n.attachmentOfLine with
    | error fault =>
      rw [hmap] at h
      cases h
    | ok attached =>
      rw [hmap, Except.bind] at h
      refine ⟨attached, (hreports attached).1 hmap, chooseAttachment?_eq_some_iff.1 ?_⟩
      cases hchoose : chooseAttachment? network attached with
      | some found =>
        rw [hchoose] at h
        exact congrArg some (Except.ok.inj h)
      | none =>
        rw [hchoose] at h
        cases h
  · rintro ⟨attached, hattached, hpreferred⟩
    rw [(hreports attached).2 hattached, Except.bind, chooseAttachment?_eq_some_iff.2 hpreferred]

theorem attachmentOfLines_error (h : n.attachmentOfLines network lines = .error fault) :
    (∃ line ∈ lines, line ≠ "" ∧ (split ',' line).length ≠ 3) ∨ ∀ line ∈ lines, line = "" := by
  rw [attachmentOfLines_eq] at h
  cases hmap : (lines.filter (· ≠ "")).mapM n.attachmentOfLine with
  | error cause =>
    obtain ⟨line, hline, hfault⟩ := exists_error_of_mapM hmap
    obtain ⟨hline, hne⟩ := List.mem_filter.1 hline
    exact .inl ⟨line, hline, by simpa using hne, attachmentOfLine_error hfault⟩
  | ok attached =>
    right
    rw [hmap, Except.bind] at h
    cases hchoose : chooseAttachment? network attached with
    | some found =>
      rw [hchoose] at h
      cases h
    | none =>
      obtain ⟨-, hhead⟩ := Option.or_eq_none_iff.1 hchoose
      obtain rfl := List.head?_eq_none_iff.1 hhead
      have hempty := List.forall₂_nil_right_iff.1 (mapM_eq_ok_iff.1 hmap)
      intro line hline
      simpa using List.filter_eq_nil_iff.1 hempty line hline

theorem follows_addresses {t : List (Exchange Request Request.Answer)}
    {r : Except Fault Attachment} (h : Follows (n.addresses network).run t r) :
    ∃ answer, t = [⟨.command n.addressQuery, answer⟩] ∧
      r = (answer.mapError Fault.runtime).bind fun o => n.attachmentOfLines network o.lines := by
  obtain ⟨lines, hlines, rfl⟩ := follows_run_judged_iff.1 h
  obtain ⟨told, hcall, rfl⟩ := follows_toWork_iff.1 hlines
  obtain ⟨answer, hrun, rfl⟩ := follows_run_judged_iff.1 hcall
  refine ⟨answer, follows_runCommand_iff.1 hrun, ?_⟩
  cases answer <;> rfl

theorem Reports.feed_not_mem {bs : Bytes} {ipv6 : Bool} (h : Reports (linesOfBytes bs) attached)
    (ha : a ∈ attached) : '\n' ∉ (a.address ipv6).toList := by
  intro hfeed
  obtain ⟨line, hline, hsplit⟩ := exists_mem_of_forall₂ h ha
  have hpiece : a.address ipv6 ∈ split ',' line := by
    rw [hsplit, Attachment.address]
    split <;> simp
  exact feed_not_mem_of_mem_linesOfBytes (List.mem_filter.1 hline).1 (mem_of_mem_split hpiece hfeed)

end Node

end LocalCluster.Cluster
