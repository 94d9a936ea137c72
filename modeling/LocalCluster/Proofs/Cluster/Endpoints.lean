import LocalCluster.Cluster.Endpoint
import LocalCluster.Proofs.Cluster.Naming
import LocalCluster.Proofs.Text.Trimmed

/-!
# Endpoints are read back

The text of an endpoint ends in a colon and a number, and a host with colons of its own stands in
brackets. Reading cuts at the last colon and takes the brackets off again.

* `Plainly`: hosts that are not mistaken for something else; `plainly_of_address`: an address is
  such a host.
* `hostRead`: the host that is read from the text of an endpoint; **`hostRead_eq_iff`**: when it is
  the host of that endpoint.
* **`parse?_pad_display`**: the text of an endpoint is read as an endpoint of that host.
* **`text_tells_endpoint`**: which endpoints are told by their texts.
-/

namespace LocalCluster.Cluster

open LocalCluster.Container LocalCluster.Net LocalCluster.Text

/-! ## Hosts -/

/-- A host that is not mistaken for something else: it is there, it does not begin with a blank and
it does not stand in brackets already. -/
structure Plainly (host : String) : Prop where
  nonempty : host ≠ ""
  first : ∀ ch, host.toList.head? = some ch → isBlank ch = false
  bare : ∀ inner, host.toList ≠ '[' :: (inner ++ [']'])

theorem bracketHost_toList {host : String} : (bracketHost host).toList =
    if isV6Text host then '[' :: (host.toList ++ [']']) else host.toList := by
  unfold bracketHost
  split <;> simp

theorem unbracket_cases (host : List Char) :
    (∃ inner, host = '[' :: (inner ++ [']']) ∧ Endpoint.unbracket host = inner) ∨
      (∀ inner, host ≠ '[' :: (inner ++ [']'])) ∧ Endpoint.unbracket host = host := by
  by_cases h : ∃ inner, host = '[' :: (inner ++ [']'])
  · obtain ⟨inner, rfl⟩ := h
    exact .inl ⟨inner, rfl, by simp [Endpoint.unbracket, stripSuffix_append]⟩
  · refine .inr ⟨not_exists.1 h, ?_⟩
    unfold Endpoint.unbracket
    split
    · next inner =>
      cases hstrip : stripSuffix [']'] inner with
      | none => rfl
      | some short => exact absurd ⟨short, by rw [stripSuffix_eq_some hstrip]⟩ h
    · rfl

theorem length_unbracket_le (host : List Char) :
    (Endpoint.unbracket host).length ≤ host.length := by
  rcases unbracket_cases host with ⟨inner, rfl, h⟩ | ⟨-, h⟩
  · simp only [h, List.length_cons, List.length_append]
    omega
  · rw [h]

theorem unbracket_eq_self_iff {host : List Char} :
    Endpoint.unbracket host = host ↔ ∀ inner, host ≠ '[' :: (inner ++ [']']) := by
  rcases unbracket_cases host with ⟨inner, rfl, h⟩ | ⟨hbare, h⟩
  · rw [h]
    refine ⟨fun heq => ?_, fun hbare => absurd rfl (hbare inner)⟩
    have hlength := congrArg List.length heq
    simp only [List.length_cons, List.length_append, List.length_nil] at hlength
    omega
  · exact ⟨fun _ => hbare, fun _ => h⟩

/-! ## Addresses -/

theorem isBlank_of_isHex {ch : Char} (h : isHex ch = true) : isBlank ch = false := by
  have hle : ∀ {a b : Char}, a ≤ b → a.toNat ≤ b.toNat := UInt32.le_iff_toNat_le.1
  by_cases hdigit : ch.isDigit = true
  · exact isBlank_of_isDigit hdigit
  refine isBlank_of_visible ?_
  by_cases hlower : ('a' ≤ ch && ch ≤ 'f') = true
  · obtain ⟨hlow, hhigh⟩ := Bool.and_eq_true_iff.1 hlower
    have hlow : 97 ≤ ch.toNat := hle (of_decide_eq_true hlow)
    have hhigh : ch.toNat ≤ 102 := hle (of_decide_eq_true hhigh)
    omega
  by_cases hupper : ('A' ≤ ch && ch ≤ 'F') = true
  · obtain ⟨hlow, hhigh⟩ := Bool.and_eq_true_iff.1 hupper
    have hlow : 65 ≤ ch.toNat := hle (of_decide_eq_true hlow)
    have hhigh : ch.toNat ≤ 70 := hle (of_decide_eq_true hhigh)
    omega
  · rw [isHex, hexValue, if_neg hdigit, if_neg hlower, if_neg hupper] at h
    cases h

theorem isHex_of_isDigit {ch : Char} (h : ch.isDigit = true) : isHex ch = true := by
  simp [isHex, hexValue, h]

theorem head_of_address {host : String} {a : Address} (h : Address.parse? host = some a) :
    ∃ ch rest, host.toList = ch :: rest ∧ (isHex ch = true ∨ ch = ':') := by
  unfold Address.parse? at h
  cases hhost : host.toList with
  | nil =>
    have hoctets : readOctets 4 [] = none := by decide
    have hv6 : readV6 [] = none := by decide
    simp [hhost, hoctets, hv6] at h
  | cons ch rest =>
    refine ⟨ch, rest, rfl, ?_⟩
    by_contra hch
    obtain ⟨hhex, hcolon⟩ := not_or.1 hch
    have hdigit : ch.isDigit = false := Bool.eq_false_iff.2 fun hd => hhex (isHex_of_isDigit hd)
    have hoctets : readOctets 4 (ch :: rest) = none := by simp [readOctets, readOctet, hdigit]
    have hgroups : readGroups 8 true (ch :: rest) = ([], false, ch :: rest) := by
      simp [readGroups, afterColon, hoctets, readGroup, hhex]
    have hv6 : readV6 (ch :: rest) = none := by
      simp [readV6, hgroups, hcolon]
    simp [hhost, hoctets, hv6] at h

theorem plainly_of_address {host : String} {a : Address} (h : Address.parse? host = some a) :
    Plainly host := by
  obtain ⟨ch, rest, hhost, hch⟩ := head_of_address h
  have hblank : isBlank ch = false := by
    rcases hch with hhex | rfl
    · exact isBlank_of_isHex hhex
    · decide
  refine ⟨?_, ?_, ?_⟩
  · rintro rfl
    cases hhost
  · intro first hfirst
    rw [hhost] at hfirst
    cases hfirst
    exact hblank
  · intro inner hinner
    rw [hhost] at hinner
    cases hinner
    exact absurd hch (by decide)

/-! ## Reading -/

/-- The characters of the host that is read from the text of an endpoint: blanks at the beginning
are lost, and then brackets are. -/
def hostRead (host : String) : List Char :=
  Endpoint.unbracket ((bracketHost host).toList.dropWhile isBlank)

/-- **When the host that is read is the host that was written.** -/
theorem hostRead_eq_iff {host : String} (hne : host ≠ "") :
    hostRead host = host.toList ↔ Plainly host := by
  rw [hostRead, bracketHost_toList]
  split
  · next hv6 =>
    obtain ⟨a, ha, -⟩ := (Option.any_eq_true ..).1 hv6
    refine iff_of_true ?_ (plainly_of_address ha)
    rw [dropWhile_of_head _ (by decide)]
    simp [Endpoint.unbracket, stripSuffix_append]
  · constructor
    · intro h
      -- nothing has been lost where so much is left
      have hle := length_unbracket_le (host.toList.dropWhile isBlank)
      have hdrop : host.toList.dropWhile isBlank = host.toList :=
        (List.dropWhile_suffix _).eq_of_length_le (by rwa [h] at hle)
      rw [hdrop] at h
      exact ⟨hne, fun ch hch => head?_dropWhile (hdrop.symm ▸ hch), unbracket_eq_self_iff.1 h⟩
    · intro h
      have hdrop : host.toList.dropWhile isBlank = host.toList := by
        cases hhost : host.toList with
        | nil => rfl
        | cons ch rest => exact dropWhile_of_head _ (h.first ch (by rw [hhost]; rfl))
      rw [hdrop]
      exact unbracket_eq_self_iff.2 h.bare

theorem display_toList {e : Endpoint} : e.display.toList =
    (bracketHost e.host).toList ++ ':' :: (toString e.port.toNat).toList := by
  simp [Endpoint.display]

theorem trimChars_display {e : Endpoint} {before after : String} (hbefore : Blank before)
    (hafter : Blank after) : trimChars (before ++ e.display ++ after).toList =
      (bracketHost e.host).toList.dropWhile isBlank ++
        ':' :: (toString e.port.toNat).toList := by
  generalize hhost : (bracketHost e.host).toList = host
  have hport := toString_nat_toList_ne_nil (n := e.port.toNat)
  have htext : (before ++ e.display ++ after).toList =
      (before.toList ++ host.takeWhile isBlank) ++
        (host.dropWhile isBlank ++ ':' :: (toString e.port.toNat).toList) ++ after.toList := by
    rw [String.toList_append, String.toList_append, display_toList, hhost]
    conv_lhs => rw [← List.takeWhile_append_dropWhile (p := isBlank) (l := host)]
    simp only [List.append_assoc]
  rw [htext]
  refine trimChars_of_stripped ?_ hafter ?_
  · exact List.forall_mem_append.2 ⟨hbefore, fun ch hch => List.mem_takeWhile_imp hch⟩
  · rintro ch (hch | hch)
    · cases hdrop : host.dropWhile isBlank with
      | nil =>
        rw [hdrop] at hch
        cases hch
        decide
      | cons first rest => exact head?_dropWhile (by rw [hdrop]; simpa [hdrop] using hch)
    · rw [List.getLast?_append, List.getLast?_cons, List.getLast?_eq_some_getLast hport] at hch
      cases hch
      exact isBlank_of_isDigit (isDigit_of_mem_toString (List.getLast_mem hport))

/-- **The text of an endpoint is read as an endpoint with that port**, with any blanks around it, if
there is a host to be read. -/
theorem parse?_display_eq {e : Endpoint} {before after : String} (hbefore : Blank before)
    (hafter : Blank after) : Endpoint.parse? (before ++ e.display ++ after) =
      if (hostRead e.host).isEmpty then none
      else some ⟨String.ofList (hostRead e.host), e.port⟩ := by
  have hcut : cutLast ':' (trimChars (before ++ e.display ++ after).toList) =
      some ((bracketHost e.host).toList.dropWhile isBlank, (toString e.port.toNat).toList) := by
    rw [trimChars_display hbefore hafter]
    exact cutLast_append ':' _ _ (not_mem_toString (by decide))
  have hlimit : e.port.toNat ≤ maxPort := Nat.le_of_lt_succ e.port.toNat_lt
  rw [Endpoint.parse?, hcut]
  simp only [Option.bind_eq_bind, Option.bind_some, ← hostRead.eq_1, String.ofList_toList,
    readNat_toString hlimit, UInt16.ofNat_toNat]
  rfl

/-- **The text of an endpoint is read as that endpoint** exactly if its host is not mistaken for
something else. -/
theorem parse?_pad_display {e : Endpoint} {before after : String} (hbefore : Blank before)
    (hafter : Blank after) :
    Endpoint.parse? (before ++ e.display ++ after) = some e ↔ Plainly e.host := by
  rw [parse?_display_eq hbefore hafter]
  by_cases hne : e.host = ""
  · -- an endpoint without a host is not read at all
    have hread : hostRead e.host = [] := by rw [hne]; decide
    rw [hread]
    exact ⟨nofun, fun h => absurd hne h.nonempty⟩
  rw [← hostRead_eq_iff hne]
  constructor
  · intro h
    split at h
    · cases h
    · have hhost := congrArg (·.host.toList) (Option.some.inj h)
      simpa only [String.toList_ofList] using hhost
  · intro h
    rw [h, if_neg (by simpa using hne), String.ofList_toList]

theorem parse?_display {e : Endpoint} (h : Plainly e.host) :
    Endpoint.parse? e.display = some e := by
  have hnone : Blank "" := by simp [Blank]
  simpa using (parse?_pad_display hnone hnone).2 h

/-- **Which endpoints are told by their texts.** With any blanks around it, the text of an endpoint
is read as that endpoint exactly if its host is there, begins with no blank and does not stand in
brackets already, whatever else it holds. So two such endpoints with the same text are equal. -/
theorem text_tells_endpoint (e : Endpoint) :
    (∀ before after : String, Blank before → Blank after →
      (Endpoint.parse? (before ++ e.display ++ after) = some e ↔ Plainly e.host)) ∧
    ∀ e' : Endpoint, Plainly e.host → Plainly e'.host → e.display = e'.display → e = e' := by
  refine ⟨fun _ _ hbefore hafter => parse?_pad_display hbefore hafter, fun e' h h' htext => ?_⟩
  have hread := parse?_display h
  rw [htext, parse?_display h'] at hread
  exact (Option.some.inj hread).symm

/-- An endpoint whose host begins like one in brackets and ends in a zone. -/
def zonedEndpoint : Endpoint := ⟨"[fe80::1%eth0", 6443⟩

theorem zonedEndpoint_told : Blank "\t " ∧ Blank "\n" ∧ Plainly zonedEndpoint.host ∧
    Endpoint.parse? ("\t " ++ zonedEndpoint.display ++ "\n") = some zonedEndpoint ∧
    zonedEndpoint.display = Endpoint.display ⟨"[fe80:" ++ ":1%eth0", 6443⟩ ∧
    zonedEndpoint = ⟨"[fe80:" ++ ":1%eth0", 6443⟩ := by
  have hplain : Plainly zonedEndpoint.host := (hostRead_eq_iff (by decide)).1 (by decide)
  have hbefore : Blank "\t " := trim_eq_empty_iff.1 (by decide)
  have hafter : Blank "\n" := trim_eq_empty_iff.1 (by decide)
  obtain ⟨hread, hequal⟩ := text_tells_endpoint zonedEndpoint
  exact ⟨hbefore, hafter, hplain, (hread _ _ hbefore hafter).2 hplain, rfl,
    hequal _ hplain hplain rfl⟩

end LocalCluster.Cluster
