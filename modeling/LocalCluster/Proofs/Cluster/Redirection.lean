import LocalCluster.Proofs.Cluster.Kubeconfig

/-!
# One field of a kubeconfig

The server of the first cluster entry of a name is a field of a kubeconfig that can be set and read,
again and again, and beside those of other names.

* `HasSection`: a document that has a place for the field; **`hasSection_iff`**.
* `overwrites_redirected`, `commutes_redirected`: one redirection after another.
* `Legible`: a value that is read back from its text; **`redirect_lens`**.
-/

namespace LocalCluster.Cluster.Kubeconfig

open LocalCluster.Yaml LocalCluster.Yaml.Value LocalCluster.Text

variable {key name other server server' text : String} {v doc doc' doc₁ : Value}
variable {C : Value → Value → Prop} {raw : Bytes}

/-! ## The place of the field -/

/-- The clusters of a document are a sequence, and the first of its entries with the name has a
section that is a mapping. -/
def HasSection (name : String) (doc : Value) : Prop :=
  ∃ clusters items entry part entries,
    doc.entry? "clusters" = some clusters ∧ clusters.items? = some items ∧
      items.find? (isNamed name) = some entry ∧ entry.entry? "cluster" = some part ∧
      part.entries? = some entries

theorem Redirected.unique (h : Redirected name server doc doc')
    (h' : Redirected name server doc v) :
    doc' = v :=
  Except.ok.inj ((setServer_iff.2 h).symm.trans (setServer_iff.2 h'))

theorem exists_under_keyChanged_iff : (∃ v', Under .mapping (KeyChanged key C) v v') ↔
    ∃ part part', v.entry? key = some part ∧ C part part' := by
  simp only [under_keyChanged_iff]
  constructor
  · rintro ⟨_, part, part', hpart, hC, -⟩
    exact ⟨part, part', hpart, hC⟩
  · rintro ⟨part, part', hpart, hC⟩
    obtain ⟨entries, hentries, -⟩ := Option.bind_eq_some_iff.1 hpart
    exact ⟨_, part, part', hpart, hC, Option.map_eq_some_iff.2 ⟨entries, hentries, rfl⟩⟩

/-- **A document can be pointed at a server if it has a section to put it in.** -/
theorem hasSection_iff : HasSection name doc ↔ ∃ doc', Redirected name server doc doc' := by
  constructor
  · rintro ⟨clusters, items, entry, part, entries, hclusters, hitems, hentry, hpart, hentries⟩
    have hset : setIn "server" (.string server) part = some _ :=
      Option.map_eq_some_iff.2 ⟨entries, hentries, rfl⟩
    obtain ⟨entry', hchanged⟩ := exists_under_keyChanged_iff.2 ⟨part, _, hpart, setIn_iff.1 hset⟩
    obtain ⟨items', hfirst⟩ := exists_firstChanged_iff.2 ⟨entry, entry', hentry, hchanged⟩
    exact exists_under_keyChanged_iff.2 ⟨clusters, _, hclusters,
      (under_iff kind_sequence).2 ⟨items, items', items?_eq_some_iff.1 hitems, hfirst, rfl⟩⟩
  · intro h
    obtain ⟨clusters, _, hclusters, hsequence⟩ := exists_under_keyChanged_iff.1 h
    obtain ⟨items, items', hitems, hfirst, -⟩ := (under_iff kind_sequence).1 hsequence
    obtain ⟨entry, entry', hentry, hchanged⟩ := exists_firstChanged_iff.1 ⟨items', hfirst⟩
    obtain ⟨part, part', hpart, hset⟩ := exists_under_keyChanged_iff.1 ⟨entry', hchanged⟩
    obtain ⟨entries, hentries, -⟩ := Option.map_eq_some_iff.1 (setIn_iff.2 hset)
    exact ⟨clusters, items, entry, part, entries, hclusters, items?_eq_some_iff.2 hitems, hentry,
      hpart, hentries⟩

/-! ## One redirection after another -/

/-- **Of two servers for one name the second stays.** -/
theorem overwrites_redirected : Overwrites (Redirected name server) (Redirected name server') :=
  have hentry : Overwrites (EntryRedirected server) (EntryRedirected server') :=
    (overwrites_keySet.under kind_mapping).keyChanged.under kind_mapping
  have hfirst := hentry.firstChanged (unaffected_isNamed name server)
  (hfirst.under kind_sequence).keyChanged.under kind_mapping

/-- **Servers for two names can be set in either order.** -/
theorem commutes_redirected (hne : other ≠ name) :
    Commutes (Redirected name server) (Redirected other server') := by
  have hnames : ∀ entry, isNamed name entry = true → isNamed other entry = false := by
    intro entry hnamed
    rw [isNamed, eq_of_beq hnamed]
    simpa using hne.symm
  have hfirst := commutes_firstChanged hnames (unaffected_isNamed other server)
    (unaffected_isNamed name server')
  exact (hfirst.under kind_sequence).keyChanged.under kind_mapping

/-! ## Texts -/

/-- The value can be written, and is read back from what is written. -/
def Legible (v : Value) : Prop :=
  ∃ text, v.print? = some text ∧ Value.parse? (encode text) = some v

instance : DecidablePred Legible := fun v =>
  decidable_of_iff ((v.print?.bind fun text => Value.parse? (encode text)) = some v)
    Option.bind_eq_some_iff

theorem redirect_eq_ok_iff (hdoc : Value.parse? raw = some doc) :
    redirect raw name server = .ok text ↔
      ∃ doc', Redirected name server doc doc' ∧ doc'.print? = some text := by
  simp only [redirect, hdoc, ← setServer_iff]
  cases setServer name server doc with
  | error issue => simp
  | ok doc' => cases hprint : doc'.print? <;> simp [hprint]

theorem Legible.redirect (h : Legible doc') (hdoc : Value.parse? raw = some doc)
    (hred : Redirected name server doc doc') :
    ∃ text, Kubeconfig.redirect raw name server = .ok text ∧
      Value.parse? (encode text) = some doc' := by
  obtain ⟨text, hprint, hparse⟩ := h
  exact ⟨text, (redirect_eq_ok_iff hdoc).2 ⟨doc', hred, hprint⟩, hparse⟩

theorem parse?_of_redirect (hdoc : Value.parse? raw = some doc)
    (hlegible : ∀ doc', Redirected name server doc doc' → Legible doc')
    (h : redirect raw name server = .ok text) :
    ∃ doc', Value.parse? (encode text) = some doc' ∧ Redirected name server doc doc' := by
  obtain ⟨doc', hred, hprint⟩ := (redirect_eq_ok_iff hdoc).1 h
  obtain ⟨text', hprint', hparse⟩ := hlegible doc' hred
  obtain rfl : text' = text := Option.some.inj (hprint'.symm.trans hprint)
  exact ⟨doc', hparse, hred⟩

/-- A second redirection for the same name is as good as if it had been the first. -/
theorem redirect_again (hdoc : Value.parse? raw = some doc) (hred : Redirected name server doc doc₁)
    (hparse : Value.parse? (encode text) = some doc₁) :
    redirect (encode text) name server' = redirect raw name server' := by
  obtain ⟨doc₂, h₂⟩ := hasSection_iff.1 (hasSection_iff.2 ⟨doc₁, hred⟩)
  rw [redirect, redirect, hparse, hdoc]
  dsimp only
  rw [setServer_iff.2 h₂, setServer_iff.2 ((overwrites_redirected hred).2 h₂)]

/-- A redirection for another name that comes second could have come first. -/
theorem redirect_swap {last : String} (hne : other ≠ name) (hdoc : Value.parse? raw = some doc)
    (hlegible : ∀ doc', Redirected other server' doc doc' → Legible doc')
    (hred : Redirected name server doc doc₁) (hparse : Value.parse? (encode text) = some doc₁)
    (h : redirect (encode text) other server' = .ok last) :
    ∃ text', redirect raw other server' = .ok text' ∧
      redirect (encode text') name server = .ok last := by
  obtain ⟨doc₂, h₂, hprint⟩ := (redirect_eq_ok_iff hparse).1 h
  obtain ⟨doc', hfirst, hsecond⟩ := commutes_redirected hne hred h₂
  obtain ⟨text', htext', hparse'⟩ := (hlegible doc' hfirst).redirect hdoc hfirst
  exact ⟨text', htext', (redirect_eq_ok_iff hparse').2 ⟨doc₂, hsecond, hprint⟩⟩

/-- **Pointing a kubeconfig at a server changes one field and nothing else.** What is written is the
document in which only the server of the first entry of the name is another one. Where such
documents are read back as they were written, this succeeds if and only if the entry has a section;
the server that is read back is the one that was set, the last of several for one name stays, and
those for different names can be set in either order. -/
theorem redirect_lens (hdoc : Value.parse? raw = some doc) (name server : String) :
    (∀ text, redirect raw name server = .ok text ↔
      ∃ doc', Redirected name server doc doc' ∧ doc'.print? = some text) ∧
    ((∀ doc', Redirected name server doc doc' → Legible doc') →
      ((∃ text, redirect raw name server = .ok text) ↔ HasSection name doc) ∧
      ∀ text, redirect raw name server = .ok text →
        (∃ doc', Value.parse? (encode text) = some doc' ∧ Redirected name server doc doc' ∧
          serverOf? name doc' = some server) ∧
        (∀ server', redirect (encode text) name server' = redirect raw name server') ∧
        redirect (encode text) name server = .ok text ∧
        ∀ other server', other ≠ name →
          (∀ doc', Redirected other server' doc doc' → Legible doc') →
          ∀ last, redirect (encode text) other server' = .ok last ↔
            ∃ text', redirect raw other server' = .ok text' ∧
              redirect (encode text') name server = .ok last) := by
  refine ⟨fun text => redirect_eq_ok_iff hdoc, fun hlegible => ⟨⟨?_, ?_⟩, fun text htext => ?_⟩⟩
  · rintro ⟨text, htext⟩
    obtain ⟨doc', hred, -⟩ := (redirect_eq_ok_iff hdoc).1 htext
    exact hasSection_iff.2 ⟨doc', hred⟩
  · intro hsection
    obtain ⟨doc', hred⟩ := hasSection_iff.1 hsection
    obtain ⟨text, htext, -⟩ := (hlegible doc' hred).redirect hdoc hred
    exact ⟨text, htext⟩
  · obtain ⟨doc', hparse, hred⟩ := parse?_of_redirect hdoc hlegible htext
    refine ⟨⟨doc', hparse, hred, serverOf?_setServer (setServer_iff.2 hred)⟩,
      fun server' => redirect_again hdoc hred hparse, ?_,
      fun other server' hne hlegible' last => ?_⟩
    · rw [redirect_again hdoc hred hparse, htext]
    · refine ⟨redirect_swap hne hdoc hlegible' hred hparse, ?_⟩
      -- the same with the names exchanged, which leads back to the same first text
      rintro ⟨text', htext', hlast⟩
      obtain ⟨doc₂, hparse', hred'⟩ := parse?_of_redirect hdoc hlegible' htext'
      obtain ⟨text'', hfirst, hlast'⟩ := redirect_swap hne.symm hdoc hlegible hred' hparse' hlast
      obtain rfl : text'' = text := Except.ok.inj (hfirst.symm.trans htext)
      exact hlast'

/-- Where setting the server leads to what can be read back, so does every change of this field. -/
theorem legible_of_all (h : (setServer name server doc).toOption.all (decide <| Legible ·) = true) :
    ∀ doc', Redirected name server doc doc' → Legible doc' := by
  intro doc' hred
  rw [setServer_iff.2 hred] at h
  simpa [Except.toOption] using h

/-- Two entries of one name, the first with a tag and no server, and a third of another name. -/
def twinConfig : String :=
  "clusters:\n- !x\n  name: a\n  cluster: {}\n- name: a\n- name: b\n  cluster: {server: s}\n"

def twinDocument : Value :=
  .mapping [(.string "clusters", .sequence [
    .tagged "x" (.mapping [(.string "name", .string "a"), (.string "cluster", .mapping [])]),
    .mapping [(.string "name", .string "a")],
    .mapping [(.string "name", .string "b"),
      (.string "cluster", .mapping [(.string "server", .string "s")])]])]

theorem twinConfig_lens : ∃ text, redirect (encode twinConfig) "a" "t" = .ok text ∧
    redirect (encode text) "a" "t" = .ok text ∧
    ∀ last, redirect (encode text) "b" "u" = .ok last ↔
      ∃ text', redirect (encode twinConfig) "b" "u" = .ok text' ∧
        redirect (encode text') "a" "t" = .ok last := by
  have hdoc : Value.parse? (encode twinConfig) = some twinDocument := by decide +kernel
  have hfirst : ∀ doc', Redirected "a" "t" twinDocument doc' → Legible doc' :=
    legible_of_all (by decide +kernel)
  have hother : ∀ doc', Redirected "b" "u" twinDocument doc' → Legible doc' :=
    legible_of_all (by decide +kernel)
  obtain ⟨hsection, hwritten⟩ := (redirect_lens hdoc "a" "t").2 hfirst
  obtain ⟨text, htext⟩ := hsection.2 ⟨_, _, _, _, _, rfl, rfl, rfl, rfl, rfl⟩
  obtain ⟨-, -, hagain, hswap⟩ := hwritten text htext
  exact ⟨text, htext, hagain, hswap "b" "u" (by decide) hother⟩

end LocalCluster.Cluster.Kubeconfig
