import LocalCluster.Cluster.Kubeconfig.Server
import LocalCluster.Proofs.Work.Follows
import LocalCluster.Proofs.Yaml.Changes

/-!
# The server that a kubeconfig names

Pointing a kubeconfig at a server changes one field of its document and nothing else, and what it
changes is read off the same way again.

* `serverOf?`: the server of the first cluster entry of a name.
* `entry?_setIn`, `entry?_setIn_ne`: a key that is set, and the others.
* `Redirected`: two documents that differ in this server only, told by how they are built;
  **`setServer_iff`**.
* **`serverOf?_setServer`**: a document that has been pointed at a server names it.
* `PointsAt`: the text of a document that names a server; **`pointsAt_of_redirect`**.
-/

namespace LocalCluster.Yaml.Value

variable {key other : String} {value v : Value} {entries : List (Value × Value)}

/-! ## Keys -/

theorem lookup?_insertEntry : lookup? key (insertEntry key value entries) = some value := by
  induction entries with
  | nil => simp [insertEntry, lookup?, isKey]
  | cons entry rest ih =>
    obtain ⟨k, w⟩ := entry
    by_cases hk : k.isKey key = true
    · simp [insertEntry, lookup?, hk]
    · simpa [insertEntry, lookup?, hk] using ih

theorem lookup?_insertEntry_ne (h : other ≠ key) :
    lookup? other (insertEntry key value entries) = lookup? other entries := by
  induction entries with
  | nil => simp [insertEntry, lookup?, isKey, h.symm]
  | cons entry rest ih =>
    obtain ⟨k, w⟩ := entry
    by_cases hk : k.isKey key = true
    · obtain rfl := eq_string_of_isKey hk
      simp [insertEntry, lookup?, isKey, h.symm]
    · simp only [insertEntry, if_neg hk, lookup?, ih]

/-! ## Tags -/

theorem bare_replaceBare : (v.replaceBare value).bare = value.bare := by
  fun_induction replaceBare v value with
  | case1 tag inner ih => exact ih
  | case2 => rfl

end LocalCluster.Yaml.Value

namespace LocalCluster.Cluster.Kubeconfig

open LocalCluster.Yaml LocalCluster.Yaml.Value LocalCluster.Text

variable {key other name server text : String} {value v v' doc doc' : Value}
variable {items items' : List Value} {C : Value → Value → Prop}

theorem entries?_setIn (h : setIn key value v = some v') : ∃ entries, v.entries? = some entries ∧
    v'.entries? = some (Value.insertEntry key value entries) := by
  obtain ⟨entries, hentries, rfl⟩ := Option.map_eq_some_iff.1 h
  refine ⟨entries, hentries, ?_⟩
  rw [Value.entries?, Value.bare_replaceBare]
  rfl

theorem entry?_setIn (h : setIn key value v = some v') : v'.entry? key = some value := by
  obtain ⟨entries, -, hentries⟩ := entries?_setIn h
  rw [Value.entry?, hentries]
  exact Value.lookup?_insertEntry

theorem entry?_setIn_ne (h : setIn key value v = some v') (hne : other ≠ key) :
    v'.entry? other = v.entry? other := by
  obtain ⟨entries, hbefore, hentries⟩ := entries?_setIn h
  rw [Value.entry?, Value.entry?, hentries, hbefore]
  exact Value.lookup?_insertEntry_ne hne

/-! ## Servers -/

/-- The server that a cluster entry names. -/
def entryServer? (entry : Value) : Option String := do
  let part ← entry.entry? "cluster"
  let server ← part.entry? "server"
  server.text?

/-- The server of the first cluster entry of a name. -/
def serverOf? (name : String) (doc : Value) : Option String := do
  let entries ← (← doc.entry? "clusters").items?
  entryServer? (← entries.find? (isNamed name))

theorem entryServer?_setEntryServer (name : String) {entry entry' : Value}
    (h : setEntryServer server entry = some entry') :
    entryServer? entry' = some server ∧ isNamed name entry' = isNamed name entry := by
  obtain ⟨part, -, h⟩ := Option.bind_eq_some_iff.1 h
  obtain ⟨part', hserver, hcluster⟩ := Option.bind_eq_some_iff.1 h
  refine ⟨?_, ?_⟩
  · simp [entryServer?, entry?_setIn hcluster, entry?_setIn hserver, Value.text?, Value.bare]
  · rw [isNamed, isNamed, entry?_setIn_ne hcluster (by decide)]

/-! ## The change -/

/-- Two cluster entries that differ in their server only: the second has this one, in the place of
the old one or behind the other keys of its section. -/
def EntryRedirected (server : String) : Value → Value → Prop :=
  Under .mapping (KeyChanged "cluster" (Under .mapping (KeySet "server" (.string server))))

/-- Two documents that differ in the server of the first cluster entry of a name only. -/
def Redirected (name server : String) : Value → Value → Prop :=
  Under .mapping (KeyChanged "clusters" (Under .sequence
    (FirstChanged (isNamed name) (EntryRedirected server))))

theorem setIn_iff : setIn key value v = some v' ↔ Under .mapping (KeySet key value) v v' := by
  rw [under_iff kind_mapping, setIn, Option.map_eq_some_iff]
  constructor
  · rintro ⟨entries, h, rfl⟩
    exact ⟨entries, _, entries?_eq_some_iff.1 h, keySet_iff.2 rfl, rfl⟩
  · rintro ⟨entries, entries', h, hset, rfl⟩
    exact ⟨entries, entries?_eq_some_iff.2 h, by rw [keySet_iff.1 hset]⟩

theorem under_keyChanged_iff : Under .mapping (KeyChanged key C) v v' ↔
    ∃ part part', v.entry? key = some part ∧ C part part' ∧ setIn key part' v = some v' := by
  simp only [under_iff kind_mapping, keyChanged_iff, entry?, setIn, Option.bind_eq_some_iff,
    Option.map_eq_some_iff, entries?_eq_some_iff]
  constructor
  · rintro ⟨entries, _, hentries, ⟨part, part', hpart, hC, rfl⟩, rfl⟩
    exact ⟨part, part', ⟨entries, hentries, hpart⟩, hC, entries, hentries, rfl⟩
  · rintro ⟨part, part', ⟨entries, hentries, hpart⟩, hC, entries', hentries', rfl⟩
    obtain rfl := kind_mapping.injective (hentries.symm.trans hentries')
    exact ⟨entries, _, hentries, ⟨part, part', hpart, hC, rfl⟩, rfl⟩

theorem setEntryServer_iff :
    setEntryServer server v = some v' ↔ EntryRedirected server v v' := by
  simp only [EntryRedirected, under_keyChanged_iff, setEntryServer, Option.bind_eq_bind,
    Option.bind_eq_some_iff, setIn_iff]
  constructor
  · rintro ⟨part, hpart, part', hserver, h⟩
    exact ⟨part, part', hpart, hserver, h⟩
  · rintro ⟨part, part', hpart, hserver, h⟩
    exact ⟨part, hpart, part', hserver, h⟩

theorem setFirstServer_iff : setFirstServer name server items = .ok items' ↔
    FirstChanged (isNamed name) (EntryRedirected server) items items' := by
  induction items generalizing items' with
  | nil => exact iff_of_false nofun nofun
  | cons entry rest ih =>
    unfold setFirstServer
    cases hnamed : isNamed name entry with
    | true =>
      rw [firstChanged_cons_pos hnamed]
      simp only [← setEntryServer_iff, if_true]
      cases hset : setEntryServer server entry with
      | none => simp
      | some entry' => simp [eq_comm]
    | false =>
      rw [firstChanged_cons_neg hnamed]
      simp only [← ih, Bool.false_eq_true, if_false]
      cases setFirstServer name server rest with
      | error issue => simp [Except.map]
      | ok rest' => simp [Except.map, eq_comm]

/-- **The server is set if the documents differ in this field only.** -/
theorem setServer_iff : setServer name server doc = .ok doc' ↔ Redirected name server doc doc' := by
  rw [Redirected, under_keyChanged_iff]
  simp only [under_iff kind_sequence, ← items?_eq_some_iff, ← setFirstServer_iff]
  unfold setServer
  constructor
  · intro h
    split at h
    · cases h
    · next clusters hclusters =>
      split at h
      · cases h
      · next items hitems =>
        cases hfirst : setFirstServer name server items with
        | error issue => simp [hfirst, bind, Except.bind] at h
        | ok items' =>
          simp only [hfirst, bind, Except.bind] at h
          split at h
          · next changed hset =>
            cases h
            exact ⟨clusters, _, hclusters, ⟨items, items', hitems, hfirst, rfl⟩, hset⟩
          · cases h
  · rintro ⟨clusters, _, hclusters, ⟨items, items', hitems, hfirst, rfl⟩, hset⟩
    simp [hclusters, hitems, hfirst, hset, bind, Except.bind]

theorem unaffected_isNamed (other server : String) :
    Unaffected (isNamed other) (EntryRedirected server) := fun _ _ h =>
  (entryServer?_setEntryServer other (setEntryServer_iff.2 h)).2

theorem serverOf?_of_redirected (h : Redirected name server doc doc') :
    serverOf? name doc' = some server := by
  obtain ⟨clusters, _, -, hclusters, hset⟩ := under_keyChanged_iff.1 h
  obtain ⟨items, items', -, hfirst, rfl⟩ := (under_iff kind_sequence).1 hclusters
  obtain ⟨entry, entry', -, hfind, hentry⟩ := hfirst.find? (unaffected_isNamed name server)
  have hserver := (entryServer?_setEntryServer name (setEntryServer_iff.2 hentry)).1
  have hitems : (clusters.replaceBare (.sequence items')).items? = some items' :=
    items?_eq_some_iff.2 bare_replaceBare
  simp [serverOf?, entry?_setIn hset, hitems, hfind, hserver]

/-- **A document that has been pointed at a server names it.** -/
theorem serverOf?_setServer (h : setServer name server doc = .ok doc') :
    serverOf? name doc' = some server :=
  serverOf?_of_redirected (setServer_iff.1 h)

/-- The text is that of a document that names the server for a cluster. -/
def PointsAt (name server text : String) : Prop :=
  ∃ doc : Value, doc.print? = some text ∧ serverOf? name doc = some server

/-- **A kubeconfig that has been pointed at a server is the text of a document that names it.** -/
theorem pointsAt_of_redirect {raw : Bytes} (h : redirect raw name server = .ok text) :
    PointsAt name server text := by
  unfold redirect at h
  split at h
  · cases h
  · split at h
    · cases h
    · next doc' hset =>
      split at h
      · next printed hprint =>
        cases h
        exact ⟨doc', hprint, serverOf?_setServer hset⟩
      · cases h

end LocalCluster.Cluster.Kubeconfig
