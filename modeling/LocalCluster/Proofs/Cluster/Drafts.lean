import LocalCluster.Cluster.Draft
import Mathlib.Data.List.Induction

/-!
# What settings say in the end

Of the settings of one topic the last one counts, and of those that add nodes all do. What settings
stand for is told by that alone, so their order matters within each topic only.

* `Topic`, `about`: what a setting is about, and the settings of a topic.
* `LastGiven`: the value given last on a topic; **`lastGiven_drafted`**: it stands in the draft.
* `Drafted`: the specification that settings stand for; `drafted_complete`, `Drafted.unique`: there
  is one; **`build_eq`**: it is what building validates.
* `SameLast`, `Reordered`: settings that stand for the same; `build_congr`.
* **`settled_by_last_settings`**: what is built of settings, and what it depends on.
-/

namespace LocalCluster.Cluster

variable {settings settings' : List Setting} {α : Type}

/-! ## Topics -/

/-- What a setting is about. -/
inductive Topic where
  | name
  | image
  | nodes
  | family
  | apiServerAddress
  | apiServerPort
  | podSubnet
  | serviceSubnet
  | network
  deriving DecidableEq, Repr

/-- The topic of a setting; all that add nodes are about the same. -/
def Setting.topic : Setting → Topic
  | .name _ => .name
  | .image _ => .image
  | .node _ | .controlPlanes _ | .workers _ => .nodes
  | .family _ => .family
  | .apiServerAddress _ => .apiServerAddress
  | .apiServerPort _ => .apiServerPort
  | .podSubnet _ => .podSubnet
  | .serviceSubnet _ => .serviceSubnet
  | .network _ => .network

/-- The settings of a topic, in order. -/
def about (t : Topic) (settings : List Setting) : List Setting :=
  settings.filter (·.topic = t)

/-- The value that is given last on a topic: the one that `make` makes the last setting of, or
`default` if there is no setting of the topic. -/
def LastGiven (settings : List Setting) (t : Topic) (make : α → Setting)
    (default value : α) : Prop :=
  (about t settings).getLast? = some (make value) ∨
    (about t settings).getLast? = none ∧ value = default

theorem about_concat (t : Topic) (s : Setting) : about t (settings ++ [s]) =
    if s.topic = t then about t settings ++ [s] else about t settings := by
  rw [about, List.filter_append]
  split
  · next h => rw [List.filter_cons_of_pos (by simpa using h)]; rfl
  · next h => rw [List.filter_cons_of_neg (by simpa using h)]; exact List.append_nil _

/-- **A part of a draft that the settings of one topic replace, and that no others touch, is what is
given last on that topic.** -/
theorem lastGiven_drafted {t : Topic} {make : α → Setting} (part : Draft → α)
    -- of a part that is one field, all three are seen setting by setting
    (hmake : ∀ s : Setting, s.topic = t → ∃ value, s = make value := by
      intro s h
      cases s <;> first | exact ⟨_, rfl⟩ | cases h)
    (hset : ∀ (d : Draft) value, part (d.apply (make value)) = value := by intros; rfl)
    (hkeep : ∀ (d : Draft) (s : Setting), s.topic ≠ t → part (d.apply s) = part d := by
      intro d s h
      cases s <;> first | rfl | exact absurd rfl h) :
    LastGiven settings t make (part {}) (part (settings.foldl Draft.apply {})) := by
  induction settings using List.reverseRecOn with
  | nil => exact .inr ⟨rfl, rfl⟩
  | append_singleton settings s ih =>
    rw [List.foldl_append, List.foldl_cons, List.foldl_nil, LastGiven, about_concat]
    split
    · next h =>
      obtain ⟨value, rfl⟩ := hmake s h
      rw [hset, List.getLast?_concat]
      exact .inl rfl
    · next h =>
      rw [hkeep _ _ h]
      exact ih

theorem LastGiven.unique {t : Topic} {make : α → Setting} {default v w : α}
    (hv : LastGiven settings t make default v) (hw : LastGiven settings t make default w)
    (hinj : ∀ v w, make v = make w → v = w := by
      intro v w h
      cases h
      rfl) : v = w := by
  rcases hv with hv | ⟨hv, rfl⟩ <;> rcases hw with hw | ⟨hw, rfl⟩
  · exact hinj _ _ (Option.some.inj (hv.symm.trans hw))
  · simp [hw] at hv
  · simp [hv] at hw
  · rfl

theorem LastGiven.congr {t : Topic} {make : α → Setting} {default value : α}
    (h : LastGiven settings t make default value)
    (hlast : (about t settings).getLast? = (about t settings').getLast?) :
    LastGiven settings' t make default value := by
  rwa [LastGiven, ← hlast]

/-! ## Nodes -/

theorem nodes_drafted :
    (settings.foldl Draft.apply {}).nodes = settings.flatMap Setting.nodes := by
  induction settings using List.reverseRecOn with
  | nil => rfl
  | append_singleton settings s ih =>
    rw [List.foldl_append, List.foldl_cons, List.foldl_nil, List.flatMap_append, ← ih]
    cases s <;> simp [Draft.apply, Setting.nodes]

theorem flatMap_nodes_about (settings : List Setting) :
    (about .nodes settings).flatMap Setting.nodes = settings.flatMap Setting.nodes := by
  induction settings with
  | nil => rfl
  | cons s rest ih =>
    unfold about at ih ⊢
    rw [List.filter_cons, List.flatMap_cons]
    split
    · rw [List.flatMap_cons, ih]
    · next h =>
      have hnone : s.nodes = [] := by cases s <;> first | rfl | exact absurd rfl h
      rw [ih, hnone, List.nil_append]

/-! ## Specifications -/

/-- The specification that settings stand for: what is given last on each topic or else the default,
which for the address and the subnets follows from the family that is given last; and the nodes that
have been added one after the other, each with the image that it names itself, or else with the one
that is given last. -/
structure Drafted (settings : List Setting) (s : Spec) : Prop where
  name : LastGiven settings .name .name "" s.name
  network : LastGiven settings .network .network defaultNetwork s.network
  family : LastGiven settings .family .family .ipv4 s.networking.family
  port : LastGiven settings .apiServerPort .apiServerPort 0 s.networking.apiServerPort
  address : LastGiven settings .apiServerAddress .apiServerAddress
    (Networking.ofFamily s.networking.family).apiServerAddress s.networking.apiServerAddress
  podSubnet : LastGiven settings .podSubnet .podSubnet
    (Networking.ofFamily s.networking.family).podSubnet s.networking.podSubnet
  serviceSubnet : LastGiven settings .serviceSubnet .serviceSubnet
    (Networking.ofFamily s.networking.family).serviceSubnet s.networking.serviceSubnet
  nodes : ∃ image, LastGiven settings .image .image defaultNodeImage image ∧
    s.nodes = (settings.flatMap Setting.nodes).map fun n =>
      { n with image := if n.image ≠ "" then n.image else image }

theorem family_ofFamily (family : Family) : (Networking.ofFamily family).family = family := by
  cases family <;> rfl

theorem fillImage_eq (image : String) : Draft.fillImage image =
    fun n => { n with image := if n.image ≠ "" then n.image else image } := by
  funext n
  unfold Draft.fillImage
  by_cases h : n.image = "" <;> simp [h]

theorem drafted_complete (settings : List Setting) :
    Drafted settings (settings.foldl Draft.apply {}).complete := by
  have hfamily : (settings.foldl Draft.apply {}).complete.networking.family =
      (settings.foldl Draft.apply {}).family := family_ofFamily _
  constructor
  case name => exact lastGiven_drafted Draft.name
  case network => exact lastGiven_drafted fun d => d.network.getD defaultNetwork
  case family => rw [hfamily]; exact lastGiven_drafted Draft.family
  case port => exact lastGiven_drafted Draft.apiServerPort
  case address => rw [hfamily]; exact lastGiven_drafted fun d => d.apiServerAddress.getD _
  case podSubnet => rw [hfamily]; exact lastGiven_drafted fun d => d.podSubnet.getD _
  case serviceSubnet => rw [hfamily]; exact lastGiven_drafted fun d => d.serviceSubnet.getD _
  case nodes =>
    refine ⟨_, lastGiven_drafted fun d => d.image.getD defaultNodeImage, ?_⟩
    rw [← fillImage_eq, ← nodes_drafted]
    rfl

theorem Drafted.unique {s s' : Spec} (h : Drafted settings s) (h' : Drafted settings s') :
    s = s' := by
  obtain ⟨name, nodes, ⟨family, address, port, pods, services⟩, network⟩ := s
  obtain ⟨name', nodes', ⟨family', address', port', pods', services'⟩, network'⟩ := s'
  obtain ⟨image, himage, hnodes⟩ := h.nodes
  obtain ⟨image', himage', hnodes'⟩ := h'.nodes
  obtain rfl : image = image' := himage.unique himage'
  obtain rfl : nodes = nodes' := hnodes.trans hnodes'.symm
  obtain rfl : name = name' := h.name.unique h'.name
  obtain rfl : network = network' := h.network.unique h'.network
  obtain rfl : family = family' := h.family.unique h'.family
  obtain rfl : port = port' := h.port.unique h'.port
  obtain rfl : address = address' := h.address.unique h'.address
  obtain rfl : pods = pods' := h.podSubnet.unique h'.podSubnet
  obtain rfl : services = services' := h.serviceSubnet.unique h'.serviceSubnet
  rfl

/-- **Building validates the specification that the settings stand for.** -/
theorem build_eq {s : Spec} (h : Drafted settings s) :
    Spec.build settings = s.validate.map fun _ => s := by
  obtain rfl := (drafted_complete settings).unique h
  rfl

theorem validate_map_eq_ok_iff {s s' : Spec} :
    (s.validate.map fun _ => s) = .ok s' ↔ s' = s ∧ s.Valid := by
  unfold Spec.validate Spec.Valid
  cases s.issue? <;> simp [Except.map, eq_comm]

theorem validate_map_eq_error_iff {s : Spec} {fault : Fault} :
    (s.validate.map fun _ => s) = .error fault ↔
      ∃ issue, s.issue? = some issue ∧ fault = issue.fault := by
  unfold Spec.validate
  cases s.issue? <;> simp [Except.map, eq_comm]

theorem build_eq_ok_iff {s : Spec} :
    Spec.build settings = .ok s ↔ Drafted settings s ∧ s.Valid := by
  have hdrafted := drafted_complete settings
  rw [build_eq hdrafted, validate_map_eq_ok_iff]
  constructor
  · rintro ⟨rfl, hvalid⟩
    exact ⟨hdrafted, hvalid⟩
  · rintro ⟨hs, hvalid⟩
    obtain rfl := hs.unique hdrafted
    exact ⟨rfl, hvalid⟩

theorem build_eq_error_iff {fault : Fault} : Spec.build settings = .error fault ↔
    ∃ s issue, Drafted settings s ∧ s.issue? = some issue ∧ fault = issue.fault := by
  have hdrafted := drafted_complete settings
  rw [build_eq hdrafted, validate_map_eq_error_iff]
  constructor
  · rintro ⟨issue, hissue⟩
    exact ⟨_, issue, hdrafted, hissue⟩
  · rintro ⟨s, issue, hs, hissue⟩
    obtain rfl := hs.unique hdrafted
    exact ⟨issue, hissue⟩

/-! ## Orders of settings -/

/-- The last settings are the same in both lists, and those that add nodes are the same in the same
order. -/
structure SameLast (settings settings' : List Setting) : Prop where
  last : ∀ t ≠ .nodes, (about t settings).getLast? = (about t settings').getLast?
  nodes : about .nodes settings = about .nodes settings'

/-- The same settings in another order, but in the same one for each topic. -/
structure Reordered (settings settings' : List Setting) : Prop where
  perm : settings.Perm settings'
  kept : ∀ t, about t settings = about t settings'

theorem Reordered.sameLast (h : Reordered settings settings') : SameLast settings settings' :=
  ⟨fun t _ => congrArg List.getLast? (h.kept t), h.kept .nodes⟩

theorem Drafted.congr {s : Spec} (h : Drafted settings s) (hsame : SameLast settings settings') :
    Drafted settings' s := by
  have hkeep {α : Type} {make : α → Setting} {default value : α} (t : Topic) (ht : t ≠ .nodes)
      (hgiven : LastGiven settings t make default value) :
      LastGiven settings' t make default value :=
    hgiven.congr (hsame.last t ht)
  constructor
  case name => exact hkeep _ (by decide) h.name
  case network => exact hkeep _ (by decide) h.network
  case family => exact hkeep _ (by decide) h.family
  case port => exact hkeep _ (by decide) h.port
  case address => exact hkeep _ (by decide) h.address
  case podSubnet => exact hkeep _ (by decide) h.podSubnet
  case serviceSubnet => exact hkeep _ (by decide) h.serviceSubnet
  case nodes =>
    obtain ⟨image, himage, hnodes⟩ := h.nodes
    refine ⟨image, hkeep _ (by decide) himage, ?_⟩
    rw [hnodes, ← flatMap_nodes_about settings, hsame.nodes, flatMap_nodes_about]

theorem build_congr (h : SameLast settings settings') :
    Spec.build settings = Spec.build settings' := by
  have hdrafted := drafted_complete settings
  rw [build_eq hdrafted, build_eq (hdrafted.congr h)]

/-- **What is built of settings.** It depends only on the last setting of each topic and on the
settings that add nodes, in their order; so it stays the same, a fault included, in every order that
keeps those of each topic in theirs. What is built is the specification that the settings stand for,
exactly if nothing is wrong with it, and else the first thing wrong with it is reported. -/
theorem settled_by_last_settings (settings : List Setting) :
    (∀ settings', SameLast settings settings' → Spec.build settings' = Spec.build settings) ∧
    (∀ settings', Reordered settings settings' →
      Spec.build settings' = Spec.build settings) ∧
    (∀ s, Spec.build settings = .ok s ↔ Drafted settings s ∧ s.Valid) ∧
    ∀ fault, Spec.build settings = .error fault ↔
      ∃ s issue, Drafted settings s ∧ s.issue? = some issue ∧ fault = issue.fault :=
  ⟨fun _ h => (build_congr h).symm, fun _ h => (build_congr h.sameLast).symm,
    fun _ => build_eq_ok_iff, fun _ => build_eq_error_iff⟩

/-- An image that is given after a node, and an address before the family that it is of. -/
def lateSettings : List Setting :=
  [.image "old", .controlPlanes 1, .apiServerAddress "::1", .workers 2, .image "new",
    .node { role := .worker, image := "own" }, .name "demo", .family .ipv6]

/-- The same, with each topic at another place. -/
def earlySettings : List Setting :=
  [.family .ipv6, .name "demo", .image "old", .image "new", .controlPlanes 1, .workers 2,
    .node { role := .worker, image := "own" }, .apiServerAddress "::1"]

theorem lateSettings_settled : Reordered lateSettings earlySettings ∧
    SameLast lateSettings (.name "other" :: earlySettings) ∧
    Spec.build earlySettings = Spec.build lateSettings ∧
    Spec.build (.name "other" :: earlySettings) = Spec.build lateSettings ∧
    ∃ s, Spec.build lateSettings = .ok s ∧ Drafted lateSettings s ∧
      s.nodes.map (·.image) = ["new", "new", "new", "own"] := by
  have hreordered : Reordered lateSettings earlySettings :=
    ⟨by decide, fun t => by cases t <;> decide⟩
  have hsame : SameLast lateSettings (.name "other" :: earlySettings) :=
    ⟨fun t _ => by cases t <;> decide, by decide⟩
  obtain ⟨hlast, horder, hbuilt, -⟩ := settled_by_last_settings lateSettings
  have hok : Spec.build lateSettings = .ok (lateSettings.foldl Draft.apply {}).complete :=
    build_eq_ok_iff.2 ⟨drafted_complete _, by decide⟩
  exact ⟨hreordered, hsame, horder _ hreordered, hlast _ hsame, _, hok, ((hbuilt _).1 hok).1,
    by decide⟩

end LocalCluster.Cluster
