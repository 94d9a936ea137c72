import LocalCluster.Proofs.Cluster.Listing
import LocalCluster.Proofs.Cluster.Naming
import LocalCluster.Proofs.Cluster.Planning
import LocalCluster.Proofs.Cluster.Selection
import LocalCluster.Proofs.Container.Store
import Mathlib.Data.List.Perm.Subperm

/-!
# Labels tell clusters and roles

Nothing remembers which clusters there are and which nodes belong to them; both are read off the
labels of containers. What a plan writes into argument vectors is what the listings find again.

* `PlannedCluster`, `PlannedCluster.operations`: a cluster that has been planned;
  `filter_operationsOf`: in a family of clusters each is told from the others by its name.
* `markOf`, `Marked`: what an engine keeps of a planned container; `PlannedCluster.kept`.
* `listed_of_honest`: what an engine lists of containers that have been created; `listNodes_perm`,
  `listNodes_created`, `listClusters_created`: what is found in it.
* **`labels_tell_clusters`**: listings find exactly the containers that have been created.
-/

namespace LocalCluster.Cluster

open LocalCluster.Container LocalCluster.Text Script Plan Containers

/-! ## What is kept of planned containers -/

/-- What an engine keeps of a planned container: its name, its role and its cluster. -/
def markOf (cluster : String) (c : Creation) : Kept :=
  ⟨c.name, [(roleLabel, c.role.name), (clusterLabel, cluster)]⟩

section

variable {s : Spec} {proxies : Settings} {remapped : Bool} {name : String} {n : NodeSpec}

theorem kept?_of_values {argv : List String} {options : List (String × String)} {image : String}
    {role : Role} (h : read? argv = some (options, image))
    (hname : values "--name" options = [name])
    (hlabels : values "--label" options =
      [roleLabel ++ "=" ++ role.name, clusterLabel ++ "=" ++ s.name]) :
    kept? argv = some ⟨name, [(roleLabel, role.name), (clusterLabel, s.name)]⟩ := by
  have hrole : cutAt? '=' (roleLabel ++ "=" ++ role.name) = some (roleLabel, role.name) :=
    cutAt?_equals (by decide)
  have hcluster : cutAt? '=' (clusterLabel ++ "=" ++ s.name) = some (clusterLabel, s.name) :=
    cutAt?_equals (by decide)
  simp [kept?, h, hname, hlabels, hrole, hcluster]

theorem kept?_nodeCreation (published : List PortMapping) :
    kept? (nodeCreation s (commonArgs s proxies remapped) name n published).args =
      some (markOf s.name (nodeCreation s (commonArgs s proxies remapped) name n published)) := by
  have hshared := readOptions?_commonArgs s proxies remapped
  have hmounts : ∀ option, option ≠ "--volume" →
      values option ((n.mounts.map RunOption.mount).flatMap RunOption.settings) = [] :=
    fun option h => values_flatMap_map option _ _ fun _ => values_cons_ne h.symm
  have hports : ∀ option, option ≠ "--publish" → values option
      (((n.ports ++ published).map RunOption.publish).flatMap RunOption.settings) = [] :=
    fun option h => values_flatMap_map option _ _ fun _ => values_cons_ne h.symm
  refine kept?_of_values (read?_nodeCreation hshared published) ?_ ?_
  · simp only [values_append, hmounts "--name" (by decide), hports "--name" (by decide),
      values_sharedSettings s proxies remapped (by decide : "--name" ∉ _)]
    rfl
  · simp only [values_append, hmounts "--label" (by decide), hports "--label" (by decide),
      values_label_sharedSettings]
    rfl

theorem kept?_balancerCreation (port : Port) :
    kept? (balancerCreation s (commonArgs s proxies remapped) name port).args =
      some (markOf s.name (balancerCreation s (commonArgs s proxies remapped) name port)) := by
  have hshared := readOptions?_commonArgs s proxies remapped
  refine kept?_of_values (read?_balancerCreation hshared port) ?_ ?_
  · simp only [values_append,
      values_sharedSettings s proxies remapped (by decide : "--name" ∉ _)]
    rfl
  · simp only [values_append, values_label_sharedSettings]
    rfl

end

/-! ## Marks in listings -/

section

variable {cluster : String} {creation : Creation}

theorem label?_role : (markOf cluster creation).label? roleLabel = some creation.role.name := by
  simp [markOf, Kept.label?, roleLabel, clusterLabel]

theorem label?_cluster : (markOf cluster creation).label? clusterLabel = some cluster := by
  simp [markOf, Kept.label?, roleLabel, clusterLabel]

theorem passes_cluster {wanted : String} :
    (markOf cluster creation).passes ("label=" ++ clusterLabel ++ "=" ++ wanted) =
      decide (cluster = wanted) := by
  rw [passes_value (by decide), label?_cluster]
  simp

theorem passes_any_cluster :
    (markOf cluster creation).passes ("label=" ++ clusterLabel) = true := by
  rw [passes_label (by decide), label?_cluster]
  rfl

theorem fill_nodeFormat : (markOf cluster creation).fill nodeFormat =
    creation.name ++ String.singleton '\t' ++ creation.role.name := by
  have hchars : (markOf cluster creation).fillChars none nodeFormat.toList =
      ((markOf cluster creation).field ".Names").toList ++ '\t' ::
        (((markOf cluster creation).field (".Label \"" ++ roleLabel ++ "\"")).toList ++ []) := rfl
  rw [Kept.fill, hchars, field_names, field_label, label?_role]
  simp [markOf, String.append_assoc]

theorem fill_clusterFormat :
    (markOf cluster creation).fill (labelFormat clusterLabel) = cluster := by
  have hchars : (markOf cluster creation).fillChars none (labelFormat clusterLabel).toList =
      ((markOf cluster creation).field (".Label \"" ++ clusterLabel ++ "\"")).toList ++ [] := rfl
  rw [Kept.fill, hchars, field_label, label?_cluster]
  simp

end

/-! ## Planned clusters -/

/-- An engine keeps what tells a container's cluster and role, and all of it stands in one field of
one line. -/
structure Marked (x : String × Creation) : Prop where
  kept : kept? x.2.args = some (markOf x.1 x.2)
  name : x.2.name ≠ "" ∧ ∀ ch ∈ x.2.name.toList, IsPlain ch
  cluster : x.1 ≠ "" ∧ ∀ ch ∈ x.1.toList, IsPlain ch

/-- A cluster that has been planned, with the words that its own specification gives all its
containers. -/
structure PlannedCluster where
  spec : Spec
  proxies : Settings
  remapped : Bool
  ports : Ports
  creations : List Creation
  planned : ∃ t ports',
    Follows (plan spec (commonArgs spec proxies remapped) ports) t (.ok creations, ports')

namespace PlannedCluster

variable (p : PlannedCluster)

/-- The containers of a planned cluster, each with the name of the cluster. -/
def operations : List (String × Creation) := p.creations.map (p.spec.name, ·)

theorem arranged :
    ∃ ls, Arranged p.spec (commonArgs p.spec p.proxies p.remapped) p.creations ls := by
  obtain ⟨t, ports', h⟩ := p.planned
  exact ⟨_, plan_arranged (valid_of_planned h) h⟩

theorem valid : p.spec.Valid := by
  obtain ⟨t, ports', h⟩ := p.planned
  exact valid_of_planned h

/-- **An engine keeps of a planned container its name, its role and its cluster.** -/
theorem kept {x : String × Creation} (hx : x ∈ p.operations) :
    kept? x.2.args = some (markOf x.1 x.2) := by
  obtain ⟨creation, hc, rfl⟩ := List.mem_map.1 hx
  obtain ⟨ls, h⟩ := p.arranged
  exact h.forall (P := fun creation => kept? creation.args = some (markOf p.spec.name creation))
    kept?_balancerCreation (fun _ _ => kept?_nodeCreation) creation hc

theorem nodup_names : (p.operations.map fun x => x.2.name).Nodup := by
  obtain ⟨ls, h⟩ := p.arranged
  obtain ⟨roles, hroles⟩ := h.names
  have hmap : (p.operations.map fun x => x.2.name) = p.creations.map Creation.name := by
    simp [operations, Function.comp_def]
  rw [hmap, hroles]
  exact LocalCluster.Cluster.nodup_names _ _

theorem isPlain_cluster : p.spec.name ≠ "" ∧ ∀ ch ∈ p.spec.name.toList, IsPlain ch := by
  obtain ⟨hname, hchars, -⟩ := Spec.valid_iff.1 p.valid
  exact ⟨hname, fun ch hch => isPlain_of_isNameChar (hchars ch hch)⟩

theorem isPlain_name {x : String × Creation} (hx : x ∈ p.operations) :
    x.2.name ≠ "" ∧ ∀ ch ∈ x.2.name.toList, IsPlain ch := by
  obtain ⟨creation, hc, rfl⟩ := List.mem_map.1 hx
  obtain ⟨ls, h⟩ := p.arranged
  obtain ⟨roles, hroles⟩ := h.names
  obtain ⟨role, -, k, -, he⟩ := exists_of_mem_names (hroles ▸ List.mem_map_of_mem hc)
  dsimp only
  rw [he]
  exact ⟨nodeName_ne_empty, isPlain_nodeName p.isPlain_cluster.2⟩

theorem marked {x : String × Creation} (hx : x ∈ p.operations) : Marked x where
  kept := p.kept hx
  name := p.isPlain_name hx
  cluster := by
    obtain ⟨_, -, rfl⟩ := List.mem_map.1 hx
    exact p.isPlain_cluster

end PlannedCluster

/-- The operations of a family of clusters. -/
def operationsOf (family : List PlannedCluster) : List (String × Creation) :=
  family.flatMap PlannedCluster.operations

section

variable {family : List PlannedCluster} {cluster : String}

theorem filter_operationsOf_eq_nil (h : cluster ∉ family.map (·.spec.name)) :
    (operationsOf family).filter (·.1 = cluster) = [] := by
  refine List.filter_eq_nil_iff.2 fun x hx => ?_
  obtain ⟨p, hp, hxp⟩ := List.mem_flatMap.1 hx
  obtain ⟨_, -, rfl⟩ := List.mem_map.1 hxp
  rw [decide_eq_true_eq]
  rintro rfl
  exact h (List.mem_map.2 ⟨p, hp, rfl⟩)

/-- Within a family of distinct names, a cluster is told from the others by its name. -/
theorem filter_operationsOf (hnames : (family.map (·.spec.name)).Nodup) {p : PlannedCluster}
    (hp : p ∈ family) : (operationsOf family).filter (·.1 = p.spec.name) = p.operations := by
  have hown : p.operations.filter (·.1 = p.spec.name) = p.operations := by
    refine List.filter_eq_self.2 fun x hx => ?_
    obtain ⟨_, -, rfl⟩ := List.mem_map.1 hx
    exact decide_eq_true rfl
  obtain ⟨before, after, rfl⟩ := List.append_of_mem hp
  rw [List.map_append, List.map_cons] at hnames
  obtain ⟨-, hafter, hbefore⟩ := List.nodup_append.1 hnames
  have hnone : (operationsOf before).filter (·.1 = p.spec.name) = [] :=
    filter_operationsOf_eq_nil fun h => hbefore _ h _ List.mem_cons_self rfl
  have hnone' : (operationsOf after).filter (·.1 = p.spec.name) = [] :=
    filter_operationsOf_eq_nil (List.nodup_cons.1 hafter).1
  unfold operationsOf at hnone hnone' ⊢
  rw [List.flatMap_append, List.flatMap_cons, List.filter_append, List.filter_append, hnone, hown,
    hnone', List.nil_append, List.append_nil]

theorem nodup_names_of_family (h : (family.map (·.spec.name)).Nodup) (cluster : String) :
    (((operationsOf family).filter (·.1 = cluster)).map fun x => x.2.name).Nodup := by
  by_cases hc : cluster ∈ family.map (·.spec.name)
  · obtain ⟨p, hp, rfl⟩ := List.mem_map.1 hc
    rw [filter_operationsOf h hp]
    exact p.nodup_names
  · rw [filter_operationsOf_eq_nil hc]
    exact List.nodup_nil

end

/-! ## Listings -/

/-- What an engine keeps when these containers have been created. -/
def storeOf (created : List (String × Creation)) : List Kept :=
  created.filterMap fun x => kept? x.2.args

theorem mapM_eq_ok {α β ε : Type} {f : α → Except ε β} {g : α → β} {xs : List α}
    (h : ∀ x ∈ xs, f x = .ok (g x)) : xs.mapM f = .ok (xs.map g) := by
  rw [mapM_eq_ok_iff, List.forall₂_map_right_iff, List.forall₂_same]
  exact h

section

variable {c : Containers} {created : List (String × Creation)}

/-- An engine that keeps marks lists a line for each container that passes, and the lines are read
back as they are. -/
theorem listed_of_honest {filter format : String} {answer : Except RuntimeFault Output}
    {keep : String × Creation → Bool} (line : String × Creation → String)
    (hmarked : ∀ x ∈ created, Marked x)
    (hkeep : ∀ x, (markOf x.1 x.2).passes filter = keep x)
    (hline : ∀ x, (markOf x.1 x.2).fill format = line x)
    (hplain : ∀ x ∈ created, line x ≠ "" ∧ '\n' ∉ (line x).toList ∧ '\r' ∉ (line x).toList)
    (honest : Honest (storeOf created)
      ⟨.command (c.engine.command ["ps", "-a", "--filter", filter, "--format", format]), answer⟩) :
    ∃ (listed : List (String × Creation)) (output : Output),
      listed.Perm (created.filter keep) ∧ answer = .ok output ∧
        output.lines = listed.map line := by
  have hstore : storeOf created = created.map fun x => markOf x.1 x.2 := by
    rw [storeOf, List.filterMap_congr fun x hx => (hmarked x hx).kept]
    exact congrFun List.filterMap_eq_map' _
  obtain ⟨rows, stderr, hperm, rfl⟩ := honest filter format rfl
  rw [hstore, List.filter_map] at hperm
  obtain ⟨listed, rfl, hlisted⟩ := (congrFun₂ (List.eq_map_comp_perm _) rows _).mpr hperm
  have hkeep' : (Kept.passes filter ∘ fun x : String × Creation => markOf x.1 x.2) = keep :=
    funext hkeep
  rw [hkeep'] at hlisted
  refine ⟨listed, _, hlisted, rfl, ?_⟩
  have hlines : (listed.map fun x => markOf x.1 x.2).map (Kept.fill format) = listed.map line := by
    rw [List.map_map]
    exact List.map_congr_left fun x _ => hline x
  rw [Output.lines, hlines]
  refine linesOfBytes_printLines fun l hl => ?_
  obtain ⟨x, hx, rfl⟩ := List.mem_map.1 hl
  exact hplain x (List.mem_of_mem_filter (hlisted.mem_iff.1 hx))

theorem not_mem_of_isPlain {text : String} (h : ∀ ch ∈ text.toList, IsPlain ch) :
    '\n' ∉ text.toList ∧ '\r' ∉ text.toList ∧ '\t' ∉ text.toList :=
  ⟨fun hmem => (h _ hmem).1 rfl, fun hmem => (h _ hmem).2.1 rfl, fun hmem => (h _ hmem).2.2 rfl⟩

/-- The node that a planned container becomes. -/
def Containers.nodeOf (c : Containers) (creation : Creation) : Node :=
  ⟨creation.name, creation.role, c.engine⟩

theorem nodeOfLine_line {creation : Creation} (h : '\t' ∉ creation.name.toList) :
    c.nodeOfLine (creation.name ++ String.singleton '\t' ++ creation.role.name) =
      .ok (c.nodeOf creation) := by
  have hrole := (not_mem_of_isPlain (isPlain_roleName creation.role)).2.2
  rw [Containers.nodeOfLine, split_field h hrole]
  simp [Role.read, Role.parse?_name, Except.map, nodeOf]

theorem listNodes_perm {cluster : String} {t : List (Exchange Request Request.Answer)}
    {r : Except Fault (List Node)} (hmarked : ∀ x ∈ created, Marked x)
    (hnodup : ((created.filter (·.1 = cluster)).map fun x => x.2.name).Nodup)
    (h : Follows (c.listNodes cluster).run t r) (honest : ∀ x ∈ t, Honest (storeOf created) x) :
    ∃ nodes, r = .ok nodes ∧
      nodes.Perm ((created.filter (·.1 = cluster)).map fun x => c.nodeOf x.2) ∧
      nodes.Pairwise (·.name < ·.name) := by
  obtain ⟨answer, rfl, rfl⟩ := follows_listNodes_iff.1 h
  obtain ⟨listed, output, hperm, rfl, hlines⟩ := listed_of_honest
    (fun x => x.2.name ++ String.singleton '\t' ++ x.2.role.name)
    hmarked (fun x => passes_cluster) (fun x => fill_nodeFormat) (fun x hx => by
      have hn := not_mem_of_isPlain (hmarked x hx).name.2
      have hr := not_mem_of_isPlain (isPlain_roleName x.2.role)
      exact ⟨by simp, by simp [hn.1, hr.1], by simp [hn.2.1, hr.2.1]⟩)
    (honest _ List.mem_cons_self)
  have hmem : ∀ x ∈ listed, x ∈ created := fun x hx =>
    List.mem_of_mem_filter (hperm.mem_iff.1 hx)
  have hread : c.nodesIn (.ok output) =
      .ok (sortOn Node.name (listed.map fun x => c.nodeOf x.2)) := by
    have hnodes := mapM_eq_ok (f := c.nodeOfLine ∘ fun x : String × Creation =>
      x.2.name ++ String.singleton '\t' ++ x.2.role.name) fun x hx =>
      nodeOfLine_line (c := c) (not_mem_of_isPlain (hmarked x (hmem x hx)).name.2).2.2
    rw [nodesIn, nodesOfLines, hlines, List.mapM_map, hnodes]
    rfl
  refine ⟨_, hread, (sortOn_perm _ _).trans (hperm.map _), sortOn_pairwise_lt ?_⟩
  rw [List.map_map]
  exact (hperm.map _).nodup_iff.2 hnodup

/-- Listing the nodes of a cluster finds its created containers by their names and roles. -/
theorem listNodes_created {cluster : String} {t : List (Exchange Request Request.Answer)}
    {r : Except Fault (List Node)} (hmarked : ∀ x ∈ created, Marked x)
    (hnodup : ((created.filter (·.1 = cluster)).map fun x => x.2.name).Nodup)
    (h : Follows (c.listNodes cluster).run t r) (honest : ∀ x ∈ t, Honest (storeOf created) x) :
    ∃ nodes, r = .ok nodes ∧
      (nodes.map fun n => (n.name, n.role)).Perm
        ((created.filter (·.1 = cluster)).map fun x => (x.2.name, x.2.role)) ∧
      nodes.Pairwise (·.name < ·.name) := by
  obtain ⟨nodes, hr, hperm, horder⟩ := listNodes_perm hmarked hnodup h honest
  refine ⟨nodes, hr, ?_, horder⟩
  have hpairs := hperm.map fun n => (n.name, n.role)
  rwa [List.map_map] at hpairs

theorem listClusters_created {t : List (Exchange Request Request.Answer)}
    {r : Except Fault (List String)} (hmarked : ∀ x ∈ created, Marked x)
    (h : Follows c.listClusters.run t r) (honest : ∀ x ∈ t, Honest (storeOf created) x) :
    ∃ names, r = .ok names ∧ names.Pairwise (· < ·) ∧
      ∀ name, name ∈ names ↔ ∃ x ∈ created, x.1 = name := by
  obtain ⟨answer, rfl, rfl⟩ := follows_listClusters_iff.1 h
  obtain ⟨listed, output, hperm, rfl, hlines⟩ := listed_of_honest (fun x => x.1)
    hmarked (fun x => passes_any_cluster) (fun x => fill_clusterFormat) (fun x hx => by
      have hc := not_mem_of_isPlain (hmarked x hx).cluster.2
      exact ⟨(hmarked x hx).cluster.1, hc.1, hc.2.1⟩) (honest _ List.mem_cons_self)
  refine ⟨_, rfl, sortDistinct_pairwise _, fun name => ?_⟩
  rw [mem_sortDistinct, List.mem_filter, hlines, List.mem_map, decide_eq_true_eq]
  constructor
  · rintro ⟨⟨x, hx, rfl⟩, -⟩
    exact ⟨x, List.mem_of_mem_filter (hperm.mem_iff.1 hx), rfl⟩
  · rintro ⟨x, hx, rfl⟩
    exact ⟨⟨x, hperm.mem_iff.2 (List.mem_filter.2 ⟨hx, rfl⟩), rfl⟩, (hmarked x hx).cluster.1⟩

end

/-- **Labels tell clusters and roles.** Of a family of planned clusters with distinct names, let any
containers have been created in an engine that keeps names and labels. Then listing the nodes of a
cluster, of the family or not, succeeds and finds exactly its created containers with their roles,
by name and none twice; and listing the clusters finds exactly those with a created container, in
order and each once. -/
theorem labels_tell_clusters (c : Containers) (family : List PlannedCluster)
    (hnames : (family.map (·.spec.name)).Nodup) (created : List (String × Creation))
    (hcreated : created.Subperm (operationsOf family)) :
    (∀ cluster t r, Follows (c.listNodes cluster).run t r →
      (∀ x ∈ t, Honest (storeOf created) x) →
      ∃ nodes, r = .ok nodes ∧
        (nodes.map fun n => (n.name, n.role)).Perm
          ((created.filter (·.1 = cluster)).map fun x => (x.2.name, x.2.role)) ∧
        nodes.Pairwise (·.name < ·.name)) ∧
    (∀ t r, Follows c.listClusters.run t r → (∀ x ∈ t, Honest (storeOf created) x) →
      ∃ names, r = .ok names ∧ names.Pairwise (· < ·) ∧
        ∀ name, name ∈ names ↔ ∃ x ∈ created, x.1 = name) := by
  have hmarked : ∀ x ∈ created, Marked x := fun x hx => by
    obtain ⟨p, -, hp⟩ := List.mem_flatMap.1 (hcreated.subset hx)
    exact p.marked hp
  refine ⟨fun cluster t r h honest => ?_, fun t r h honest =>
    listClusters_created hmarked h honest⟩
  obtain ⟨picked, hpicked, hsub⟩ := hcreated.filter fun x => decide (x.1 = cluster)
  have hnodup : (picked.map fun x => x.2.name).Nodup :=
    (hsub.map _).nodup (nodup_names_of_family hnames cluster)
  exact listNodes_created hmarked ((hpicked.symm.map _).nodup_iff.2 hnodup) h honest

/-- The plan for two control planes and a worker, as a planned cluster. -/
def mixedCluster : PlannedCluster where
  spec := mixedSpec
  proxies := [("NO_PROXY", "example.org")]
  remapped := false
  ports := {}
  creations := ((plan mixedSpec (commonArgs mixedSpec [("NO_PROXY", "example.org")] false)
    {}).play Request.compliance).2.1.toOption.getD []
  planned := ⟨_, _, follows_play Request.compliance _⟩

/-- All its containers have been created but the load balancer. -/
def mixedCreated : List (String × Creation) := mixedCluster.operations.tail

theorem mixedCreated_listed : ∃ nodes,
    (((({} : Containers).listNodes "mixed").run).play (answersOf (storeOf mixedCreated))).2 =
        .ok nodes ∧
      (nodes.map fun n => (n.name, n.role)).Perm
        ((mixedCreated.filter (·.1 = "mixed")).map fun x => (x.2.name, x.2.role)) ∧
      nodes.Pairwise (·.name < ·.name) := by
  have hcreated : mixedCreated.Subperm (operationsOf [mixedCluster]) := by
    rw [operationsOf, List.flatMap_cons, List.flatMap_nil, List.append_nil]
    exact (List.tail_sublist _).subperm
  refine (labels_tell_clusters {} [mixedCluster] (by simp) mixedCreated hcreated).1 "mixed" _ _
    (follows_play _ _) fun x hx => ?_
  obtain ⟨q, rfl⟩ := exists_of_mem_play hx
  exact honest_answersOf _ q

end LocalCluster.Cluster
