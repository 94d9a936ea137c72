import LocalCluster.Proofs.Cluster.Depictions
import LocalCluster.Proofs.Cluster.Preparation

/-!
# What containers inherit of an environment

All containers of a cluster are given the same variables, the load balancer among them. What they
are given is chosen from an environment: for each proxy one of two spellings, and as exceptions the
subnets of the cluster before those that were there.

* `Chosen`: what a variable with two spellings comes to; `chosen_iff`: it is what is inherited.
* `variables?`: the variables that an argument vector sets, as a reader from the left finds them.
* **`variables?_of_planned`**: every planned container sets the settings it was planned with.
* **`containers_inherit`**: what they are, from the environment to the argument vectors.
-/

namespace LocalCluster.Cluster

open LocalCluster.Container LocalCluster.Text Script Plan

variable {environment : String → Option String} {upper lower : String} {r r' : Option String}
variable {s : Spec} {settings : Settings} {remapped : Bool} {ports ports' : Ports}
variable {creations : List Creation} {t : List (Exchange Request Request.Answer)}

/-! ## Two spellings -/

/-- What a variable with two spellings comes to. An empty value counts as none. -/
inductive Chosen (environment : String → Option String) (upper lower : String) :
    Option String → Prop where
  | upper {value : String} (h : environment upper = some value) (hne : value ≠ "") :
      Chosen environment upper lower (some value)
  | lower {value : String} (hunset : environment upper = none ∨ environment upper = some "")
      (h : environment lower = some value) (hne : value ≠ "") :
      Chosen environment upper lower (some value)
  | unset (hupper : environment upper = none ∨ environment upper = some "")
      (hlower : environment lower = none ∨ environment lower = some "") :
      Chosen environment upper lower none

/-- **What is chosen is what is inherited.** -/
theorem chosen_iff {name : String} :
    Chosen environment name (lowerName name) r ↔ r = inherited environment name := by
  constructor
  · intro h
    cases h with
    | upper h hne => exact (inherited_eq_some_iff.2 ⟨hne, .inl h⟩).symm
    | lower hunset h hne => exact (inherited_eq_some_iff.2 ⟨hne, .inr ⟨hunset, h⟩⟩).symm
    | unset hupper hlower => exact (inherited_eq_none_iff.2 ⟨hupper, hlower⟩).symm
  · rintro rfl
    cases h : inherited environment name with
    | none =>
      obtain ⟨hupper, hlower⟩ := inherited_eq_none_iff.1 h
      exact .unset hupper hlower
    | some value =>
      obtain ⟨hne, h | ⟨hunset, h⟩⟩ := inherited_eq_some_iff.1 h
      · exact .upper h hne
      · exact .lower hunset h hne

/-! ## Argument vectors -/

/-- The variables that an argument vector sets, in order, with their values. -/
def variables? (argv : List String) : Option Settings := do
  let (items, _) ← readArgv? argv
  (valuesOf "-e" items).mapM (cutAt? '=')

theorem variables?_of_written {items : List Item} {image : String} {argv : List String}
    (h : Written items image argv)
    (hvalues : valuesOf "-e" items = settings.map fun (name, value) => name ++ "=" ++ value)
    (hnames : ∀ x ∈ settings, '=' ∉ x.1.toList) : variables? argv = some settings := by
  have hread : (valuesOf "-e" items).mapM (cutAt? '=') = some settings := by
    rw [hvalues, mapM_eq_some_iff]
    exact environment_read hnames
  simp [variables?, readArgv?_eq_some_iff.2 h, hread]

/-- **Every planned container sets the settings it was planned with**, in their order, and no other
variable. -/
theorem variables?_of_planned (hnames : ∀ x ∈ settings, '=' ∉ x.1.toList)
    (h : Follows (plan s (commonArgs s settings remapped) ports) t (.ok creations, ports')) :
    ∀ creation ∈ creations, variables? creation.args = some settings := by
  have hshared : valuesOf "-e" (sharedItems s settings remapped) =
      settings.map fun (name, value) => name ++ "=" ++ value := valuesOf_env_sharedItems
  refine Arranged.forall (plan_arranged (valid_of_planned h) h) (fun port => ?_)
    fun name n published => ?_
  · refine variables?_of_written (written_balancerCreation readItems?_commonArgs port) ?_ hnames
    rw [balancerItems, valuesOf_append, valuesOf_append, hshared]
    simp [valuesOf, values, Item.setting]
  · refine variables?_of_written (written_nodeCreation readItems?_commonArgs published) ?_ hnames
    rw [valuesOf_nodeItems, hshared]
    simp [valuesOf, values, Item.setting]

/-! ## From the environment to the argument vectors -/

/-- **What containers inherit of an environment.** For each proxy, and for the exceptions, the name
in capitals comes first, and the one in small letters counts where that is unset or empty. With
neither a proxy nor exceptions no container sets a variable. Otherwise the exceptions are set once
under each spelling: the subnets in order, and after them what was there, with no entry lost; and
the proxies stay as they were. All containers of a plan set the same, and so do those of a cluster
that is prepared on an engine, with the subnets that it tells of. -/
theorem containers_inherit (environment : String → Option String) :
    ∃ http https previous,
      Chosen environment "HTTP_PROXY" "http_proxy" http ∧
      Chosen environment "HTTPS_PROXY" "https_proxy" https ∧
      Chosen environment "NO_PROXY" "no_proxy" previous ∧
      let found := Id.run (proxySettings environment)
      found = named "HTTPS_PROXY" https ++ named "HTTP_PROXY" http ++ named "NO_PROXY" previous ∧
      (∀ subnets, found = [] → exceptSubnets subnets found = []) ∧
      (∀ subnets, found ≠ [] → ∃ list,
        exceptSubnets subnets found = named "HTTPS_PROXY" https ++ named "HTTP_PROXY" http ++
          [("NO_PROXY", list), ("no_proxy", list)] ∧
        list = join "," (subnets ++ previous.toList) ∧
        (subnets ++ previous.toList ≠ [] →
          split ',' list = (subnets ++ previous.toList).flatMap (split ','))) ∧
      (∀ s subnets remapped ports t creations ports',
        Follows (plan s (commonArgs s (exceptSubnets subnets found) remapped) ports) t
          (.ok creations, ports') →
        ∀ creation ∈ creations, variables? creation.args = some (exceptSubnets subnets found)) ∧
      ∀ c : Containers, c.environment = environment → ∀ s t creations,
        Follows (c.prepare s).run t (.ok creations) → ∃ subnets,
          (found ≠ [] → ∃ o line, ⟨.command (c.engine.subnetQuery s.network), .ok o⟩ ∈ t ∧
            o.lines = [line] ∧ subnets = words line) ∧
          ∀ creation ∈ creations,
            variables? creation.args = some (exceptSubnets subnets found) := by
  refine ⟨_, _, _, chosen_iff.2 rfl, chosen_iff.2 rfl, chosen_iff.2 rfl, proxySettings_eq,
    fun subnets hnone => ?_, fun subnets hsome => ⟨_, exceptSubnets_eq hsome, rfl, split_join⟩,
    fun s subnets remapped ports t creations ports' hplan =>
      variables?_of_planned (not_mem_of_environment _ _) hplan,
    fun c henvironment s t creations hprepare => ?_⟩
  · rw [hnone]
    rfl
  subst henvironment
  obtain ⟨t₁, t₂, t₃, common, ports, rfl, hshared, hplan⟩ := exists_shared_of_prepare hprepare
  obtain ⟨hnone, remapped, rfl⟩ | ⟨-, o, line, remapped, hmem, hline, rfl⟩ :=
    shared_of_sharedArgs hshared
  · have hnil : Id.run (proxySettings c.environment) = [] :=
      by_contra fun hne => hnone (proxySettings_ne_nil_iff.1 hne)
    refine ⟨[], fun hne => absurd hnil hne, ?_⟩
    rw [hnil]
    exact variables?_of_planned (List.forall_mem_nil _) hplan
  · exact ⟨words line, fun _ => ⟨o, line, by simp [hmem], hline, rfl⟩,
      variables?_of_planned (not_mem_of_environment _ _) hplan⟩

/-- An environment with a proxy in small letters, under an empty one in capitals, and exceptions. -/
def mixedEnvironment (name : String) : Option String :=
  if name = "HTTP_PROXY" then some ""
  else if name = "http_proxy" then some "http://proxy:3128"
  else if name = "NO_PROXY" then some "localhost,10.0.0.1"
  else none

/-- The settings of that environment on a network with two subnets. -/
def mixedSettings : Settings :=
  exceptSubnets ["172.18.0.0/16", "fc00::/64"] (Id.run (proxySettings mixedEnvironment))

/-- The containers of two control planes and a worker in that environment. -/
def mixedInheritors : List Creation :=
  ((plan mixedSpec (commonArgs mixedSpec mixedSettings true) {}).play
    Request.compliance).2.1.toOption.getD []

theorem mixedSettings_inherited :
    mixedInheritors.map (·.role) =
      [.externalLoadBalancer, .controlPlane, .worker, .controlPlane] ∧
    (∃ list, split ',' list = ["172.18.0.0/16", "fc00::/64", "localhost", "10.0.0.1"] ∧
      values "NO_PROXY" mixedSettings = [list] ∧ values "no_proxy" mixedSettings = [list]) ∧
    ∀ creation ∈ mixedInheritors, variables? creation.args = some
      [("HTTP_PROXY", "http://proxy:3128"),
        ("NO_PROXY", "172.18.0.0/16,fc00::/64,localhost,10.0.0.1"),
        ("no_proxy", "172.18.0.0/16,fc00::/64,localhost,10.0.0.1")] := by
  obtain ⟨http, https, previous, -, -, hprevious, -, -, hsome, hplan, -⟩ :=
    containers_inherit mixedEnvironment
  cases hprevious with
  | unset hunset => simp [mixedEnvironment] at hunset
  | lower hunset => simp [mixedEnvironment] at hunset
  | upper hfound =>
    obtain rfl := Option.some.inj hfound
    obtain ⟨list, hsettings, -, hentries⟩ :=
      hsome ["172.18.0.0/16", "fc00::/64"] (by decide +kernel)
    have hinherited : ∀ creation ∈ mixedInheritors, variables? creation.args = some mixedSettings :=
      hplan mixedSpec ["172.18.0.0/16", "fc00::/64"] true {} _ _ _
        (follows_play Request.compliance _)
    refine ⟨by decide +kernel, ⟨list, (hentries (by simp)).trans (by decide), ?_, ?_⟩, ?_⟩
    · rw [mixedSettings, hsettings]
      cases http <;> cases https <;> simp [named, values]
    · rw [mixedSettings, hsettings]
      cases http <;> cases https <;> simp [named, values]
    · intro creation hcreation
      rw [hinherited creation hcreation]
      decide +kernel

end LocalCluster.Cluster
