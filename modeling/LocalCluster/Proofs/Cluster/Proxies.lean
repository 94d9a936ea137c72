import LocalCluster.Cluster.Proxy
import LocalCluster.Proofs.Text.Printed

/-!
# Proxies of an environment

* `inherited`: the value that nodes inherit for a variable; **`inherited_eq_some_iff`**: the one
  under its name in capitals, unless that is unset or empty, and then the one in small letters.
* **`proxySettings_eq`**: the settings of an environment are what is inherited, by name.
* `exceptions`: the addresses that no proxy is used for; **`exceptSubnets_eq`**: these under both
  spellings of their name, and the proxies as they were.
-/

namespace LocalCluster.Cluster

open LocalCluster.Text

variable {environment : String → Option String} {name value : String} {subnets : List String}

/-- The value that nodes inherit for a variable. -/
def inherited (environment : String → Option String) (name : String) : Option String :=
  (nonEmpty (environment name)).or (nonEmpty (environment (lowerName name)))

theorem run_lookUp : Id.run (lookUp environment name) = inherited environment name := by
  unfold lookUp inherited
  dsimp only [Bind.bind, Id.run]
  cases nonEmpty (environment name) <;> rfl

theorem nonEmpty_eq_some_iff {found : Option String} :
    nonEmpty found = some value ↔ value ≠ "" ∧ found = some value := by
  rw [nonEmpty, Option.filter_eq_some_iff, and_comm]
  simp

theorem nonEmpty_eq_none_iff {found : Option String} :
    nonEmpty found = none ↔ found = none ∨ found = some "" := by
  cases found <;> simp [nonEmpty, Option.filter]

/-- **The name in small letters is looked at when the other brings nothing.** -/
theorem inherited_eq_some_iff : inherited environment name = some value ↔
    value ≠ "" ∧ (environment name = some value ∨
      (environment name = none ∨ environment name = some "") ∧
        environment (lowerName name) = some value) := by
  rw [inherited, Option.or_eq_some_iff, nonEmpty_eq_some_iff, nonEmpty_eq_none_iff,
    nonEmpty_eq_some_iff]
  tauto

theorem inherited_eq_none_iff : inherited environment name = none ↔
    (environment name = none ∨ environment name = some "") ∧
      (environment (lowerName name) = none ∨ environment (lowerName name) = some "") := by
  rw [inherited, Option.or_eq_none_iff, nonEmpty_eq_none_iff, nonEmpty_eq_none_iff]

/-! ## Settings -/

/-- A variable with its value, if it has one. -/
def named (name : String) (value : Option String) : Settings := (value.map (name, ·)).toList

/-- **What is inherited is set, by name.** -/
theorem proxySettings_eq : Id.run (proxySettings environment) =
    named "HTTPS_PROXY" (inherited environment "HTTPS_PROXY") ++
      named "HTTP_PROXY" (inherited environment "HTTP_PROXY") ++
      named "NO_PROXY" (inherited environment "NO_PROXY") := by
  have hfound : Id.run (proxySettings environment) = Settings.ofList
      ([(Id.run (lookUp environment "HTTP_PROXY")).map ("HTTP_PROXY", ·),
        (Id.run (lookUp environment "HTTPS_PROXY")).map ("HTTPS_PROXY", ·),
        (Id.run (lookUp environment "NO_PROXY")).map ("NO_PROXY", ·)].filterMap id) := rfl
  rw [hfound, run_lookUp, run_lookUp, run_lookUp]
  cases inherited environment "HTTP_PROXY" <;> cases inherited environment "HTTPS_PROXY" <;>
    cases inherited environment "NO_PROXY" <;> rfl

theorem mem_named {x : String × String} {value : Option String} :
    x ∈ named name value ↔ x.1 = name ∧ value = some x.2 := by
  obtain ⟨n, v⟩ := x
  cases value <;> simp [named, eq_comm, and_comm]

theorem name_mem_of_mem_proxySettings {x : String × String}
    (h : x ∈ Id.run (proxySettings environment)) : x.1 ∈ proxyNames := by
  simp only [proxySettings_eq, List.mem_append, mem_named] at h
  rcases h with (⟨h, -⟩ | ⟨h, -⟩) | ⟨h, -⟩ <;> simp [h, proxyNames]

/-- The addresses that no proxy is used for: some subnets, and what was there before. -/
def exceptions (environment : String → Option String) (subnets : List String) : String :=
  join "," (subnets ++ (inherited environment "NO_PROXY").toList)

/-- **Where there are settings, the exceptions are set under both spellings of their name**, and the
proxies stay as they are. -/
theorem exceptSubnets_eq (h : Id.run (proxySettings environment) ≠ []) :
    exceptSubnets subnets (Id.run (proxySettings environment)) =
      named "HTTPS_PROXY" (inherited environment "HTTPS_PROXY") ++
        named "HTTP_PROXY" (inherited environment "HTTP_PROXY") ++
        [("NO_PROXY", exceptions environment subnets),
          ("no_proxy", exceptions environment subnets)] := by
  have hprevious : nonEmpty ((Id.run (proxySettings environment)).lookup "NO_PROXY") =
      inherited environment "NO_PROXY" := by
    have hfound : (Id.run (proxySettings environment)).lookup "NO_PROXY" =
        inherited environment "NO_PROXY" := by
      rw [proxySettings_eq]
      cases inherited environment "HTTPS_PROXY" <;> cases inherited environment "HTTP_PROXY" <;>
        cases inherited environment "NO_PROXY" <;> rfl
    rw [hfound]
    cases hvalue : inherited environment "NO_PROXY" with
    | none => rfl
    | some value => exact nonEmpty_eq_some_iff.2 ⟨(inherited_eq_some_iff.1 hvalue).1, rfl⟩
  unfold exceptSubnets exceptions
  rw [if_neg (by simpa using h), hprevious, proxySettings_eq]
  cases inherited environment "HTTPS_PROXY" <;> cases inherited environment "HTTP_PROXY" <;>
    cases inherited environment "NO_PROXY" <;> rfl

end LocalCluster.Cluster
