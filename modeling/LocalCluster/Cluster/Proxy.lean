import LocalCluster.Text.Cut
import LocalCluster.Text.Sorted

/-!
# Proxy settings

Nodes inherit the proxies of the host. A variable is looked up under its name in capitals, and under
its name in small letters when that brings nothing; addresses inside the network of the cluster must
not go through a proxy.

* `proxySettings`: the settings of an environment, which may be any monad that looks variables up.
* `exceptSubnets`: the same with the subnets of the cluster put in front of the exceptions.
-/

namespace LocalCluster.Cluster

open LocalCluster.Text

/-- Variables and their values, in the order of the names of the variables. -/
abbrev Settings : Type := List (String × String)

/-- A setting put into its place, or replaced. -/
def Settings.set (name value : String) : Settings → Settings
  | [] => [(name, value)]
  | (n, v) :: rest =>
    if name < n then (name, value) :: (n, v) :: rest
    else if name = n then (name, value) :: rest
    else (n, v) :: Settings.set name value rest

/-- Settings that are put in one after the other. -/
def Settings.ofList (found : List (String × String)) : Settings :=
  found.foldl (fun settings (name, value) => settings.set name value) []

/-- The variables that nodes inherit. -/
def proxyNames : List String := ["HTTP_PROXY", "HTTPS_PROXY", "NO_PROXY"]

/-- A name in small letters. -/
def lowerName (name : String) : String := String.ofList (name.toList.map Char.toLower)

variable {m : Type → Type} [Monad m]

/-- A value unless it is empty. -/
def nonEmpty (value : Option String) : Option String := value.filter (· ≠ "")

/-- The value of a variable under its name in capitals, or else in small letters. -/
def lookUp (find : String → m (Option String)) (name : String) : m (Option String) := do
  match nonEmpty (← find name) with
  | some value => return some value
  | none => return nonEmpty (← find (lowerName name))

/-- The proxy settings of an environment. -/
def proxySettings (find : String → m (Option String)) : m Settings := do
  let values ← proxyNames.mapM fun name => do
    return (← lookUp find name).map fun value => (name, value)
  return Settings.ofList (values.filterMap id)

/-- The settings with these subnets in front of the exceptions, under both spellings of their name;
without any proxy nothing is set. -/
def exceptSubnets (subnets : List String) (settings : Settings) : Settings :=
  if settings.isEmpty then settings
  else
    let exceptions := join "," (subnets ++ (nonEmpty (settings.lookup "NO_PROXY")).toList)
    Settings.set "no_proxy" exceptions (Settings.set "NO_PROXY" exceptions settings)

end LocalCluster.Cluster
