import LocalCluster.Cluster.Role

/-!
# Names of nodes

The first node of a role is named after its cluster and the role; the later ones carry their number.

* `nodeName`, `Namer.next`, `Namer.names`.
-/

namespace LocalCluster.Cluster

/-- The name of the `k`-th node of a role. -/
def nodeName (cluster : String) (role : Role) (k : Nat) : String :=
  cluster ++ "-" ++ role.name ++ (if k = 1 then "" else toString k)

/-- The naming of the nodes of one cluster. -/
structure Namer where
  cluster : String
  /-- The roles of the nodes that have their names already. -/
  named : List Role := []
  deriving DecidableEq, Repr

namespace Namer

/-- The name of the next node of a role. -/
def next (n : Namer) (role : Role) : String × Namer :=
  (nodeName n.cluster role (n.named.count role + 1), { n with named := role :: n.named })

/-- The names of nodes of these roles, one after the other. -/
def names (n : Namer) : List Role → List String
  | [] => []
  | role :: rest => (n.next role).1 :: (n.next role).2.names rest

end Namer

end LocalCluster.Cluster
