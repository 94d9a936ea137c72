import LocalCluster.Cluster.Spec

/-!
# Drafts of specifications

A specification is drafted by settings in any order and then completed: nodes without an image get
the drafted one or the default, and what was not set follows from the family.

* `Setting`, `Draft.apply`: one setting and its effect.
* `Draft.complete`: the specification that a draft stands for.
* `Draft.build`: that specification, if nothing is wrong with it; `Spec.build` starts from settings.
-/

namespace LocalCluster.Cluster

open LocalCluster.Container

/-- One setting of a draft. -/
inductive Setting where
  | name (value : String)
  /-- The image of nodes that name none. -/
  | image (value : String)
  /-- One more node. -/
  | node (n : NodeSpec)
  /-- Plain control planes. -/
  | controlPlanes (count : Nat)
  /-- Plain workers. -/
  | workers (count : Nat)
  | family (value : Family)
  | apiServerAddress (value : String)
  | apiServerPort (value : Port)
  | podSubnet (value : String)
  | serviceSubnet (value : String)
  | network (value : String)
  deriving DecidableEq, Repr

/-- What has been set so far. -/
structure Draft where
  name : String := ""
  image : Option String := none
  nodes : List NodeSpec := []
  family : Family := .ipv4
  apiServerAddress : Option String := none
  apiServerPort : Port := 0
  podSubnet : Option String := none
  serviceSubnet : Option String := none
  network : Option String := none
  deriving DecidableEq, Repr

/-- The nodes that a setting adds. -/
def Setting.nodes : Setting → List NodeSpec
  | .node n => [n]
  | .controlPlanes count => List.replicate count { role := .controlPlane }
  | .workers count => List.replicate count { role := .worker }
  | _ => []

namespace Draft

/-- A draft after one more setting: a value replaces the one before it, nodes are added. -/
def apply (d : Draft) (s : Setting) : Draft :=
  match s with
  | .name value => { d with name := value }
  | .image value => { d with image := some value }
  | .family value => { d with family := value }
  | .apiServerAddress value => { d with apiServerAddress := some value }
  | .apiServerPort value => { d with apiServerPort := value }
  | .podSubnet value => { d with podSubnet := some value }
  | .serviceSubnet value => { d with serviceSubnet := some value }
  | .network value => { d with network := some value }
  | s => { d with nodes := d.nodes ++ s.nodes }

/-- A node that names no image gets `image`. -/
def fillImage (image : String) (n : NodeSpec) : NodeSpec :=
  if n.image = "" then { n with image } else n

/-- The specification that a draft stands for. -/
def complete (d : Draft) : Spec :=
  let base := Networking.ofFamily d.family
  { name := d.name
    nodes := d.nodes.map (fillImage (d.image.getD defaultNodeImage))
    networking :=
      { base with
        apiServerAddress := d.apiServerAddress.getD base.apiServerAddress
        apiServerPort := d.apiServerPort
        podSubnet := d.podSubnet.getD base.podSubnet
        serviceSubnet := d.serviceSubnet.getD base.serviceSubnet }
    network := d.network.getD defaultNetwork }

/-- The completed draft, if nothing is wrong with it. -/
def build (d : Draft) : Except Fault Spec := d.complete.validate.map fun _ => d.complete

end Draft

/-- The specification drafted by settings in order. -/
def Spec.build (settings : List Setting) : Except Fault Spec :=
  (settings.foldl Draft.apply {}).build

end LocalCluster.Cluster
