import LocalCluster.Container.Port
import LocalCluster.Text.Lines

/-!
# Configuration of the load balancer

The load balancer is an haproxy in a container. Its configuration names every API server behind it.

* `Balancer.render`: the configuration for a list of backends.
-/

namespace LocalCluster.Cluster.Balancer

open LocalCluster.Container LocalCluster.Net LocalCluster.Text

/-- The image of the load balancer. -/
def image : String := "kindest/haproxy:v20230606-42a2262b"

/-- The port on which the load balancer listens inside its container. -/
def port : Port := 6443

/-- Where the load balancer finds its configuration. -/
def configPath : String := "/usr/local/etc/haproxy/haproxy.cfg"

/-- An API server behind the load balancer. -/
structure Backend where
  /-- The name of its node. -/
  name : String
  address : String
  port : Port
  deriving DecidableEq, Repr

/-- The part of the configuration that does not depend on the cluster. -/
def preamble : List String :=
  ["# generated by kinder",
    "global",
    "  log /dev/log local0",
    "  log /dev/log local1 notice",
    "  daemon",
    "  maxconn 100000",
    "",
    "resolvers docker",
    "  nameserver dns 127.0.0.11:53",
    "",
    "defaults",
    "  log global",
    "  mode tcp",
    "  option dontlognull",
    "  timeout connect 5000",
    "  timeout client 50000",
    "  timeout server 50000",
    "  default-server init-addr none",
    "",
    "frontend control-plane"]

/-- The lines on which the load balancer listens. -/
def binds (ipv6 : Bool) : List String :=
  ["  bind *:" ++ toString port.toNat] ++
    (if ipv6 then ["  bind :::" ++ toString port.toNat] else [])

/-- The family of addresses that names are resolved to. -/
def familyName (ipv6 : Bool) : String := if ipv6 then "ipv6" else "ipv4"

/-- The line of a backend. -/
def serverLine (ipv6 : Bool) (b : Backend) : String :=
  "  server " ++ b.name ++ " " ++ bracketHost b.address ++ ":" ++ toString b.port.toNat ++
    " check check-ssl verify none resolvers docker resolve-prefer " ++ familyName ipv6

/-- The lines of the configuration. -/
def configLines (backends : List Backend) (ipv6 : Bool) : List String :=
  preamble ++ binds ipv6 ++
    ["  default_backend kube-apiservers", "", "backend kube-apiservers",
      "  option httpchk GET /healthz"] ++
    backends.map (serverLine ipv6)

/-- The configuration for a list of backends. -/
def render (backends : List Backend) (ipv6 : Bool) : String :=
  printLines "\n" (configLines backends ipv6)

end LocalCluster.Cluster.Balancer
