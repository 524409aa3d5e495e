import RoutePlane.Network.Basic

/-!
Questions to a converged network: its routers, and the route table over all of them.
-/
namespace RoutePlane

/-- One row of the route table. -/
structure RouteRow where
  node : String
  vrf : String
  network : Prefix
  /-- The owner of the next hop, or the mark for none. -/
  nextHopNode : String
  nextHop : Option Address
  interface : Option String
  distance : UInt32
  metric : UInt32
  protocol : Protocol
  tag : Option UInt32
  deriving DecidableEq

namespace RouteRow

def orDash (text : Option String) : String := text.getD "-"

/-- The fields in their order, with tabs between them. -/
def text (r : RouteRow) : String :=
  "\t".intercalate [r.node, r.vrf, r.network.text, r.nextHopNode,
    orDash (r.nextHop.map (·.text)), orDash r.interface, Numeral.render r.distance.toNat,
    Numeral.render r.metric.toNat, r.protocol.text,
    orDash (r.tag.map fun t => Numeral.render t.toNat)]

/-- What a next hop shows in its row. -/
def exitOf : NextHop → Option Address × Option String
  | .address a => (some a, none)
  | .interface name address => (address, some name)
  | .discard => (none, some nullInterface)
  | .self | .peer => (none, none)

/-- A row for each owner of the next hop, and a single one if there is none. -/
def ofRoute (owners : Owners) (node vrf : String) (r : Route) : List RouteRow :=
  let exit := exitOf r.nextHop
  let nodes := match (exit.1.map owners.nodes).getD [] with
    | [] => [noNode]
    | nodes => nodes
  nodes.map fun nextHopNode =>
    { node := node
      vrf := vrf
      network := r.network
      nextHopNode := nextHopNode
      nextHop := exit.1
      interface := exit.2
      distance := r.distance
      metric := r.metric
      protocol := r.protocol
      tag := r.tag }

end RouteRow

namespace DataPlane

def configuration? (d : DataPlane) (node : String) : Except NetworkError Configuration :=
  match d.fabric.configurations.get? node with
  | some c => .ok c
  | none => .error (.nodeNotFound node)

def router? (d : DataPlane) (node vrf : String) : Except NetworkError Router := do
  let _ ← d.configuration? node
  match findRouter? d.routers node vrf with
  | some r => pure r
  | none => .error (.vrfNotFound node vrf)

def rows (d : DataPlane) : List RouteRow :=
  d.routers.flatMap fun r => r.main.routes.flatMap (RouteRow.ofRoute d.fabric.owners r.hostname r.vrf)

end DataPlane

end RoutePlane
