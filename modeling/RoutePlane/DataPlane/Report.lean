import RoutePlane.DataPlane.Query
import RoutePlane.Network.Snapshot

/-!
The JSON form of what a computation finds out: forwarding entries, sessions, rows of the route
table, and the settings it ran with. Nothing of it is read back.
-/
namespace RoutePlane

/-- An entry with the network it belongs to; its route is only named. -/
def ForwardingEntry.toJson (network : Prefix) (e : ForwardingEntry) : Json := .list [
  RoutePlane.toJson network, RoutePlane.toJson e.interface, RoutePlane.toJson e.nextHop,
  RoutePlane.toJson e.node, RoutePlane.toJson e.isDiscard, .text e.route.text]

namespace ForwardingTable

def entriesJson (network : Prefix) (entries : SortedSet ForwardingEntry) : Json :=
  .list (entries.toList.map (ForwardingEntry.toJson network))

def toJson (f : ForwardingTable) : Json :=
  .list (f.entries.toList.flatMap fun (network, entries) =>
    entries.toList.map (ForwardingEntry.toJson network))

end ForwardingTable

def Session.toJson (s : Session) : Json := .object [
  ("from", .text s.sender.text),
  ("to", .text s.receiver.text),
  ("type", .text s.type.text),
  ("ebgp", .bool s.type.isExternal),
  ("ibgp", .bool s.type.isInternal),
  ("sender_ip", RoutePlane.toJson s.senderAddress),
  ("receiver_ip", RoutePlane.toJson s.receiverAddress),
  ("sender_as", RoutePlane.toJson s.senderAs),
  ("receiver_as", RoutePlane.toJson s.receiverAs)]

def RouteRow.toJson (r : RouteRow) : Json := .object [
  ("node", .text r.node),
  ("vrf", .text r.vrf),
  ("network", RoutePlane.toJson r.network),
  ("next_hop_node", .text r.nextHopNode),
  ("next_hop_ip", RoutePlane.toJson r.nextHop),
  ("next_hop_interface", RoutePlane.toJson r.interface),
  ("admin", RoutePlane.toJson r.distance),
  ("metric", RoutePlane.toJson r.metric),
  ("protocol", RoutePlane.toJson r.protocol),
  ("tag", RoutePlane.toJson r.tag)]

def ComputeSettings.toJson (s : ComputeSettings) : Json := .object [
  ("max_outer_iterations", .nat s.maxOuter),
  ("max_inner_iterations", .nat s.maxInner),
  ("parallel", .bool s.parallel),
  ("threads", RoutePlane.toJson s.threads)]

end RoutePlane
