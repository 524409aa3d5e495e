import RoutePlane.Json.Format
import RoutePlane.Route.Basic

/-!
The JSON form of routes and of what they are made of.
-/
namespace RoutePlane

instance : JsonFormat Address where
  toJson a := .text a.text
  ofJson? j := do Address.ofText? (← ofJson? j)

instance : JsonFormat Prefix where
  toJson p := .text p.text
  ofJson? j := do Prefix.ofText? (← ofJson? j)

instance : JsonFormat InterfaceAddress where
  toJson a := .text a.text
  ofJson? j := do InterfaceAddress.ofText? (← ofJson? j)

namespace Protocol

def name : Protocol → String
  | connected => "connected"
  | static => "static"
  | aggregate => "aggregate"
  | ospfIntra => "ospfintra"
  | ospfInter => "ospfinter"
  | ospfE1 => "ospfe1"
  | ospfE2 => "ospfe2"
  | bgp => "bgp"
  | ibgp => "ibgp"

def ofName? : String → Option Protocol
  | "connected" => some connected
  | "static" => some static
  | "aggregate" => some aggregate
  | "ospfintra" => some ospfIntra
  | "ospfinter" => some ospfInter
  | "ospfe1" => some ospfE1
  | "ospfe2" => some ospfE2
  | "bgp" => some bgp
  | "ibgp" => some ibgp
  | _ => none

instance : JsonFormat Protocol where
  toJson p := .text p.name
  ofJson? j := j.plainChoice?.bind ofName?

end Protocol

instance : JsonFormat NextHop where
  toJson
    | .address a => .choice "Ip" a
    | .interface i a => .object [("Interface", .object [("interface", toJson i), ("ip", toJson a)])]
    | .discard => .text "Discard"
    | .self => .text "SelfAddress"
    | .peer => .text "PeerAddress"
  ofJson? j :=
    match j.choice? with
    | some ("Ip", some content) => (ofJson? content).map .address
    | some ("Interface", some content) => do
      let r ← content.record? ["interface", "ip"]
      pure (.interface (← r.required "interface") (← r.nullable "ip"))
    | _ =>
      match j.plainChoice? with
      | some "Discard" => some .discard
      | some "SelfAddress" => some .self
      | some "PeerAddress" => some .peer
      | _ => none

instance : JsonFormat Area where
  toJson a := toJson a.id
  ofJson? j := (ofJson? j).map Area.mk

instance : JsonFormat Community where
  toJson c := toJson c.value
  ofJson? j := (ofJson? j).map Community.mk

instance : JsonFormat AsPath where
  toJson p := toJson p.sets
  ofJson? j := (ofJson? j).map AsPath.mk

instance : JsonFormat OriginType where
  toJson
    | .igp => .text "Igp"
    | .egp => .text "Egp"
    | .incomplete => .text "Incomplete"
  ofJson? j :=
    match j.plainChoice? with
    | some "Igp" => some .igp
    | some "Egp" => some .egp
    | some "Incomplete" => some .incomplete
    | _ => none

instance : JsonFormat OriginMechanism where
  toJson
    | .network => .text "Network"
    | .redistribute => .text "Redistribute"
    | .generated => .text "Generated"
    | .learned => .text "Learned"
  ofJson? j :=
    match j.plainChoice? with
    | some "Network" => some .network
    | some "Redistribute" => some .redistribute
    | some "Generated" => some .generated
    | some "Learned" => some .learned
    | _ => none

/-- A tunnel is a record of its endpoint. -/
structure Tunnel where
  endpoint : Address

instance : JsonFormat Tunnel where
  toJson t := .object [("tunnel_endpoint", toJson t.endpoint)]
  ofJson? j := do
    let r ← j.record? ["tunnel_endpoint"]
    pure ⟨← r.required "tunnel_endpoint"⟩

instance : JsonFormat BgpAttributes where
  toJson a := .object [
    ("as_path", toJson a.asPath),
    ("cluster_list", toJson a.clusterList),
    ("communities", toJson a.communities),
    ("local_preference", toJson a.localPreference),
    ("originator_ip", toJson a.originator),
    ("origin_mechanism", toJson a.originMechanism),
    ("origin_type", toJson a.originType),
    ("received_from_route_reflector_client", toJson a.fromReflectorClient),
    ("src_protocol", toJson a.sourceProtocol),
    ("tunnel_encapsulation", toJson (a.tunnelEndpoint.map Tunnel.mk)),
    ("weight", toJson a.weight)]
  ofJson? j := do
    let r ← j.record? ["as_path", "cluster_list", "communities", "local_preference",
      "originator_ip", "origin_mechanism", "origin_type", "received_from_route_reflector_client",
      "src_protocol", "tunnel_encapsulation", "weight"]
    let tunnel : Option Tunnel ← r.nullable "tunnel_encapsulation"
    pure {
      asPath := ← r.required "as_path"
      clusterList := ← r.required "cluster_list"
      communities := ← r.required "communities"
      localPreference := ← r.required "local_preference"
      originator := ← r.required "originator_ip"
      originMechanism := ← r.required "origin_mechanism"
      originType := ← r.required "origin_type"
      fromReflectorClient := ← r.required "received_from_route_reflector_client"
      sourceProtocol := ← r.nullable "src_protocol"
      tunnelEndpoint := tunnel.map (·.endpoint)
      weight := ← r.required "weight" }

instance : JsonFormat OspfData where
  toJson d := .object [
    ("area", toJson d.area),
    ("cost_to_advertiser", toJson d.costToAdvertiser),
    ("advertiser", toJson d.advertiser)]
  ofJson? j := do
    let r ← j.record? ["area", "cost_to_advertiser", "advertiser"]
    pure {
      area := ← r.required "area"
      costToAdvertiser := ← r.required "cost_to_advertiser"
      advertiser := ← r.required "advertiser" }

instance : JsonFormat BgpData where
  toJson d := .object [
    ("attributes", toJson d.attributes),
    ("path_id", toJson d.pathId),
    ("received_from_ip", toJson d.receivedFrom)]
  ofJson? j := do
    let r ← j.record? ["attributes", "path_id", "received_from_ip"]
    pure {
      attributes := ← r.required "attributes"
      pathId := ← r.nullable "path_id"
      receivedFrom := ← r.required "received_from_ip" }

instance : JsonFormat RouteKind where
  toJson
    | .plain => .text "Plain"
    | .ospf data => .choice "Ospf" data
    | .bgp data => .choice "Bgp" data
  ofJson? j :=
    match j.choice? with
    | some ("Ospf", some content) => (ofJson? content).map .ospf
    | some ("Bgp", some content) => (ofJson? content).map .bgp
    | _ => if j.plainChoice? = some "Plain" then some .plain else none

instance : JsonFormat Route where
  toJson r := .object [
    ("network", toJson r.network),
    ("protocol", toJson r.protocol),
    ("admin", toJson r.distance),
    ("metric", toJson r.metric),
    ("next_hop", toJson r.nextHop),
    ("tag", toJson r.tag),
    ("non_routing", toJson r.nonRouting),
    ("non_forwarding", toJson r.nonForwarding),
    ("kind", toJson r.kind)]
  ofJson? j := do
    let r ← j.record? ["network", "protocol", "admin", "metric", "next_hop", "tag", "non_routing",
      "non_forwarding", "kind"]
    pure {
      network := ← r.required "network"
      protocol := ← r.required "protocol"
      distance := ← r.required "admin"
      metric := ← r.required "metric"
      nextHop := ← r.required "next_hop"
      tag := ← r.nullable "tag"
      nonRouting := ← r.required "non_routing"
      nonForwarding := ← r.required "non_forwarding"
      kind := ← r.required "kind" }

end RoutePlane
