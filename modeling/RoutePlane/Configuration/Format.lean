import RoutePlane.Configuration.Basic
import RoutePlane.RouteMap.Format

/-!
The JSON form of configurations and announcements. Most fields may be left out and have a default
then. Policies that no snapshot holds are not written.
-/
namespace RoutePlane

instance : JsonFormat OspfInterface where
  toJson o := .object [
    ("area", toJson o.area),
    ("cost", toJson o.cost),
    ("passive", toJson o.passive)]
  ofJson? j := do
    let r ← j.record? ["area", "cost", "passive"]
    pure {
      area := ← r.withDefault "area" .backbone
      cost := ← r.optional "cost"
      passive := ← r.withDefault "passive" false }

instance : JsonFormat Interface where
  toJson i := .object [
    ("vrf", toJson i.vrf),
    ("address", toJson i.address),
    ("active", toJson i.active),
    ("loopback", toJson i.loopback),
    ("bandwidth", toJson i.bandwidth),
    ("incoming_filter", toJson i.incomingFilter),
    ("outgoing_filter", toJson i.outgoingFilter),
    ("ospf", toJson i.ospf)]
  ofJson? j := do
    let r ← j.record? ["vrf", "address", "active", "loopback", "bandwidth", "incoming_filter",
      "outgoing_filter", "ospf"]
    let default : Interface := {}
    pure {
      vrf := ← r.withDefault "vrf" default.vrf
      address := ← r.optional "address"
      active := ← r.withDefault "active" default.active
      loopback := ← r.withDefault "loopback" default.loopback
      bandwidth := ← r.withDefault "bandwidth" default.bandwidth
      incomingFilter := ← r.optional "incoming_filter"
      outgoingFilter := ← r.optional "outgoing_filter"
      ospf := ← r.optional "ospf" }

instance : JsonFormat StaticRoute where
  toJson s := .object [
    ("network", toJson s.network),
    ("next_hop", toJson s.nextHop),
    ("admin", toJson s.distance),
    ("tag", toJson s.tag)]
  ofJson? j := do
    let r ← j.record? ["network", "next_hop", "admin", "tag"]
    pure {
      network := ← r.required "network"
      nextHop := ← r.required "next_hop"
      distance := ← r.withDefault "admin" (Protocol.defaultDistance .static)
      tag := ← r.optional "tag" }

instance : JsonFormat GeneratedRoute where
  toJson g := .object [
    ("network", toJson g.network),
    ("discard", toJson g.discard),
    ("generation_policy", toJson g.policy),
    ("admin", toJson g.distance),
    ("metric", toJson g.metric)]
  ofJson? j := do
    let r ← j.record? ["network", "discard", "generation_policy", "admin", "metric"]
    pure {
      network := ← r.required "network"
      discard := ← r.withDefault "discard" true
      policy := ← r.optional "generation_policy"
      distance := ← r.withDefault "admin" (Protocol.defaultDistance .aggregate)
      metric := ← r.withDefault "metric" 0 }

instance : JsonFormat MetricType where
  toJson
    | .type1 => .text "E1"
    | .type2 => .text "E2"
  ofJson? j :=
    match j.plainChoice? with
    | some "E1" => some .type1
    | some "E2" => some .type2
    | _ => none

instance : JsonFormat OspfProcess where
  toJson p := .object [
    ("router_id", toJson p.routerId),
    ("reference_bandwidth", toJson p.referenceBandwidth),
    ("export_policy", toJson p.exportPolicy),
    ("export_metric", toJson p.exportMetric),
    ("export_metric_type", toJson p.exportMetricType)]
  ofJson? j := do
    let r ← j.record? ["router_id", "reference_bandwidth", "export_policy", "export_metric",
      "export_metric_type"]
    pure {
      routerId := ← r.required "router_id"
      referenceBandwidth := ← r.withDefault "reference_bandwidth" Ospf.defaultReferenceBandwidth
      exportPolicy := ← r.optional "export_policy"
      exportMetric := ← r.withDefault "export_metric" Ospf.defaultExportMetric
      exportMetricType := ← r.withDefault "export_metric_type" .type2 }

instance : JsonFormat Neighbor where
  toJson n := .object [
    ("peer_ip", toJson n.peer),
    ("local_ip", toJson n.localAddress),
    ("local_as", toJson n.localAs),
    ("remote_as", toJson n.remoteAs),
    ("import_policy", toJson n.importPolicy),
    ("export_policy", toJson n.exportPolicy),
    ("route_reflector_client", toJson n.reflectorClient),
    ("send_community", toJson n.sendCommunity),
    ("next_hop_self", toJson n.nextHopSelf)]
  ofJson? j := do
    let r ← j.record? ["peer_ip", "local_ip", "local_as", "remote_as", "import_policy",
      "export_policy", "route_reflector_client", "send_community", "next_hop_self"]
    pure {
      peer := ← r.required "peer_ip"
      localAddress := ← r.optional "local_ip"
      localAs := ← r.optional "local_as"
      remoteAs := ← r.required "remote_as"
      importPolicy := ← r.optional "import_policy"
      exportPolicy := ← r.optional "export_policy"
      reflectorClient := ← r.withDefault "route_reflector_client" false
      sendCommunity := ← r.withDefault "send_community" true
      nextHopSelf := ← r.withDefault "next_hop_self" false }

instance : JsonFormat BgpProcess where
  toJson p := .object [
    ("router_id", toJson p.routerId),
    ("local_as", toJson p.localAs),
    ("cluster_id", toJson p.clusterId),
    ("neighbors", toJson p.neighbors),
    ("networks", toJson p.networks),
    ("aggregates", toJson p.aggregates),
    ("redistribution_policy", toJson p.redistributionPolicy)]
  ofJson? j := do
    let r ← j.record? ["router_id", "local_as", "cluster_id", "neighbors", "networks", "aggregates",
      "redistribution_policy"]
    pure {
      routerId := ← r.required "router_id"
      localAs := ← r.required "local_as"
      clusterId := ← r.optional "cluster_id"
      neighbors := ← r.withDefault "neighbors" []
      networks := ← r.withDefault "networks" .empty
      aggregates := ← r.withDefault "aggregates" .empty
      redistributionPolicy := ← r.optional "redistribution_policy" }

instance : JsonFormat Vrf where
  toJson v := .object [
    ("static_routes", toJson v.staticRoutes),
    ("generated_routes", toJson v.generatedRoutes),
    ("ospf", toJson v.ospf),
    ("bgp", toJson v.bgp)]
  ofJson? j := do
    let r ← j.record? ["static_routes", "generated_routes", "ospf", "bgp"]
    pure {
      staticRoutes := ← r.withDefault "static_routes" []
      generatedRoutes := ← r.withDefault "generated_routes" []
      ospf := ← r.optional "ospf"
      bgp := ← r.optional "bgp" }

instance : JsonFormat Configuration where
  toJson c := .object [
    ("hostname", toJson c.hostname),
    ("interfaces", toJson c.interfaces),
    ("vrfs", toJson c.vrfs),
    ("acls", toJson c.accessLists),
    ("route_maps", toJson c.routeMaps)]
  ofJson? j := do
    let r ← j.record? ["hostname", "interfaces", "vrfs", "acls", "route_maps"]
    pure {
      hostname := ← r.required "hostname"
      interfaces := ← r.withDefault "interfaces" .empty
      vrfs := ← r.withDefault "vrfs" .empty
      accessLists := ← r.withDefault "acls" .empty
      routeMaps := ← r.withDefault "route_maps" .empty }

instance : JsonFormat Announcement where
  toJson a := .object [
    ("node", toJson a.node),
    ("vrf", toJson a.vrf),
    ("peer_ip", toJson a.peer),
    ("network", toJson a.network),
    ("as_path", toJson a.asPath),
    ("communities", toJson a.communities),
    ("med", toJson a.metric),
    ("local_preference", toJson a.localPreference),
    ("origin_type", toJson a.originType),
    ("next_hop", toJson a.nextHop)]
  ofJson? j := do
    let r ← j.record? ["node", "vrf", "peer_ip", "network", "as_path", "communities", "med",
      "local_preference", "origin_type", "next_hop"]
    pure {
      node := ← r.required "node"
      vrf := ← r.withDefault "vrf" defaultVrf
      peer := ← r.required "peer_ip"
      network := ← r.required "network"
      asPath := ← r.withDefault "as_path" []
      communities := ← r.withDefault "communities" .empty
      metric := ← r.withDefault "med" 0
      localPreference := ← r.optional "local_preference"
      originType := ← r.withDefault "origin_type" .igp
      nextHop := ← r.optional "next_hop" }

end RoutePlane
