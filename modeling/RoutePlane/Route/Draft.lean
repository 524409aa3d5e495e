import RoutePlane.Route.Basic

/-!
Routes under construction. A draft has its kind from the start, and a change of an attribute that
its kind does not have does nothing. `build` makes a route of a draft that names its network, its
protocol and its next hop, where the kind allows the protocol; a distance that was not set is the
default of the protocol.
-/
namespace RoutePlane

inductive RouteError where
  /-- A route of this kind cannot have this protocol. -/
  | protocolNotAllowed (kind : String) (protocol : Protocol)
  | missingNetwork
  | missingNextHop
  | missingProtocol
  deriving DecidableEq

def RouteError.message : RouteError → String
  | protocolNotAllowed kind protocol =>
    s!"Cannot construct {kind} route with protocol {protocol.text}"
  | missingNetwork => "Missing destination network"
  | missingNextHop => "Missing next hop"
  | missingProtocol => "Missing routing protocol"

structure RouteDraft where
  network : Option Prefix := none
  protocol : Option Protocol := none
  distance : Option UInt32 := none
  metric : UInt32 := 0
  nextHop : Option NextHop := none
  tag : Option UInt32 := none
  nonRouting : Bool := false
  nonForwarding : Bool := false
  kind : RouteKind := .plain
  deriving DecidableEq

namespace RouteDraft

def plain : RouteDraft := {}

def bgp : RouteDraft := { kind := .bgp {} }

def ospf (area : Area) (advertiser : String) : RouteDraft :=
  { kind := .ospf { area := area, advertiser := advertiser } }

def ofRoute (r : Route) : RouteDraft where
  network := some r.network
  protocol := some r.protocol
  distance := some r.distance
  metric := r.metric
  nextHop := some r.nextHop
  tag := r.tag
  nonRouting := r.nonRouting
  nonForwarding := r.nonForwarding
  kind := r.kind

/-- Of several faults the first one counts: network, protocol, next hop, and last the protocol that
does not suit the kind. -/
def build (d : RouteDraft) : Except RouteError Route :=
  match d.network, d.protocol, d.nextHop with
  | none, _, _ => .error .missingNetwork
  | some _, none, _ => .error .missingProtocol
  | some _, some _, none => .error .missingNextHop
  | some network, some protocol, some nextHop =>
    if d.kind.allows protocol then
      .ok {
        network := network
        protocol := protocol
        distance := d.distance.getD protocol.defaultDistance
        metric := d.metric
        nextHop := nextHop
        tag := d.tag
        nonRouting := d.nonRouting
        nonForwarding := d.nonForwarding
        kind := d.kind }
    else .error (.protocolNotAllowed d.kind.name protocol)

def attributes? (d : RouteDraft) : Option BgpAttributes := d.kind.bgp?.map (·.attributes)

def isBgp (d : RouteDraft) : Bool := d.kind.bgp?.isSome

def modifyOspf (d : RouteDraft) (f : OspfData → OspfData) : RouteDraft :=
  match d.kind with
  | .ospf data => { d with kind := .ospf (f data) }
  | _ => d

def modifyBgp (d : RouteDraft) (f : BgpData → BgpData) : RouteDraft :=
  match d.kind with
  | .bgp data => { d with kind := .bgp (f data) }
  | _ => d

def modifyAttributes (d : RouteDraft) (f : BgpAttributes → BgpAttributes) : RouteDraft :=
  d.modifyBgp fun data => { data with attributes := f data.attributes }

def setProtocol (d : RouteDraft) (protocol : Protocol) : RouteDraft :=
  { d with protocol := some protocol }

def setDistance (d : RouteDraft) (distance : UInt32) : RouteDraft :=
  { d with distance := some distance }

def setNextHop (d : RouteDraft) (nextHop : NextHop) : RouteDraft :=
  { d with nextHop := some nextHop }

def setCostToAdvertiser (d : RouteDraft) (cost : UInt32) : RouteDraft :=
  d.modifyOspf ({ · with costToAdvertiser := cost })

def setAsPath (d : RouteDraft) (path : AsPath) : RouteDraft :=
  d.modifyAttributes ({ · with asPath := path })

def prependAs (d : RouteDraft) (as : AsNumber) : RouteDraft :=
  d.modifyAttributes fun a => { a with asPath := a.asPath.prepend as }

def prependSequence (d : RouteDraft) (sequence : List AsNumber) : RouteDraft :=
  d.modifyAttributes fun a => { a with asPath := a.asPath.prependAll sequence }

def setCommunities (d : RouteDraft) (communities : SortedSet Community) : RouteDraft :=
  d.modifyAttributes ({ · with communities := communities })

def addCommunity (d : RouteDraft) (c : Community) : RouteDraft :=
  d.modifyAttributes fun a => { a with communities := a.communities.insert c }

def removeCommunity (d : RouteDraft) (c : Community) : RouteDraft :=
  d.modifyAttributes fun a => { a with communities := a.communities.erase c }

def setLocalPreference (d : RouteDraft) (preference : UInt32) : RouteDraft :=
  d.modifyAttributes ({ · with localPreference := preference })

def setOriginType (d : RouteDraft) (origin : OriginType) : RouteDraft :=
  d.modifyAttributes ({ · with originType := origin })

def setOriginMechanism (d : RouteDraft) (mechanism : OriginMechanism) : RouteDraft :=
  d.modifyAttributes ({ · with originMechanism := mechanism })

def setClusterList (d : RouteDraft) (clusters : SortedSet UInt32) : RouteDraft :=
  d.modifyAttributes ({ · with clusterList := clusters })

def addCluster (d : RouteDraft) (cluster : UInt32) : RouteDraft :=
  d.modifyAttributes fun a => { a with clusterList := a.clusterList.insert cluster }

def setWeight (d : RouteDraft) (weight : UInt32) : RouteDraft :=
  d.modifyAttributes ({ · with weight := weight })

def setOriginator (d : RouteDraft) (originator : Address) : RouteDraft :=
  d.modifyAttributes ({ · with originator := originator })

def setFromReflectorClient (d : RouteDraft) (fromClient : Bool) : RouteDraft :=
  d.modifyAttributes ({ · with fromReflectorClient := fromClient })

def setSourceProtocol (d : RouteDraft) (protocol : Option Protocol) : RouteDraft :=
  d.modifyAttributes ({ · with sourceProtocol := protocol })

def setTunnelEndpoint (d : RouteDraft) (endpoint : Option Address) : RouteDraft :=
  d.modifyAttributes ({ · with tunnelEndpoint := endpoint })

def setPathId (d : RouteDraft) (id : Option UInt32) : RouteDraft :=
  d.modifyBgp ({ · with pathId := id })

def setReceivedFrom (d : RouteDraft) (peer : Address) : RouteDraft :=
  d.modifyBgp ({ · with receivedFrom := peer })

theorem build_ofRoute (r : Route) (h : r.kind.allows r.protocol = true) :
    (ofRoute r).build = .ok r := by
  simp [build, ofRoute, h]

end RouteDraft

end RoutePlane
