import RoutePlane.Order.SortedMap
import RoutePlane.RouteMap.Basic

/-!
What an operator says about a device: its interfaces, its VRFs with their static and generated
routes and their OSPF and BGP processes, its access lists and its route maps.
-/
namespace RoutePlane

structure OspfInterface where
  area : Area := .backbone
  cost : Option UInt32 := none
  /-- The network is announced, but there are no neighbours on it. -/
  passive : Bool := false
  deriving DecidableEq

structure Interface where
  vrf : String := defaultVrf
  address : Option InterfaceAddress := none
  active : Bool := true
  /-- No links and no way out of the network. -/
  loopback : Bool := false
  bandwidth : Float := 1000000000.0
  incomingFilter : Option String := none
  outgoingFilter : Option String := none
  ospf : Option OspfInterface := none
  deriving DecidableEq

namespace Interface

def ofAddress (a : InterfaceAddress) : Interface := { address := some a }

def ofLoopback (a : InterfaceAddress) : Interface := { address := some a, loopback := true }

def withOspf (i : Interface) (area : Area) (cost : Option UInt32) : Interface :=
  { i with ospf := some { area := area, cost := cost } }

def host? (i : Interface) : Option Address := i.address.map (·.address)

def network? (i : Interface) : Option Prefix := i.address.map (·.network)

/-- The OSPF settings, if the interface is up and has an address. -/
def runningOspf? (i : Interface) : Option OspfInterface :=
  if i.active && i.address.isSome then i.ospf else none

def runsOspf (i : Interface) : Bool := i.runningOspf?.isSome

end Interface

structure StaticRoute where
  network : Prefix
  nextHop : NextHop
  distance : UInt32 := Protocol.defaultDistance .static
  tag : Option UInt32 := none
  deriving DecidableEq

/-- A route that is active while there is a more specific one. -/
structure GeneratedRoute where
  network : Prefix
  /-- Install a route that drops packets; otherwise the route does not forward. -/
  discard : Bool := true
  /-- Policy that picks the routes that keep this one active. -/
  policy : Option String := none
  distance : UInt32 := Protocol.defaultDistance .aggregate
  metric : UInt32 := 0
  deriving DecidableEq

structure OspfProcess where
  routerId : Address
  referenceBandwidth : Float := Ospf.defaultReferenceBandwidth
  /-- Policy that picks the routes to be announced as external. -/
  exportPolicy : Option String := none
  exportMetric : UInt32 := Ospf.defaultExportMetric
  exportMetricType : MetricType := .type2
  deriving DecidableEq

structure Neighbor where
  peer : Address
  /-- Own address of the session; otherwise that of the interface towards the peer. -/
  localAddress : Option Address := none
  localAs : Option AsNumber := none
  remoteAs : AsNumber
  importPolicy : Option String := none
  exportPolicy : Option String := none
  reflectorClient : Bool := false
  sendCommunity : Bool := true
  nextHopSelf : Bool := false
  deriving DecidableEq

structure BgpProcess where
  routerId : Address
  localAs : AsNumber
  clusterId : Option UInt32 := none
  neighbors : List Neighbor := []
  /-- Networks announced while the main table has a route for exactly them. -/
  networks : SortedSet Prefix := .empty
  /-- Networks announced while there is a more specific BGP route. -/
  aggregates : SortedSet Prefix := .empty
  redistributionPolicy : Option String := none
  deriving DecidableEq

namespace BgpProcess

/-- The identity in cluster lists, by default the router's. -/
def cluster (p : BgpProcess) : UInt32 := p.clusterId.getD p.routerId.bits

/-- The first neighbour with the address of the peer. -/
def neighbor? (p : BgpProcess) (peer : Address) : Option Neighbor :=
  p.neighbors.find? (·.peer == peer)

def sessionAs (p : BgpProcess) (n : Neighbor) : AsNumber := n.localAs.getD p.localAs

end BgpProcess

structure Vrf where
  staticRoutes : List StaticRoute := []
  generatedRoutes : List GeneratedRoute := []
  ospf : Option OspfProcess := none
  bgp : Option BgpProcess := none
  deriving DecidableEq

structure Configuration where
  hostname : String
  interfaces : SortedMap String Interface := .empty
  vrfs : SortedMap String Vrf := .empty
  accessLists : SortedMap String AccessList := .empty
  routeMaps : SortedMap String RouteMap := .empty
  /-- Compiled policies, which no snapshot holds. They come before route maps of the same name. Anything
  that decides on routes could be compiled; what there is are route maps, so these stand for all. -/
  policies : SortedMap String RouteMap := .empty
  deriving DecidableEq

namespace Configuration

def withInterface (c : Configuration) (name : String) (i : Interface) : Configuration :=
  { c with
    vrfs := c.vrfs.alter i.vrf (·.getD {})
    interfaces := c.interfaces.insert name i }

def withVrf (c : Configuration) (name : String) : Configuration :=
  { c with vrfs := c.vrfs.alter name (·.getD {}) }

def policy? (c : Configuration) (name : String) : Option RouteMap :=
  c.policies.get? name <|> c.routeMaps.get? name

def interfacesOf (c : Configuration) (vrf : String) : List (String × Interface) :=
  c.interfaces.toList.filter (·.2.vrf == vrf)

/-- All VRFs, those included that only an interface names. -/
def vrfNames (c : Configuration) : SortedSet String :=
  .ofList (c.vrfs.keys ++ c.interfaces.values.map (·.vrf))

def ospfProcess? (c : Configuration) (vrf : String) : Option OspfProcess :=
  (c.vrfs.get? vrf).bind (·.ospf)

def bgpProcess? (c : Configuration) (vrf : String) : Option BgpProcess :=
  (c.vrfs.get? vrf).bind (·.bgp)

/-- The own address of a session: the configured one, or that of the first active interface of the
VRF whose network has the peer on it. -/
def sessionAddress? (c : Configuration) (vrf : String) (n : Neighbor) : Option Address :=
  n.localAddress <|>
    (((c.interfacesOf vrf).filter (·.2.active)).filterMap (·.2.address)
      |>.find? (fun a => a.network.containsAddress n.peer && a.address != n.peer)
      |>.map (·.address))

end Configuration

/-- A BGP route that somebody outside the network announces to one of its routers. -/
structure Announcement where
  node : String
  vrf : String := defaultVrf
  /-- The sender, which must be a configured neighbour. -/
  peer : Address
  network : Prefix
  asPath : List AsNumber := []
  communities : SortedSet UInt32 := .empty
  metric : UInt32 := 0
  /-- Used on internal sessions only. -/
  localPreference : Option UInt32 := none
  originType : OriginType := .igp
  /-- The peer itself by default. -/
  nextHop : Option Address := none
  deriving DecidableEq

end RoutePlane
