import RoutePlane.Router.Basic

/-!
OSPF on one router: its own routes, those it gathers from the routers next to it, and those it
announces from outside. A router takes part with the interfaces that are up, have an address and
OSPF settings; it has neighbours on those that are not passive, where the other side is in the same
area and not passive either.
-/
namespace RoutePlane

namespace Router

def ospfInterfaces (r : Router) : List (String × Interface × OspfInterface) :=
  r.interfaces.filterMap fun (name, i) => i.runningOspf?.map fun o => (name, i, o)

def initOspfCosts (r : Router) : Router :=
  match r.ospfProcess? with
  | none => r
  | some process =>
    { r with ospf := { r.ospf with
      costs := .ofList (r.ospfInterfaces.map fun (name, i, o) =>
        (name, Ospf.interfaceCost o.cost process.referenceBandwidth i.bandwidth)) } }

def ospfRoute (protocol : Protocol) (area : Area) (advertiser : String) (network : Prefix)
    (metric : UInt32) (nextHop : NextHop) : Route where
  network := network
  protocol := protocol
  distance := protocol.defaultDistance
  metric := metric
  nextHop := nextHop
  kind := .ospf { area := area, advertiser := advertiser }

def ospfBaseRoutes (r : Router) : List Route :=
  if r.ospfProcess?.isNone then []
  else
    r.ospfInterfaces.filterMap fun (name, i, o) => do
      let network ← i.network?
      let cost ← r.ospf.costs.get? name
      pure (ospfRoute .ospfIntra o.area r.hostname network cost (.interface name none))

def initOspf (r : Router) : Router :=
  { r with ospf := { r.ospf with intra := (r.ospf.intra.mergeAll r.ospfBaseRoutes).1 } }

/-- The router has interfaces in the backbone and in another area. -/
def isAreaBorder (r : Router) : Bool :=
  r.ospfInterfaces.any (·.2.2.area.isBackbone) && r.ospfInterfaces.any (!·.2.2.area.isBackbone)

/-- A router from which routes are received, and the way to it. -/
structure Adjacency where
  interface : String
  area : Area
  cost : UInt32
  neighbor : Router
  neighborAddress : Address

namespace Adjacency

def nextHop (a : Adjacency) : NextHop := .interface a.interface (some a.neighborAddress)

end Adjacency

/-- The router at the far end of a link, if it runs OSPF there in the given area. -/
def ospfNeighbor? (f : Fabric) (routers : List Router) (area : Area) (far : InterfaceId) :
    Option (Router × Address) := do
  let remote ← f.configurations.get? far.node
  let interface ← remote.interfaces.get? far.interface
  let settings ← interface.runningOspf?
  guard (!settings.passive && settings.area == area)
  let neighbor ← findRouter? routers far.node interface.vrf
  let address ← interface.host?
  guard neighbor.ospfProcess?.isSome
  pure (neighbor, address)

def adjacencies (f : Fabric) (routers : List Router) (r : Router) : List Adjacency :=
  if r.ospfProcess?.isNone then []
  else
    (r.ospfInterfaces.filter (!·.2.2.passive)).flatMap fun (name, _, o) =>
      match r.ospf.costs.get? name with
      | none => []
      | some cost =>
        (f.topology.linksFrom ⟨r.hostname, name⟩).filterMap fun l =>
          (ospfNeighbor? f routers o.area l.target).map fun (neighbor, address) =>
            ⟨name, o.area, cost, neighbor, address⟩

/-- Routes of a table with their OSPF data, without those that this router brought up itself. -/
def ospfOffers (r : Router) (t : Rib) : List (Route × OspfData) :=
  t.routes.filterMap fun route =>
    (route.ospf?.filter (·.advertiser ≠ r.hostname)).map fun data => (route, data)

/-- Routes inside the area of an adjacency: what the neighbour holds of this area. -/
def intraCandidates (r : Router) (a : Adjacency) : List Route :=
  (r.ospfOffers a.neighbor.ospf.intra).filterMap fun (route, data) =>
    if data.area = a.area then
      some (ospfRoute .ospfIntra a.area data.advertiser route.network
        (Ospf.addCost route.metric a.cost) a.nextHop)
    else none

/-- A neighbour on the border of areas sums up its routes inside other areas. -/
def summaryCandidates (r : Router) (a : Adjacency) : List Route :=
  (r.ospfOffers a.neighbor.ospf.intra).filterMap fun (route, data) =>
    if data.area ≠ a.area ∧ a.neighbor.isAreaBorder then
      some (ospfRoute .ospfInter a.area a.neighbor.hostname route.network
        (Ospf.addCost route.metric a.cost) a.nextHop)
    else none

/-- Routes between areas: those of this area as they are, and those of the backbone from a neighbour
on the border. -/
def interCandidates (r : Router) (a : Adjacency) : List Route :=
  (r.ospfOffers a.neighbor.ospf.inter).filterMap fun (route, data) =>
    let advertiser? :=
      if data.area = a.area then some data.advertiser
      else if a.neighbor.isAreaBorder ∧ data.area.isBackbone then some a.neighbor.hostname
      else none
    advertiser?.map fun advertiser =>
      ospfRoute .ospfInter a.area advertiser route.network (Ospf.addCost route.metric a.cost)
        a.nextHop

def intraArrivals (f : Fabric) (routers : List Router) (r : Router) : List Route :=
  (r.adjacencies f routers).flatMap r.intraCandidates

def interArrivals (f : Fabric) (routers : List Router) (r : Router) : List Route :=
  (r.adjacencies f routers).flatMap fun a => r.summaryCandidates a ++ r.interCandidates a

def gatherOspfInternal (f : Fabric) (routers : List Router) (r : Router) : Router × Bool :=
  let intra := r.staging.intra.mergeAll (r.intraArrivals f routers)
  let inter := r.staging.inter.mergeAll (r.interArrivals f routers)
  ({ r with staging := { r.staging with intra := intra.1, inter := inter.1 } }, intra.2 || inter.2)

def commitOspfInternal (r : Router) : Router × Bool :=
  let intra := r.ospf.intra.absorb r.staging.intra
  let inter := r.ospf.inter.absorb r.staging.inter
  ({ r with ospf := { r.ospf with intra := intra.1, inter := inter.1 } }, intra.2 || inter.2)

/-- Add the converged routes inside OSPF to those that stay the same. -/
def importOspfInternal (r : Router) : Router :=
  let combined := ((r.ospf.combined.absorb r.ospf.intra).1.absorb r.ospf.inter).1
  { r with
    ospf := { r.ospf with combined := combined }
    independent := (r.independent.absorb combined).1 }

/-- The external route that a router announces for a route of its main table, before its policy. -/
def exportDraft (r : Router) (process : OspfProcess) (route : Route) : RouteDraft :=
  { RouteDraft.ospf .backbone r.hostname with
    network := some route.network
    protocol := some process.exportMetricType.protocol
    metric := process.exportMetric
    tag := route.tag
    nextHop := some .self }

/-- The routes that the policy lets out of the main tables of this round and of the one before. -/
def ospfExports (r : Router) (process : OspfProcess) (policy : String) :
    Except NetworkError (List Route) :=
  (r.main.routes ++ r.previous.main.routes).filter (!·.protocol.isOspf)
    |>.filterMapM fun route =>
      accepted? r.policyContext (some policy) route (r.exportDraft process route)

def initOspfExports (r : Router) : Except NetworkError Router :=
  match r.ospfProcess? with
  | none => .ok r
  | some process =>
    match process.exportPolicy with
    | none => .ok r
    | some policy => do
      let routes ← r.ospfExports process policy
      pure { r with ospf := { r.ospf with exports := (r.ospf.exports.mergeAll routes).1 } }

/-- What a neighbour announces as external: its own exports and what it has learned. -/
def externalOffers (r : Router) (a : Adjacency) : List (Route × OspfData) :=
  r.ospfOffers a.neighbor.ospf.exports ++ r.ospfOffers a.neighbor.ospf.e1
    ++ r.ospfOffers a.neighbor.ospf.e2

/-- An external route as it arrives over an adjacency: the cost goes to the metric of a type 1 route,
and beside the metric of a type 2 route. -/
def externalRoute (a : Adjacency) (route : Route) (data : OspfData) : Route where
  network := route.network
  protocol := route.protocol
  distance := route.protocol.defaultDistance
  metric := if route.protocol = .ospfE1 then Ospf.addCost route.metric a.cost else route.metric
  nextHop := a.nextHop
  tag := route.tag
  kind := .ospf {
    area := a.area
    costToAdvertiser :=
      if route.protocol = .ospfE2 then Ospf.addCost data.costToAdvertiser a.cost else 0
    advertiser := data.advertiser }

def externalCandidates (r : Router) (type : Protocol) (a : Adjacency) : List Route :=
  (r.externalOffers a).filterMap fun (route, data) =>
    if route.protocol = type then some (externalRoute a route data) else none

def externalArrivals (f : Fabric) (routers : List Router) (type : Protocol) (r : Router) :
    List Route :=
  (r.adjacencies f routers).flatMap (r.externalCandidates type)

def gatherOspfExternal (f : Fabric) (routers : List Router) (r : Router) : Router × Bool :=
  let e1 := r.staging.e1.mergeAll (r.externalArrivals f routers .ospfE1)
  let e2 := r.staging.e2.mergeAll (r.externalArrivals f routers .ospfE2)
  ({ r with staging := { r.staging with e1 := e1.1, e2 := e2.1 } }, e1.2 || e2.2)

def commitOspfExternal (r : Router) : Router × Bool :=
  let e1 := r.ospf.e1.absorb r.staging.e1
  let e2 := r.ospf.e2.absorb r.staging.e2
  ({ r with ospf := { r.ospf with e1 := e1.1, e2 := e2.1 } }, e1.2 || e2.2)

def importOspfExternal (r : Router) : Router :=
  let combined := ((r.ospf.combined.absorb r.ospf.e1).1.absorb r.ospf.e2).1
  { r with
    ospf := { r.ospf with combined := combined }
    main := (r.main.absorb combined).1 }

end Router

end RoutePlane
