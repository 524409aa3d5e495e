import RoutePlane.Router.Local

/-!
BGP on one router: announcements from outside the network, the routes that the router originates,
and what it sends to and receives from its peers. Of the best BGP routes those are installed into
the main table whose next hops another entry covers.
-/
namespace RoutePlane

def localBgpDistance : UInt32 := 200

namespace Router

/-- An announcement as the router receives it, before its policy. -/
def announcedRoute (a : Announcement) (neighbor : Neighbor) (isExternal : Bool) : Route where
  network := a.network
  protocol := if isExternal then .bgp else .ibgp
  distance := (if isExternal then Protocol.bgp else Protocol.ibgp).defaultDistance
  metric := a.metric
  nextHop := .address (a.nextHop.getD a.peer)
  kind := .bgp {
    attributes := {
      asPath := .ofSequence a.asPath
      communities := .ofList (a.communities.toList.map Community.mk)
      localPreference :=
        if isExternal then defaultLocalPreference
        else a.localPreference.getD defaultLocalPreference
      originator := a.peer
      originType := a.originType
      fromReflectorClient := neighbor.reflectorClient }
    receivedFrom := a.peer }

/-- What the router makes of an announcement: nothing if no neighbour has the address of the sender,
if it comes from another system and has passed this one already, or if the import policy rejects
it. The flag tells external from internal ones. -/
def importAnnouncement (r : Router) (process : BgpProcess) (a : Announcement) :
    Except NetworkError (Option (Bool × Route)) :=
  match process.neighbor? a.peer with
  | none => .ok none
  | some neighbor =>
    let localAs := process.sessionAs neighbor
    let isExternal := neighbor.remoteAs != localAs
    if isExternal && a.asPath.contains localAs then .ok none
    else do
      let received := announcedRoute a neighbor isExternal
      let own := (r.configuration.sessionAddress? r.vrf neighbor).getD .unspecified
      let context := r.sessionContext .incoming own a.peer
      let kept ← accepted? context neighbor.importPolicy received (.ofRoute received)
      pure (kept.map fun route => (isExternal, route))

/-- Import the announcements to this router into its base tables. -/
def initBgp (announcements : List Announcement) (r : Router) : Except NetworkError Router :=
  match r.bgpProcess? with
  | none => .ok r
  | some process => do
    let own := announcements.filter fun a => a.node == r.hostname && a.vrf == r.vrf
    let kept ← own.filterMapM (r.importAnnouncement process)
    let external := (kept.filter (·.1)).map (·.2)
    let internal := (kept.filter (!·.1)).map (·.2)
    pure { r with bgp := { r.bgp with
      baseExternal := (r.bgp.baseExternal.mergeAll external).1
      baseInternal := (r.bgp.baseInternal.mergeAll internal).1 } }

def originatedDraft (process : BgpProcess) (network : Prefix) (mechanism : OriginMechanism)
    (origin : OriginType) (metric : UInt32) (nextHop : NextHop) : RouteDraft where
  network := some network
  protocol := some .bgp
  distance := some localBgpDistance
  metric := metric
  nextHop := some nextHop
  kind := .bgp { attributes := {
    originator := process.routerId
    originMechanism := mechanism
    originType := origin
    weight := localWeight } }

/-- Network statements with a route for exactly that network that does not come from BGP. -/
def networkDrafts (r : Router) (process : BgpProcess) : List RouteDraft :=
  process.networks.toList.filterMap fun network => do
    let held ← r.main.get? network
    let source ← held.toList.find? (!·.protocol.isBgp)
    pure (originatedDraft process network .network .igp source.metric source.nextHop)

/-- The routes of the main table that the policy redistributes; never BGP routes or aggregates. -/
def redistributed (r : Router) (process : BgpProcess) : Except NetworkError (List Route) :=
  match process.redistributionPolicy with
  | none => .ok []
  | some policy =>
    (r.main.routes.filter fun s => !s.protocol.isBgp && s.protocol != .aggregate).filterMapM
      fun source =>
        let draft :=
          { originatedDraft process source.network .redistribute .incomplete source.metric
              source.nextHop with tag := source.tag }
        accepted? r.policyContext (some policy) source
          (draft.setSourceProtocol (some source.protocol))

/-- Aggregates with a more specific BGP route, of this round or of the one before, that is no
aggregate itself. -/
def aggregateDrafts (r : Router) (process : BgpProcess) : List RouteDraft :=
  process.aggregates.toList.filterMap fun network =>
    let contributors := r.previous.bgp.moreSpecific network
      ++ r.bgp.external.moreSpecific network ++ r.bgp.internal.moreSpecific network
    if contributors.any (·.protocol != .aggregate) then
      some ((originatedDraft process network .generated .igp 0 .discard).setProtocol .aggregate)
    else none

def originated (r : Router) (process : BgpProcess) : Except NetworkError (List Route) := do
  let networks ← (r.networkDrafts process).mapM fun d => liftRoute d.build
  let redistributed ← r.redistributed process
  let aggregates ← (r.aggregateDrafts process).mapM fun d => liftRoute d.build
  pure (networks ++ redistributed ++ aggregates)

/-- A BGP route can be installed if its next hop is no address, or one that another entry of the main
table covers. -/
def isInstallable (main : Rib) (r : Route) : Bool :=
  match r.nextHop with
  | .address a => (main.longestMatchExcluding? a r.network).isSome
  | _ => true

/-- The best routes for a network, and those of them that can be installed. -/
structure BestRoutes where
  network : Prefix
  held : RouteSet
  installable : List Route

/-- The best routes of a table. Whether a next hop is covered is judged by the main table. -/
def bestRoutes (main combined : Rib) : List BestRoutes :=
  combined.bindings.map fun (network, held) =>
    ⟨network, held, held.toList.filter (isInstallable main)⟩

/-- Withdraw from the main table the BGP routes for a network that are not among its best ones, and
merge the installable ones. -/
def installBest (main : Rib) (best : BestRoutes) : Rib × Bool :=
  let withdrawn := main.retain best.network fun r => !r.isBgpKind || best.held.contains r
  let installed := withdrawn.1.mergeAll best.installable
  (installed.1, withdrawn.2 || installed.2)

def installAll (main : Rib) : List BestRoutes → Rib × Bool
  | [] => (main, false)
  | best :: rest =>
    let first := installBest main best
    let others := installAll first.1 rest
    (others.1, first.2 || others.2)

/-- Combine what was learned, and bring the main table, as it was before, up to date with it. -/
def commitBgp (r : Router) : Router × Bool :=
  let external := r.bgp.combined.absorb r.bgp.external
  let combined := external.1.absorb r.bgp.internal
  let main := installAll r.main (bestRoutes r.main combined.1)
  ({ r with bgp := { r.bgp with combined := combined.1 }, main := main.1 },
    external.2 || combined.2 || main.2)

def originateBgp (r : Router) : Except NetworkError Router :=
  match r.bgpProcess? with
  | none => .ok r
  | some process => do
    let routes ← r.originated process
    let external := (r.bgp.external.mergeAll routes).1
    pure { r with bgp := { r.bgp with external := external } }.commitBgp.1

/-- Whether a route may go over a session at all: not back to where it came from, and a route learned
inside the system not to another router inside, unless one of the two is a reflector client. -/
def maySend (route : Route) (attributes : BgpAttributes) (s : Session) (neighbor : Neighbor) :
    Bool :=
  !(route.receivedFrom == s.receiverAddress || route.nonRouting)
    && !(s.type.isInternal && route.protocol == .ibgp && !attributes.fromReflectorClient
      && !neighbor.reflectorClient)

/-- A route for another system: this system goes in front of its path, and what belongs to this
system alone is reset. The metric is kept only for routes of the router itself. -/
def externalDraft (route : Route) (s : Session) (process : BgpProcess) (draft : RouteDraft) :
    RouteDraft :=
  let draft := draft.prependAs s.senderAs
    |>.setLocalPreference defaultLocalPreference
    |>.setClusterList .empty
    |>.setOriginator process.routerId
    |>.setNextHop (.address s.senderAddress)
  if route.isLocal then draft else { draft with metric := 0 }

/-- A route for a router of the same system: a reflected route gets the cluster of this router, and
any other its identity. -/
def internalDraft (route : Route) (s : Session) (process : BgpProcess) (neighbor : Neighbor)
    (draft : RouteDraft) : RouteDraft :=
  let draft :=
    if neighbor.nextHopSelf || route.isLocal || route.nextHop.address?.isNone then
      draft.setNextHop (.address s.senderAddress)
    else draft
  if route.protocol = .ibgp then draft.addCluster process.cluster
  else draft.setOriginator process.routerId

def sentDraft (route : Route) (s : Session) (process : BgpProcess) (neighbor : Neighbor) :
    RouteDraft :=
  let draft := ((RouteDraft.ofRoute route).setProtocol .bgp).setWeight 0
  let draft :=
    if s.type.isExternal then externalDraft route s process draft
    else internalDraft route s process neighbor draft
  if neighbor.sendCommunity then draft else draft.setCommunities .empty

def send? (r : Router) (route : Route) (s : Session) (neighbor : Neighbor)
    (process : BgpProcess) : Except NetworkError (Option RouteDraft) :=
  match route.attributes? with
  | none => .ok none
  | some attributes =>
    if maySend route attributes s neighbor then do
      let context := r.sessionContext .outgoing s.senderAddress s.receiverAddress
      let (accepted, draft) ← liftPolicy
        (context.apply neighbor.exportPolicy route (sentDraft route s process neighbor))
      pure (if accepted then some draft else none)
    else .ok none

/-- What arrives over a session, before loops are looked for. -/
def arrivingDraft (s : Session) (neighbor : Neighbor) (draft : RouteDraft) : RouteDraft :=
  let protocol := if s.type.isExternal then Protocol.bgp else Protocol.ibgp
  draft.setProtocol protocol
    |>.setDistance protocol.defaultDistance
    |>.setReceivedFrom s.senderAddress
    |>.setFromReflectorClient neighbor.reflectorClient
    |>.setOriginMechanism .learned
    |>.setWeight 0

/-- The route has been here: the own system is on its path, or inside the system the router is its
originator or its cluster is on the list. -/
def hasLooped (s : Session) (process : BgpProcess) (a : BgpAttributes) : Bool :=
  if s.type.isExternal then a.asPath.contains s.receiverAs
  else a.originator == process.routerId || a.clusterList.contains process.cluster

/-- Receive what was sent over a session, unless it has looped or the import policy rejects it. -/
def receive? (r : Router) (draft : RouteDraft) (s : Session) (neighbor : Neighbor)
    (process : BgpProcess) : Except NetworkError (Option Route) := do
  let received ← liftRoute (arrivingDraft s neighbor draft).build
  match received.attributes? with
  | none => pure none
  | some attributes =>
    if hasLooped s process attributes then pure none
    else
      let context := r.sessionContext .incoming s.receiverAddress s.senderAddress
      accepted? context neighbor.importPolicy received (.ofRoute received)

/-- The router, the process and the neighbour entry at the sending end of a session. -/
def senderOf? (routers : List Router) (s : Session) : Option (Router × BgpProcess × Neighbor) := do
  let sender ← findRouter? routers s.sender.node s.sender.vrf
  let process ← sender.bgpProcess?
  let neighbor ← process.neighbor? s.sender.peer
  pure (sender, process, neighbor)

/-- Everything that arrives over one session. -/
def arrivals (routers : List Router) (r : Router) (process : BgpProcess) (s : Session) :
    Except NetworkError (List Route) :=
  match senderOf? routers s, process.neighbor? s.receiver.peer with
  | some (sender, senderProcess, senderNeighbor), some neighbor =>
    sender.bgp.combined.routes.filterMapM fun route => do
      match ← sender.send? route s senderNeighbor senderProcess with
      | none => pure none
      | some draft => r.receive? draft s neighbor process
  | _, _ => .ok []

/-- What arrives over all external sessions, and what over all internal ones. -/
def bgpArrivals (f : Fabric) (routers : List Router) (r : Router) (process : BgpProcess) :
    Except NetworkError (List Route × List Route) := do
  let batches ← (f.sessions.incoming r.hostname r.vrf).mapM fun s => do
    pure (s.type.isExternal, ← r.arrivals routers process s)
  pure ((batches.filter (·.1)).flatMap (·.2), (batches.filter (!·.1)).flatMap (·.2))

def stageBgp (r : Router) (arrived : List Route × List Route) : Router × Bool :=
  let external := r.staging.external.mergeAll arrived.1
  let internal := r.staging.internal.mergeAll arrived.2
  ({ r with staging := { r.staging with external := external.1, internal := internal.1 } },
    external.2 || internal.2)

def gatherBgp (f : Fabric) (routers : List Router) (r : Router) :
    Except NetworkError (Router × Bool) :=
  match r.bgpProcess? with
  | none => .ok (r, false)
  | some process => r.stageBgp <$> r.bgpArrivals f routers process

def commitStagedBgp (r : Router) : Router × Bool :=
  let external := r.bgp.external.absorb r.staging.external
  let internal := r.bgp.internal.absorb r.staging.internal
  let combined :=
    { r with bgp := { r.bgp with external := external.1, internal := internal.1 } }.commitBgp
  (combined.1, external.2 || internal.2 || combined.2)

end Router

end RoutePlane
