import RoutePlane.Router.Basic

/-!
The routes that a router has without its neighbours: connected, static and generated ones. A static
route to an address needs another route to that address, and a generated route needs more specific
routes, so each activation can enable further ones; both run until nothing more is enabled.
-/
namespace RoutePlane

namespace Router

/-- The network of an interface, reached through it. -/
def connectedRoute (name : String) (network : Prefix) : Route where
  network := network
  protocol := .connected
  distance := Protocol.defaultDistance .connected
  nextHop := .interface name none

def connectedRoutes (r : Router) : List Route :=
  (r.interfaces.filter (·.2.active)).filterMap fun (name, i) =>
    i.network?.map (connectedRoute name)

def initConnected (r : Router) : Router :=
  let connected := (r.connected.mergeAll r.connectedRoutes).1
  { r with
    connected := connected
    independent := (r.independent.absorb connected).1
    main := (r.main.absorb connected).1 }

def staticRoute (s : StaticRoute) : Route where
  network := s.network
  protocol := .static
  distance := s.distance
  nextHop := s.nextHop
  tag := s.tag

/-- The interface exists, is up, and is in the VRF of the router. -/
def hasActiveInterface (r : Router) (name : String) : Bool :=
  (r.configuration.interfaces.get? name).any fun i => i.active && i.vrf == r.vrf

/-- Needs no other route: it drops packets, or leaves through an interface that can be used. -/
def isIndependent (r : Router) (s : StaticRoute) : Bool :=
  match s.nextHop with
  | .interface name _ => r.hasActiveInterface name
  | .discard => true
  | _ => false

def staticRoutes (r : Router) : List StaticRoute :=
  (r.settings?.map (·.staticRoutes)).getD []

def initStatic (r : Router) : Router :=
  let routes := (r.staticRoutes.filter r.isIndependent).map staticRoute
  let table := (r.interfaceStatic.mergeAll routes).1
  { r with
    interfaceStatic := table
    independent := (r.independent.absorb table).1
    main := (r.main.absorb table).1 }

/-- The next hop is an address that another entry of the main table covers. -/
def isResolvable (main : Rib) (network : Prefix) : NextHop → Bool
  | .address a => (main.longestMatchExcluding? a network).isSome
  | _ => false

def installStatic (r : Router) (ready : List StaticRoute) : Router × Bool :=
  let routes := ready.map staticRoute
  let main := r.main.mergeAll routes
  ({ r with static := (r.static.mergeAll routes).1, main := main.1 }, main.2)

/-- Install what is resolvable, then look again at the rest. Each round but the last installs one of
the waiting routes, so there are no more rounds than routes. -/
def activateStaticFrom : Nat → List StaticRoute → Router → Router × Bool
  | 0, _, r => (r, false)
  | rounds + 1, waiting, r =>
    let (ready, later) := waiting.partition fun s => isResolvable r.main s.network s.nextHop
    if ready.isEmpty then (r, false)
    else
      let installed := r.installStatic ready
      let others := activateStaticFrom rounds later installed.1
      (others.1, installed.2 || others.2)

/-- Static routes with an address as their next hop. -/
def dependentStatic (r : Router) : List StaticRoute :=
  r.staticRoutes.filter fun s => match s.nextHop with
    | .address _ => true
    | _ => false

def activateStatic (r : Router) : Router × Bool :=
  activateStaticFrom r.dependentStatic.length r.dependentStatic r

def generatedRoute (g : GeneratedRoute) : Route where
  network := g.network
  protocol := .aggregate
  distance := g.distance
  metric := g.metric
  nextHop := .discard
  nonForwarding := !g.discard

/-- The first of the routes that the policy accepts makes the answer yes. -/
def anyAccepted (context : PolicyContext) (policy : Option String) :
    List Route → Except NetworkError Bool
  | [] => .ok false
  | contributor :: rest => do
    let (accepted, _) ← liftPolicy (context.apply policy contributor (.ofRoute contributor))
    if accepted then pure true else anyAccepted context policy rest

/-- A more specific route of the main table, of this round or of the one before, keeps the generated
route active. -/
def isContributed (r : Router) (g : GeneratedRoute) : Except NetworkError Bool :=
  anyAccepted r.policyContext g.policy
    (r.main.moreSpecific g.network ++ r.previous.main.moreSpecific g.network)

def installGenerated (r : Router) (ready : List GeneratedRoute) : Router × Bool :=
  let routes := ready.map generatedRoute
  let main := r.main.mergeAll routes
  ({ r with generated := (r.generated.mergeAll routes).1, main := main.1 }, main.2)

/-- The waiting routes, each with whether it is contributed to. -/
def judge (r : Router) (waiting : List GeneratedRoute) :
    Except NetworkError (List (GeneratedRoute × Bool)) :=
  waiting.mapM fun g => do pure (g, ← r.isContributed g)

/-- Install what is contributed to, then look again at the rest. A policy that fails ends this, and
what has been installed before it stays. -/
def activateGeneratedFrom : Nat → List GeneratedRoute → Router → Router × Except NetworkError Bool
  | 0, _, r => (r, .ok false)
  | rounds + 1, waiting, r =>
    match r.judge waiting with
    | .error e => (r, .error e)
    | .ok judged =>
      let ready := (judged.filter (·.2)).map (·.1)
      let later := (judged.filter (!·.2)).map (·.1)
      if ready.isEmpty then (r, .ok false)
      else
        let installed := r.installGenerated ready
        let others := activateGeneratedFrom rounds later installed.1
        (others.1, others.2.map (installed.2 || ·))

def activateGenerated (r : Router) : Router × Except NetworkError Bool :=
  let waiting := (r.settings?.map (·.generatedRoutes)).getD []
  activateGeneratedFrom waiting.length waiting r

/-- What the next round will find as the tables of the round before. -/
def tables (r : Router) : Previous where
  main := r.main
  e1 := r.ospf.e1
  e2 := r.ospf.e2
  bgp := r.bgp.combined

/-- Start a round: what can have changed goes to the tables of the round before, and the new tables
hold only what cannot change. So a route can vanish that nothing supports any more. -/
def startRound (r : Router) : Router :=
  { r with
    previous := r.tables
    main := ((Rib.empty .main).absorb r.independent).1
    static := .empty .static
    generated := .empty .generated
    staging := {}
    ospf := { r.ospf with
      exports := .empty .ospf
      e1 := .empty .ospfE1
      e2 := .empty .ospfE2
      combined := (((Rib.empty .ospf).absorb r.ospf.intra).1.absorb r.ospf.inter).1 }
    bgp := { r.bgp with
      external := r.bgp.baseExternal
      internal := r.bgp.baseInternal
      combined := .empty .bgp } }

/-- The main table or a table of external OSPF routes differs from that of the round before. -/
def hasMoved (r : Router) : Bool :=
  !(r.main.sameRoutes r.previous.main && r.ospf.e1.sameRoutes r.previous.e1
    && r.ospf.e2.sameRoutes r.previous.e2)

def compileForwarding (owners : Owners) (r : Router) : Router :=
  { r with forwarding := .ofRib r.main owners }

end Router

end RoutePlane
