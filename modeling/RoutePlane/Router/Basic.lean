import RoutePlane.Bgp.Session
import RoutePlane.Network.Error
import RoutePlane.Rib.Forwarding

/-!
Routers: one for each VRF of a node. A router holds a table for every source of routes, the main
table they compete for, what the round before left behind, and staging tables. A router that
gathers routes from its neighbours reads their committed tables and writes to its own staging
tables only; what is staged is committed in a step of its own.
-/
namespace RoutePlane

structure OspfTables where
  /-- Costs of the interfaces that run OSPF. -/
  costs : SortedMap String UInt32 := .empty
  intra : Rib := .empty .ospfIntra
  inter : Rib := .empty .ospfInter
  /-- Routes of the router itself that it announces as external. -/
  exports : Rib := .empty .ospf
  e1 : Rib := .empty .ospfE1
  e2 : Rib := .empty .ospfE2
  combined : Rib := .empty .ospf
  deriving DecidableEq

structure BgpTables where
  /-- What neighbours outside the network announce over external sessions. -/
  baseExternal : Rib := .empty .bgp
  /-- What neighbours outside the network announce over internal sessions. -/
  baseInternal : Rib := .empty .bgp
  /-- Routes learned over external sessions, and those of the router itself. -/
  external : Rib := .empty .bgp
  internal : Rib := .empty .bgp
  combined : Rib := .empty .bgp
  deriving DecidableEq

/-- Routes gathered in this round and not committed yet. -/
structure Staging where
  intra : Rib := .empty .ospfIntra
  inter : Rib := .empty .ospfInter
  e1 : Rib := .empty .ospfE1
  e2 : Rib := .empty .ospfE2
  external : Rib := .empty .bgp
  internal : Rib := .empty .bgp
  deriving DecidableEq

/-- Tables at the end of the round before. -/
structure Previous where
  main : Rib := .empty .main
  e1 : Rib := .empty .ospfE1
  e2 : Rib := .empty .ospfE2
  bgp : Rib := .empty .bgp
  deriving DecidableEq

structure Router where
  configuration : Configuration
  vrf : String
  connected : Rib := .empty .connected
  /-- Static routes that depend on no other route. -/
  interfaceStatic : Rib := .empty .static
  static : Rib := .empty .static
  generated : Rib := .empty .generated
  /-- Routes that stay the same in all rounds: connected and independent static ones, and those
  inside OSPF. -/
  independent : Rib := .empty .main
  main : Rib := .empty .main
  ospf : OspfTables := {}
  bgp : BgpTables := {}
  staging : Staging := {}
  previous : Previous := {}
  forwarding : ForwardingTable := .empty
  deriving DecidableEq

namespace Router

def hostname (r : Router) : String := r.configuration.hostname

def interfaces (r : Router) : List (String × Interface) := r.configuration.interfacesOf r.vrf

def settings? (r : Router) : Option Vrf := r.configuration.vrfs.get? r.vrf

def ospfProcess? (r : Router) : Option OspfProcess := r.configuration.ospfProcess? r.vrf

def bgpProcess? (r : Router) : Option BgpProcess := r.configuration.bgpProcess? r.vrf

def policyContext (r : Router) : PolicyContext where
  configuration := r.configuration
  vrf := r.vrf
  direction := .outgoing

def sessionContext (r : Router) (direction : Direction) (own peer : Address) : PolicyContext where
  configuration := r.configuration
  vrf := r.vrf
  direction := direction
  localAddress := some own
  peerAddress := some peer

/-- Apply a policy to a route and a draft; what it accepts is built. -/
def accepted? (context : PolicyContext) (policy : Option String) (r : Route) (draft : RouteDraft) :
    Except NetworkError (Option Route) := do
  let (accepted, draft) ← liftPolicy (context.apply policy r draft)
  if accepted then some <$> liftRoute draft.build else pure none

end Router

/-- What does not change while routes converge. -/
structure Fabric where
  configurations : SortedMap String Configuration
  topology : Topology
  owners : Owners
  sessions : Sessions
  deriving DecidableEq

def Fabric.ofConfigurations (configurations : SortedMap String Configuration) : Fabric :=
  let owners := Owners.ofConfigurations configurations.values
  { configurations := configurations
    topology := .ofConfigurations configurations.values
    owners := owners
    sessions := .ofConfigurations configurations owners }

/-- The router of a VRF of a node. -/
def findRouter? (routers : List Router) (node vrf : String) : Option Router :=
  routers.find? fun r => r.hostname == node && r.vrf == vrf

/-- A router for each VRF of each device, by device and then by VRF. -/
def Fabric.freshRouters (f : Fabric) : List Router :=
  f.configurations.values.flatMap fun c =>
    c.vrfNames.toList.map fun vrf => { configuration := c, vrf := vrf }

end RoutePlane
