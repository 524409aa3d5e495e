import RoutePlane.Flow.Link
import RoutePlane.RouteMap.Evaluation
import RoutePlane.Text.Quoted

/-!
What can go wrong while routes converge, and while flows are traced or tables are asked for.
-/
namespace RoutePlane

inductive Phase where
  | staticRoutes
  | generatedRoutes
  | ospfInternal
  | ospfExternal
  | bgp
  /-- The loop around all others but the internal OSPF one. -/
  | dependentRoutes
  deriving DecidableEq

def Phase.text : Phase → String
  | staticRoutes => "static routes"
  | generatedRoutes => "generated routes"
  | ospfInternal => "OSPF internal"
  | ospfExternal => "OSPF external"
  | bgp => "BGP"
  | dependentRoutes => "dependent routes"

inductive NetworkError where
  | route (error : RouteError)
  | policy (error : PolicyError)
  /-- A loop reached its limit while it still changed something. -/
  | noConvergence (phase : Phase) (iterations : Nat)
  /-- A flow came back to a node; the path ends with that node. -/
  | forwardingLoop (path : List String)
  /-- An interface without links that flows do not leave the network through. -/
  | missingLinks (interface : InterfaceId)
  | nodeNotFound (node : String)
  | vrfNotFound (node vrf : String)
  | interfaceNotFound (interface : InterfaceId)
  deriving DecidableEq

def NetworkError.message : NetworkError → String
  | route error => s!"Route Error: {error.message}"
  | policy error => s!"Policy Error: {error.message}"
  | noConvergence phase iterations =>
    s!"Phase {phase.text} did not converge after {Numeral.render iterations} iterations"
  | forwardingLoop path => s!"Forwarding Loop occurred! path: {Quoted.listText path}"
  | missingLinks interface => s!"Missing edges for interface {interface.text}, which is not a flow sink"
  | nodeNotFound node => s!"Node not found: {node}"
  | vrfNotFound node vrf => s!"VRF {vrf} not found on node {node}"
  | interfaceNotFound interface => s!"Interface not found: {interface.text}"

def liftRoute {α : Type} : Except RouteError α → Except NetworkError α
  | .ok a => .ok a
  | .error e => .error (.route e)

def liftPolicy {α : Type} : Except PolicyError α → Except NetworkError α
  | .ok a => .ok a
  | .error e => .error (.policy e)

end RoutePlane
