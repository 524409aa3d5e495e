import RoutePlane.Route.Basic

/-!
Which of two routes for one network a table prefers. Every table has a kind, and the kind has a
comparison: less means preferred, and equal means that both are kept.
-/
namespace RoutePlane

inductive RibKind where
  | main
  | connected
  | static
  | generated
  | ospfIntra
  | ospfInter
  | ospfE1
  | ospfE2
  /-- All OSPF routes. -/
  | ospf
  | bgp
  deriving DecidableEq, Inhabited

namespace RibKind

/-- The less distant route, and of equally distant ones that of the lesser metric. -/
def byDistance : Route → Route → Ordering :=
  compareLex (compareOn Route.distance) (compareOn Route.metric)

def costToAdvertiser (r : Route) : UInt32 := (r.ospf?.map (·.costToAdvertiser)).getD 0

def byOspf : Route → Route → Ordering :=
  compareLex (compareOn Route.distance)
    (compareLex (compareOn fun r => Ospf.precedence r.protocol) (compareOn Route.metric))

/-- The BGP decision process on two routes with their attributes. What is still equal after the
peer's address is kept as multipath. -/
def byDecision (a b : Route × BgpAttributes) : Ordering :=
  (compare a.1.distance b.1.distance)
    |>.then (compare b.2.weight a.2.weight)
    |>.then (compare b.2.localPreference a.2.localPreference)
    |>.then (compare (!a.1.isLocal) (!b.1.isLocal))
    |>.then (compare a.2.asPath.length b.2.asPath.length)
    |>.then (compare a.2.originType b.2.originType)
    |>.then (compare a.1.metric b.1.metric)
    |>.then (compare (a.1.protocol == .ibgp) (b.1.protocol == .ibgp))
    |>.then (compare a.2.originator b.2.originator)
    |>.then (compare a.1.receivedFrom b.1.receivedFrom)

def byBgp (a b : Route) : Ordering :=
  match a.attributes?, b.attributes? with
  | some x, some y => byDecision (a, x) (b, y)
  | _, _ => byDistance a b

def preference : RibKind → Route → Route → Ordering
  | main | connected | static | generated => byDistance
  | ospfIntra | ospfInter | ospfE1 => compareOn Route.metric
  | ospfE2 => compareLex (compareOn Route.metric) (compareOn costToAdvertiser)
  | ospf => byOspf
  | bgp => byBgp

def name : RibKind → String
  | main => "Main"
  | connected => "Connected"
  | static => "Static"
  | generated => "Generated"
  | ospfIntra => "OspfIntra"
  | ospfInter => "OspfInter"
  | ospfE1 => "OspfE1"
  | ospfE2 => "OspfE2"
  | ospf => "Ospf"
  | bgp => "Bgp"

def all : List RibKind :=
  [main, connected, static, generated, ospfIntra, ospfInter, ospfE1, ospfE2, ospf, bgp]

end RibKind

end RoutePlane
