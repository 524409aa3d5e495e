import RoutePlane.Bgp.Attributes
import RoutePlane.Ospf.Basic
import RoutePlane.Route.NextHop
import RoutePlane.Address.Prefix

/-!
Routes: the fields common to all protocols, and what OSPF and BGP add to them. Routes are ordered
by their fields, first to last; tables use this order to show equally good routes.
-/
namespace RoutePlane

structure OspfData where
  /-- The area in which the route was learned. -/
  area : Area
  /-- Cost of the way to the advertiser, which decides between equal type 2 metrics. -/
  costToAdvertiser : UInt32 := 0
  advertiser : String
  deriving DecidableEq

namespace OspfData

def key (d : OspfData) : Area × UInt32 × String := (d.area, d.costToAdvertiser, d.advertiser)

theorem key_injective (a b : OspfData) (h : a.key = b.key) : a = b := by
  cases a; cases b
  simpa [key] using h

instance : Ord OspfData := ⟨compareOn key⟩

instance : Std.TransOrd OspfData := inferInstanceAs (Std.TransCmp (compareOn key))

instance : Std.LawfulEqOrd OspfData := lawfulEqCmp_compareOn key key_injective

end OspfData

structure BgpData where
  attributes : BgpAttributes := {}
  pathId : Option UInt32 := none
  /-- The peer that sent the route; unspecified for routes of the router itself. -/
  receivedFrom : Address := .unspecified
  deriving DecidableEq

namespace BgpData

def key (d : BgpData) : BgpAttributes × Option UInt32 × Address :=
  (d.attributes, d.pathId, d.receivedFrom)

theorem key_injective (a b : BgpData) (h : a.key = b.key) : a = b := by
  cases a; cases b
  simpa [key] using h

instance : Ord BgpData := ⟨compareOn key⟩

instance : Std.TransOrd BgpData := inferInstanceAs (Std.TransCmp (compareOn key))

instance : Std.LawfulEqOrd BgpData := lawfulEqCmp_compareOn key key_injective

end BgpData

inductive RouteKind where
  | plain
  | ospf (data : OspfData)
  | bgp (data : BgpData)
  deriving DecidableEq

namespace RouteKind

instance : Inhabited RouteKind := ⟨plain⟩

def ospf? : RouteKind → Option OspfData
  | ospf data => some data
  | _ => none

def bgp? : RouteKind → Option BgpData
  | bgp data => some data
  | _ => none

def rank : RouteKind → Nat
  | plain => 0
  | ospf _ => 1
  | bgp _ => 2

def name : RouteKind → String
  | plain => "plain"
  | ospf _ => "OSPF"
  | bgp _ => "BGP"

def allows : RouteKind → Protocol → Bool
  | plain, p => p == .connected || p == .static || p == .aggregate
  | ospf _, p => p.isOspf
  | bgp _, p => p.isBgp || p == .aggregate

def key (k : RouteKind) : Nat × Option OspfData × Option BgpData := (k.rank, k.ospf?, k.bgp?)

theorem key_injective (x y : RouteKind) (h : x.key = y.key) : x = y := by
  cases x <;> cases y <;> simp_all [key, rank, ospf?, bgp?]

instance : Ord RouteKind := ⟨compareOn key⟩

instance : Std.TransOrd RouteKind := inferInstanceAs (Std.TransCmp (compareOn key))

instance : Std.LawfulEqOrd RouteKind := lawfulEqCmp_compareOn key key_injective

end RouteKind

structure Route where
  network : Prefix
  protocol : Protocol
  /-- Administrative distance. -/
  distance : UInt32
  /-- OSPF cost, or the multi-exit discriminator of BGP. -/
  metric : UInt32 := 0
  nextHop : NextHop
  tag : Option UInt32 := none
  /-- The route stays in the table of its protocol and is not announced to peers. -/
  nonRouting : Bool := false
  /-- The route is left out of the forwarding table. -/
  nonForwarding : Bool := false
  kind : RouteKind := .plain
  deriving DecidableEq

namespace Route

def key (r : Route) :=
  (r.network, r.protocol, r.distance, r.metric, r.nextHop, r.tag, r.nonRouting, r.nonForwarding,
    r.kind)

theorem key_injective (a b : Route) (h : a.key = b.key) : a = b := by
  cases a; cases b
  simpa [key] using h

instance : Ord Route := ⟨compareOn key⟩

instance : Std.TransOrd Route := inferInstanceAs (Std.TransCmp (compareOn key))

instance : Std.LawfulEqOrd Route := lawfulEqCmp_compareOn key key_injective

def ospf? (r : Route) : Option OspfData := r.kind.ospf?

def bgp? (r : Route) : Option BgpData := r.kind.bgp?

def attributes? (r : Route) : Option BgpAttributes := r.bgp?.map (·.attributes)

def isBgpKind (r : Route) : Bool := r.bgp?.isSome

/-- The peer that sent the route; unspecified for local routes and for other kinds. -/
def receivedFrom (r : Route) : Address := (r.bgp?.map (·.receivedFrom)).getD .unspecified

/-- Originated by the router that holds it. -/
def isLocal (r : Route) : Bool := r.receivedFrom == .unspecified

def text (r : Route) : String :=
  let common := s!"{r.network.text} [{Numeral.render r.distance.toNat}/{Numeral.render r.metric.toNat}] via {r.nextHop.text} ({r.protocol.text})"
  match r.attributes? with
  | none => common
  | some a =>
    s!"{common} path [{a.asPath.text}] lp {Numeral.render a.localPreference.toNat}"

end Route

end RoutePlane
