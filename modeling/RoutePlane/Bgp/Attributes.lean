import RoutePlane.Bgp.AsPath
import RoutePlane.Bgp.Community
import RoutePlane.Route.Protocol

/-!
The attributes that BGP attaches to a route. They are ordered by their fields, first to last.
-/
namespace RoutePlane

/-- How the route entered BGP; the earlier, the better. -/
inductive OriginType where
  | igp
  | egp
  | incomplete
  deriving DecidableEq, Inhabited

namespace OriginType

def rank : OriginType → Nat
  | igp => 0
  | egp => 1
  | incomplete => 2

theorem rank_injective (p q : OriginType) (h : p.rank = q.rank) : p = q := by
  cases p <;> cases q <;> first | rfl | cases h

instance : Ord OriginType := ⟨compareOn rank⟩

instance : Std.TransOrd OriginType := inferInstanceAs (Std.TransCmp (compareOn rank))

instance : Std.LawfulEqOrd OriginType := lawfulEqCmp_compareOn rank rank_injective

def text : OriginType → String
  | igp => "i"
  | egp => "e"
  | incomplete => "?"

end OriginType

/-- What made this router hold the route. -/
inductive OriginMechanism where
  /-- Named by a network statement. -/
  | network
  | redistribute
  /-- An aggregate of more specific routes. -/
  | generated
  /-- Heard from a peer. -/
  | learned
  deriving DecidableEq

namespace OriginMechanism

instance : Inhabited OriginMechanism := ⟨learned⟩

def rank : OriginMechanism → Nat
  | network => 0
  | redistribute => 1
  | generated => 2
  | learned => 3

theorem rank_injective (p q : OriginMechanism) (h : p.rank = q.rank) : p = q := by
  cases p <;> cases q <;> first | rfl | cases h

instance : Ord OriginMechanism := ⟨compareOn rank⟩

instance : Std.TransOrd OriginMechanism := inferInstanceAs (Std.TransCmp (compareOn rank))

instance : Std.LawfulEqOrd OriginMechanism := lawfulEqCmp_compareOn rank rank_injective

end OriginMechanism

def defaultLocalPreference : UInt32 := 100

/-- Weight of the routes that a router originates itself. -/
def localWeight : UInt32 := 32768

structure BgpAttributes where
  asPath : AsPath := .empty
  clusterList : SortedSet UInt32 := .empty
  communities : SortedSet Community := .empty
  localPreference : UInt32 := defaultLocalPreference
  /-- Identity of the router that brought the route into the system. -/
  originator : Address := .unspecified
  originMechanism : OriginMechanism := .learned
  originType : OriginType := .igp
  fromReflectorClient : Bool := false
  /-- Protocol of the route that was redistributed. -/
  sourceProtocol : Option Protocol := none
  tunnelEndpoint : Option Address := none
  weight : UInt32 := 0
  deriving DecidableEq

namespace BgpAttributes

instance : Inhabited BgpAttributes := ⟨{}⟩

def key (a : BgpAttributes) :=
  (a.asPath, a.clusterList, a.communities, a.localPreference, a.originator, a.originMechanism,
    a.originType, a.fromReflectorClient, a.sourceProtocol, a.tunnelEndpoint, a.weight)

theorem key_injective (a b : BgpAttributes) (h : a.key = b.key) : a = b := by
  cases a; cases b
  simpa [key] using h

instance : Ord BgpAttributes := ⟨compareOn key⟩

instance : Std.TransOrd BgpAttributes := inferInstanceAs (Std.TransCmp (compareOn key))

instance : Std.LawfulEqOrd BgpAttributes := lawfulEqCmp_compareOn key key_injective

end BgpAttributes

end RoutePlane
