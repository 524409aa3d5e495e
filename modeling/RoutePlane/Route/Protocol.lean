import RoutePlane.Order.Basic

/-!
The ways in which a router comes to know a route, in their order. The default administrative
distance states how far each of them is trusted: less is better.
-/
namespace RoutePlane

inductive Protocol where
  | connected
  | static
  | aggregate
  | ospfIntra
  | ospfInter
  | ospfE1
  | ospfE2
  /-- Learned over an external BGP session, or originated into BGP. -/
  | bgp
  /-- Learned over an internal BGP session. -/
  | ibgp
  deriving DecidableEq, Inhabited

namespace Protocol

def rank : Protocol → Nat
  | connected => 0
  | static => 1
  | aggregate => 2
  | ospfIntra => 3
  | ospfInter => 4
  | ospfE1 => 5
  | ospfE2 => 6
  | bgp => 7
  | ibgp => 8

theorem rank_injective (p q : Protocol) (h : p.rank = q.rank) : p = q := by
  cases p <;> cases q <;> first | rfl | cases h

instance : Ord Protocol := ⟨compareOn rank⟩

instance : Std.TransOrd Protocol := inferInstanceAs (Std.TransCmp (compareOn rank))

instance : Std.LawfulEqOrd Protocol := lawfulEqCmp_compareOn rank rank_injective

def defaultDistance : Protocol → UInt32
  | connected => 0
  | static => 1
  | bgp => 20
  | ospfIntra | ospfInter | ospfE1 | ospfE2 => 110
  | ibgp | aggregate => 200

def isBgp : Protocol → Bool
  | bgp | ibgp => true
  | _ => false

def isOspf : Protocol → Bool
  | ospfIntra | ospfInter | ospfE1 | ospfE2 => true
  | _ => false

def isOspfExternal : Protocol → Bool
  | ospfE1 | ospfE2 => true
  | _ => false

def text : Protocol → String
  | connected => "connected"
  | static => "static"
  | aggregate => "aggregate"
  | ospfIntra => "ospf"
  | ospfInter => "ospfIA"
  | ospfE1 => "ospfE1"
  | ospfE2 => "ospfE2"
  | bgp => "bgp"
  | ibgp => "ibgp"

end Protocol

end RoutePlane
