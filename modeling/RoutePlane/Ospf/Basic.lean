import RoutePlane.Route.Protocol
import RoutePlane.Address.Basic

/-!
OSPF areas, the two types of external metrics, and the cost of an interface. Areas are written like
addresses. Without a configured cost, the cost of an interface is the reference bandwidth over its
bandwidth, cut to a whole number from 1 to 65535.
-/
namespace RoutePlane

structure Area where
  id : UInt32
  deriving DecidableEq, Inhabited

namespace Area

def backbone : Area := ⟨0⟩

def isBackbone (a : Area) : Bool := a == backbone

theorem id_injective (a b : Area) (h : a.id = b.id) : a = b := by
  cases a; cases b; cases h; rfl

instance : Ord Area := ⟨compareOn id⟩

instance : Std.TransOrd Area := inferInstanceAs (Std.TransCmp (compareOn id))

instance : Std.LawfulEqOrd Area := lawfulEqCmp_compareOn id id_injective

def text (a : Area) : String := (Address.mk a.id).text

def label (a : Area) : String := s!"area {a.text}"

end Area

/-- How the metric of an external route grows: type 1 adds the costs of the way, type 2 keeps the
metric and uses the costs only between equal metrics. -/
inductive MetricType where
  | type1
  | type2
  deriving DecidableEq, Inhabited

def MetricType.protocol : MetricType → Protocol
  | type1 => .ospfE1
  | type2 => .ospfE2

namespace Ospf

def defaultReferenceBandwidth : Float := 100000000.0

def defaultExportMetric : UInt32 := 20

def greatestCost : UInt32 := 65535

/-- A bandwidth that is not above zero has the greatest cost, and a quotient that is not a number
has cost zero. -/
def interfaceCost (configured : Option UInt32) (reference bandwidth : Float) : UInt32 :=
  match configured with
  | some cost => max cost 1
  | none =>
    if bandwidth ≤ 0.0 then greatestCost
    else
      let quotient := (reference / bandwidth).floor
      if quotient < 1.0 then 1
      else if quotient > 65535.0 then greatestCost
      else quotient.toUInt32

/-- The sum of costs never passes the greatest 32-bit number. -/
def addCost (a b : UInt32) : UInt32 := UInt32.ofNat (min (a.toNat + b.toNat) (UInt32.size - 1))

/-- Routes inside an area come before routes between areas, and those before external ones. -/
def precedence : Protocol → Nat
  | .ospfIntra => 0
  | .ospfInter => 1
  | .ospfE1 => 2
  | .ospfE2 => 3
  | _ => 255

end Ospf

end RoutePlane
