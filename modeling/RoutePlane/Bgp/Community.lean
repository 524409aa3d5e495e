import RoutePlane.Order.SortedSet
import RoutePlane.Address.Basic

/-!
BGP communities: 32-bit labels, written as their high and low halves. A single number is read as
the whole label.
-/
namespace RoutePlane

structure Community where
  value : UInt32
  deriving DecidableEq, Inhabited

namespace Community

theorem value_injective (c d : Community) (h : c.value = d.value) : c = d := by
  cases c; cases d; cases h; rfl

instance : Ord Community := ⟨compareOn value⟩

instance : Std.TransOrd Community := inferInstanceAs (Std.TransCmp (compareOn value))

instance : Std.LawfulEqOrd Community := lawfulEqCmp_compareOn value value_injective

def ofHalves (high low : UInt16) : Community :=
  ⟨UInt32.ofNat (high.toNat * UInt16.size + low.toNat)⟩

def text (c : Community) : String :=
  s!"{Numeral.render (c.value.toNat / UInt16.size)}:{Numeral.render (c.value.toNat % UInt16.size)}"

/-- The halves are parted by the first colon. -/
def ofText? (text : String) : Option Community :=
  match text.toList.span (· ≠ ':') with
  | (high, _ :: low) => do
    pure (ofHalves (← Numeral.word16? (String.ofList high)) (← Numeral.word16? (String.ofList low)))
  | (_, []) => (Numeral.word32? text).map Community.mk

end Community

end RoutePlane
