import RoutePlane.Order.Basic

/-!
Identities of interfaces, and the directed links between them.
-/
namespace RoutePlane

/-- An interface by its node and its name. -/
structure InterfaceId where
  node : String
  interface : String
  deriving DecidableEq

/-- The interface that stands for dropping packets. -/
def nullInterface : String := "null_interface"

def noNode : String := "(none)"

def defaultVrf : String := "default"

namespace InterfaceId

/-- Where dropped packets end. -/
def null : InterfaceId := ⟨noNode, nullInterface⟩

def key (p : InterfaceId) : String × String := (p.node, p.interface)

theorem key_injective (a b : InterfaceId) (h : a.key = b.key) : a = b := by
  cases a; cases b
  simpa [key] using h

instance : Ord InterfaceId := ⟨compareOn key⟩

instance : Std.TransOrd InterfaceId := inferInstanceAs (Std.TransCmp (compareOn key))

instance : Std.LawfulEqOrd InterfaceId := lawfulEqCmp_compareOn key key_injective

def text (p : InterfaceId) : String := s!"{p.node}:{p.interface}"

end InterfaceId

structure Link where
  source : InterfaceId
  target : InterfaceId
  deriving DecidableEq

namespace Link

def reverse (l : Link) : Link := ⟨l.target, l.source⟩

def key (l : Link) : InterfaceId × InterfaceId := (l.source, l.target)

theorem key_injective (a b : Link) (h : a.key = b.key) : a = b := by
  cases a; cases b
  simpa [key] using h

instance : Ord Link := ⟨compareOn key⟩

instance : Std.TransOrd Link := inferInstanceAs (Std.TransCmp (compareOn key))

instance : Std.LawfulEqOrd Link := lawfulEqCmp_compareOn key key_injective

def text (l : Link) : String := s!"{l.source.text} -> {l.target.text}"

end Link

end RoutePlane
