import RoutePlane.Address.Basic

/-!
Where a route sends packets. The two symbolic forms stand for the ends of a BGP session; a policy
may set them, and they are replaced by addresses after it.
-/
namespace RoutePlane

inductive NextHop where
  /-- An address, resolved through the main table. -/
  | address (address : Address)
  /-- Out of an interface, towards an address of its network if one is given. -/
  | interface (name : String) (address : Option Address)
  /-- Packets are dropped. -/
  | discard
  /-- The own address of the session. -/
  | self
  /-- The address of the peer of the session. -/
  | peer
  deriving DecidableEq, Inhabited

namespace NextHop

def address? : NextHop → Option Address
  | address a => some a
  | interface _ a => a
  | _ => none

def interface? : NextHop → Option String
  | interface i _ => some i
  | _ => none

def isDiscard : NextHop → Bool
  | discard => true
  | _ => false

def key : NextHop → Nat × String × Option Address
  | address a => (0, "", some a)
  | interface i a => (1, i, a)
  | discard => (2, "", none)
  | self => (3, "", none)
  | peer => (4, "", none)

theorem key_injective (x y : NextHop) (h : x.key = y.key) : x = y := by
  cases x <;> cases y <;> simp_all [key]

instance : Ord NextHop := ⟨compareOn key⟩

instance : Std.TransOrd NextHop := inferInstanceAs (Std.TransCmp (compareOn key))

instance : Std.LawfulEqOrd NextHop := lawfulEqCmp_compareOn key key_injective

def text : NextHop → String
  | address a => a.text
  | interface i none => i
  | interface i (some a) => s!"{a.text} via {i}"
  | discard => "discard"
  | self => "self"
  | peer => "peer-address"

end NextHop

end RoutePlane
