import RoutePlane.Flow.Link

/-!
Traces: what became of a flow on one way through the network. They are ordered by their outcome,
then by their hops, then by their notes.
-/
namespace RoutePlane

inductive Disposition where
  /-- Reached its destination, or left the network. -/
  | accepted
  | nullRouted
  | noRoute
  | deniedIn
  | deniedOut
  deriving DecidableEq

namespace Disposition

def rank : Disposition → Nat
  | accepted => 0
  | nullRouted => 1
  | noRoute => 2
  | deniedIn => 3
  | deniedOut => 4

theorem rank_injective (p q : Disposition) (h : p.rank = q.rank) : p = q := by
  cases p <;> cases q <;> first | rfl | cases h

instance : Ord Disposition := ⟨compareOn rank⟩

instance : Std.TransOrd Disposition := inferInstanceAs (Std.TransCmp (compareOn rank))

instance : Std.LawfulEqOrd Disposition := lawfulEqCmp_compareOn rank rank_injective

def isSuccess (d : Disposition) : Bool := d == accepted

def text : Disposition → String
  | accepted => "ACCEPTED"
  | nullRouted => "NULL_ROUTED"
  | noRoute => "NO_ROUTE"
  | deniedIn => "DENIED_IN"
  | deniedOut => "DENIED_OUT"

end Disposition

/-- A link that the flow took, and the texts of the routes that chose it. -/
structure Hop where
  link : Link
  routes : List String
  deriving DecidableEq

namespace Hop

def key (h : Hop) : Link × List String := (h.link, h.routes)

theorem key_injective (a b : Hop) (h : a.key = b.key) : a = b := by
  cases a; cases b
  simpa [key] using h

instance : Ord Hop := ⟨compareOn key⟩

instance : Std.TransOrd Hop := inferInstanceAs (Std.TransCmp (compareOn key))

instance : Std.LawfulEqOrd Hop := lawfulEqCmp_compareOn key key_injective

def text (h : Hop) : String :=
  let routes := ", ".intercalate h.routes
  s!"{h.link.text} [{routes}]"

end Hop

structure Trace where
  disposition : Disposition
  hops : List Hop := []
  notes : String := ""
  deriving DecidableEq

namespace Trace

def key (t : Trace) : Disposition × List Hop × String := (t.disposition, t.hops, t.notes)

theorem key_injective (a b : Trace) (h : a.key = b.key) : a = b := by
  cases a; cases b
  simpa [key] using h

instance : Ord Trace := ⟨compareOn key⟩

instance : Std.TransOrd Trace := inferInstanceAs (Std.TransCmp (compareOn key))

instance : Std.LawfulEqOrd Trace := lawfulEqCmp_compareOn key key_injective

/-- The hops, numbered from the given number on, each on a line of its own. -/
def hopLines (number : Nat) : List Hop → String
  | [] => ""
  | h :: rest => s!"\n  {Nat.repr number}. {h.text}" ++ hopLines (number + 1) rest

def text (t : Trace) : String :=
  let notes := if t.notes.isEmpty then "" else s!" ({t.notes})"
  t.disposition.text ++ notes ++ hopLines 1 t.hops

end Trace

end RoutePlane
