import RoutePlane.Order.SortedSet
import RoutePlane.Text.Numeral

/-!
The autonomous systems that an announcement has passed, the latest first. A path is a list of sets:
a plain sequence has one member per set, and each set counts as one hop.
-/
namespace RoutePlane

/-- Number of an autonomous system. -/
abbrev AsNumber := UInt32

structure AsPath where
  sets : List (SortedSet AsNumber)
  deriving DecidableEq

namespace AsPath

def empty : AsPath := ⟨[]⟩

instance : Inhabited AsPath := ⟨empty⟩

theorem sets_injective (p q : AsPath) (h : p.sets = q.sets) : p = q := by
  cases p; cases q; cases h; rfl

instance : Ord AsPath := ⟨compareOn sets⟩

instance : Std.TransOrd AsPath := inferInstanceAs (Std.TransCmp (compareOn sets))

instance : Std.LawfulEqOrd AsPath := lawfulEqCmp_compareOn sets sets_injective

def ofSequence (sequence : List AsNumber) : AsPath := ⟨sequence.map SortedSet.singleton⟩

def length (p : AsPath) : Nat := p.sets.length

def isEmpty (p : AsPath) : Bool := p.sets.isEmpty

def contains (p : AsPath) (as : AsNumber) : Bool := p.sets.any (·.contains as)

def prepend (p : AsPath) (as : AsNumber) : AsPath := ⟨SortedSet.singleton as :: p.sets⟩

/-- The whole sequence comes in front, its first member leftmost. -/
def prependAll (p : AsPath) (sequence : List AsNumber) : AsPath :=
  sequence.foldr (fun as path => path.prepend as) p

/-- The least number of the first set, which is the neighbouring system of a plain sequence. -/
def first? (p : AsPath) : Option AsNumber := p.sets.head?.bind (·.first?)

def setText (set : SortedSet AsNumber) : String :=
  match set.toList.map (fun as => Numeral.render as.toNat) with
  | [as] => as
  | members => "\x7b" ++ ",".intercalate members ++ "\x7d"

/-- A single member stands for its set; any other set is written in braces. -/
def text (p : AsPath) : String := " ".intercalate (p.sets.map setText)

end AsPath

end RoutePlane
