import RoutePlane.Interning.Cache
import RoutePlane.Order.SortedMap

/-!
A cache together with those who hold its cells: named slots, each with one cell, and a heap of cells
that is released as a whole.
-/
namespace RoutePlane

structure InternHolders (α : Type) where
  cache : InternCache α
  slots : SortedMap String (Cell α)
  heap : List (Cell α)

namespace InternHolders

variable {α : Type} [DecidableEq α]

def empty (α : Type) (capacity : Nat) : InternHolders α := ⟨.empty α capacity, .empty, []⟩

def holds (h : InternHolders α) (place : Nat) : Bool :=
  h.slots.values.any (·.place == place) || h.heap.any (·.place == place)

def intern (h : InternHolders α) (value : α) : Cell α × InternHolders α :=
  let (cell, cache) := h.cache.intern h.holds value
  (cell, { h with cache := cache })

/-- The names of the slots that hold a cell. -/
def slotsOf (h : InternHolders α) (cell : Cell α) : List String :=
  (h.slots.toList.filter (·.2.place == cell.place)).map (·.1)

/-- Intern a value into a slot, which releases its former cell then. Also the names of the slots that
held the same cell before. -/
def internInto (h : InternHolders α) (slot : String) (value : α) :
    List String × InternHolders α :=
  let (cell, h) := h.intern value
  (h.slotsOf cell, { h with slots := h.slots.insert slot cell })

def drop (h : InternHolders α) (slot : String) : InternHolders α :=
  { h with slots := h.slots.erase slot }

/-- Intern values one after another, and keep their cells on the heap or release each at once. -/
def internAll (keep : Bool) (h : InternHolders α) (values : List α) : InternHolders α :=
  values.foldl
    (fun h value =>
      let (cell, h) := h.intern value
      if keep then { h with heap := cell :: h.heap } else h)
    h

def release (h : InternHolders α) : InternHolders α := { h with heap := [] }

end InternHolders

end RoutePlane
