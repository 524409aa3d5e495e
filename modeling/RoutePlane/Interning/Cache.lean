/-!
A cache that lets equal values share one cell. It is bounded: a full cache hands out cells that it
does not keep. Cells that nobody holds are removed in sweeps, and the next sweep is due when as many
values have missed the cache as cells survived the last one, so that each sweep is paid for by the
misses before it.
-/
namespace RoutePlane

/-- A value in a place of its own. Two cells are the same if their places are. -/
structure Cell (α : Type) where
  place : Nat
  value : α
  deriving DecidableEq

structure InternCache (α : Type) where
  capacity : Nat
  cells : List (Cell α)
  /-- Misses since the last sweep whose cells were not kept. -/
  uncached : Nat
  /-- A sweep is due when cells and uncached misses reach this number. -/
  sweepAt : Nat
  /-- Places from here on have not been used yet. -/
  fresh : Nat

namespace InternCache

variable {α : Type} [DecidableEq α]

/-- Fewest misses between two sweeps, in a cache that is large enough. -/
def minSweepInterval : Nat := 1024

def nextSweep (live capacity : Nat) : Nat :=
  live + max (max live (min minSweepInterval capacity)) 1

def empty (α : Type) (capacity : Nat) : InternCache α where
  capacity := capacity
  cells := []
  uncached := 0
  sweepAt := nextSweep 0 capacity
  fresh := 0

def size (c : InternCache α) : Nat := c.cells.length

def find? (c : InternCache α) (value : α) : Option (Cell α) := c.cells.find? (·.value == value)

/-- Remove the cells that nobody holds. -/
def sweep (held : Nat → Bool) (c : InternCache α) : InternCache α :=
  let live := c.cells.filter fun cell => held cell.place
  { c with cells := live, uncached := 0, sweepAt := nextSweep live.length c.capacity }

def sweepIfDue (held : Nat → Bool) (c : InternCache α) : InternCache α :=
  if c.sweepAt ≤ c.size + c.uncached then c.sweep held else c

/-- Put a value into a new cell, and keep the cell if there is room. -/
def add (c : InternCache α) (value : α) : Cell α × InternCache α :=
  let cell : Cell α := ⟨c.fresh, value⟩
  if c.size < c.capacity then (cell, { c with cells := cell :: c.cells, fresh := c.fresh + 1 })
  else (cell, { c with uncached := c.uncached + 1, fresh := c.fresh + 1 })

/-- The cell of a value: the kept one if there is one, otherwise a new one. `held` tells which places
are held outside of the cache. -/
def intern (held : Nat → Bool) (c : InternCache α) (value : α) : Cell α × InternCache α :=
  match c.find? value with
  | some cell => (cell, c)
  | none => (c.sweepIfDue held).add value

end InternCache

end RoutePlane
