/-!
Total orders by key. A type whose values are determined by a key inherits the order of the key,
together with its laws; pairs are ordered by their first and then by their second component. Ranges
of numbers have both ends included, and are empty if the first end lies above the last.
-/
namespace RoutePlane

instance instOrdPair {α β : Type} [Ord α] [Ord β] : Ord (α × β) := lexOrd

instance instTransOrdPair {α β : Type} [Ord α] [Ord β] [Std.TransOrd α] [Std.TransOrd β] :
    Std.TransOrd (α × β) :=
  inferInstanceAs (Std.TransCmp (compareLex (compareOn Prod.fst) (compareOn Prod.snd)))

instance instLawfulEqOrdPair {α β : Type} [Ord α] [Ord β] [Std.LawfulEqOrd α]
    [Std.LawfulEqOrd β] : Std.LawfulEqOrd (α × β) where
  compare_self := by
    intro a
    simp [compare, compareLex, compareOn]
  eq_of_compare := by
    rintro ⟨a, b⟩ ⟨c, d⟩ h
    simp only [compare, compareLex, compareOn, Ordering.then_eq_eq] at h
    rw [Std.LawfulEqOrd.eq_of_compare h.1, Std.LawfulEqOrd.eq_of_compare h.2]

theorem lawfulEqCmp_compareOn {α β : Type} [Ord β] [Std.LawfulEqOrd β] (key : α → β)
    (injective : ∀ a b, key a = key b → a = b) : Std.LawfulEqCmp (compareOn key) where
  compare_self := by
    intro a
    simp [compareOn]
  eq_of_compare := by
    intro a b h
    exact injective a b (Std.LawfulEqOrd.eq_of_compare h)

theorem compare_eq_iff {α : Type} [Ord α] [Std.LawfulEqOrd α] {a b : α} :
    compare a b = .eq ↔ a = b :=
  ⟨Std.LawfulEqOrd.eq_of_compare, fun h => h ▸ Std.ReflOrd.compare_self⟩

structure Range where
  first : Nat
  last : Nat
  deriving DecidableEq

namespace Range

def single (n : Nat) : Range := ⟨n, n⟩

def contains (r : Range) (n : Nat) : Bool := r.first ≤ n && n ≤ r.last

end Range

end RoutePlane
