import RoutePlane.Order.Basic

/-!
Finite sets as strictly increasing lists. The representation is canonical: two sets with the same
members are the same value, and the list shows the members in their order.
-/
namespace RoutePlane

structure SortedSet (α : Type) [Ord α] where
  toList : List α
  increasing : toList.Pairwise (fun a b => compare a b = .lt)

namespace SortedSet

variable {α : Type} [Ord α]

theorem ext_toList {s t : SortedSet α} (h : s.toList = t.toList) : s = t := by
  cases s; cases t; cases h; rfl

/-- Insertion into an increasing list; a member that is there already stays. -/
def insertInto (x : α) : List α → List α
  | [] => [x]
  | y :: ys =>
    match compare x y with
    | .lt => x :: y :: ys
    | .eq => y :: ys
    | .gt => y :: insertInto x ys

theorem mem_of_mem_insertInto {x z : α} {l : List α} (h : z ∈ insertInto x l) : z = x ∨ z ∈ l := by
  induction l with
  | nil => simpa [insertInto] using h
  | cons y ys ih =>
    simp only [insertInto] at h
    split at h
    · simpa using h
    · exact .inr h
    · rcases List.mem_cons.1 h with rfl | h
      · exact .inr (by simp)
      · rcases ih h with rfl | h
        · exact .inl rfl
        · exact .inr (List.mem_cons_of_mem _ h)

variable [Std.TransOrd α]

theorem increasing_insertInto (x : α) {l : List α}
    (h : l.Pairwise (fun a b => compare a b = .lt)) :
    (insertInto x l).Pairwise (fun a b => compare a b = .lt) := by
  induction l with
  | nil => simp [insertInto]
  | cons y ys ih =>
    obtain ⟨first, rest⟩ := List.pairwise_cons.1 h
    simp only [insertInto]
    split
    next lt =>
      refine List.pairwise_cons.2 ⟨?_, h⟩
      intro z hz
      rcases List.mem_cons.1 hz with rfl | hz
      · exact lt
      · exact Std.TransCmp.lt_trans lt (first z hz)
    next => exact h
    next gt =>
      refine List.pairwise_cons.2 ⟨?_, ih rest⟩
      intro z hz
      rcases mem_of_mem_insertInto hz with rfl | hz
      · exact Std.OrientedCmp.lt_of_gt gt
      · exact first z hz

def empty : SortedSet α := ⟨[], .nil⟩

instance : EmptyCollection (SortedSet α) := ⟨empty⟩
instance : Inhabited (SortedSet α) := ⟨empty⟩

def insert (s : SortedSet α) (x : α) : SortedSet α :=
  ⟨insertInto x s.toList, increasing_insertInto x s.increasing⟩

def singleton (x : α) : SortedSet α := ⟨[x], by simp⟩

def ofList (l : List α) : SortedSet α := l.foldl insert empty

/-- All members of both sets. -/
def union (s t : SortedSet α) : SortedSet α := t.toList.foldl insert s

def filter (s : SortedSet α) (keep : α → Bool) : SortedSet α :=
  ⟨s.toList.filter keep, s.increasing.filter keep⟩

def erase (s : SortedSet α) (x : α) : SortedSet α := s.filter (fun y => compare x y != .eq)

def contains (s : SortedSet α) (x : α) : Bool := s.toList.any (fun y => compare x y == .eq)

def isEmpty (s : SortedSet α) : Bool := s.toList.isEmpty

def size (s : SortedSet α) : Nat := s.toList.length

def first? (s : SortedSet α) : Option α := s.toList.head?

instance : Membership α (SortedSet α) := ⟨fun s x => x ∈ s.toList⟩

instance [DecidableEq α] : DecidableEq (SortedSet α) := fun s t =>
  decidable_of_iff (s.toList = t.toList) ⟨ext_toList, congrArg toList⟩

/-- Sets are compared as the lists of their members. -/
instance : Ord (SortedSet α) := ⟨compareOn toList⟩

instance : Std.TransOrd (SortedSet α) :=
  inferInstanceAs (Std.TransCmp (compareOn toList))

instance [Std.LawfulEqOrd α] : Std.LawfulEqOrd (SortedSet α) :=
  lawfulEqCmp_compareOn toList (fun _ _ => ext_toList)

omit [Std.TransOrd α] in
theorem contains_iff [Std.LawfulEqOrd α] {s : SortedSet α} {x : α} :
    s.contains x = true ↔ x ∈ s := by
  show s.toList.any (fun y => compare x y == .eq) = true ↔ x ∈ s.toList
  rw [List.any_eq_true]
  constructor
  · rintro ⟨y, hy, h⟩
    have : x = y := compare_eq_iff.1 (by simpa using h)
    exact this ▸ hy
  · intro h
    exact ⟨x, h, by simp⟩

end SortedSet

end RoutePlane
