import RoutePlane.Order.Basic

/-!
Finite maps as lists of bindings with strictly increasing keys. The representation is canonical,
and the list shows the bindings in the order of their keys.
-/
namespace RoutePlane

structure SortedMap (κ ν : Type) [Ord κ] where
  toList : List (κ × ν)
  increasing : toList.Pairwise (fun a b => compare a.1 b.1 = .lt)

namespace SortedMap

variable {κ ν : Type} [Ord κ]

theorem ext_toList {m n : SortedMap κ ν} (h : m.toList = n.toList) : m = n := by
  cases m; cases n; cases h; rfl

/-- Insertion into a list with increasing keys; a binding of the same key is replaced. -/
def insertInto (k : κ) (v : ν) : List (κ × ν) → List (κ × ν)
  | [] => [(k, v)]
  | b :: rest =>
    match compare k b.1 with
    | .lt => (k, v) :: b :: rest
    | .eq => (k, v) :: rest
    | .gt => b :: insertInto k v rest

theorem key_of_mem_insertInto {k : κ} {v : ν} {b : κ × ν} {l : List (κ × ν)}
    (h : b ∈ insertInto k v l) : b = (k, v) ∨ b ∈ l := by
  induction l with
  | nil => simpa [insertInto] using h
  | cons c rest ih =>
    simp only [insertInto] at h
    split at h
    · simpa using h
    · rcases List.mem_cons.1 h with h | h
      · exact .inl h
      · exact .inr (List.mem_cons_of_mem _ h)
    · rcases List.mem_cons.1 h with rfl | h
      · exact .inr (by simp)
      · rcases ih h with h | h
        · exact .inl h
        · exact .inr (List.mem_cons_of_mem _ h)

variable [Std.TransOrd κ]

theorem increasing_insertInto (k : κ) (v : ν) {l : List (κ × ν)}
    (h : l.Pairwise (fun a b => compare a.1 b.1 = .lt)) :
    (insertInto k v l).Pairwise (fun a b => compare a.1 b.1 = .lt) := by
  induction l with
  | nil => simp [insertInto]
  | cons c rest ih =>
    obtain ⟨first, later⟩ := List.pairwise_cons.1 h
    simp only [insertInto]
    split
    next lt =>
      refine List.pairwise_cons.2 ⟨?_, h⟩
      intro b hb
      rcases List.mem_cons.1 hb with rfl | hb
      · exact lt
      · exact Std.TransCmp.lt_trans lt (first b hb)
    next same =>
      refine List.pairwise_cons.2 ⟨?_, later⟩
      intro b hb
      exact (Std.TransCmp.congr_left same).trans (first b hb)
    next gt =>
      refine List.pairwise_cons.2 ⟨?_, ih later⟩
      intro b hb
      rcases key_of_mem_insertInto hb with rfl | hb
      · exact Std.OrientedCmp.lt_of_gt gt
      · exact first b hb

def empty : SortedMap κ ν := ⟨[], .nil⟩

instance : EmptyCollection (SortedMap κ ν) := ⟨empty⟩
instance : Inhabited (SortedMap κ ν) := ⟨empty⟩

def insert (m : SortedMap κ ν) (k : κ) (v : ν) : SortedMap κ ν :=
  ⟨insertInto k v m.toList, increasing_insertInto k v m.increasing⟩

/-- Of several bindings of one key the last one counts. -/
def ofList (l : List (κ × ν)) : SortedMap κ ν := l.foldl (fun m b => m.insert b.1 b.2) empty

def get? (m : SortedMap κ ν) (k : κ) : Option ν :=
  (m.toList.find? (fun b => compare k b.1 == .eq)).map Prod.snd

/-- The bindings whose keys satisfy the condition. -/
def filterKeys (m : SortedMap κ ν) (keep : κ → Bool) : SortedMap κ ν :=
  ⟨m.toList.filter (fun b => keep b.1), m.increasing.filter _⟩

def erase (m : SortedMap κ ν) (k : κ) : SortedMap κ ν :=
  m.filterKeys fun other => compare k other != .eq

def contains (m : SortedMap κ ν) (k : κ) : Bool := (m.get? k).isSome

/-- The value of `k` is replaced by what `f` makes of it. -/
def alter (m : SortedMap κ ν) (k : κ) (f : Option ν → ν) : SortedMap κ ν := m.insert k (f (m.get? k))

def keys (m : SortedMap κ ν) : List κ := m.toList.map Prod.fst

def values (m : SortedMap κ ν) : List ν := m.toList.map Prod.snd

def size (m : SortedMap κ ν) : Nat := m.toList.length

instance [DecidableEq κ] [DecidableEq ν] : DecidableEq (SortedMap κ ν) := fun m n =>
  decidable_of_iff (m.toList = n.toList) ⟨ext_toList, congrArg toList⟩

end SortedMap

end RoutePlane
