import Mathlib.Data.List.Basic
import RoutePlane.Order.SortedMap
import RoutePlane.Order.SortedSet

/-! What the ordered containers hold: members of a set and look-up in a map after each operation.
Both representations are canonical, so sets with the same members and maps with the same bindings
are equal. -/
namespace RoutePlane

theorem eq_of_increasing {α κ : Type} [Ord κ] [Std.TransOrd κ] (key : α → κ) {l m : List α}
    (hl : l.Pairwise (fun a b => compare (key a) (key b) = .lt))
    (hm : m.Pairwise (fun a b => compare (key a) (key b) = .lt)) (h : ∀ x, x ∈ l ↔ x ∈ m) :
    l = m := by
  have distinct {l : List α} (increasing : l.Pairwise (fun a b => compare (key a) (key b) = .lt)) :
      l.Nodup := by
    refine increasing.imp ?_
    rintro a b lt rfl
    simp at lt
  refine ((List.perm_ext_iff_of_nodup (distinct hl) (distinct hm)).2 h).eq_of_pairwise ?_ hl hm
  intro a b _ _ ab ba
  rw [Std.OrientedCmp.gt_of_lt ab] at ba
  cases ba

theorem map_eq_map_of_alike {α β γ δ : Type} {look : α → γ} {look' : β → γ} {see : α → δ}
    {see' : β → δ} {l : List α} {l' : List β} (same : l.map look = l'.map look')
    (tells : ∀ a ∈ l, ∀ b ∈ l', look a = look' b → see a = see' b) : l.map see = l'.map see' := by
  induction l generalizing l' with
  | nil =>
    obtain rfl : l' = [] := by simpa using same.symm
    rfl
  | cons a l ih =>
    cases l' with
    | nil => simp at same
    | cons b l' =>
      obtain ⟨here, later⟩ := List.cons.inj same
      rw [List.map_cons, List.map_cons, tells a List.mem_cons_self b List.mem_cons_self here,
        ih later fun a member b member' =>
          tells a (List.mem_cons_of_mem _ member) b (List.mem_cons_of_mem _ member')]

theorem mem_foldl_new {α : Type} [DecidableEq α] {x : α} {l seen : List α} :
    x ∈ l.foldl (fun seen y => if y ∈ seen then seen else seen ++ [y]) seen ↔ x ∈ seen ∨ x ∈ l := by
  induction l generalizing seen with
  | nil => simp
  | cons first rest ih =>
    rw [List.foldl_cons, ih]
    split
    next known =>
      rw [List.mem_cons]
      constructor
      · exact fun member => member.imp_right .inr
      · rintro (member | rfl | member)
        exacts [.inl member, .inl known, .inr member]
    next => simp [or_assoc]

namespace SortedSet

variable {α : Type} [Ord α]

theorem mem_def {s : SortedSet α} {x : α} : x ∈ s ↔ x ∈ s.toList := Iff.rfl

theorem first?_eq_none_iff {s : SortedSet α} : s.first? = none ↔ ∀ x, x ∉ s := by
  simp [first?, mem_def, List.eq_nil_iff_forall_not_mem]

theorem mem_of_first? {s : SortedSet α} {x : α} (h : s.first? = some x) : x ∈ s :=
  List.mem_of_head? h

@[simp] theorem mem_singleton {x y : α} : x ∈ singleton y ↔ x = y := by
  simp [mem_def, singleton]

@[simp] theorem not_mem_empty (x : α) : x ∉ (empty : SortedSet α) := by
  simp [mem_def, empty]

theorem isEmpty_iff {s : SortedSet α} : s.isEmpty = true ↔ s = empty := by
  constructor
  · intro h
    apply ext_toList
    simpa [isEmpty, empty] using h
  · rintro rfl
    rfl

theorem exists_mem_iff {s : SortedSet α} : (∃ x, x ∈ s) ↔ s ≠ empty := by
  constructor
  · rintro ⟨x, member⟩ rfl
    exact not_mem_empty x member
  · intro some
    obtain ⟨x, member⟩ := List.exists_mem_of_ne_nil s.toList fun none => some (ext_toList none)
    exact ⟨x, member⟩

@[simp] theorem mem_filter {s : SortedSet α} {keep : α → Bool} {x : α} :
    x ∈ s.filter keep ↔ x ∈ s ∧ keep x = true := by
  simp [mem_def, filter]

theorem filter_eq_self {s : SortedSet α} {keep : α → Bool} (all : ∀ x ∈ s, keep x = true) :
    s.filter keep = s :=
  ext_toList (List.filter_eq_self.2 all)

variable [Std.LawfulEqOrd α]

theorem mem_insertInto {x z : α} {l : List α} : z ∈ insertInto x l ↔ z = x ∨ z ∈ l := by
  induction l with
  | nil => simp [insertInto]
  | cons y ys ih =>
    simp only [insertInto]
    split
    next => simp
    next same =>
      obtain rfl := compare_eq_iff.1 same
      simp
    next =>
      rw [List.mem_cons, ih, List.mem_cons]
      exact or_left_comm

variable [Std.TransOrd α]

@[simp] theorem mem_insert {s : SortedSet α} {x z : α} : z ∈ s.insert x ↔ z = x ∨ z ∈ s :=
  mem_insertInto

theorem mem_foldl_insert {s : SortedSet α} {l : List α} {z : α} :
    z ∈ l.foldl insert s ↔ z ∈ s ∨ z ∈ l := by
  induction l generalizing s with
  | nil => simp
  | cons x l ih => rw [List.foldl_cons, ih, mem_insert, List.mem_cons, or_comm (a := z = x), or_assoc]

@[simp] theorem mem_ofList {l : List α} {z : α} : z ∈ ofList l ↔ z ∈ l := by
  simp [ofList, mem_foldl_insert]

@[simp] theorem mem_union {s t : SortedSet α} {z : α} : z ∈ s.union t ↔ z ∈ s ∨ z ∈ t :=
  mem_foldl_insert

omit [Std.LawfulEqOrd α] in
theorem ext {s t : SortedSet α} (h : ∀ x, x ∈ s ↔ x ∈ t) : s = t :=
  ext_toList (eq_of_increasing id s.increasing t.increasing h)

theorem ofList_toList (s : SortedSet α) : ofList s.toList = s :=
  ext fun _ => mem_ofList

theorem insert_eq_self {s : SortedSet α} {x : α} (h : x ∈ s) : s.insert x = s := by
  apply ext
  intro z
  rw [mem_insert, or_iff_right_of_imp]
  rintro rfl
  exact h

end SortedSet

namespace SortedMap

variable {κ ν : Type} [Ord κ]

def find (k : κ) : List (κ × ν) → Option ν
  | [] => none
  | b :: rest => if compare k b.1 = .eq then some b.2 else find k rest

theorem get?_eq_find (m : SortedMap κ ν) (k : κ) : m.get? k = find k m.toList := by
  rw [get?]
  induction m.toList with
  | nil => rfl
  | cons b rest ih => by_cases same : compare k b.1 = .eq <;> simp [find, same, ih]

theorem insertInto_of_above [Std.OrientedOrd κ] {k : κ} (v : ν) {l : List (κ × ν)}
    (above : ∀ b ∈ l, compare b.1 k = .lt) : insertInto k v l = l ++ [(k, v)] := by
  induction l with
  | nil => rfl
  | cons b rest ih =>
    have gt : compare k b.1 = .gt := Std.OrientedCmp.gt_of_lt (above b List.mem_cons_self)
    simp [insertInto, gt, ih fun c member => above c (List.mem_cons_of_mem _ member)]

theorem toList_foldl_insert [Std.TransOrd κ] {m : SortedMap κ ν} {l : List (κ × ν)}
    (increasing : (m.toList ++ l).Pairwise fun a b => compare a.1 b.1 = .lt) :
    (l.foldl (fun m b => m.insert b.1 b.2) m).toList = m.toList ++ l := by
  induction l generalizing m with
  | nil => simp
  | cons b rest ih =>
    have added : (m.insert b.1 b.2).toList = m.toList ++ [b] :=
      insertInto_of_above b.2 fun c member =>
        (List.pairwise_append.1 increasing).2.2 c member b List.mem_cons_self
    have whole : m.toList ++ b :: rest = (m.insert b.1 b.2).toList ++ rest := by simp [added]
    rw [whole] at increasing ⊢
    exact ih increasing

theorem ofList_toList [Std.TransOrd κ] (m : SortedMap κ ν) : ofList m.toList = m :=
  ext_toList (toList_foldl_insert (by simpa [empty] using m.increasing))

variable [Std.LawfulEqOrd κ]

theorem find_insertInto_self (k : κ) (v : ν) (l : List (κ × ν)) :
    find k (insertInto k v l) = some v := by
  induction l with
  | nil => simp [insertInto, find]
  | cons b rest ih =>
    simp only [insertInto]
    split
    next => simp [find]
    next => simp [find]
    next gt => simp [find, gt, ih]

theorem find_insertInto_of_ne {k other : κ} (v : ν) (l : List (κ × ν)) (ne : other ≠ k) :
    find other (insertInto k v l) = find other l := by
  have apart : compare other k ≠ .eq := fun h => ne (compare_eq_iff.1 h)
  induction l with
  | nil => simp [insertInto, find, apart]
  | cons b rest ih =>
    simp only [insertInto]
    split
    next => simp [find, apart]
    next same =>
      obtain rfl := compare_eq_iff.1 same
      simp [find, apart]
    next => simp only [find, ih]

theorem mem_iff_find {l : List (κ × ν)} (increasing : l.Pairwise (fun a b => compare a.1 b.1 = .lt))
    {k : κ} {v : ν} : (k, v) ∈ l ↔ find k l = some v := by
  induction l with
  | nil => simp [find]
  | cons b rest ih =>
    obtain ⟨first, later⟩ := List.pairwise_cons.1 increasing
    by_cases same : compare k b.1 = .eq
    · obtain rfl := compare_eq_iff.1 same
      have absent : (b.1, v) ∉ rest := by
        intro member
        have lt := first _ member
        simp at lt
      simp [find, absent, Prod.ext_iff, eq_comm]
    · have ne : (k, v) ≠ b := by
        rintro rfl
        simp at same
      simp [find, same, ne, ih later]

theorem mem_toList_iff {m : SortedMap κ ν} {k : κ} {v : ν} :
    (k, v) ∈ m.toList ↔ m.get? k = some v := by
  rw [get?_eq_find]
  exact mem_iff_find m.increasing

variable [Std.TransOrd κ]

@[simp] theorem get?_insert_self (m : SortedMap κ ν) (k : κ) (v : ν) :
    (m.insert k v).get? k = some v := by
  rw [get?_eq_find]
  exact find_insertInto_self k v m.toList

theorem get?_insert_of_ne (m : SortedMap κ ν) {k other : κ} (v : ν) (ne : other ≠ k) :
    (m.insert k v).get? other = m.get? other := by
  rw [get?_eq_find, get?_eq_find]
  exact find_insertInto_of_ne v m.toList ne

theorem isSome_get?_ofList {l : List (κ × ν)} {k : κ} (listed : k ∈ l.map Prod.fst) :
    ((ofList l).get? k).isSome = true := by
  have folded (l : List (κ × ν)) (m : SortedMap κ ν)
      (bound : (m.get? k).isSome = true ∨ k ∈ l.map Prod.fst) :
      ((l.foldl (fun m b => m.insert b.1 b.2) m).get? k).isSome = true := by
    induction l generalizing m with
    | nil => simpa using bound
    | cons b rest ih =>
      refine ih _ ?_
      by_cases here : k = b.1
      · rw [here, get?_insert_self]
        exact .inl rfl
      · rw [get?_insert_of_ne _ _ here]
        simpa [here] using bound
  exact folded _ _ (.inr listed)

theorem ext {m n : SortedMap κ ν} (h : ∀ k, m.get? k = n.get? k) : m = n := by
  apply ext_toList
  refine eq_of_increasing Prod.fst m.increasing n.increasing ?_
  rintro ⟨k, v⟩
  rw [mem_toList_iff, mem_toList_iff, h]

theorem insert_eq_self {m : SortedMap κ ν} {k : κ} {v : ν} (found : m.get? k = some v) :
    m.insert k v = m := by
  apply ext
  intro other
  by_cases same : other = k
  · rw [same, get?_insert_self, found]
  · exact get?_insert_of_ne m v same

end SortedMap

end RoutePlane
