import RoutePlane.Proofs.Rib.Selection

/-! Sequences of merges. What a table holds in the end is settled by the set of the merged routes,
and the flag of a call tells whether the held routes have changed, also when a call merges many
routes: a route that has once been displaced does not come back. -/
namespace RoutePlane.Rib

variable {t u : Rib} {offered more : Set Route} {p : Prefix} {x y r : Route} {l m : List Route}

theorem Selects.held_eq_iff (select : t.Selects offered) (others : u.Selects more)
    (same : t.kind = u.kind) :
    t.held = u.held ↔ ∀ p, t.kind.best offered p = t.kind.best more p := by
  constructor
  · intro equal p
    ext x
    rw [← select.mem_iff, equal, others.mem_iff, same]
  · intro equal
    funext p
    apply SortedSet.ext
    intro x
    rw [select.mem_iff, equal, others.mem_iff, same]

theorem Selects.tied (select : t.Selects offered) (hx : x ∈ t.held p) (hy : y ∈ t.held p) :
    t.kind.preference x y = .eq := by
  have first := (select.mem_iff p x).1 hx
  have second := (select.mem_iff p y).1 hy
  rw [RibKind.preference_eq_iff (select.suits x first.1.1) (select.suits y second.1.1)]
  exact RibKind.rank_eq_of_best select.suits first second

theorem offer_flag_iff {k : RibKind} {stored : RouteSet} (suits : k.Suits r) :
    (offer k r stored).2 = true ↔ (offer k r stored).1 ≠ stored := by
  cases first : stored.first? with
  | none =>
    simp only [offer, first, true_iff]
    intro same
    exact SortedSet.first?_eq_none_iff.1 first r (same ▸ SortedSet.mem_singleton.2 rfl)
  | some current =>
    have member : current ∈ stored := SortedSet.mem_of_first? first
    simp only [offer, first]
    cases outcome : k.preference r current with
    | lt =>
      simp only [true_iff]
      intro same
      obtain rfl : current = r := SortedSet.mem_singleton.1 (same ▸ member)
      rw [RibKind.preference_lt_iff suits suits] at outcome
      exact lt_irrefl _ outcome
    | eq =>
      simp only [Bool.not_eq_true', Bool.eq_false_iff, Ne, SortedSet.contains_iff]
      refine not_congr ⟨SortedSet.insert_eq_self, fun same => ?_⟩
      rw [← same, SortedSet.mem_insert]
      exact .inl rfl
    | gt => simp

/-- A merge reports a change exactly if the held routes are others than before. -/
theorem merge_flag_iff (suits : t.kind.Suits r) :
    (t.merge r).2 = true ↔ (t.merge r).1.held ≠ t.held := by
  by_cases admits : t.kind.Admits r
  · rw [merge_flag admits, offer_flag_iff suits, ← held_merge_self admits]
    refine not_congr ⟨fun same => ?_, fun same => congrFun same _⟩
    funext p
    by_cases here : p = r.network
    · rw [here, same]
    · exact held_merge_of_ne here
  · simp [merge_of_not_admits admits]

@[simp] theorem mergeAll_nil (t : Rib) : t.mergeAll [] = (t, false) := rfl

/-- The flag of a sequence is set by any of its merges. -/
theorem foldl_merge_eq (t : Rib) (changed : Bool) (l : List Route) :
    l.foldl (fun (t, changed) route =>
      let (t, more) := t.merge route
      (t, changed || more)) (t, changed) = ((t.mergeAll l).1, changed || (t.mergeAll l).2) := by
  induction l generalizing t changed with
  | nil => simp
  | cons r l ih =>
    rw [mergeAll, List.foldl_cons, List.foldl_cons, ih, ih]
    simp [Bool.or_assoc]

theorem mergeAll_cons (t : Rib) (r : Route) (l : List Route) :
    t.mergeAll (r :: l) =
      (((t.merge r).1.mergeAll l).1, (t.merge r).2 || ((t.merge r).1.mergeAll l).2) := by
  rw [mergeAll, List.foldl_cons, foldl_merge_eq]
  simp

theorem mergeAll_append (t : Rib) (l m : List Route) :
    t.mergeAll (l ++ m) =
      (((t.mergeAll l).1.mergeAll m).1, (t.mergeAll l).2 || ((t.mergeAll l).1.mergeAll m).2) := by
  rw [mergeAll, List.foldl_append, ← mergeAll, foldl_merge_eq]

@[simp] theorem kind_mergeAll (t : Rib) (l : List Route) : (t.mergeAll l).1.kind = t.kind := by
  induction l generalizing t with
  | nil => rfl
  | cons r l ih => rw [mergeAll_cons, ih, kind_merge]

/-- Merges leave the networks for which they have no route. -/
theorem held_mergeAll_of_ne (others : ∀ x ∈ l, x.network ≠ p) : (t.mergeAll l).1.held p = t.held p := by
  induction l generalizing t with
  | nil => rfl
  | cons r l ih =>
    rw [mergeAll_cons, ih fun x member => others x (by simp [member]),
      held_merge_of_ne (others r (by simp)).symm]

theorem suits_rest (suits : ∀ x ∈ r :: l, t.kind.Suits x) :
    ∀ x ∈ l, (t.merge r).1.kind.Suits x := by
  intro x member
  rw [kind_merge]
  exact suits x (by simp [member])

theorem Selects.mergeAll (select : t.Selects offered) (suits : ∀ x ∈ l, t.kind.Suits x) :
    (t.mergeAll l).1.Selects (offered ∪ {x | x ∈ l}) := by
  induction l generalizing t offered with
  | nil => simpa using select
  | cons r l ih =>
    have next := select.merge (suits r (by simp))
    have rest : ∀ x ∈ l, (t.merge r).1.kind.Suits x := suits_rest suits
    have all : offered ∪ {x | x ∈ r :: l} = insert r offered ∪ {x | x ∈ l} := by
      ext x
      simp [or_assoc, or_left_comm]
    rw [mergeAll_cons, all]
    exact ih next rest

/-- To absorb the best of some routes is to merge all of them. -/
theorem Selects.absorb (select : t.Selects offered) (others : u.Selects more)
    (same : t.kind = u.kind) : (t.absorb u).1.Selects (offered ∪ more) := by
  have suits : ∀ x ∈ offered ∪ more, t.kind.Suits x := by
    rintro x (member | member)
    · exact select.suits x member
    · exact same ▸ others.suits x member
  have within : {x | x ∈ u.routes} ⊆ more := by
    intro x member
    obtain ⟨p, held⟩ := mem_routes_iff.1 member
    exact ((others.mem_iff p x).1 held).1.1
  have merged : (t.absorb u).1.Selects (offered ∪ {x | x ∈ u.routes}) :=
    select.mergeAll fun x member => suits x (.inr (within member))
  refine ⟨by rwa [Rib.absorb, kind_mergeAll], fun p x => ?_⟩
  rw [merged.mem_iff, Rib.absorb, kind_mergeAll, RibKind.best_eq_of_subset suits
    (Set.union_subset_union_right _ within)]
  intro y top
  rcases top.1.1 with member | member
  · exact .inl member
  · have own : y ∈ u.kind.best more p :=
      same ▸ RibKind.best_of_subset Set.subset_union_right top member
    exact .inr (mem_routes_iff.2 ⟨p, (others.mem_iff p y).2 own⟩)

structure Weighs (t : Rib) (k : RibKind) (offered : Set Route) : Prop where
  kind : t.kind = k
  selects : t.Selects offered

namespace Weighs

variable {k : RibKind}

theorem empty (k : RibKind) : (Rib.empty k).Weighs k ∅ := ⟨rfl, .empty k⟩

theorem mem_iff (weighs : t.Weighs k offered) : x ∈ t.held p ↔ x ∈ k.best offered p :=
  weighs.kind ▸ weighs.selects.mem_iff p x

theorem mergeAll (weighs : t.Weighs k offered) (suits : ∀ x ∈ l, k.Suits x) :
    (t.mergeAll l).1.Weighs k (offered ∪ {x | x ∈ l}) :=
  ⟨(kind_mergeAll t l).trans weighs.kind, weighs.selects.mergeAll (weighs.kind ▸ suits)⟩

theorem of_empty (suits : ∀ x ∈ l, k.Suits x) : ((Rib.empty k).mergeAll l).1.Weighs k {x | x ∈ l} := by
  have weighs := (Weighs.empty k).mergeAll suits
  rwa [Set.empty_union] at weighs

theorem absorb (weighs : t.Weighs k offered) (others : u.Weighs k more) :
    (t.absorb u).1.Weighs k (offered ∪ more) :=
  ⟨(kind_mergeAll t _).trans weighs.kind,
    weighs.selects.absorb others.selects (weighs.kind.trans others.kind.symm)⟩

/-- Something is held where there are candidates. -/
theorem exists_held (weighs : t.Weighs k offered) (candidate : x ∈ k.candidates offered p) :
    ∃ y, y ∈ t.held p := by
  obtain ⟨y, best⟩ := RibKind.exists_best (weighs.kind ▸ weighs.selects.suits) candidate
  exact ⟨y, weighs.mem_iff.2 best⟩

theorem suits (weighs : t.Weighs k offered) : ∀ x ∈ offered, k.Suits x :=
  weighs.kind ▸ weighs.selects.suits

theorem rank_le (weighs : t.Weighs k offered) (held : x ∈ t.held p)
    (candidate : y ∈ k.candidates offered p) : k.rank x ≤ k.rank y :=
  ((RibKind.mem_best_iff weighs.suits).1 (weighs.mem_iff.1 held)).2 y candidate

theorem rank_eq (weighs : t.Weighs k offered) (held : x ∈ t.held p) (held' : y ∈ t.held p) :
    k.rank x = k.rank y :=
  RibKind.rank_eq_of_best weighs.suits (weighs.mem_iff.1 held) (weighs.mem_iff.1 held')

theorem mem_of_routes (weighs : t.Weighs k offered) (member : x ∈ t.routes) : x ∈ offered := by
  obtain ⟨p, held⟩ := mem_routes_iff.1 member
  exact (weighs.mem_iff.1 held).1.1

end Weighs

/-- The flag of a sequence of merges compares the end with the start, because held routes that have
changed on the way do not come back. -/
theorem Selects.mergeAll_flag_iff (select : t.Selects offered) (suits : ∀ x ∈ l, t.kind.Suits x) :
    (t.mergeAll l).2 = true ↔ (t.mergeAll l).1.held ≠ t.held := by
  induction l generalizing t offered with
  | nil => simp
  | cons r l ih =>
    have next := select.merge (suits r (by simp))
    have rest : ∀ x ∈ l, (t.merge r).1.kind.Suits x := suits_rest suits
    have last := next.mergeAll rest
    have first := merge_flag_iff (suits r (by simp))
    have later := ih next rest
    rw [mergeAll_cons, Bool.or_eq_true, first, later]
    refine ⟨fun moved back => ?_, fun moved => ?_⟩
    · have between : (t.merge r).1.held = t.held := by
        have equal := (select.held_eq_iff last (by simp)).1 back.symm
        have among : ∀ x ∈ insert r offered ∪ {x | x ∈ l}, t.kind.Suits x := by
          intro x member
          simpa using last.suits x member
        refine Eq.symm ((select.held_eq_iff next (by simp)).2 fun p => ?_)
        exact (RibKind.best_between among (Set.subset_insert _ _) Set.subset_union_left
          (equal p)).symm
      rcases moved with moved | moved
      · exact moved between
      · exact moved (back.trans between.symm)
    · by_contra still
      rw [not_or, not_not, not_not] at still
      exact moved (still.2.trans still.1)

theorem mem_bindings_iff {routes : RouteSet} :
    (p, routes) ∈ t.bindings ↔ routes = t.held p ∧ routes ≠ .empty := by
  rw [bindings, List.mem_filter, SortedMap.mem_toList_iff, Bool.not_eq_true', Bool.eq_false_iff, Ne,
    SortedSet.isEmpty_iff, held]
  refine and_congr_left fun some => ?_
  cases t.entries.get? p with
  | none => simp [some]
  | some found => simp [eq_comm]

theorem mem_held_iff_bindings : x ∈ t.held p ↔ ∃ routes, (p, routes) ∈ t.bindings ∧ x ∈ routes := by
  constructor
  · intro member
    exact ⟨t.held p, mem_bindings_iff.2 ⟨rfl, SortedSet.exists_mem_iff.1 ⟨x, member⟩⟩, member⟩
  · rintro ⟨routes, bound, member⟩
    exact (mem_bindings_iff.1 bound).1 ▸ member

theorem exists_held_iff_bindings : (∃ x, x ∈ t.held p) ↔ ∃ routes, (p, routes) ∈ t.bindings := by
  rw [SortedSet.exists_mem_iff]
  constructor
  · exact fun some => ⟨t.held p, mem_bindings_iff.2 ⟨rfl, some⟩⟩
  · rintro ⟨routes, bound⟩
    obtain ⟨rfl, some⟩ := mem_bindings_iff.1 bound
    exact some

theorem bindings_eq_iff : t.bindings = u.bindings ↔ t.held = u.held := by
  constructor
  · intro same
    funext p
    apply SortedSet.ext
    intro x
    rw [mem_held_iff_bindings, mem_held_iff_bindings, same]
  · intro same
    refine eq_of_increasing Prod.fst (t.entries.increasing.filter _) (u.entries.increasing.filter _)
      fun b => ?_
    obtain ⟨p, routes⟩ := b
    show (p, routes) ∈ t.bindings ↔ (p, routes) ∈ u.bindings
    rw [mem_bindings_iff, mem_bindings_iff, same]

theorem flatMap_nonempty (l : List (Prefix × RouteSet)) :
    l.flatMap (·.2.toList) = (l.filter fun b => !b.2.isEmpty).flatMap (·.2.toList) := by
  induction l with
  | nil => rfl
  | cons b l ih =>
    cases empty : SortedSet.isEmpty b.2 with
    | true =>
      have none : b.2.toList = [] := by rw [SortedSet.isEmpty_iff.1 empty]; rfl
      rw [List.filter_cons_of_neg (by simp [empty]), List.flatMap_cons, none, ih]
      rfl
    | false =>
      rw [List.filter_cons_of_pos (by simp [empty]), List.flatMap_cons, List.flatMap_cons, ih]

theorem routes_congr (same : t.bindings = u.bindings) : t.routes = u.routes := by
  have listed (t : Rib) : t.routes = t.bindings.flatMap (·.2.toList) := by
    rw [routes, SortedMap.values, List.flatMap_map, flatMap_nonempty, bindings]
  rw [listed, listed, same]

theorem Selects.routes_of_still (select : t.Selects offered) (suits : ∀ x ∈ l, t.kind.Suits x)
    (still : (t.mergeAll l).2 = false) : (t.mergeAll l).1.routes = t.routes := by
  refine routes_congr (bindings_eq_iff.2 ?_)
  by_contra moved
  exact absurd ((select.mergeAll_flag_iff suits).2 moved) (Bool.eq_false_iff.1 still)

/-- Tables are equal if they hold the same. -/
theorem sameRoutes_iff : t.sameRoutes u = true ↔ t.held = u.held := by
  rw [sameRoutes, beq_iff_eq, bindings_eq_iff]

end RoutePlane.Rib
