import RoutePlane.Proofs.Rib.Settling

/-! Merges in any order. A table holds the best of what was ever merged into it, and has an entry for
every network of it. So what a merge makes of a table depends on which routes are merged, not on their
order and not on how often one of them comes. -/
namespace RoutePlane.Rib

variable {t u : Rib} {k : RibKind} {pool : Set Route} {l m : List Route} {p : Prefix}

theorem get?_entries (t : Rib) (p : Prefix) :
    t.entries.get? p = if (t.entries.get? p).isSome then some (t.held p) else none := by
  rw [held]
  cases t.entries.get? p <;> rfl

theorem eq_of_held (kind : t.kind = u.kind) (held : t.held = u.held)
    (entries : ∀ p, (t.entries.get? p).isSome = (u.entries.get? p).isSome) : t = u := by
  have same : t.entries = u.entries :=
    SortedMap.ext fun p => by rw [get?_entries, get?_entries u, entries, held]
  cases t
  cases u
  cases kind
  cases same
  rfl

theorem isSome_get?_merge (t : Rib) (r : Route) :
    ((t.merge r).1.entries.get? p).isSome = true ↔
      (t.entries.get? p).isSome = true ∨ t.kind.Admits r ∧ r.network = p := by
  by_cases admits : t.kind.Admits r
  · rw [merge, if_neg admits]
    by_cases here : p = r.network
    · simp [here, admits]
    · simp [SortedMap.get?_insert_of_ne _ _ here, Ne.symm here]
  · simp [merge_of_not_admits admits, admits]

theorem isSome_get?_mergeAll (t : Rib) (l : List Route) :
    ((t.mergeAll l).1.entries.get? p).isSome = true ↔
      (t.entries.get? p).isSome = true ∨ ∃ r ∈ l, t.kind.Admits r ∧ r.network = p := by
  induction l generalizing t with
  | nil => simp
  | cons r l ih => simp [mergeAll_cons, ih, isSome_get?_merge, or_assoc]

/-- What a merge makes of a table, and whether it changes anything, is a matter of which routes are
merged. -/
theorem DrawsFrom.mergeAll_congr (draws : t.DrawsFrom k pool) (drawn : ∀ x ∈ l, x ∈ pool)
    (same : ∀ x, x ∈ l ↔ x ∈ m) : t.mergeAll l = t.mergeAll m := by
  obtain ⟨offered, -, select⟩ := draws.selects
  have drawn' : ∀ x ∈ m, x ∈ pool := fun x member => drawn x ((same x).2 member)
  have suits {l : List Route} (drawn : ∀ x ∈ l, x ∈ pool) : ∀ x ∈ l, k.Suits x :=
    fun x member => draws.suits x (drawn x member)
  have merged {l : List Route} (drawn : ∀ x ∈ l, x ∈ pool) :
      (t.mergeAll l).1.Weighs k (offered ∪ {x | x ∈ l}) :=
    Weighs.mergeAll ⟨draws.kind, select⟩ (suits drawn)
  have sets : {x | x ∈ l} = {x | x ∈ m} := Set.ext same
  have held : (t.mergeAll l).1.held = (t.mergeAll m).1.held := by
    funext p
    apply SortedSet.ext
    intro x
    rw [(merged drawn).mem_iff, (merged drawn').mem_iff, sets]
  have tables : (t.mergeAll l).1 = (t.mergeAll m).1 := by
    refine eq_of_held (by rw [kind_mergeAll, kind_mergeAll]) held fun p => ?_
    rw [Bool.eq_iff_iff, isSome_get?_mergeAll, isSome_get?_mergeAll]
    simp only [same]
  refine Prod.ext tables ?_
  rw [Bool.eq_iff_iff, draws.mergeAll_flag_iff drawn, draws.mergeAll_flag_iff drawn', held]

end RoutePlane.Rib
