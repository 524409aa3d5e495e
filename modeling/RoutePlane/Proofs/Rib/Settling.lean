import Mathlib.Order.Filter.AtTopBot.Basic
import Mathlib.Order.Filter.Finite
import RoutePlane.Proofs.Rib.Merging
import RoutePlane.Proofs.Route.Finiteness

/-! Tables into which routes are merged for ever. If the routes are drawn from a pool in which
every rank has finitely many of them, then the table settles: the best rank that is ever offered for
a network is offered at some time, and after it only its finitely many ties can still come. -/
namespace RoutePlane.Rib

open Filter

variable {t : Rib} {k : RibKind} {pool smaller : Set Route} {l : List Route} {p : Prefix}
  {x : Route}

/-- The table has a kind and holds the best of routes of a pool that suits it. -/
structure DrawsFrom (t : Rib) (k : RibKind) (pool : Set Route) : Prop where
  kind : t.kind = k
  suits : ∀ x ∈ pool, k.Suits x
  selects : ∃ offered ⊆ pool, t.Selects offered

theorem Selects.own {offered : Set Route} (select : t.Selects offered) :
    t.Selects {x | x ∈ t.routes} where
  suits := by
    intro x member
    obtain ⟨p, held⟩ := mem_routes_iff.1 member
    exact select.suits x ((select.mem_iff p x).1 held).1.1
  mem_iff := by
    have within : {x | x ∈ t.routes} ⊆ offered := by
      intro x member
      obtain ⟨p, held⟩ := mem_routes_iff.1 member
      exact ((select.mem_iff p x).1 held).1.1
    intro p x
    constructor
    · intro held
      exact RibKind.best_of_subset within ((select.mem_iff p x).1 held) (mem_routes_iff.2 ⟨p, held⟩)
    · intro best
      obtain ⟨q, held⟩ := mem_routes_iff.1 best.1.1
      have place : x.network = q := ((select.mem_iff q x).1 held).1.2.2
      rwa [← best.1.2.2, place]

theorem Weighs.drawsFrom {offered : Set Route} (weighs : t.Weighs k offered)
    (suits : ∀ x ∈ pool, k.Suits x) (within : ∀ x ∈ offered, x ∈ pool) : t.DrawsFrom k pool :=
  ⟨weighs.kind, suits, offered, within, weighs.selects⟩

namespace DrawsFrom

theorem empty (suits : ∀ x ∈ pool, k.Suits x) : (Rib.empty k).DrawsFrom k pool :=
  ⟨rfl, suits, ∅, Set.empty_subset _, Selects.empty k⟩

theorem mem_of_held (draws : t.DrawsFrom k pool) (held : x ∈ t.held p) : x ∈ pool := by
  obtain ⟨offered, within, select⟩ := draws.selects
  exact within ((select.mem_iff p x).1 held).1.1

theorem mem (draws : t.DrawsFrom k pool) (member : x ∈ t.routes) : x ∈ pool := by
  obtain ⟨p, held⟩ := mem_routes_iff.1 member
  exact draws.mem_of_held held

theorem network_eq (draws : t.DrawsFrom k pool) (held : x ∈ t.held p) : x.network = p := by
  obtain ⟨offered, within, select⟩ := draws.selects
  exact ((select.mem_iff p x).1 held).1.2.2

theorem admits (draws : t.DrawsFrom k pool) (held : x ∈ t.held p) : k.Admits x := by
  obtain ⟨offered, within, select⟩ := draws.selects
  exact draws.kind ▸ ((select.mem_iff p x).1 held).1.2.1

theorem mergeAll (draws : t.DrawsFrom k pool) (drawn : ∀ x ∈ l, x ∈ pool) :
    (t.mergeAll l).1.DrawsFrom k pool := by
  obtain ⟨offered, within, select⟩ := draws.selects
  refine ⟨by rw [kind_mergeAll, draws.kind], draws.suits, offered ∪ {x | x ∈ l},
    Set.union_subset within drawn, select.mergeAll fun x member => ?_⟩
  rw [draws.kind]
  exact draws.suits x (drawn x member)

theorem absorb {other : Rib} {j : RibKind} (draws : t.DrawsFrom k pool)
    (others : other.DrawsFrom j pool) : (t.absorb other).1.DrawsFrom k pool :=
  draws.mergeAll fun _ member => others.mem member

/-- After a merge something is held where something was held before, and where candidates came. -/
theorem exists_held_mergeAll (draws : t.DrawsFrom k pool) (drawn : ∀ x ∈ l, x ∈ pool)
    (offer : x ∈ t.held p ∨ x ∈ k.candidates {x | x ∈ l} p) : ∃ y, y ∈ (t.mergeAll l).1.held p := by
  obtain ⟨offered, -, select⟩ := draws.selects
  have weighs : (t.mergeAll l).1.Weighs k (offered ∪ {x | x ∈ l}) :=
    Weighs.mergeAll ⟨draws.kind, select⟩ fun x member => draws.suits x (drawn x member)
  rcases offer with held | candidate
  · have best := draws.kind ▸ (select.mem_iff p x).1 held
    exact weighs.exists_held (RibKind.candidates_mono Set.subset_union_left best.1)
  · exact weighs.exists_held (RibKind.candidates_mono Set.subset_union_right candidate)

/-- The same where routes are staged in one table and absorbed by another. -/
theorem exists_held_staged {staging : Rib} (draws : t.DrawsFrom k pool)
    (staged : staging.DrawsFrom k pool) (drawn : ∀ x ∈ l, x ∈ pool) (other : k ≠ .main)
    (offer : x ∈ t.held p ∨ x ∈ l ∧ x.network = p) :
    ∃ y, y ∈ (t.absorb (staging.mergeAll l).1).1.held p := by
  have next := staged.mergeAll drawn
  have absorbed {x : Route} := draws.exists_held_mergeAll (x := x) (p := p) fun _ => next.mem
  rcases offer with held | ⟨arrived, place⟩
  · exact absorbed (.inl held)
  · obtain ⟨y, held⟩ := staged.exists_held_mergeAll drawn
      (.inr ⟨arrived, RibKind.admits_of_ne other, place⟩)
    exact absorbed (.inr ⟨mem_routes_iff.2 ⟨p, held⟩, RibKind.admits_of_ne other, next.network_eq held⟩)

/-- What a table holds is all that it depends on. -/
theorem restrict (draws : t.DrawsFrom k pool) (suits : ∀ x ∈ smaller, k.Suits x)
    (drawn : ∀ x ∈ t.routes, x ∈ smaller) : t.DrawsFrom k smaller := by
  obtain ⟨offered, within, select⟩ := draws.selects
  exact ⟨draws.kind, suits, _, drawn, select.own⟩

theorem routes_of_still (draws : t.DrawsFrom k pool) (other : k ≠ .bgp)
    (still : (t.mergeAll l).2 = false) : (t.mergeAll l).1.routes = t.routes := by
  obtain ⟨offered, -, select⟩ := draws.selects
  refine select.routes_of_still (fun _ _ never => ?_) still
  rw [draws.kind] at never
  exact absurd never other

theorem mergeAll_flag_iff (draws : t.DrawsFrom k pool) (drawn : ∀ x ∈ l, x ∈ pool) :
    (t.mergeAll l).2 = true ↔ (t.mergeAll l).1.held ≠ t.held := by
  obtain ⟨offered, within, select⟩ := draws.selects
  refine select.mergeAll_flag_iff fun x member => ?_
  rw [draws.kind]
  exact draws.suits x (drawn x member)

end DrawsFrom

def offeredBefore (start : Set Route) (l : Nat → List Route) (n : Nat) : Set Route :=
  start ∪ {x | ∃ m < n, x ∈ l m}

section Sequence

variable {start : Set Route} {l : Nat → List Route} {T : Nat → Rib}

theorem offeredBefore_succ (n : Nat) :
    offeredBefore start l (n + 1) = offeredBefore start l n ∪ {x | x ∈ l n} := by
  ext x
  simp only [offeredBefore, Set.mem_union, Set.mem_ofPred_eq, Nat.lt_succ_iff_lt_or_eq, or_assoc,
    or_and_right, exists_or, exists_eq_left]

theorem offeredBefore_mono {n m : Nat} (le : n ≤ m) :
    offeredBefore start l n ⊆ offeredBefore start l m := by
  rintro x (member | ⟨k, earlier, member⟩)
  · exact .inl member
  · exact .inr ⟨k, by omega, member⟩

theorem offeredBefore_subset (first : start ⊆ pool) (drawn : ∀ n, ∀ x ∈ l n, x ∈ pool)
    (n : Nat) : offeredBefore start l n ⊆ pool := by
  rintro x (member | ⟨m, -, member⟩)
  · exact first member
  · exact drawn m x member

theorem Selects.sequence (select : (T 0).Selects start)
    (step : ∀ n, T (n + 1) = ((T n).mergeAll (l n)).1)
    (suits : ∀ n, ∀ x ∈ l n, (T 0).kind.Suits x) (n : Nat) :
    (T n).kind = (T 0).kind ∧ (T n).Selects (offeredBefore start l n) := by
  induction n with
  | zero =>
    have none : offeredBefore start l 0 = start := by simp [offeredBefore]
    rw [none]
    exact ⟨rfl, select⟩
  | succ n ih =>
    obtain ⟨kind, select⟩ := ih
    rw [step, kind_mergeAll, offeredBefore_succ]
    refine ⟨kind, select.mergeAll ?_⟩
    rw [kind]
    exact suits n

/-- From some time on the best routes for a network are the best of all that is ever offered. -/
theorem eventually_best (suits : ∀ x ∈ pool, k.Suits x)
    (within : ∀ n, offeredBefore start l n ⊆ pool)
    (ties : ∀ rank, {x | x ∈ pool ∧ k.rank x = rank}.Finite) (p : Prefix) :
    ∀ᶠ n in atTop, k.best (offeredBefore start l n) p =
      k.best (⋃ n, offeredBefore start l n) p := by
  have all : ⋃ n, offeredBefore start l n ⊆ pool := Set.iUnion_subset within
  have sooner (n : Nat) : offeredBefore start l n ⊆ ⋃ n, offeredBefore start l n :=
    Set.subset_iUnion _ n
  have fits : ∀ x ∈ ⋃ n, offeredBefore start l n, k.Suits x := fun x member => suits x (all member)
  rcases Set.eq_empty_or_nonempty (k.candidates (⋃ n, offeredBefore start l n) p) with
    none | ⟨x, candidate⟩
  · refine Eventually.of_forall fun n => RibKind.best_congr ?_
    rw [none]
    exact Set.subset_eq_empty (RibKind.candidates_mono (sooner n)) none
  · obtain ⟨top, best⟩ := RibKind.exists_best fits candidate
    have arrived : ∀ᶠ n in atTop, ∀ y ∈ {x | x ∈ pool ∧ k.rank x = k.rank top},
        y ∈ ⋃ n, offeredBefore start l n → y ∈ offeredBefore start l n := by
      refine (eventually_all_finite (ties _)).2 fun y _ => ?_
      by_cases ever : y ∈ ⋃ n, offeredBefore start l n
      · obtain ⟨since, member⟩ := Set.mem_iUnion.1 ever
        exact (eventually_ge_atTop since).mono fun n le _ => offeredBefore_mono le member
      · exact Eventually.of_forall fun n member => absurd member ever
    refine arrived.mono fun n arrived => RibKind.best_eq_of_subset fits (sooner n) fun y hy => ?_
    have tied : k.rank y = k.rank top := RibKind.rank_eq_of_best fits hy best
    exact arrived y ⟨all hy.1.1, tied⟩ hy.1.1

/-- A table settles if its pool has finitely many ties. -/
theorem DrawsFrom.settles (draws : (T 0).DrawsFrom k pool)
    (step : ∀ n, T (n + 1) = ((T n).mergeAll (l n)).1)
    (drawn : ∀ n, ∀ x ∈ l n, x ∈ pool)
    (ties : ∀ rank, {x | x ∈ pool ∧ k.rank x = rank}.Finite) :
    ∃ N, ∀ n ≥ N, (T n).held = (T N).held ∧ ((T n).mergeAll (l n)).2 = false := by
  obtain ⟨start, first, select⟩ := draws.selects
  have suits : ∀ n, ∀ x ∈ l n, (T 0).kind.Suits x := by
    intro n x member
    rw [draws.kind]
    exact draws.suits x (drawn n x member)
  have sequence := select.sequence step suits
  have settled : ∀ᶠ n in atTop, ∀ p, k.best (offeredBefore start l n) p =
      k.best (⋃ n, offeredBefore start l n) p :=
    eventually_all.2 (eventually_best draws.suits (offeredBefore_subset first drawn) ties)
  obtain ⟨N, same⟩ := eventually_atTop.1 settled
  have constant : ∀ n ≥ N, (T n).held = (T N).held := by
    intro n le
    refine ((sequence n).2.held_eq_iff (sequence N).2 ?_).2 fun p => ?_
    · rw [(sequence n).1, (sequence N).1]
    · rw [(sequence n).1, draws.kind, same n le p, same N le_rfl p]
  refine ⟨N, fun n le => ⟨constant n le, ?_⟩⟩
  rw [← Bool.not_eq_true, (sequence n).2.mergeAll_flag_iff, not_not, ← step, constant n le,
    constant (n + 1) (le.trans n.le_succ)]
  rw [(sequence n).1]
  exact suits n

/-- Routes are staged in one table, and another one absorbs what is staged: both settle. -/
theorem DrawsFrom.staged_settles {S : Nat → Rib} (staged : (S 0).DrawsFrom k pool)
    (draws : (T 0).DrawsFrom k pool) (stage : ∀ n, S (n + 1) = ((S n).mergeAll (l n)).1)
    (step : ∀ n, T (n + 1) = ((T n).absorb (S (n + 1))).1) (drawn : ∀ n, ∀ x ∈ l n, x ∈ pool)
    (ties : ∀ rank, {x | x ∈ pool ∧ k.rank x = rank}.Finite) :
    ∀ᶠ n in atTop, ((S n).mergeAll (l n)).2 = false ∧ ((T n).absorb (S (n + 1))).2 = false := by
  have drawing (n : Nat) : (S n).DrawsFrom k pool := by
    induction n with
    | zero => exact staged
    | succ n ih => exact stage n ▸ ih.mergeAll (drawn n)
  obtain ⟨first, quiet⟩ := staged.settles stage drawn ties
  obtain ⟨second, still⟩ := draws.settles (l := fun n => (S (n + 1)).routes) step
    (fun n _ member => (drawing (n + 1)).mem member) ties
  filter_upwards [eventually_ge_atTop first, eventually_ge_atTop second] with n late later
  exact ⟨(quiet n late).2, (still n later).2⟩

end Sequence

end RoutePlane.Rib
