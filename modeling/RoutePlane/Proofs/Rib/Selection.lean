import Mathlib.Data.Set.Insert
import Mathlib.Order.WellFounded
import RoutePlane.Proofs.Order.Contents
import RoutePlane.Proofs.Rib.Rank
import RoutePlane.Rib.Basic

/-! What a table holds. A table that only ever merged routes holds for each network the merged
ones that none of the others beats, whatever their order and their repetitions, and a merge
reports a change exactly if the held routes are not what they were. -/
namespace RoutePlane

namespace RibKind

def Admits (k : RibKind) (r : Route) : Prop := ¬(k = .main ∧ r.nonRouting = true)

def candidates (k : RibKind) (offered : Set Route) (p : Prefix) : Set Route :=
  {x | x ∈ offered ∧ k.Admits x ∧ x.network = p}

/-- The candidates that no other candidate beats. -/
def best (k : RibKind) (offered : Set Route) (p : Prefix) : Set Route :=
  {x | x ∈ k.candidates offered p ∧ ∀ y ∈ k.candidates offered p, k.preference y x ≠ .lt}

variable {k : RibKind} {offered more most : Set Route} {p : Prefix} {x y r : Route}

theorem mem_candidates : x ∈ k.candidates offered p ↔ x ∈ offered ∧ k.Admits x ∧ x.network = p :=
  Iff.rfl

theorem admits_of_ne (other : k ≠ .main) : k.Admits r := fun both => other both.1

theorem candidates_mono (h : offered ⊆ more) : k.candidates offered p ⊆ k.candidates more p :=
  fun _ member => ⟨h member.1, member.2⟩

theorem best_subset : k.best offered p ⊆ offered := fun _ member => member.1.1

theorem mem_best_iff (suits : ∀ x ∈ offered, k.Suits x) :
    x ∈ k.best offered p ↔
      x ∈ k.candidates offered p ∧ ∀ y ∈ k.candidates offered p, k.rank x ≤ k.rank y := by
  refine and_congr_right fun member => forall₂_congr fun y other => ?_
  rw [Ne, preference_lt_iff (suits y other.1) (suits x member.1), not_lt]

theorem best_congr (same : k.candidates offered p = k.candidates more p) :
    k.best offered p = k.best more p := by
  rw [best, best, same]

/-- A route that is no candidate for a network does not matter there. -/
theorem candidates_insert_of_not (h : ¬(k.Admits r ∧ r.network = p)) :
    k.candidates (insert r offered) p = k.candidates offered p := by
  ext x
  simp only [mem_candidates, Set.mem_insert_iff]
  constructor
  · rintro ⟨rfl | member, rest⟩
    · exact absurd rest h
    · exact ⟨member, rest⟩
  · rintro ⟨member, rest⟩
    exact ⟨.inr member, rest⟩

theorem candidates_insert_self (h : k.Admits r) :
    k.candidates (insert r offered) r.network = insert r (k.candidates offered r.network) := by
  ext x
  simp only [mem_candidates, Set.mem_insert_iff]
  constructor
  · rintro ⟨rfl | member, rest⟩
    · exact .inl rfl
    · exact .inr ⟨member, rest⟩
  · rintro (rfl | ⟨member, rest⟩)
    · exact ⟨.inl rfl, h, rfl⟩
    · exact ⟨.inr member, rest⟩

/-- Ranks have no endless descent, so among candidates there is a best one. -/
theorem exists_best (suits : ∀ x ∈ offered, k.Suits x) (member : x ∈ k.candidates offered p) :
    ∃ y, y ∈ k.best offered p := by
  obtain ⟨y, candidate, least⟩ := (InvImage.wf k.rank wellFounded_lt).has_min
    (k.candidates offered p) ⟨x, member⟩
  exact ⟨y, (mem_best_iff suits).2 ⟨candidate, fun z other => not_lt.1 (least z other)⟩⟩

/-- With a best route at hand, one more candidate has to be compared with that route only. -/
theorem mem_best_insert_iff (suits : ∀ x ∈ offered, k.Suits x) (own : k.Suits r) (h : k.Admits r)
    (top : y ∈ k.best offered r.network) :
    x ∈ k.best (insert r offered) r.network ↔
      (x = r ∨ x ∈ k.candidates offered r.network) ∧ k.rank x ≤ k.rank r ∧ k.rank x ≤ k.rank y := by
  have all : ∀ z ∈ insert r offered, k.Suits z := by
    rintro z (rfl | member)
    · exact own
    · exact suits z member
  have least := (mem_best_iff suits).1 top
  rw [mem_best_iff all, candidates_insert_self h, Set.mem_insert_iff]
  refine and_congr_right fun _ => ⟨fun le => ⟨le r (.inl rfl), le y (.inr least.1)⟩, ?_⟩
  rintro ⟨first, second⟩ z (rfl | other)
  · exact first
  · exact second.trans (least.2 z other)

theorem mem_best_iff_of_best (suits : ∀ x ∈ offered, k.Suits x) (top : y ∈ k.best offered p) :
    x ∈ k.best offered p ↔ x ∈ k.candidates offered p ∧ k.rank x ≤ k.rank y := by
  have least := (mem_best_iff suits).1 top
  rw [mem_best_iff suits]
  exact and_congr_right fun _ =>
    ⟨fun le => le y least.1, fun le z other => le.trans (least.2 z other)⟩

theorem best_insert_of_none (own : k.Suits r) (h : k.Admits r)
    (none : k.candidates offered r.network = ∅) : k.best (insert r offered) r.network = {r} := by
  have alone : k.candidates (insert r offered) r.network = {r} := by
    rw [candidates_insert_self h, none, insert_empty_eq]
  have unbeaten : k.preference r r ≠ .lt := by
    rw [Ne, preference_lt_iff own own]
    exact lt_irrefl _
  ext x
  simp only [best, alone, Set.mem_ofPred_eq, Set.mem_singleton_iff, forall_eq]
  constructor
  · exact And.left
  · rintro rfl
    exact ⟨rfl, unbeaten⟩

section Insert

variable (suits : ∀ x ∈ offered, k.Suits x) (own : k.Suits r) (h : k.Admits r)
  (top : y ∈ k.best offered r.network)
include suits own h top

theorem best_insert_of_better (better : k.rank r < k.rank y) :
    k.best (insert r offered) r.network = {r} := by
  have least := ((mem_best_iff suits).1 top).2
  ext x
  rw [mem_best_insert_iff suits own h top, Set.mem_singleton_iff]
  constructor
  · rintro ⟨rfl | other, le, -⟩
    · rfl
    · exact absurd (better.trans_le (least x other)) le.not_gt
  · rintro rfl
    exact ⟨.inl rfl, le_rfl, better.le⟩

theorem best_insert_of_tied (tied : k.rank r = k.rank y) :
    k.best (insert r offered) r.network = insert r (k.best offered r.network) := by
  ext x
  rw [mem_best_insert_iff suits own h top, Set.mem_insert_iff, mem_best_iff_of_best suits top, tied,
    and_self]
  constructor
  · rintro ⟨rfl | other, le⟩
    · exact .inl rfl
    · exact .inr ⟨other, le⟩
  · rintro (rfl | ⟨other, le⟩)
    · exact ⟨.inl rfl, tied.le⟩
    · exact ⟨.inr other, le⟩

theorem best_insert_of_worse (worse : k.rank y < k.rank r) :
    k.best (insert r offered) r.network = k.best offered r.network := by
  ext x
  rw [mem_best_insert_iff suits own h top, mem_best_iff_of_best suits top]
  constructor
  · rintro ⟨rfl | other, -, le⟩
    · exact absurd worse le.not_gt
    · exact ⟨other, le⟩
  · rintro ⟨other, le⟩
    exact ⟨.inr other, le.trans worse.le, le⟩

end Insert

theorem rank_eq_of_best (suits : ∀ x ∈ offered, k.Suits x) (hx : x ∈ k.best offered p)
    (hy : y ∈ k.best offered p) : k.rank x = k.rank y :=
  le_antisymm (((mem_best_iff suits).1 hx).2 y hy.1) (((mem_best_iff suits).1 hy).2 x hx.1)

theorem best_of_subset (fewer : offered ⊆ more) (hx : x ∈ k.best more p) (member : x ∈ offered) :
    x ∈ k.best offered p :=
  ⟨⟨member, hx.1.2⟩, fun y other => hx.2 y (candidates_mono fewer other)⟩

/-- Routes that are not the best ones do not matter. -/
theorem best_eq_of_subset (suits : ∀ x ∈ more, k.Suits x) (fewer : offered ⊆ more)
    (enough : k.best more p ⊆ offered) : k.best offered p = k.best more p := by
  ext x
  constructor
  · intro hx
    obtain ⟨top, htop⟩ := exists_best suits (candidates_mono fewer hx.1)
    have le := ((mem_best_iff fun x h => suits x (fewer h)).1 hx).2 top ⟨enough htop, htop.1.2⟩
    exact (mem_best_iff_of_best suits htop).2 ⟨candidates_mono fewer hx.1, le⟩
  · intro hx
    exact best_of_subset fewer hx (enough hx)

/-- If more and more is offered and the best routes in the end are those of the start, then they
have been so in between. -/
theorem best_between (suits : ∀ x ∈ most, k.Suits x) (first : offered ⊆ more)
    (second : more ⊆ most) (same : k.best offered p = k.best most p) :
    k.best more p = k.best offered p := by
  have enough : k.best most p ⊆ more := same ▸ best_subset.trans first
  exact (best_eq_of_subset suits second enough).trans same.symm

end RibKind

namespace Rib

def held (t : Rib) (p : Prefix) : RouteSet := (t.entries.get? p).getD .empty

variable {t u : Rib} {offered more : Set Route} {p : Prefix} {x y r : Route} {l : List Route}

theorem mem_routes_iff : x ∈ t.routes ↔ ∃ p, x ∈ t.held p := by
  simp only [routes, SortedMap.values, List.mem_flatMap, List.mem_map, held]
  constructor
  · rintro ⟨_, ⟨⟨p, routes⟩, bound, rfl⟩, member⟩
    exact ⟨p, by rw [SortedMap.mem_toList_iff.1 bound]; exact member⟩
  · rintro ⟨p, member⟩
    cases found : t.entries.get? p with
    | none => simp [found] at member
    | some routes =>
      rw [found] at member
      exact ⟨routes, ⟨(p, routes), SortedMap.mem_toList_iff.2 found, rfl⟩, member⟩

@[simp] theorem held_empty (k : RibKind) (p : Prefix) : (empty k).held p = .empty := rfl

@[simp] theorem kind_merge (t : Rib) (r : Route) : (t.merge r).1.kind = t.kind := by
  unfold merge
  split <;> rfl

theorem merge_of_not_admits (h : ¬t.kind.Admits r) : t.merge r = (t, false) :=
  if_pos (not_not.1 h)

theorem held_merge_self (h : t.kind.Admits r) :
    (t.merge r).1.held r.network = (offer t.kind r (t.held r.network)).1 := by
  rw [merge, if_neg h]
  simp [held]

theorem held_merge_of_ne (ne : p ≠ r.network) : (t.merge r).1.held p = t.held p := by
  rw [merge]
  split
  · rfl
  · simp [held, SortedMap.get?_insert_of_ne _ _ ne]

theorem merge_flag (h : t.kind.Admits r) :
    (t.merge r).2 = (offer t.kind r (t.held r.network)).2 := by
  rw [merge, if_neg h]
  rfl

/-- The held routes are the best of those that were offered, all of which suit the table. -/
structure Selects (t : Rib) (offered : Set Route) : Prop where
  suits : ∀ x ∈ offered, t.kind.Suits x
  mem_iff : ∀ p x, x ∈ t.held p ↔ x ∈ t.kind.best offered p

theorem Selects.empty (k : RibKind) : (Rib.empty k).Selects ∅ where
  suits := by simp
  mem_iff := by
    intro p x
    simp [RibKind.best, RibKind.candidates]

/-- Without a held route nothing was offered for the network. -/
theorem Selects.no_candidates (select : t.Selects offered) (none : (t.held p).first? = none) :
    t.kind.candidates offered p = ∅ := by
  refine Set.eq_empty_of_forall_notMem fun x member => ?_
  obtain ⟨y, best⟩ := RibKind.exists_best select.suits member
  exact SortedSet.first?_eq_none_iff.1 none y ((select.mem_iff p y).2 best)

/-- What `offer` makes of the best routes are the best ones among one candidate more. -/
theorem Selects.mem_offer_iff (select : t.Selects offered) (suits : t.kind.Suits r)
    (admits : t.kind.Admits r) :
    x ∈ (offer t.kind r (t.held r.network)).1 ↔ x ∈ t.kind.best (insert r offered) r.network := by
  cases first : (t.held r.network).first? with
  | none =>
    rw [RibKind.best_insert_of_none suits admits (select.no_candidates first)]
    simp [offer, first]
  | some current =>
    have top : current ∈ t.kind.best offered r.network :=
      (select.mem_iff _ _).1 (SortedSet.mem_of_first? first)
    have order := RibKind.preference_compares suits (select.suits _ (RibKind.best_subset top))
    simp only [offer, first]
    cases outcome : t.kind.preference r current with
    | lt =>
      have better : t.kind.rank r < t.kind.rank current := order.eq_lt.1 outcome
      rw [RibKind.best_insert_of_better select.suits suits admits top better]
      simp
    | eq =>
      have tied : t.kind.rank r = t.kind.rank current := order.eq_eq.1 outcome
      rw [RibKind.best_insert_of_tied select.suits suits admits top tied, SortedSet.mem_insert,
        select.mem_iff, Set.mem_insert_iff]
    | gt =>
      have worse : t.kind.rank current < t.kind.rank r := order.eq_gt.1 outcome
      rw [RibKind.best_insert_of_worse select.suits suits admits top worse, select.mem_iff]

/-- One merge more. -/
theorem Selects.merge (select : t.Selects offered) (suits : t.kind.Suits r) :
    (t.merge r).1.Selects (insert r offered) where
  suits := by
    rw [kind_merge]
    rintro x (rfl | member)
    · exact suits
    · exact select.suits x member
  mem_iff := by
    intro p x
    rw [kind_merge]
    by_cases here : t.kind.Admits r ∧ r.network = p
    · obtain ⟨admits, rfl⟩ := here
      rw [held_merge_self admits]
      exact select.mem_offer_iff suits admits
    · have unchanged : (t.merge r).1.held p = t.held p := by
        by_cases admits : t.kind.Admits r
        · exact held_merge_of_ne fun same => here ⟨admits, same.symm⟩
        · rw [merge_of_not_admits admits]
      rw [unchanged, select.mem_iff, RibKind.best_congr (RibKind.candidates_insert_of_not here)]

end Rib

end RoutePlane
