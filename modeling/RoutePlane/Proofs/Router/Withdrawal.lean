import RoutePlane.Proofs.Router.Installation

/-! What commits take from a main table for good. A route that does not come from BGP stays for as long
as no commit installs a route that the table prefers to it. A commit merges nothing but BGP routes, so
what has gone does not come back when the route that displaced it is withdrawn. -/
namespace RoutePlane

namespace Rib

variable {t : Rib} {k : RibKind} {pool : Set Route} {p q : Prefix} {keep : Route → Bool}
  {x y : Route} {l : List Route}

theorem mem_retain_of_keep (kept : keep y = true) :
    y ∈ (t.retain p keep).1.held q ↔ y ∈ t.held q := by
  refine ⟨mem_of_mem_retain, fun held => ?_⟩
  by_cases here : q = p
  · subst here
    rw [held_retain_self, SortedSet.mem_filter]
    exact ⟨held, kept⟩
  · rwa [held_retain_of_ne here]

/-- A held route that is not merged again stays exactly if none of the merged ones beats it. -/
theorem DrawsFrom.mem_mergeAll_iff (draws : t.DrawsFrom k pool) (drawn : ∀ x ∈ l, x ∈ pool)
    (other : y ∉ l) : y ∈ (t.mergeAll l).1.held p ↔
      y ∈ t.held p ∧ ∀ x ∈ k.candidates {x | x ∈ l} p, k.preference x y ≠ .lt := by
  obtain ⟨offered, within, select⟩ := draws.selects
  have suits : ∀ x ∈ l, t.kind.Suits x := fun x member => draws.kind ▸ draws.suits x (drawn x member)
  have own := select.own
  rw [(own.mergeAll suits).mem_iff, kind_mergeAll, draws.kind]
  constructor
  · rintro ⟨⟨source, admits, network⟩, top⟩
    have held : y ∈ t.held p := by
      rcases source with old | new
      · obtain ⟨q, held⟩ := mem_routes_iff.1 old
        rwa [← network, draws.network_eq held]
      · exact absurd new other
    exact ⟨held, fun x member => top x (RibKind.candidates_mono Set.subset_union_right member)⟩
  · rintro ⟨held, unbeaten⟩
    have best : y ∈ k.best {x | x ∈ t.routes} p := draws.kind ▸ (own.mem_iff p y).1 held
    refine ⟨RibKind.candidates_mono Set.subset_union_left best.1, ?_⟩
    rintro x ⟨old | new, rest⟩
    · exact best.2 x ⟨old, rest⟩
    · exact unbeaten x ⟨new, rest⟩

end Rib

namespace Router

variable {main combined : Rib} {best : BestRoutes} {bests : List BestRoutes} {p : Prefix}
  {pool locals : Set Route} {x y z : Route}

def installs (main combined : Rib) : Set Route :=
  {x | x ∈ combined.routes ∧ isInstallable main x = true}

/-- Without BGP routes nothing is installed, and nothing is withdrawn. -/
theorem installAll_empty (main : Rib) :
    installAll main (bestRoutes main (.empty .bgp)) = (main, false) := rfl

theorem mem_installs_iff : x ∈ installs main combined ↔
    ∃ best ∈ bestRoutes main combined, x ∈ best.installable := by
  simp only [installs, Set.mem_ofPred_eq, Rib.mem_routes_iff, bestRoutes, List.mem_map]
  constructor
  · rintro ⟨⟨p, held⟩, covered⟩
    obtain ⟨routes, bound, member⟩ := Rib.mem_held_iff_bindings.1 held
    exact ⟨_, ⟨_, bound, rfl⟩, List.mem_filter.2 ⟨member, covered⟩⟩
  · rintro ⟨_, ⟨⟨p, routes⟩, bound, rfl⟩, member⟩
    obtain ⟨listed, covered⟩ := List.mem_filter.1 member
    exact ⟨⟨p, Rib.mem_held_iff_bindings.2 ⟨routes, bound, listed⟩⟩, covered⟩

section Commits

variable (draws : main.DrawsFrom .main anyRoute) (other : y.isBgpKind = false)
include draws other

theorem mem_installBest_iff (bgp : ∀ x ∈ best.installable, x.isBgpKind = true) :
    y ∈ (installBest main best).1.held p ↔ y ∈ main.held p ∧
      ∀ x ∈ RibKind.main.candidates {x | x ∈ best.installable} p,
        RibKind.main.preference x y ≠ .lt := by
  have absent : y ∉ best.installable := fun member => by simp [bgp y member] at other
  have kept : (!y.isBgpKind || best.held.contains y) = true := by rw [other]; rfl
  rw [installBest, (draws.retain _ _).mem_mergeAll_iff (fun _ _ => trivial) absent,
    Rib.mem_retain_of_keep kept]

theorem mem_installAll_iff (bgp : ∀ best ∈ bests, ∀ x ∈ best.installable, x.isBgpKind = true) :
    y ∈ (installAll main bests).1.held p ↔ y ∈ main.held p ∧
      ∀ best ∈ bests, ∀ x ∈ RibKind.main.candidates {x | x ∈ best.installable} p,
        RibKind.main.preference x y ≠ .lt := by
  induction bests generalizing main with
  | nil => simp [installAll]
  | cons first rest ih =>
    have later := ih (installBest_draws draws first) fun best member => bgp best (by simp [member])
    rw [installAll, later, mem_installBest_iff draws other (bgp first (by simp)), and_assoc,
      List.forall_mem_cons]

/-- A commit leaves the other routes for a network that nothing installed beats. -/
theorem mem_commit_iff (holds : combined.DrawsFrom .bgp pool) :
    y ∈ (installAll main (bestRoutes main combined)).1.held p ↔ y ∈ main.held p ∧
      ∀ x ∈ RibKind.main.candidates (installs main combined) p,
        RibKind.main.preference x y ≠ .lt := by
  rw [mem_installAll_iff draws other]
  · refine and_congr_right fun _ => ⟨fun unbeaten x candidate => ?_, fun unbeaten best member x => ?_⟩
    · obtain ⟨best, member, installable⟩ := mem_installs_iff.1 candidate.1
      exact unbeaten best member x ⟨installable, candidate.2⟩
    · rintro ⟨installable, rest⟩
      exact unbeaten x ⟨mem_installs_iff.2 ⟨best, member, installable⟩, rest⟩
  · intro best member x installable
    obtain ⟨held, -⟩ := mem_installs_iff.2 ⟨best, member, installable⟩
    exact holds.suits x (holds.mem held) rfl

end Commits

/-- The main table of the second router is that of the first one, brought up to date with the BGP
routes of the second. -/
def Commits (r r' : Router) : Prop :=
  r'.main = (installAll r.main (bestRoutes r.main r'.bgp.combined)).1

def Displaces (r r' : Router) (y : Route) : Prop :=
  ∃ x ∈ RibKind.main.candidates (installs r.main r'.bgp.combined) y.network,
    RibKind.main.preference x y = .lt

/-- If a network has no BGP route, the best of the local routes are held for it. -/
def Restores (main : Rib) (locals : Set Route) (p : Prefix) : Prop :=
  (∀ x ∈ main.held p, x.isBgpKind = false) →
    ∀ x, x ∈ main.held p ↔ x ∈ RibKind.main.best locals p

structure CommitHistory (locals : Set Route) (ρ : Nat → Router) (commits : Nat) : Prop where
  own : ∀ x ∈ locals, x.isBgpKind = false
  weighs : (ρ 0).main.Weighs .main locals
  holds : ∀ k < commits, (ρ (k + 1)).bgp.combined.DrawsFrom .bgp {x | x.isBgpKind = true}
  step : ∀ k < commits, (ρ k).Commits (ρ (k + 1))

theorem displaces_iff_of_best {r r' : Router} (hy : y ∈ RibKind.main.best locals p)
    (hz : z ∈ RibKind.main.best locals p) : r.Displaces r' y ↔ r.Displaces r' z := by
  have suits (x : Route) : RibKind.main.Suits x := fun never => by cases never
  have tied := RibKind.rank_eq_of_best (fun x _ => suits x) hy hz
  have place : y.network = z.network := hy.1.2.2.trans hz.1.2.2.symm
  simp only [Displaces, RibKind.preference_lt_iff (suits _) (suits _), tied, place]

namespace CommitHistory

variable {ρ : Nat → Router} {commits k : Nat} (history : CommitHistory locals ρ commits)

include history

theorem draws (le : k ≤ commits) : (ρ k).main.DrawsFrom .main anyRoute := by
  induction k with
  | zero => exact history.weighs.drawsFrom (fun _ _ never => by cases never) fun _ _ => trivial
  | succ k ih =>
    rw [history.step k le]
    exact installAll_draws (ih (Nat.le_of_succ_le le)) _

/-- Of the other routes the best local ones are held that no commit has displaced. -/
theorem mem_held_iff (le : k ≤ commits) (other : y.isBgpKind = false) :
    y ∈ (ρ k).main.held p ↔
      y ∈ RibKind.main.best locals p ∧ ∀ j < k, ¬(ρ j).Displaces (ρ (j + 1)) y := by
  induction k with
  | zero => simp [history.weighs.mem_iff]
  | succ k ih =>
    rw [history.step k le,
      mem_commit_iff (history.draws (Nat.le_of_succ_le le)) other (history.holds k le),
      ih (Nat.le_of_succ_le le), Nat.forall_lt_succ_right, and_assoc]
    refine and_congr_right fun best => and_congr_right fun _ => ?_
    rw [Displaces, best.1.2.2]
    push Not
    rfl

/-- What fails to be restored is lost: there are local routes for the network, and none of any kind is
held. -/
theorem not_restores_iff (le : k ≤ commits) : ¬Restores (ρ k).main locals p ↔
    (∃ y, y ∈ RibKind.main.best locals p) ∧ (ρ k).main.held p = .empty := by
  constructor
  · intro fails
    obtain ⟨unmixed, differs⟩ := Classical.not_imp.1 fails
    have held (x : Route) : x ∈ (ρ k).main.held p ↔
        x ∈ RibKind.main.best locals p ∧ ∀ j < k, ¬(ρ j).Displaces (ρ (j + 1)) x := by
      refine ⟨fun member => (history.mem_held_iff le (unmixed x member)).1 member, fun best => ?_⟩
      exact (history.mem_held_iff le (history.own x best.1.1.1)).2 best
    have lost (x : Route) : x ∉ (ρ k).main.held p := by
      -- one that is still held would vouch for all others
      intro member
      refine differs fun y => (held y).trans (and_iff_left_of_imp fun best j lt => ?_)
      obtain ⟨top, kept⟩ := (held x).1 member
      exact mt (displaces_iff_of_best best top).1 (kept j lt)
    refine ⟨?_, SortedSet.ext fun x => iff_of_false (lost x) (SortedSet.not_mem_empty x)⟩
    by_contra none
    exact differs fun x => iff_of_false (lost x) fun best => none ⟨x, best⟩
  · rintro ⟨⟨y, best⟩, none⟩ restores
    rw [Restores, none] at restores
    exact SortedSet.not_mem_empty y
      ((restores (fun x never => absurd never (SortedSet.not_mem_empty x)) y).2 best)

/-- The local routes are restored exactly if a BGP route is there instead, or no commit has displaced
them. -/
theorem restores_iff (le : k ≤ commits) : Restores (ρ k).main locals p ↔
    (∃ x ∈ (ρ k).main.held p, x.isBgpKind = true) ∨
      ∀ y ∈ RibKind.main.best locals p, ∀ j < k, ¬(ρ j).Displaces (ρ (j + 1)) y := by
  constructor
  · intro restores
    by_cases mixed : ∃ x ∈ (ρ k).main.held p, x.isBgpKind = true
    · exact .inl mixed
    · push Not at mixed
      refine .inr fun y best => ?_
      have held := (restores (fun x member => Bool.eq_false_iff.2 (mixed x member)) y).2 best
      exact ((history.mem_held_iff le (history.own y best.1.1)).1 held).2
  · rintro (⟨x, held, bgp⟩ | kept) unmixed
    · rw [unmixed x held] at bgp
      cases bgp
    · intro y
      constructor
      · intro held
        exact ((history.mem_held_iff le (unmixed y held)).1 held).1
      · intro best
        exact (history.mem_held_iff le (history.own y best.1.1)).2 ⟨best, kept y best⟩

end CommitHistory

end Router

end RoutePlane
