import RoutePlane.Proofs.Rib.Settling
import RoutePlane.Router.Bgp

/-! Withdrawals from a main table. After a commit, the BGP routes that the main table holds for a
network are among the best ones for it. While the best ones stay what they are, nothing is withdrawn
any more, and a commit only merges. -/
namespace RoutePlane

namespace Rib

variable {t u : Rib} {p q : Prefix} {keep : Route → Bool} {k : RibKind} {pool : Set Route}
  {x : Route} {l : List Route}

theorem held_retain_self : (t.retain p keep).1.held p = (t.held p).filter keep := by
  rw [retain, held, held]
  cases found : t.entries.get? p with
  | none =>
    simp only [found]
    rfl
  | some routes => simp

theorem held_retain_of_ne (ne : q ≠ p) : (t.retain p keep).1.held q = t.held q := by
  rw [retain]
  cases t.entries.get? p with
  | none => rfl
  | some routes => simp [held, SortedMap.get?_insert_of_ne _ _ ne]

@[simp] theorem kind_retain : (t.retain p keep).1.kind = t.kind := by
  rw [retain]
  cases t.entries.get? p <;> rfl

theorem mem_of_mem_retain (held : x ∈ (t.retain p keep).1.held q) : x ∈ t.held q := by
  by_cases here : q = p
  · rw [here, held_retain_self, SortedSet.mem_filter] at held
    exact here ▸ held.1
  · rwa [held_retain_of_ne here] at held

theorem retain_eq_self (all : ∀ x ∈ t.held p, keep x = true) : t.retain p keep = (t, false) := by
  rw [retain]
  cases found : t.entries.get? p with
  | none => rfl
  | some routes =>
    have kept : routes.filter keep = routes := by
      apply SortedSet.filter_eq_self
      rwa [held, found] at all
    simp [kept, SortedMap.insert_eq_self found]

theorem DrawsFrom.of_subset (draws : t.DrawsFrom k pool) (kind : u.kind = t.kind)
    (less : ∀ p x, x ∈ u.held p → x ∈ t.held p) : u.DrawsFrom k pool := by
  obtain ⟨offered, within, select⟩ := draws.selects
  have best {p : Prefix} {x : Route} (held : x ∈ u.held p) : x ∈ t.kind.best offered p :=
    (select.mem_iff p x).1 (less p x held)
  have own : {x | x ∈ u.routes} ⊆ offered := by
    intro x member
    obtain ⟨p, held⟩ := mem_routes_iff.1 member
    exact (best held).1.1
  refine ⟨kind.trans draws.kind, draws.suits, {x | x ∈ u.routes}, own.trans within, ?_, ?_⟩
  · intro x member
    rw [kind]
    exact select.suits x (own member)
  · intro p x
    rw [kind]
    constructor
    · intro held
      exact RibKind.best_of_subset own (best held) (mem_routes_iff.2 ⟨p, held⟩)
    · intro top
      obtain ⟨q, held⟩ := mem_routes_iff.1 top.1.1
      rwa [← top.1.2.2, (best held).1.2.2]

theorem DrawsFrom.retain (draws : t.DrawsFrom k pool) (p : Prefix) (keep : Route → Bool) :
    (t.retain p keep).1.DrawsFrom k pool :=
  draws.of_subset kind_retain fun _ _ => mem_of_mem_retain

theorem DrawsFrom.mem_mergeAll (draws : t.DrawsFrom k pool) (drawn : ∀ x ∈ l, x ∈ pool)
    (held : x ∈ (t.mergeAll l).1.held p) : x ∈ t.held p ∨ x ∈ l ∧ x.network = p := by
  obtain ⟨offered, within, select⟩ := draws.selects
  have suits : ∀ x ∈ l, t.kind.Suits x := by
    intro x member
    rw [draws.kind]
    exact draws.suits x (drawn x member)
  obtain ⟨⟨source, -, network⟩, -⟩ := ((select.own.mergeAll suits).mem_iff p x).1 held
  rcases source with old | new
  · obtain ⟨q, found⟩ := mem_routes_iff.1 old
    left
    rwa [← network, draws.network_eq found]
  · exact .inr ⟨new, network⟩

/-- The best routes for a network take the place of the other BGP routes for it. -/
theorem DrawsFrom.installBest (draws : t.DrawsFrom .main pool) {best : Router.BestRoutes}
    (drawn : ∀ x ∈ best.installable, x ∈ pool) :
    (Router.installBest t best).1.DrawsFrom .main pool :=
  (draws.retain _ _).mergeAll drawn

theorem DrawsFrom.installAll (draws : t.DrawsFrom .main pool) {bests : List Router.BestRoutes}
    (drawn : ∀ best ∈ bests, ∀ x ∈ best.installable, x ∈ pool) :
    (Router.installAll t bests).1.DrawsFrom .main pool := by
  induction bests generalizing t with
  | nil => exact draws
  | cons best rest ih =>
    exact ih (draws.installBest (drawn best List.mem_cons_self))
      fun best later => drawn best (List.mem_cons_of_mem _ later)

end Rib

namespace Router

variable {main combined : Rib} {best : BestRoutes} {bests : List BestRoutes}
  {held : Prefix → RouteSet} {p : Prefix} {pool : Set Route} {x : Route}

def FollowsAt (main : Rib) (held : Prefix → RouteSet) (p : Prefix) : Prop :=
  ∀ x ∈ main.held p, x.isBgpKind = true → x ∈ held p

/-- The best routes for a network are those of a table, and the installable ones are among them. -/
structure AreHeld (held : Prefix → RouteSet) (best : BestRoutes) : Prop where
  routes : best.held = held best.network
  installable : ∀ x ∈ best.installable, x ∈ held x.network

abbrev anyRoute : Set Route := Set.univ

theorem bestRoutes_areHeld (draws : combined.DrawsFrom .bgp pool)
    (member : best ∈ bestRoutes main combined) : AreHeld combined.held best := by
  obtain ⟨⟨p, routes⟩, bound, rfl⟩ := List.mem_map.1 member
  obtain ⟨rfl, -⟩ := Rib.mem_bindings_iff.1 bound
  refine ⟨rfl, fun x installable => ?_⟩
  have among : x ∈ combined.held p := (List.mem_filter.1 installable).1
  rwa [draws.network_eq among]

theorem bestRoutes_network (member : best ∈ bestRoutes main combined) :
    ∃ routes, (best.network, routes) ∈ combined.bindings := by
  obtain ⟨⟨p, routes⟩, bound, rfl⟩ := List.mem_map.1 member
  exact ⟨routes, bound⟩

section Commits

variable (draws : main.DrawsFrom .main anyRoute)

include draws

theorem installBest_draws (best : BestRoutes) :
    (installBest main best).1.DrawsFrom .main anyRoute :=
  draws.installBest fun _ _ => trivial

theorem installAll_draws (bests : List BestRoutes) :
    (installAll main bests).1.DrawsFrom .main anyRoute :=
  draws.installAll fun _ _ _ _ => trivial

theorem FollowsAt.installBest (follows : FollowsAt main held p) (are : AreHeld held best) :
    FollowsAt (installBest main best).1 held p := by
  intro x member bgp
  rcases (draws.retain _ _).mem_mergeAll (fun _ _ => trivial) member with old | ⟨new, network⟩
  · exact follows x (Rib.mem_of_mem_retain old) bgp
  · exact network ▸ are.installable x new

theorem follows_installBest (are : AreHeld held best) :
    FollowsAt (installBest main best).1 held best.network := by
  intro x member bgp
  rcases (draws.retain _ _).mem_mergeAll (fun _ _ => trivial) member with old | ⟨new, network⟩
  · rw [Rib.held_retain_self, SortedSet.mem_filter, bgp, Bool.not_true, Bool.false_or,
      SortedSet.contains_iff, are.routes] at old
    exact old.2
  · exact network ▸ are.installable x new

theorem FollowsAt.installAll (follows : FollowsAt main held p)
    (are : ∀ best ∈ bests, AreHeld held best) : FollowsAt (installAll main bests).1 held p := by
  induction bests generalizing main with
  | nil => exact follows
  | cons best rest ih =>
    exact ih (installBest_draws draws best) (follows.installBest draws (are best (by simp)))
      fun best member => are best (by simp [member])

/-- After a commit the main table follows the best routes. -/
theorem follows_installAll (are : ∀ best ∈ bests, AreHeld held best) (member : best ∈ bests) :
    FollowsAt (installAll main bests).1 held best.network := by
  induction bests generalizing main with
  | nil => exact absurd member List.not_mem_nil
  | cons first rest ih =>
    have next := installBest_draws draws first
    have others : ∀ best ∈ rest, AreHeld held best := fun best later => are best (by simp [later])
    rcases List.mem_cons.1 member with rfl | later
    · have kept := (follows_installBest draws (are best (by simp))).installAll next others
      exact kept
    · exact ih next others later

/-- If the main table follows the best routes already, then a commit merges and no more. -/
theorem installAll_of_follows (are : ∀ best ∈ bests, AreHeld held best)
    (follows : ∀ best ∈ bests, FollowsAt main held best.network) :
    installAll main bests = main.mergeAll (bests.flatMap (·.installable)) := by
  induction bests generalizing main with
  | nil => rfl
  | cons best rest ih =>
    have first : installBest main best = main.mergeAll best.installable := by
      have kept : main.retain best.network (fun r => !r.isBgpKind || best.held.contains r) =
          (main, false) := by
        refine Rib.retain_eq_self fun x member => ?_
        rw [Bool.or_eq_true, Bool.not_eq_true', SortedSet.contains_iff, (are best (by simp)).routes,
          ← Bool.not_eq_true, ← imp_iff_not_or]
        exact follows best (by simp) x member
      rw [installBest, kept, Bool.false_or]
    have next := installBest_draws draws best
    have others := ih next (fun best later => are best (by simp [later])) fun other later =>
      (follows other (by simp [later])).installBest draws (are best (by simp))
    rw [installAll, others, first, List.flatMap_cons, Rib.mergeAll_append]

end Commits

/-- After a commit the main table follows what was committed, for as long as that stays. -/
theorem follows_commit {later main' : Rib} (draws : main.DrawsFrom .main anyRoute)
    (holds : combined.DrawsFrom .bgp pool) (still : later.held = combined.held)
    (member : best ∈ bestRoutes main' later) :
    FollowsAt (installAll main (bestRoutes main combined)).1 combined.held best.network := by
  obtain ⟨routes, bound⟩ := bestRoutes_network member
  rw [Rib.bindings_eq_iff.2 still] at bound
  have listed : (⟨best.network, routes, routes.toList.filter (isInstallable main)⟩ : BestRoutes) ∈
      bestRoutes main combined := List.mem_map.2 ⟨_, bound, rfl⟩
  have followed := follows_installAll draws (fun _ => bestRoutes_areHeld holds) listed
  exact followed

/-- Once the best routes stay the same, the main table settles. -/
theorem main_settles (main combined : Nat → Rib) {N : Nat}
    (draws : ∀ n, (main n).DrawsFrom .main anyRoute)
    (holds : ∀ n, (combined n).DrawsFrom .bgp pool)
    (same : ∀ n ≥ N, (combined n).held = (combined N).held)
    (step : ∀ n, main (n + 1) = (installAll (main n) (bestRoutes (main n) (combined (n + 1)))).1) :
    ∃ M, ∀ n ≥ M, (installAll (main n) (bestRoutes (main n) (combined (n + 1)))).2 = false := by
  have are (n : Nat) (le : N ≤ n) :
      ∀ best ∈ bestRoutes (main n) (combined (n + 1)), AreHeld (combined N).held best := by
    rw [← same (n + 1) (le.trans n.le_succ)]
    exact fun best member => bestRoutes_areHeld (holds (n + 1)) member
  have follows (n : Nat) (le : N ≤ n) : ∀ best ∈ bestRoutes (main (n + 1)) (combined (n + 2)),
      FollowsAt (main (n + 1)) (combined N).held best.network := by
    intro best member
    have still : (combined (n + 2)).held = (combined (n + 1)).held := by
      rw [same (n + 2) (by omega), same (n + 1) (by omega)]
    rw [step, ← same (n + 1) (by omega)]
    exact follows_commit (draws n) (holds (n + 1)) still member
  have merges (m : Nat) := installAll_of_follows (draws (N + m + 1)) (are (N + m + 1) (by omega))
    (follows (N + m) (by omega))
  -- from the second commit on nothing but held routes comes in
  have finite : {x | x ∈ (main (N + 1)).routes ∨ x ∈ (combined N).routes}.Finite :=
    (List.finite_toSet _).union (List.finite_toSet _)
  have start : (main (N + 1)).DrawsFrom .main
      {x | x ∈ (main (N + 1)).routes ∨ x ∈ (combined N).routes} :=
    (draws (N + 1)).restrict (fun _ _ never => by cases never) fun _ => .inl
  obtain ⟨M, quiet⟩ := start.settles (T := fun m => main (N + m + 1))
    (l := fun m => (bestRoutes (main (N + m + 1)) (combined (N + m + 2))).flatMap (·.installable))
    (fun m => by rw [← merges, ← step]; rfl)
    (fun m x member => by
      obtain ⟨best, listed, installable⟩ := List.mem_flatMap.1 member
      exact .inr (Rib.mem_routes_iff.2
        ⟨_, (are (N + m + 1) (by omega) best listed).installable x installable⟩))
    fun rank => finite.subset fun _ member => member.1
  refine ⟨N + M + 1, fun n le => ?_⟩
  obtain ⟨m, rfl⟩ : ∃ m, n = N + m + 1 := ⟨n - N - 1, by omega⟩
  rw [merges]
  exact (quiet m (by omega)).2

end Router

end RoutePlane
