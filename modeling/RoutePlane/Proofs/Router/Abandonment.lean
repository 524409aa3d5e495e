import RoutePlane.Proofs.Rib.LongestMatch
import RoutePlane.Proofs.Router.Withdrawal

/-! What covers a next hop, and when it goes. A BGP route with an address as its next hop is installed
while another entry of the main table covers the address. The entry is looked for once, in the table
before the commit: it may go in the same commit or in a later one, if its only routes are BGP routes that
are not best ones any more and none of the best ones can be installed in their place. -/
namespace RoutePlane

namespace Rib

variable {t : Rib} {a : Address} {p : Prefix}

/-- An entry for another network holds a route, and the address is in that network. -/
def Covers (t : Rib) (a : Address) (p : Prefix) : Prop :=
  ∃ q, q ≠ p ∧ q.containsAddress a = true ∧ ∃ x, x ∈ t.held q

theorem covers_iff : t.Covers a p ↔ ∃ b ∈ t.bindings, b.1 ≠ p ∧ b.1.containsAddress a = true := by
  simp only [Covers, exists_held_iff_bindings]
  constructor
  · rintro ⟨q, other, inside, routes, bound⟩
    exact ⟨(q, routes), bound, other, inside⟩
  · rintro ⟨⟨q, routes⟩, bound, other, inside⟩
    exact ⟨q, other, inside, routes, bound⟩

instance : Decidable (t.Covers a p) := decidable_of_iff _ covers_iff.symm

/-- What a look-up finds is an entry that holds a route. -/
theorem mem_bindings_of_covering {b : Prefix × RouteSet} {block : Prefix}
    (found : (t.covering? block).filter (!·.2.isEmpty) = some b) :
    b ∈ t.bindings ∧ b.1.contains block = true := by
  obtain ⟨longest, nonempty⟩ := Option.filter_eq_some_iff.1 found
  have longest := lastCovering_eq_some_iff.1 longest
  exact ⟨List.mem_filter.2 ⟨longest.listed, nonempty⟩, longest.covers⟩

theorem covers_of_longestMatchExcluding? (found : (t.longestMatchExcluding? a p).isSome = true) :
    t.Covers a p := by
  rw [longestMatchExcluding?] at found
  split at found
  next => cases found
  next b first =>
    obtain ⟨bound, around⟩ := mem_bindings_of_covering first
    split at found
    next own =>
      obtain ⟨c, second⟩ := Option.isSome_iff_exists.1 found
      cases parent : p.parent? with
      | none =>
        rw [parent] at second
        cases second
      | some up =>
        rw [parent, Option.bind_some] at second
        obtain ⟨bound', around'⟩ := mem_bindings_of_covering second
        have shorter := Prefix.length_le_of_contains around'
        have step := Prefix.length_parent parent
        refine covers_iff.2 ⟨c, bound', ?_, Prefix.contains_host_iff.1 ?_⟩
        · rintro rfl
          omega
        · exact Prefix.contains_trans (Prefix.contains_trans around' (Prefix.parent_contains parent))
            (own ▸ around)
    next other => exact covers_iff.2 ⟨b, bound, other, Prefix.contains_host_iff.1 around⟩

end Rib

namespace Router

variable {main combined : Rib} {best : BestRoutes} {bests : List BestRoutes} {p q : Prefix}
  {pool locals : Set Route} {x y z : Route} {a : Address}

theorem covers_of_isInstallable (installable : isInstallable main x = true)
    (hop : x.nextHop = .address a) : main.Covers a x.network := by
  rw [isInstallable, hop] at installable
  exact Rib.covers_of_longestMatchExcluding? installable

/-- Every installed route was covered when it was installed. -/
theorem mem_installAll_cases (draws : main.DrawsFrom .main anyRoute)
    (held : x ∈ (installAll main bests).1.held p) :
    x ∈ main.held p ∨ ∃ best ∈ bests, x ∈ best.installable := by
  induction bests generalizing main with
  | nil => exact .inl held
  | cons first rest ih =>
    rcases ih (installBest_draws draws first) held with before | ⟨best, member, installable⟩
    · rcases (draws.retain _ _).mem_mergeAll (fun _ _ => trivial) before with old | ⟨new, -⟩
      · exact .inl (Rib.mem_of_mem_retain old)
      · exact .inr ⟨first, by simp, new⟩
    · exact .inr ⟨best, by simp [member], installable⟩

structure AreApart (bests : List BestRoutes) : Prop where
  nodup : (bests.map (·.network)).Nodup
  fits : ∀ best ∈ bests, ∀ x ∈ best.installable, x.network = best.network

theorem bestRoutes_areApart (holds : combined.DrawsFrom .bgp pool) :
    AreApart (bestRoutes main combined) where
  nodup := by
    rw [bestRoutes, List.map_map]
    refine List.pairwise_map.2 ((combined.entries.increasing.filter _).imp fun {a b} before same => ?_)
    change a.1 = b.1 at same
    rw [same, Std.ReflOrd.compare_self] at before
    cases before
  fits := by
    intro best member x installable
    obtain ⟨⟨p, routes⟩, bound, rfl⟩ := List.mem_map.1 member
    obtain ⟨rfl, -⟩ := Rib.mem_bindings_iff.1 bound
    exact holds.network_eq (List.mem_filter.1 installable).1

theorem exists_mem_bestRoutes_iff :
    (∃ best ∈ bestRoutes main combined, best.network = q) ↔ ∃ z, z ∈ combined.held q := by
  rw [Rib.exists_held_iff_bindings]
  constructor
  · rintro ⟨best, member, rfl⟩
    exact bestRoutes_network member
  · rintro ⟨routes, bound⟩
    exact ⟨_, List.mem_map.2 ⟨(q, routes), bound, rfl⟩, rfl⟩

/-- Other networks are left alone. -/
theorem held_installBest_of_ne (fits : ∀ x ∈ best.installable, x.network = best.network)
    (other : q ≠ best.network) : (installBest main best).1.held q = main.held q := by
  rw [installBest, Rib.held_mergeAll_of_ne fun x member => ?_, Rib.held_retain_of_ne other]
  rw [fits x member]
  exact other.symm

section Commits

variable (draws : main.DrawsFrom .main anyRoute)
include draws

/-- Something is held for the network of an entry after its routes are installed, if one of them enters
the table or one that was held there stays. -/
theorem exists_held_installBest_iff (fits : ∀ x ∈ best.installable, x.network = best.network) :
    (∃ y, y ∈ (installBest main best).1.held best.network) ↔
      (∃ x ∈ best.installable, RibKind.main.Admits x) ∨
        ∃ y ∈ main.held best.network, y.isBgpKind = true → y ∈ best.held := by
  have retained (y : Route) : y ∈ (main.retain best.network fun r => !r.isBgpKind ||
      best.held.contains r).1.held best.network ↔
        y ∈ main.held best.network ∧ (y.isBgpKind = true → y ∈ best.held) := by
    rw [Rib.held_retain_self, SortedSet.mem_filter, Bool.or_eq_true, Bool.not_eq_true',
      SortedSet.contains_iff, ← Bool.not_eq_true, ← imp_iff_not_or]
  constructor
  · rintro ⟨y, held⟩
    have admits := (installBest_draws draws best).admits held
    rcases (draws.retain _ _).mem_mergeAll (fun _ _ => trivial) held with old | ⟨new, -⟩
    · exact .inr ⟨y, (retained y).1 old⟩
    · exact .inl ⟨y, new, admits⟩
  · rintro (⟨x, new, admits⟩ | ⟨y, old⟩)
    · exact (draws.retain _ _).exists_held_mergeAll (fun _ _ => trivial)
        (.inr ⟨new, admits, fits x new⟩)
    · exact (draws.retain _ _).exists_held_mergeAll (fun _ _ => trivial) (.inl ((retained y).2 old))

/-- For a network without best routes nothing changes, and for any other one its entry decides. -/
theorem exists_held_installAll_iff (apart : AreApart bests) :
    (∃ y, y ∈ (installAll main bests).1.held q) ↔
      (∃ best ∈ bests, best.network = q ∧ ((∃ x ∈ best.installable, RibKind.main.Admits x) ∨
        ∃ y ∈ main.held q, y.isBgpKind = true → y ∈ best.held)) ∨
      (∀ best ∈ bests, best.network ≠ q) ∧ ∃ y, y ∈ main.held q := by
  induction bests generalizing main with
  | nil => simp [installAll]
  | cons first rest ih =>
    obtain ⟨fresh, nodup⟩ := List.nodup_cons.1 apart.nodup
    have fits := apart.fits first (by simp)
    have later := ih (installBest_draws draws first)
      ⟨nodup, fun best member => apart.fits best (by simp [member])⟩
    rw [installAll, later]
    by_cases here : first.network = q
    · subst here
      have others : ∀ best ∈ rest, best.network ≠ first.network := fun best member same =>
        fresh (List.mem_map.2 ⟨best, member, same⟩)
      rw [List.exists_mem_cons_iff, ← exists_held_installBest_iff draws fits]
      constructor
      · rintro (⟨best, member, same, -⟩ | ⟨-, held⟩)
        · exact absurd same (others best member)
        · exact .inl (.inl ⟨rfl, held⟩)
      · rintro ((⟨-, held⟩ | ⟨best, member, same, -⟩) | ⟨none, -⟩)
        · exact .inr ⟨others, held⟩
        · exact absurd same (others best member)
        · exact absurd rfl (none first (by simp))
    · rw [held_installBest_of_ne fits (Ne.symm here)]
      simp only [List.exists_mem_cons_iff, List.forall_mem_cons, here, false_and, false_or, ne_eq,
        not_false_eq_true, true_and]

end Commits

def Fills (r r' : Router) (q : Prefix) : Prop :=
  ∃ x, x ∈ RibKind.main.candidates (installs r.main r'.bgp.combined) q

/-- The commit takes all routes for the network from the main table. There are best BGP routes for it,
but none that can be installed, and none that is there already. -/
structure Abandons (r r' : Router) (q : Prefix) : Prop where
  ranked : ∃ z, z ∈ r'.bgp.combined.held q
  withdrawn : ∀ y ∈ r.main.held q, y.isBgpKind = true ∧ y ∉ r'.bgp.combined.held q
  unfilled : ¬r.Fills r' q

theorem fills_iff {r r' : Router} (holds : r'.bgp.combined.DrawsFrom .bgp pool) :
    r.Fills r' q ↔ ∃ best ∈ bestRoutes r.main r'.bgp.combined, best.network = q ∧
      ∃ x ∈ best.installable, RibKind.main.Admits x := by
  obtain ⟨-, fits⟩ : AreApart (bestRoutes r.main r'.bgp.combined) := bestRoutes_areApart holds
  constructor
  · rintro ⟨x, candidate, admits, place⟩
    obtain ⟨best, member, installable⟩ := mem_installs_iff.1 candidate
    exact ⟨best, member, (fits best member x installable).symm.trans place, x, installable, admits⟩
  · rintro ⟨best, member, place, x, installable, admits⟩
    exact ⟨x, mem_installs_iff.2 ⟨best, member, installable⟩, admits,
      (fits best member x installable).trans place⟩

/-- After a commit something is held for a network that it fills, and for one where something was held
that it does not abandon. -/
theorem exists_held_commit_iff {r r' : Router} (draws : r.main.DrawsFrom .main anyRoute)
    (holds : r'.bgp.combined.DrawsFrom .bgp pool) (step : r.Commits r') :
    (∃ y, y ∈ r'.main.held q) ↔
      r.Fills r' q ∨ (∃ y, y ∈ r.main.held q) ∧ ¬r.Abandons r' q := by
  rw [step, exists_held_installAll_iff draws (bestRoutes_areApart holds)]
  constructor
  · rintro (⟨best, member, rfl, fills | ⟨y, held, kept⟩⟩ | ⟨unranked, held⟩)
    · exact .inl ((fills_iff holds).2 ⟨best, member, rfl, fills⟩)
    · refine .inr ⟨⟨y, held⟩, fun gone => ?_⟩
      obtain ⟨bgp, outdated⟩ := gone.withdrawn y held
      exact outdated ((bestRoutes_areHeld holds member).routes ▸ kept bgp)
    · refine .inr ⟨held, fun gone => ?_⟩
      obtain ⟨best, member, place⟩ := exists_mem_bestRoutes_iff.2 gone.ranked
      exact unranked best member place
  · intro after
    by_cases filled : r.Fills r' q
    · obtain ⟨best, member, place, fills⟩ := (fills_iff holds).1 filled
      exact .inl ⟨best, member, place, .inl fills⟩
    · obtain ⟨held, stays⟩ := after.resolve_left filled
      by_cases ranked : ∃ z, z ∈ r'.bgp.combined.held q
      · obtain ⟨best, member, rfl⟩ : ∃ best ∈ bestRoutes r.main r'.bgp.combined,
            best.network = q := exists_mem_bestRoutes_iff.2 ranked
        refine .inl ⟨best, member, rfl, .inr ?_⟩
        by_contra gone
        push Not at gone
        rw [(bestRoutes_areHeld holds member).routes] at gone
        exact stays ⟨ranked, gone, filled⟩
      · refine .inr ⟨fun best member place => ranked ?_, held⟩
        exact exists_mem_bestRoutes_iff.1 ⟨best, member, place⟩

namespace CommitHistory

variable {ρ : Nat → Router} {commits j k : Nat}

def Lasts (ρ : Nat → Router) (j k : Nat) (q : Prefix) : Prop :=
  ∀ m, j ≤ m → m < k → ¬(ρ m).Abandons (ρ (m + 1)) q

/-- The network had routes in the first state, or got some with a later commit, and no commit has
abandoned it since then. -/
def Remains (ρ : Nat → Router) (j k : Nat) (q : Prefix) : Prop :=
  (∃ y, y ∈ (ρ j).main.held q) ∧ Lasts ρ j k q ∨
    ∃ i, j ≤ i ∧ i < k ∧ (ρ i).Fills (ρ (i + 1)) q ∧ Lasts ρ (i + 1) k q

theorem lasts_self : Lasts ρ k k q := fun _ le lt => absurd le (by omega)

theorem lasts_succ_iff (le : j ≤ k) :
    Lasts ρ j (k + 1) q ↔ Lasts ρ j k q ∧ ¬(ρ k).Abandons (ρ (k + 1)) q := by
  constructor
  · exact fun lasts => ⟨fun m since lt => lasts m since (by omega), lasts k le (by omega)⟩
  · rintro ⟨lasts, stays⟩ m since lt
    rcases Nat.lt_succ_iff_lt_or_eq.1 lt with earlier | rfl
    · exact lasts m since earlier
    · exact stays

variable (history : CommitHistory locals ρ commits)
include history

theorem exists_held_iff (since : j ≤ k) (le : k ≤ commits) :
    (∃ y, y ∈ (ρ k).main.held q) ↔ Remains ρ j k q := by
  induction k, since using Nat.le_induction with
  | base =>
    constructor
    · exact fun held => .inl ⟨held, lasts_self⟩
    · rintro (⟨held, -⟩ | ⟨i, later, lt, -⟩)
      · exact held
      · omega
  | succ k since ih =>
    have lt : k < commits := le
    rw [exists_held_commit_iff (history.draws lt.le) (history.holds k lt) (history.step k lt),
      ih lt.le]
    constructor
    · rintro (fills | ⟨⟨held, lasts⟩ | ⟨i, later, lt, fills, lasts⟩, stays⟩)
      · exact .inr ⟨k, since, k.lt_succ_self, fills, lasts_self⟩
      · exact .inl ⟨held, (lasts_succ_iff since).2 ⟨lasts, stays⟩⟩
      · exact .inr ⟨i, later, by omega, fills, (lasts_succ_iff lt).2 ⟨lasts, stays⟩⟩
    · rintro (⟨held, lasts⟩ | ⟨i, later, lt, fills, lasts⟩)
      · obtain ⟨lasts, stays⟩ := (lasts_succ_iff since).1 lasts
        exact .inr ⟨.inl ⟨held, lasts⟩, stays⟩
      · rcases Nat.lt_succ_iff_lt_or_eq.1 lt with earlier | rfl
        · obtain ⟨lasts, stays⟩ := (lasts_succ_iff earlier).1 lasts
          exact .inr ⟨.inr ⟨i, later, earlier, fills, lasts⟩, stays⟩
        · exact .inl fills

/-- The BGP routes of the main table have come with commits. -/
theorem exists_installs (le : k ≤ commits) (held : x ∈ (ρ k).main.held p)
    (bgp : x.isBgpKind = true) :
    ∃ j < k, x ∈ installs (ρ j).main (ρ (j + 1)).bgp.combined := by
  induction k with
  | zero =>
    have top := history.weighs.mem_iff.1 held
    rw [history.own x top.1.1] at bgp
    cases bgp
  | succ k ih =>
    have lt : k < commits := le
    rw [history.step k lt] at held
    rcases mem_installAll_cases (history.draws lt.le) held with before | new
    · obtain ⟨j, earlier, installed⟩ := ih lt.le before
      exact ⟨j, by omega, installed⟩
    · exact ⟨k, k.lt_succ_self, mem_installs_iff.2 new⟩

/-- The next hop of a BGP route was covered when the route came, and it is covered still exactly if a
network around it remains. -/
theorem covers_iff (le : k ≤ commits) (held : x ∈ (ρ k).main.held p) (bgp : x.isBgpKind = true)
    (hop : x.nextHop = .address a) :
    ∃ j < k, x ∈ installs (ρ j).main (ρ (j + 1)).bgp.combined ∧ (ρ j).main.Covers a p ∧
      ((ρ k).main.Covers a p ↔ ∃ q, q ≠ p ∧ q.containsAddress a = true ∧ Remains ρ j k q) := by
  obtain ⟨j, lt, installed⟩ := history.exists_installs le held bgp
  have place : x.network = p := (history.draws le).network_eq held
  refine ⟨j, lt, installed, place ▸ covers_of_isInstallable installed.2 hop, ?_⟩
  simp only [Rib.Covers, history.exists_held_iff lt.le le]

end CommitHistory

end Router

end RoutePlane
