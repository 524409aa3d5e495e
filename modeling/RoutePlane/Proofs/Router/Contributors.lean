import RoutePlane.Proofs.Network.BgpHistory
import RoutePlane.Proofs.Rib.Emptied

/-! What contributes to generated routes. A generated route waits for a route inside of its network, in the
main table or in that of the round before. The main table of a router without BGP loses no network in a
round, so what has been contributed to stays contributed to. -/
namespace RoutePlane

open Fallible

namespace Rib

variable {t : Rib} {p : Prefix} {l : List Route}

/-- A merge never leaves a network without routes. -/
theorem exists_held_merge_iff {r : Route} : (∃ x, x ∈ (t.merge r).1.held p) ↔
    (∃ x, x ∈ t.held p) ∨ t.kind.Admits r ∧ r.network = p := by
  by_cases admits : t.kind.Admits r
  · by_cases here : r.network = p
    · subst here
      rw [held_merge_self admits]
      exact ⟨fun _ => .inr ⟨admits, rfl⟩, fun _ => exists_mem_offer t.kind r (t.held r.network)⟩
    · rw [held_merge_of_ne (Ne.symm here)]
      simp [here]
  · rw [merge_of_not_admits admits]
    simp [admits]

theorem exists_held_mergeAll_iff : (∃ x, x ∈ (t.mergeAll l).1.held p) ↔
    (∃ x, x ∈ t.held p) ∨ ∃ r ∈ l, t.kind.Admits r ∧ r.network = p := by
  induction l generalizing t with
  | nil => simp
  | cons r l ih =>
    rw [mergeAll_cons, ih, exists_held_merge_iff, kind_merge, or_assoc]
    simp only [List.mem_cons, exists_eq_or_imp]

def HoldsInside (t : Rib) (p : Prefix) : Prop :=
  ∃ q, p.strictlyContains q = true ∧ ∃ x, x ∈ t.held q

theorem HoldsInside.mergeAll (inside : t.HoldsInside p) (l : List Route) :
    (t.mergeAll l).1.HoldsInside p := by
  obtain ⟨q, within, some⟩ := inside
  exact ⟨q, within, exists_held_mergeAll_iff.2 (.inl some)⟩

theorem exists_mem_moreSpecific_iff : (∃ x, x ∈ t.moreSpecific p) ↔ t.HoldsInside p := by
  have listed {q : Prefix} {routes : RouteSet} :
      (q, routes) ∈ t.entries.toList ↔ t.entries.get? q = some routes := SortedMap.mem_toList_iff
  simp only [moreSpecific, List.mem_flatMap, List.mem_filter, Prod.exists, listed]
  constructor
  · rintro ⟨x, q, routes, ⟨stored, within⟩, member⟩
    refine ⟨q, within, x, ?_⟩
    rw [held, stored]
    exact member
  · rintro ⟨q, within, x, member⟩
    cases stored : t.entries.get? q with
    | none =>
      rw [held, stored] at member
      cases member
    | some routes =>
      rw [held, stored] at member
      exact ⟨x, q, routes, ⟨stored, within⟩, member⟩

end Rib

namespace Router

variable {r r' : Router} {g : GeneratedRoute} {waiting : List GeneratedRoute}
  {judged : List (GeneratedRoute × Bool)} {rounds : Nat} {active : Bool} {f : Fabric}
  {routers : List Router} {announcements : List Announcement}

-- Tables are compared by what is merged into them, never by their entries.
attribute [local irreducible] Rib.mergeAll installAll bestRoutes

def Contributes (r : Router) (p : Prefix) : Prop :=
  r.main.HoldsInside p ∨ r.previous.main.HoldsInside p

theorem exists_contributor_iff {p : Prefix} :
    (∃ x, x ∈ r.main.moreSpecific p ++ r.previous.main.moreSpecific p) ↔ r.Contributes p := by
  simp only [List.mem_append, exists_or, Rib.exists_mem_moreSpecific_iff, Contributes]

theorem contributes_of_isContributed (contributed : r.isContributed g = .ok true) :
    r.Contributes g.network := by
  rw [← exists_contributor_iff]
  refine List.exists_mem_of_ne_nil _ fun none => ?_
  rw [isContributed, none] at contributed
  cases contributed

/-- Without a policy every route inside of the network contributes. -/
theorem isContributed_of_contributes (free : g.policy = none) (contributes : r.Contributes g.network) :
    r.isContributed g = .ok true := by
  obtain ⟨x, member⟩ := exists_contributor_iff.2 contributes
  obtain ⟨first, rest, split⟩ := List.exists_cons_of_ne_nil (List.ne_nil_of_mem member)
  rw [isContributed, split, free]
  rfl

theorem mem_judged_iff (done : r.judge waiting = .ok judged) :
    (g, active) ∈ judged ↔ g ∈ waiting ∧ r.isContributed g = .ok active := by
  rw [mem_mapM done]
  constructor
  · rintro ⟨waits, listed, outcome⟩
    obtain ⟨verdict, contributed, same⟩ := bind_eq_ok.1 outcome
    cases same
    exact ⟨listed, contributed⟩
  · rintro ⟨listed, contributed⟩
    exact ⟨g, listed, bind_eq_ok.2 ⟨active, contributed, rfl⟩⟩

theorem mem_ready_iff (done : r.judge waiting = .ok judged) :
    g ∈ (judged.filter (·.2)).map (·.1) ↔ g ∈ waiting ∧ r.isContributed g = .ok true := by
  rw [← mem_judged_iff done, List.mem_map]
  constructor
  · rintro ⟨⟨g, active⟩, member, rfl⟩
    obtain ⟨member, rfl⟩ := List.mem_filter.1 member
    exact member
  · intro member
    exact ⟨(g, true), List.mem_filter.2 ⟨member, rfl⟩, rfl⟩

structure IsSupported (r : Router) : Prop where
  kind : r.generated.kind = .generated
  contributes : ∀ p, (∃ x, x ∈ r.generated.held p) → r.Contributes p

def Reinstates (r : Router) : Prop :=
  ∀ v, r.settings? = some v → ∀ g ∈ v.generatedRoutes, g.policy = none →
    r.previous.main.HoldsInside g.network → ∃ x, x ∈ r.generated.held g.network

namespace IsSupported

theorem startRound (r : Router) : r.startRound.IsSupported := by
  refine ⟨rfl, fun p some => ?_⟩
  obtain ⟨x, never⟩ := some
  cases never

variable (supported : r.IsSupported)
include supported

theorem grown (generated : r'.generated = r.generated) (previous : r'.previous = r.previous)
    (main : ∀ p, r.main.HoldsInside p → r'.main.HoldsInside p) : r'.IsSupported := by
  refine ⟨generated ▸ supported.kind, fun p some => ?_⟩
  rw [generated] at some
  rw [Contributes, previous]
  exact (supported.contributes p some).imp_left (main p)

theorem activateStatic : r.activateStatic.1.IsSupported := by
  obtain ⟨ready, effect⟩ := r.activateStatic_effect
  rw [effect]
  exact supported.grown rfl rfl fun _ inside => inside.mergeAll _

theorem installGenerated {ready : List GeneratedRoute}
    (contributes : ∀ g ∈ ready, r.Contributes g.network) : (r.installGenerated ready).1.IsSupported := by
  refine ⟨(Rib.kind_mergeAll _ _).trans supported.kind, fun p some => ?_⟩
  have before : r.Contributes p := by
    rcases Rib.exists_held_mergeAll_iff.1 some with some | ⟨x, member, -, rfl⟩
    · exact supported.contributes p some
    · obtain ⟨g, ready, rfl⟩ := List.mem_map.1 member
      exact contributes g ready
  exact before.imp_left (·.mergeAll _)

theorem activateGeneratedFrom (rounds : Nat) (waiting : List GeneratedRoute) :
    (activateGeneratedFrom rounds waiting r).1.IsSupported := by
  induction rounds generalizing waiting r with
  | zero => exact supported
  | succ rounds ih =>
    rw [Router.activateGeneratedFrom]
    cases judgement : r.judge waiting with
    | error e => exact supported
    | ok judged =>
      dsimp only
      split
      · exact supported
      · exact ih (supported.installGenerated fun g ready =>
          contributes_of_isContributed ((mem_ready_iff judgement).1 ready).2) _

theorem activateGenerated : r.activateGenerated.1.IsSupported :=
  supported.activateGeneratedFrom _ _

end IsSupported

/-- What is contributed to when the activation starts is installed by it. -/
theorem activateGeneratedFrom_installs (kind : r.generated.kind = .generated) (some : rounds ≠ 0)
    (waits : g ∈ waiting) (contributed : r.isContributed g = .ok true)
    (done : (activateGeneratedFrom rounds waiting r).2 = .ok active) :
    ∃ x, x ∈ (activateGeneratedFrom rounds waiting r).1.generated.held g.network := by
  obtain ⟨rounds, rfl⟩ := Nat.exists_eq_succ_of_ne_zero some
  rw [activateGeneratedFrom] at done ⊢
  cases judgement : r.judge waiting with
  | error e =>
    rw [judgement] at done
    cases done
  | ok judged =>
    have ready := (mem_ready_iff judgement).2 ⟨waits, contributed⟩
    dsimp only
    rw [if_neg (by rw [List.isEmpty_iff]; exact List.ne_nil_of_mem ready)]
    obtain ⟨more, effect⟩ := activateGeneratedFrom_effect rounds ((judged.filter (!·.2)).map (·.1))
      (r.installGenerated ((judged.filter (·.2)).map (·.1))).1
    rw [effect]
    have admits : r.generated.kind.Admits (generatedRoute g) :=
      RibKind.admits_of_ne (by rw [kind]; decide)
    have installed := Rib.exists_held_mergeAll_iff.2
      (.inr ⟨generatedRoute g, List.mem_map_of_mem ready, admits, rfl⟩)
    exact Rib.exists_held_mergeAll_iff.2 (.inl installed)

theorem reinstates_activateGenerated (kind : r.generated.kind = .generated)
    (done : r.activateGenerated.2 = .ok active) : r.activateGenerated.1.Reinstates := by
  obtain ⟨ready, effect⟩ := r.activateGenerated_effect
  intro v own g listed free inside
  rw [effect] at own inside
  have contributed := isContributed_of_contributes free (.inr inside : r.Contributes g.network)
  have waiting : (r.settings?.map (·.generatedRoutes)).getD [] = v.generatedRoutes := by
    have settings : r.settings? = some v := own
    rw [settings]
    rfl
  rw [activateGenerated, waiting] at done ⊢
  have some := List.ne_nil_of_mem listed
  exact activateGeneratedFrom_installs kind (mt List.length_eq_zero_iff.1 some) listed contributed done

/-- The generated routes of a round are those that routes of this round or of the one before contribute to,
and at least those without a policy that routes of the one before contribute to. -/
structure HasGenerated (r : Router) : Prop where
  supported : r.IsSupported
  reinstates : r.Reinstates

namespace HasGenerated

variable (generated : r.HasGenerated)
include generated

theorem initOspfExports (done : r.initOspfExports = .ok r') : r'.HasGenerated := by
  obtain ⟨l, -, rfl⟩ := initOspfExports_effect done
  exact ⟨generated.supported.grown rfl rfl fun _ => id, generated.reinstates⟩

theorem ospfExternal : (r.gatherOspfExternal f routers).1.commitOspfExternal.1.HasGenerated :=
  ⟨generated.supported.grown rfl rfl fun _ => id, generated.reinstates⟩

theorem importOspfExternal : r.importOspfExternal.HasGenerated :=
  ⟨generated.supported.grown rfl rfl fun _ inside => inside.mergeAll _, generated.reinstates⟩

/-- If the main table is that of the round before, its routes alone decide on a generated route without a
policy. -/
theorem exists_held_iff {v : Vrf} (same : r.main.held = r.previous.main.held)
    (own : r.settings? = some v) (listed : g ∈ v.generatedRoutes) (free : g.policy = none) :
    (∃ x, x ∈ r.generated.held g.network) ↔ r.main.HoldsInside g.network := by
  have settled (p : Prefix) : r.main.HoldsInside p ↔ r.previous.main.HoldsInside p := by
    rw [Rib.HoldsInside, Rib.HoldsInside, same]
  constructor
  · intro some
    exact (generated.supported.contributes _ some).elim id (settled _).2
  · intro inside
    exact generated.reinstates v own g listed free ((settled _).1 inside)

end HasGenerated

structure IsSilent (r : Router) : Prop where
  external : r.bgp.external.routes = []
  internal : r.bgp.internal.routes = []
  combined : r.bgp.combined.routes = []
  stagedExternal : r.staging.external.routes = []
  stagedInternal : r.staging.internal.routes = []

theorem IsFresh.isSilent (fresh : r.IsFresh) (bases : r.HasBases announcements)
    (none : r.bgpProcess? = none) : r.IsSilent := by
  have nothing {t : Rib} {external : Bool}
      (weighs : t.Weighs .bgp {x | r.IsAnnounced announcements external x}) : t.routes = [] := by
    refine List.eq_nil_iff_forall_not_mem.2 fun x member => ?_
    obtain ⟨process, own, -⟩ := weighs.mem_of_routes member
    rw [none] at own
    cases own
  refine ⟨?_, ?_, ?_, ?_, ?_⟩
  · rw [fresh.external]
    exact nothing bases.external
  · rw [fresh.internal]
    exact nothing bases.internal
  · rw [fresh.combined]
    rfl
  · rw [fresh.stagedExternal]
    rfl
  · rw [fresh.stagedInternal]
    rfl

theorem bestRoutes_eq_nil {main combined : Rib} (none : combined.routes = []) :
    bestRoutes main combined = [] := by
  rw [bestRoutes, List.map_eq_nil_iff, List.eq_nil_iff_forall_not_mem]
  rintro ⟨q, routes⟩ bound
  obtain ⟨x, held⟩ := Rib.exists_held_iff_bindings.2 ⟨routes, bound⟩
  have listed := Rib.mem_routes_iff.2 ⟨q, held⟩
  rw [none] at listed
  cases listed

theorem IsSilent.commitStagedBgp (silent : r.IsSilent) : r.commitStagedBgp.1 = r := by
  have idle (t : Rib) {u : Rib} (none : u.routes = []) : t.absorb u = (t, false) := by
    rw [Rib.absorb, none, Rib.mergeAll_nil]
  simp only [Router.commitStagedBgp, commitBgp, idle _ silent.stagedExternal,
    idle _ silent.stagedInternal, idle _ silent.external, idle _ silent.internal,
    bestRoutes_eq_nil silent.combined, installAll]

/-- A router without a process has no part in the exchange of BGP routes. -/
theorem IsSilent.bgp (silent : r.IsSilent) (none : r.bgpProcess? = none) {g : Router × Bool}
    (gathered : r.gatherBgp f routers = .ok g) : g.1.commitStagedBgp.1 = r := by
  rw [gatherBgp, none] at gathered
  cases gathered
  exact silent.commitStagedBgp

end Router

end RoutePlane
