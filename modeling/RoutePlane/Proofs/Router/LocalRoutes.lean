import RoutePlane.Proofs.Network.Entries

/-! The routes that a router does not have from BGP. Before the first commit of a round the main table
holds the best of them: of the routes that stay the same in all rounds, of the static and generated ones
that the round has activated, and of the OSPF routes. -/
namespace RoutePlane

open Fallible

abbrev localPool : Set Route := {x | x.isBgpKind = false ∧ x.nonRouting = false}

theorem suits_of_ne {k : RibKind} (other : k ≠ .bgp) (pool : Set Route) : ∀ x ∈ pool, k.Suits x :=
  fun _ _ same => absurd same other

namespace Rib

variable {t : Rib} {k : RibKind} {offered more : Set Route} {p : Prefix} {x : Route}

/-- Some of the offered routes are enough, if the best ones are among them. -/
theorem Weighs.of_enough (weighs : t.Weighs k more) (fewer : offered ⊆ more)
    (enough : ∀ p, k.best more p ⊆ offered) : t.Weighs k offered := by
  refine ⟨weighs.kind, fun x member => weighs.selects.suits x (fewer member), fun p x => ?_⟩
  rw [weighs.mem_iff, weighs.kind, RibKind.best_eq_of_subset weighs.suits fewer (enough p)]

/-- A table of another kind that ranks routes like a main table holds the best routes of a main table
that were merged into both. -/
theorem Weighs.mem_routes_of_best (weighs : t.Weighs k offered)
    (ranks : k.preference = RibKind.main.preference) (own : offered ⊆ localPool)
    (fewer : offered ⊆ more) (best : x ∈ RibKind.main.best more p) (member : x ∈ offered) :
    x ∈ t.routes := by
  have admits {j : RibKind} {y : Route} (offer : y ∈ offered) : j.Admits y := by
    simp [RibKind.Admits, (own offer).2]
  refine mem_routes_iff.2 ⟨p, weighs.mem_iff.2 ⟨⟨member, admits member, best.1.2.2⟩, ?_⟩⟩
  intro y other
  rw [ranks]
  exact best.2 y ⟨fewer other.1, admits other.1, other.2.2⟩

end Rib

namespace Router

variable {r r' : Router} {f : Fabric} {routers : List Router} {announcements : List Announcement}
  {x : Route} {S G : Set Route}

-- Tables are compared by what is merged into them, never by their entries.
attribute [local irreducible] Rib.mergeAll installAll bestRoutes

structure HoldsLocal (r : Router) : Prop where
  connected : r.connected.DrawsFrom .connected localPool
  interfaceStatic : r.interfaceStatic.DrawsFrom .static localPool
  independent : r.independent.DrawsFrom .main localPool
  intra : r.ospf.intra.DrawsFrom .ospfIntra localPool
  inter : r.ospf.inter.DrawsFrom .ospfInter localPool
  e1 : r.ospf.e1.DrawsFrom .ospfE1 localPool
  e2 : r.ospf.e2.DrawsFrom .ospfE2 localPool
  combined : r.ospf.combined.DrawsFrom .ospf localPool
  stagedIntra : r.staging.intra.DrawsFrom .ospfIntra localPool
  stagedInter : r.staging.inter.DrawsFrom .ospfInter localPool
  stagedE1 : r.staging.e1.DrawsFrom .ospfE1 localPool
  stagedE2 : r.staging.e2.DrawsFrom .ospfE2 localPool

theorem empty_local {k : RibKind} (other : k ≠ .bgp) : (Rib.empty k).DrawsFrom k localPool :=
  .empty (suits_of_ne other _)

section Sources

theorem connectedRoutes_local (r : Router) : ∀ x ∈ r.connectedRoutes, x ∈ localPool := by
  intro x member
  obtain ⟨⟨name, i⟩, -, found⟩ := List.mem_filterMap.1 member
  obtain ⟨network, -, rfl⟩ := Option.map_eq_some_iff.1 found
  exact ⟨rfl, rfl⟩

theorem staticRoutes_local (ready : List StaticRoute) :
    ∀ x ∈ ready.map staticRoute, x ∈ localPool := by
  intro x member
  obtain ⟨s, -, rfl⟩ := List.mem_map.1 member
  exact ⟨rfl, rfl⟩

theorem generatedRoutes_local (ready : List GeneratedRoute) :
    ∀ x ∈ ready.map generatedRoute, x ∈ localPool := by
  intro x member
  obtain ⟨g, -, rfl⟩ := List.mem_map.1 member
  exact ⟨rfl, rfl⟩

theorem ospfBaseRoutes_local (r : Router) : ∀ x ∈ r.ospfBaseRoutes, x ∈ localPool := by
  intro x member
  obtain ⟨-, _, _, _, _, _, -, -, -, rfl⟩ := mem_ospfBaseRoutes_iff.1 member
  exact ⟨rfl, rfl⟩

theorem Learns.mem_localPool {type : Protocol} (learns : r.Learns f routers type x) : x ∈ localPool := by
  obtain ⟨data, kind⟩ := learns.kind
  refine ⟨?_, learns.nonRouting⟩
  rw [Route.isBgpKind, Route.bgp?, kind]
  rfl

end Sources

namespace HoldsLocal

theorem fresh (c : Configuration) (vrf : String) :
    ({ configuration := c, vrf := vrf } : Router).HoldsLocal := by
  constructor <;> exact empty_local (by decide)

variable (holds : r.HoldsLocal)
include holds

theorem initConnected : r.initConnected.HoldsLocal := by
  have connected := holds.connected.mergeAll r.connectedRoutes_local
  exact { holds with connected := connected, independent := holds.independent.absorb connected }

theorem initStatic : r.initStatic.HoldsLocal := by
  have static := holds.interfaceStatic.mergeAll
    (staticRoutes_local (r.staticRoutes.filter r.isIndependent))
  exact { holds with interfaceStatic := static, independent := holds.independent.absorb static }

theorem initOspf : r.initOspfCosts.initOspf.HoldsLocal := by
  obtain ⟨costs, effect⟩ := r.initOspfCosts_effect
  rw [effect]
  exact { holds with intra := holds.intra.mergeAll (ospfBaseRoutes_local _) }

theorem initBgp (done : r.initBgp announcements = .ok r') : r'.HoldsLocal := by
  obtain ⟨external, internal, -, -, rfl⟩ := initBgp_effect done
  exact { holds with }

theorem prepare (done : Schedule.prepare announcements r = .ok r') : r'.HoldsLocal :=
  holds.initConnected.initStatic.initOspf.initBgp done

theorem ospfInternal : (r.gatherOspfInternal f routers).1.commitOspfInternal.1.HoldsLocal := by
  have intra := holds.stagedIntra.mergeAll (l := r.intraArrivals f routers) fun _ arrived =>
    (learns_of_intra arrived).mem_localPool
  have inter := holds.stagedInter.mergeAll (l := r.interArrivals f routers) fun _ arrived =>
    (learns_of_inter arrived).mem_localPool
  exact { holds with
    intra := holds.intra.absorb intra
    inter := holds.inter.absorb inter
    stagedIntra := intra
    stagedInter := inter }

theorem ospfExternal : (r.gatherOspfExternal f routers).1.commitOspfExternal.1.HoldsLocal := by
  have e1 := holds.stagedE1.mergeAll (l := r.externalArrivals f routers .ospfE1) fun _ arrived =>
    (learns_of_external arrived).mem_localPool
  have e2 := holds.stagedE2.mergeAll (l := r.externalArrivals f routers .ospfE2) fun _ arrived =>
    (learns_of_external arrived).mem_localPool
  exact { holds with
    e1 := holds.e1.absorb e1
    e2 := holds.e2.absorb e2
    stagedE1 := e1
    stagedE2 := e2 }

theorem importOspfInternal : r.importOspfInternal.HoldsLocal := by
  have combined := (holds.combined.absorb holds.intra).absorb holds.inter
  exact { holds with combined := combined, independent := holds.independent.absorb combined }

theorem importOspfExternal : r.importOspfExternal.HoldsLocal :=
  { holds with combined := (holds.combined.absorb holds.e1).absorb holds.e2 }

theorem startRound : r.startRound.HoldsLocal :=
  { holds with
    e1 := empty_local (by decide)
    e2 := empty_local (by decide)
    combined := ((empty_local (by decide)).absorb holds.intra).absorb holds.inter
    stagedIntra := empty_local (by decide)
    stagedInter := empty_local (by decide)
    stagedE1 := empty_local (by decide)
    stagedE2 := empty_local (by decide) }

theorem originateBgp (done : r.originateBgp = .ok r') : r'.HoldsLocal := by
  rcases originateBgp_effect done with ⟨rfl, -⟩ | ⟨l, -, rfl⟩
  · exact holds
  · exact { holds with }

theorem bgp {g : Router × Bool} (gathered : r.gatherBgp f routers = .ok g) :
    g.1.commitStagedBgp.1.HoldsLocal := by
  obtain ⟨arrived, rfl, -⟩ := gatherBgp_ok gathered
  exact { holds with }

end HoldsLocal

/-- All that a router has without BGP: the routes of its independent, static, generated and OSPF
tables. -/
def localRoutes (r : Router) : Set Route :=
  {x | x ∈ r.independent.routes} ∪ {x | x ∈ r.static.routes} ∪ {x | x ∈ r.generated.routes} ∪
    {x | x ∈ r.ospf.combined.routes}

/-- What is in the main table of a round before external OSPF routes are: the independent routes, and
the ones that were activated. -/
structure IsActivated (r : Router) (S G : Set Route) : Prop where
  holds : r.HoldsLocal
  static : r.static.Weighs .static S
  generated : r.generated.Weighs .generated G
  main : r.main.Weighs .main ({x | x ∈ r.independent.routes} ∪ S ∪ G)
  own : S ∪ G ⊆ localPool

namespace IsActivated

theorem startRound (holds : r.HoldsLocal) : r.startRound.IsActivated ∅ ∅ := by
  refine ⟨holds.startRound, .empty .static, .empty .generated, ?_, by simp⟩
  rw [Set.union_empty, Set.union_empty]
  exact .of_empty (suits_of_ne (by decide) _)

variable (activated : r.IsActivated S G)
include activated

theorem activateStatic : ∃ S', r.activateStatic.1.IsActivated S' G := by
  obtain ⟨ready, effect⟩ := r.activateStatic_effect
  have suits {k : RibKind} (other : k ≠ .bgp) := suits_of_ne other {x | x ∈ ready.map staticRoute}
  have main := activated.main.mergeAll (suits (by decide))
  rw [Set.union_right_comm, Set.union_assoc {x | x ∈ r.independent.routes}] at main
  rw [effect]
  refine ⟨S ∪ {x | x ∈ ready.map staticRoute}, { activated.holds with },
    activated.static.mergeAll (suits (by decide)), activated.generated, main, ?_⟩
  rw [Set.union_right_comm]
  exact Set.union_subset activated.own (staticRoutes_local ready)

theorem activateGenerated : ∃ G', r.activateGenerated.1.IsActivated S G' := by
  obtain ⟨ready, effect⟩ := r.activateGenerated_effect
  have suits {k : RibKind} (other : k ≠ .bgp) :=
    suits_of_ne other {x | x ∈ ready.map generatedRoute}
  have main := activated.main.mergeAll (suits (by decide))
  rw [Set.union_assoc] at main
  rw [effect]
  refine ⟨G ∪ {x | x ∈ ready.map generatedRoute}, { activated.holds with }, activated.static,
    activated.generated.mergeAll (suits (by decide)), main, ?_⟩
  rw [← Set.union_assoc]
  exact Set.union_subset activated.own (generatedRoutes_local ready)

theorem initOspfExports (done : r.initOspfExports = .ok r') : r'.IsActivated S G := by
  obtain ⟨l, -, rfl⟩ := initOspfExports_effect done
  exact { activated with holds := { activated.holds with } }

theorem ospfExternal : (r.gatherOspfExternal f routers).1.commitOspfExternal.1.IsActivated S G :=
  { activated with holds := activated.holds.ospfExternal }

/-- The static and generated tables have the activated routes that matter to the main table. -/
theorem main_weighs : r.main.Weighs .main
    ({x | x ∈ r.independent.routes} ∪ {x | x ∈ r.static.routes} ∪ {x | x ∈ r.generated.routes}) := by
  refine activated.main.of_enough ?_ fun p x best => ?_
  · refine Set.union_subset_union (Set.union_subset_union_right _ ?_) ?_
    · exact fun x => activated.static.mem_of_routes
    · exact fun x => activated.generated.mem_of_routes
  · obtain ⟨statics, generated⟩ := Set.union_subset_iff.1 activated.own
    rcases best.1.1 with (independent | static) | generated'
    · exact .inl (.inl independent)
    · exact .inl (.inr (activated.static.mem_routes_of_best rfl statics
        (fun y member => .inl (.inr member)) best static))
    · exact .inr (activated.generated.mem_routes_of_best rfl generated
        (fun y member => .inr member) best generated')

/-- When the external OSPF routes are there too, the main table holds the best local routes. -/
theorem importOspfExternal :
    r.importOspfExternal.main.Weighs .main r.importOspfExternal.localRoutes :=
  activated.main_weighs.mergeAll (suits_of_ne (by decide) _)

/-- None of the local routes is from BGP. -/
theorem localRoutes_own : ∀ x ∈ r.importOspfExternal.localRoutes, x ∈ localPool := by
  have holds := activated.holds.importOspfExternal
  rintro x (((independent | static) | generated) | ospf)
  · exact holds.independent.mem independent
  · exact activated.own (.inl (activated.static.mem_of_routes static))
  · exact activated.own (.inr (activated.generated.mem_of_routes generated))
  · exact holds.combined.mem ospf

end IsActivated

end Router

end RoutePlane
