import RoutePlane.Proofs.Network.History
import RoutePlane.Proofs.Rib.Resolution
import RoutePlane.Proofs.Router.StaticActivation

/-! Where the routes in tables come from. A router puts routes into its tables at a few places only, and
otherwise passes them from one table to another. So what is true of the routes at these places, in
every state of a run, is true of all that its tables ever hold. -/
namespace RoutePlane

open Fallible

namespace Rib

variable {t other : Rib} {pool : Set Route} {l : List Route} {r : Route}

def HoldsOnly (pool : Set Route) (t : Rib) : Prop := ∀ x ∈ t.routes, x ∈ pool

theorem HoldsOnly.of_held (holds : t.HoldsOnly pool) {p : Prefix} (held : r ∈ t.held p) : r ∈ pool :=
  holds r (mem_routes_iff.2 ⟨p, held⟩)

theorem holdsOnly_empty (k : RibKind) : (empty k).HoldsOnly pool :=
  fun _ member => absurd member List.not_mem_nil

namespace HoldsOnly

variable (holds : t.HoldsOnly pool)
include holds

theorem merge (member : r ∈ pool) : (t.merge r).1.HoldsOnly pool := by
  by_cases admits : t.kind.Admits r
  · intro x listed
    obtain ⟨p, held⟩ := mem_routes_iff.1 listed
    by_cases here : p = r.network
    · rw [here, held_merge_self admits] at held
      rcases mem_of_mem_offer held with rfl | before
      · exact member
      · exact holds.of_held before
    · rw [held_merge_of_ne here] at held
      exact holds.of_held held
  · rwa [merge_of_not_admits admits]

theorem mergeAll (all : ∀ x ∈ l, x ∈ pool) : (t.mergeAll l).1.HoldsOnly pool := by
  induction l generalizing t with
  | nil => exact holds
  | cons r l ih =>
    rw [mergeAll_cons]
    exact ih (holds.merge (all r List.mem_cons_self)) fun x later => all x (List.mem_cons_of_mem _ later)

theorem absorb (others : other.HoldsOnly pool) : (t.absorb other).1.HoldsOnly pool :=
  holds.mergeAll others

theorem retain (p : Prefix) (keep : Route → Bool) : (t.retain p keep).1.HoldsOnly pool := by
  intro x listed
  obtain ⟨q, held⟩ := mem_routes_iff.1 listed
  exact holds.of_held (mem_of_mem_retain held)

theorem installAll {bests : List Router.BestRoutes}
    (all : ∀ best ∈ bests, ∀ x ∈ best.installable, x ∈ pool) :
    (Router.installAll t bests).1.HoldsOnly pool := by
  induction bests generalizing t with
  | nil => exact holds
  | cons best rest ih =>
    have first : (Router.installBest t best).1.HoldsOnly pool :=
      (holds.retain _ _).mergeAll (all best List.mem_cons_self)
    exact ih first fun best later => all best (List.mem_cons_of_mem _ later)

end HoldsOnly

end Rib

namespace Router

variable {f : Fabric} {announcements : List Announcement} {routers : List Router} {r r' : Router}
  {pool : Set Route}

-- Tables are compared by what is merged into them, never by their entries.
attribute [local irreducible] Rib.mergeAll installAll bestRoutes

/-- All that a router can put into its tables itself, or gather from the others, is of the pool. What
it lets out into OSPF is not meant: that is for its neighbors. -/
structure Sources (f : Fabric) (announcements : List Announcement) (routers : List Router)
    (r : Router) (pool : Set Route) : Prop where
  connected : ∀ x ∈ r.connectedRoutes, x ∈ pool
  static : ∀ s, r.IsUsableStatic s → staticRoute s ∈ pool
  generated : ∀ g, generatedRoute g ∈ pool
  base : ∀ costs, ∀ x ∈ ({ r with ospf := { r.ospf with costs := costs } } : Router).ospfBaseRoutes,
    x ∈ pool
  learned : ∀ type x, r.Learns f routers type x → x ∈ pool
  announced : ∀ external x, r.IsAnnounced announcements external x → x ∈ pool
  originated : ∀ x, r.Originates x → x ∈ pool
  heard : ∀ external x, r.Hears f routers external x → x ∈ pool

/-- All tables, but those of the round before and that of exports, hold only routes of the pool. -/
structure HoldsOnly (pool : Set Route) (r : Router) : Prop where
  connected : r.connected.HoldsOnly pool
  interfaceStatic : r.interfaceStatic.HoldsOnly pool
  static : r.static.HoldsOnly pool
  generated : r.generated.HoldsOnly pool
  independent : r.independent.HoldsOnly pool
  main : r.main.HoldsOnly pool
  intra : r.ospf.intra.HoldsOnly pool
  inter : r.ospf.inter.HoldsOnly pool
  e1 : r.ospf.e1.HoldsOnly pool
  e2 : r.ospf.e2.HoldsOnly pool
  ospf : r.ospf.combined.HoldsOnly pool
  baseExternal : r.bgp.baseExternal.HoldsOnly pool
  baseInternal : r.bgp.baseInternal.HoldsOnly pool
  external : r.bgp.external.HoldsOnly pool
  internal : r.bgp.internal.HoldsOnly pool
  bgp : r.bgp.combined.HoldsOnly pool
  stagedIntra : r.staging.intra.HoldsOnly pool
  stagedInter : r.staging.inter.HoldsOnly pool
  stagedE1 : r.staging.e1.HoldsOnly pool
  stagedE2 : r.staging.e2.HoldsOnly pool
  stagedExternal : r.staging.external.HoldsOnly pool
  stagedInternal : r.staging.internal.HoldsOnly pool

namespace HoldsOnly

theorem fresh (c : Configuration) (vrf : String) :
    ({ configuration := c, vrf := vrf } : Router).HoldsOnly pool := by
  constructor <;> exact Rib.holdsOnly_empty _

variable (holds : r.HoldsOnly pool)
include holds

theorem initConnected (connected : ∀ x ∈ r.connectedRoutes, x ∈ pool) :
    r.initConnected.HoldsOnly pool := by
  have table := holds.connected.mergeAll connected
  exact { holds with
    connected := table
    independent := holds.independent.absorb table
    main := holds.main.absorb table }

theorem initStatic (static : ∀ s, r.IsUsableStatic s → staticRoute s ∈ pool) :
    r.initStatic.HoldsOnly pool := by
  have usable : ∀ x ∈ (r.staticRoutes.filter r.isIndependent).map staticRoute, x ∈ pool := by
    intro x member
    obtain ⟨s, listed, rfl⟩ := List.mem_map.1 member
    obtain ⟨listed, independent⟩ := List.mem_filter.1 listed
    exact static s ⟨listed, .inl independent⟩
  have table := holds.interfaceStatic.mergeAll usable
  exact { holds with
    interfaceStatic := table
    independent := holds.independent.absorb table
    main := holds.main.absorb table }

theorem initOspf (base : ∀ costs, ∀ x ∈ ({ r with
      ospf := { r.ospf with costs := costs } } : Router).ospfBaseRoutes, x ∈ pool) :
    r.initOspfCosts.initOspf.HoldsOnly pool := by
  obtain ⟨costs, effect⟩ := r.initOspfCosts_effect
  rw [effect]
  exact { holds with intra := holds.intra.mergeAll (base costs) }

theorem initBgp (announced : ∀ external x, r.IsAnnounced announcements external x → x ∈ pool)
    (done : r.initBgp announcements = .ok r') : r'.HoldsOnly pool := by
  obtain ⟨external, internal, first, second, rfl⟩ := initBgp_effect done
  exact { holds with
    baseExternal := holds.baseExternal.mergeAll fun x member => announced _ x ((first x).1 member)
    baseInternal := holds.baseInternal.mergeAll fun x member => announced _ x ((second x).1 member) }

theorem importOspfInternal : r.importOspfInternal.HoldsOnly pool :=
  have combined := (holds.ospf.absorb holds.intra).absorb holds.inter
  { holds with ospf := combined, independent := holds.independent.absorb combined }

theorem startRound : r.startRound.HoldsOnly pool :=
  { holds with
    main := (Rib.holdsOnly_empty _).absorb holds.independent
    static := Rib.holdsOnly_empty _
    generated := Rib.holdsOnly_empty _
    e1 := Rib.holdsOnly_empty _
    e2 := Rib.holdsOnly_empty _
    ospf := ((Rib.holdsOnly_empty _).absorb holds.intra).absorb holds.inter
    external := holds.baseExternal
    internal := holds.baseInternal
    bgp := Rib.holdsOnly_empty _
    stagedIntra := Rib.holdsOnly_empty _
    stagedInter := Rib.holdsOnly_empty _
    stagedE1 := Rib.holdsOnly_empty _
    stagedE2 := Rib.holdsOnly_empty _
    stagedExternal := Rib.holdsOnly_empty _
    stagedInternal := Rib.holdsOnly_empty _ }

theorem activateStatic (static : ∀ s, r.IsUsableStatic s → staticRoute s ∈ pool) :
    r.activateStatic.1.HoldsOnly pool := by
  obtain ⟨ready, usable, installed⟩ := r.activateStatic_installs
  rw [installed]
  have drawn : ∀ x ∈ ready.map staticRoute, x ∈ pool := by
    intro x member
    obtain ⟨s, listed, rfl⟩ := List.mem_map.1 member
    exact static s (usable s listed)
  exact { holds with static := holds.static.mergeAll drawn, main := holds.main.mergeAll drawn }

theorem activateGenerated (generated : ∀ g, generatedRoute g ∈ pool) :
    r.activateGenerated.1.HoldsOnly pool := by
  obtain ⟨ready, effect⟩ := r.activateGenerated_effect
  rw [effect]
  have drawn : ∀ x ∈ ready.map generatedRoute, x ∈ pool := by
    intro x member
    obtain ⟨g, -, rfl⟩ := List.mem_map.1 member
    exact generated g
  exact { holds with generated := holds.generated.mergeAll drawn, main := holds.main.mergeAll drawn }

theorem importOspfExternal : r.importOspfExternal.HoldsOnly pool :=
  have combined := (holds.ospf.absorb holds.e1).absorb holds.e2
  { holds with ospf := combined, main := holds.main.absorb combined }

theorem commitBgp : r.commitBgp.1.HoldsOnly pool := by
  have combined := (holds.bgp.absorb holds.external).absorb holds.internal
  refine { holds with bgp := combined, main := holds.main.installAll fun best listed x installable => ?_ }
  unfold bestRoutes at listed
  obtain ⟨⟨p, routes⟩, bound, rfl⟩ := List.mem_map.1 listed
  exact combined.of_held (Rib.mem_held_iff_bindings.2 ⟨routes, bound, (List.mem_filter.1 installable).1⟩)

theorem originateBgp (originated : ∀ x, r.Originates x → x ∈ pool)
    (done : r.originateBgp = .ok r') : r'.HoldsOnly pool := by
  rcases originateBgp_effect done with ⟨rfl, -⟩ | ⟨l, originates, rfl⟩
  · exact holds
  · have merged : (r.bringIn l).HoldsOnly pool :=
      { holds with external := holds.external.mergeAll fun x member => originated x ((originates x).1 member) }
    exact merged.commitBgp

theorem gatherBgp {g : Router × Bool} (heard : ∀ external x, r.Hears f routers external x → x ∈ pool)
    (done : r.gatherBgp f routers = .ok g) : g.1.HoldsOnly pool := by
  obtain ⟨arrived, rfl, external, internal⟩ := gatherBgp_ok done
  exact { holds with
    stagedExternal := holds.stagedExternal.mergeAll fun x member => heard _ x ((external x).1 member)
    stagedInternal := holds.stagedInternal.mergeAll fun x member => heard _ x ((internal x).1 member) }

theorem commitStagedBgp : r.commitStagedBgp.1.HoldsOnly pool := by
  have absorbed : r.takeStaged.HoldsOnly pool :=
    { holds with
      external := holds.external.absorb holds.stagedExternal
      internal := holds.internal.absorb holds.stagedInternal }
  exact absorbed.commitBgp

/-- Nothing gets into the tables but what the sources give. -/
theorem move (sources : r.Sources f announcements routers pool)
    (moves : Moves f announcements routers r r') : r'.HoldsOnly pool := by
  cases moves with
  | stay => exact holds
  | prepare done =>
    obtain ⟨costs, effect⟩ := r.initConnected.initStatic.initOspfCosts_effect
    have same : IsAnnounced announcements r.initConnected.initStatic.initOspfCosts.initOspf =
        r.IsAnnounced announcements := by
      rw [effect]
      exact isAnnounced_congr rfl
    have local' := ((holds.initConnected sources.connected).initStatic sources.static).initOspf
      sources.base
    exact local'.initBgp (by rw [same]; exact sources.announced) done
  | gatherOspfInternal =>
    exact { holds with
      stagedIntra := holds.stagedIntra.mergeAll fun _ arrived =>
        sources.learned _ _ (learns_of_intra arrived)
      stagedInter := holds.stagedInter.mergeAll fun _ arrived =>
        sources.learned _ _ (learns_of_inter arrived) }
  | commitOspfInternal =>
    exact { holds with
      intra := holds.intra.absorb holds.stagedIntra
      inter := holds.inter.absorb holds.stagedInter }
  | importOspfInternal => exact holds.importOspfInternal
  | startRound => exact holds.startRound
  | activateStatic => exact holds.activateStatic sources.static
  | activateGenerated => exact holds.activateGenerated sources.generated
  | initOspfExports done =>
    obtain ⟨_, -, rfl⟩ := initOspfExports_effect done
    exact { holds with }
  | gatherOspfExternal =>
    exact { holds with
      stagedE1 := holds.stagedE1.mergeAll fun _ arrived =>
        sources.learned _ _ (learns_of_external arrived)
      stagedE2 := holds.stagedE2.mergeAll fun _ arrived =>
        sources.learned _ _ (learns_of_external arrived) }
  | commitOspfExternal =>
    exact { holds with
      e1 := holds.e1.absorb holds.stagedE1
      e2 := holds.e2.absorb holds.stagedE2 }
  | importOspfExternal => exact holds.importOspfExternal
  | originateBgp done => exact holds.originateBgp sources.originated done
  | gatherBgp done => exact holds.gatherBgp sources.heard done
  | commitStagedBgp => exact holds.commitStagedBgp
  | compileForwarding => exact { holds with }

end HoldsOnly

end Router

namespace Network

variable {n : Network} {pool : Configuration × String → Set Route} {routers : List Router}

/-- If the sources of all routers give routes of the pools while all tables hold only such routes, then
the tables hold only such routes in every state of a run. -/
theorem Reaches.holdsOnly
    (sources : ∀ routers, n.HasDevices routers → (∀ r ∈ routers, r.HoldsOnly (pool r.device)) →
      ∀ r ∈ routers, r.Sources n.fabric n.announcements routers (pool r.device))
    (reached : n.Reaches routers) : ∀ r ∈ routers, r.HoldsOnly (pool r.device) := by
  obtain ⟨earlier, history⟩ := reached
  generalize same : routers :: earlier = past at history
  induction history generalizing routers earlier with
  | start =>
    cases same
    intro r member
    obtain ⟨c, -, source⟩ := List.mem_flatMap.1 member
    obtain ⟨vrf, -, rfl⟩ := List.mem_map.1 source
    exact .fresh c vrf
  | @move routers moved earlier history moves ih =>
    cases same
    intro r' member
    have before := ih earlier rfl
    obtain ⟨r, source, moves⟩ := source_of_mem moves member
    rw [moves.device_eq]
    have devices := history.hasDevices routers List.mem_cons_self
    exact (before r source).move (sources routers devices before r source) moves

end Network

end RoutePlane
