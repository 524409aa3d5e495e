import RoutePlane.Proofs.Network.History
import RoutePlane.Proofs.Router.TypedRoutes

/-! Every table of a router has routes of its own sort only. The operations merge routes of a table's
sort into it, or copy, clear or thin out a table; so a table that was of its sort stays so. -/
namespace RoutePlane

open Fallible

namespace Rib

variable {t : Rib} {k : RibKind} {pool : Set Route}

/-- What a table of a kind keeps to: its routes come from a pool, are filed under their own networks, and
have protocols that their kinds allow; no main table has a non-routing one; and of two routes for one
network none is preferred to the other. -/
structure Keeps (t : Rib) (k : RibKind) (pool : Set Route) : Prop where
  kind : t.kind = k
  own : ∀ p, ∀ x ∈ t.held p, x ∈ pool
  filed : ∀ p, ∀ x ∈ t.held p, x.network = p
  lawful : ∀ p, ∀ x ∈ t.held p, x.kind.allows x.protocol = true
  routing : k = .main → ∀ p, ∀ x ∈ t.held p, x.nonRouting = false
  tied : ∀ p, ∀ x ∈ t.held p, ∀ y ∈ t.held p, k.preference x y = .eq

theorem DrawsFrom.keeps (draws : t.DrawsFrom k pool) (lawful : pool ⊆ lawfulRoutes) :
    t.Keeps k pool where
  kind := draws.kind
  own := fun _ _ held => draws.mem_of_held held
  filed := fun _ _ held => draws.network_eq held
  lawful := fun _ _ held => lawful (draws.mem_of_held held)
  routing := by
    intro main p x held
    have admits := draws.admits held
    rw [RibKind.Admits, not_and, Bool.not_eq_true] at admits
    exact admits main
  tied := by
    intro p x held y held'
    obtain ⟨offered, within, select⟩ := draws.selects
    rw [← draws.kind]
    have suits {x : Route} (held : x ∈ t.held p) : t.kind.Suits x :=
      draws.kind ▸ draws.suits x (draws.mem_of_held held)
    exact (RibKind.preference_eq_iff (suits held) (suits held')).2
      (RibKind.rank_eq_of_best select.suits ((select.mem_iff p x).1 held) ((select.mem_iff p y).1 held'))

end Rib

namespace Router

variable {f : Fabric} {routers : List Router} {r r' : Router} {announcements : List Announcement}
  {P Q : Rib → RibKind → Set Route → Prop}

-- Tables are compared by what is merged into them, never by their entries.
attribute [local irreducible] Rib.mergeAll installAll bestRoutes

/-- What is said of each table of a router, with its kind and with the routes that it is for. -/
structure EachTable (P : Rib → RibKind → Set Route → Prop) (r : Router) : Prop where
  connected : P r.connected .connected (plainRoutes [.connected])
  interfaceStatic : P r.interfaceStatic .static (plainRoutes [.static])
  static : P r.static .static (plainRoutes [.static])
  generated : P r.generated .generated (plainRoutes [.aggregate])
  independent : P r.independent .main lawfulRoutes
  main : P r.main .main lawfulRoutes
  intra : P r.ospf.intra .ospfIntra (ospfRoutes [.ospfIntra])
  inter : P r.ospf.inter .ospfInter (ospfRoutes [.ospfInter])
  exports : P r.ospf.exports .ospf (ospfRoutes [.ospfE1, .ospfE2])
  e1 : P r.ospf.e1 .ospfE1 (ospfRoutes [.ospfE1])
  e2 : P r.ospf.e2 .ospfE2 (ospfRoutes [.ospfE2])
  ospf : P r.ospf.combined .ospf (ospfRoutes [.ospfIntra, .ospfInter, .ospfE1, .ospfE2])
  baseExternal : P r.bgp.baseExternal .bgp (sideRoutes true)
  baseInternal : P r.bgp.baseInternal .bgp (sideRoutes false)
  external : P r.bgp.external .bgp (sideRoutes true)
  internal : P r.bgp.internal .bgp (sideRoutes false)
  bgp : P r.bgp.combined .bgp (bgpRoutesOf [.bgp, .ibgp, .aggregate])
  stagedIntra : P r.staging.intra .ospfIntra (ospfRoutes [.ospfIntra])
  stagedInter : P r.staging.inter .ospfInter (ospfRoutes [.ospfInter])
  stagedE1 : P r.staging.e1 .ospfE1 (ospfRoutes [.ospfE1])
  stagedE2 : P r.staging.e2 .ospfE2 (ospfRoutes [.ospfE2])
  stagedExternal : P r.staging.external .bgp (sideRoutes true)
  stagedInternal : P r.staging.internal .bgp (sideRoutes false)
  previousMain : P r.previous.main .main lawfulRoutes
  previousE1 : P r.previous.e1 .ospfE1 (ospfRoutes [.ospfE1])
  previousE2 : P r.previous.e2 .ospfE2 (ospfRoutes [.ospfE2])
  previousBgp : P r.previous.bgp .bgp (bgpRoutesOf [.bgp, .ibgp, .aggregate])

theorem EachTable.imp (each : r.EachTable P)
    (weaker : ∀ t k pool, pool ⊆ lawfulRoutes → P t k pool → Q t k pool) : r.EachTable Q := by
  constructor
  case independent => exact weaker _ _ _ subset_rfl each.independent
  case main => exact weaker _ _ _ subset_rfl each.main
  case previousMain => exact weaker _ _ _ subset_rfl each.previousMain
  all_goals refine weaker _ _ _ routesOf_lawful ?_
  exacts [each.connected, each.interfaceStatic, each.static, each.generated, each.intra, each.inter,
    each.exports, each.e1, each.e2, each.ospf, each.baseExternal, each.baseInternal, each.external,
    each.internal, each.bgp, each.stagedIntra, each.stagedInter, each.stagedE1, each.stagedE2,
    each.stagedExternal, each.stagedInternal, each.previousE1, each.previousE2, each.previousBgp]

abbrev IsTyped : Router → Prop := EachTable Rib.DrawsFrom

theorem side_subset (external : Bool) : sideRoutes external ⊆ bgpRoutesOf [.bgp, .ibgp, .aggregate] := by
  cases external <;> exact routesOf_mono (by simp)

namespace IsTyped

theorem fresh (c : Configuration) (vrf : String) :
    ({ configuration := c, vrf := vrf } : Router).IsTyped := by
  constructor
  case baseExternal | baseInternal | external | internal | bgp | stagedExternal | stagedInternal |
    previousBgp => exact .empty bgpRoutesOf_suits
  all_goals exact .empty (suits_of_ne (by decide) _)

variable (typed : r.IsTyped)
include typed

theorem initConnected : r.initConnected.IsTyped := by
  have connected := typed.connected.mergeAll r.connectedRoutes_typed
  have drawn : ∀ x ∈ r.initConnected.connected.routes, x ∈ lawfulRoutes :=
    fun x member => routesOf_lawful (connected.mem member)
  exact { typed with
    connected := connected
    independent := typed.independent.mergeAll drawn
    main := typed.main.mergeAll drawn }

theorem initStatic : r.initStatic.IsTyped := by
  have static := typed.interfaceStatic.mergeAll
    (staticRoutes_typed (r.staticRoutes.filter r.isIndependent))
  have drawn : ∀ x ∈ r.initStatic.interfaceStatic.routes, x ∈ lawfulRoutes :=
    fun x member => routesOf_lawful (static.mem member)
  exact { typed with
    interfaceStatic := static
    independent := typed.independent.mergeAll drawn
    main := typed.main.mergeAll drawn }

theorem initOspf : r.initOspfCosts.initOspf.IsTyped := by
  obtain ⟨costs, effect⟩ := r.initOspfCosts_effect
  rw [effect]
  exact { typed with intra := typed.intra.mergeAll (ospfBaseRoutes_typed _) }

theorem initBgp (done : r.initBgp announcements = .ok r') : r'.IsTyped := by
  obtain ⟨external, internal, first, second, rfl⟩ := initBgp_effect done
  exact { typed with
    baseExternal := typed.baseExternal.mergeAll fun x member => ((first x).1 member).typed
    baseInternal := typed.baseInternal.mergeAll fun x member => ((second x).1 member).typed }

theorem gatherOspfInternal : (r.gatherOspfInternal f routers).1.IsTyped :=
  { typed with
    stagedIntra := typed.stagedIntra.mergeAll fun _ arrived => (learns_of_intra arrived).typed rfl
    stagedInter := typed.stagedInter.mergeAll fun _ arrived => (learns_of_inter arrived).typed rfl }

theorem commitOspfInternal : r.commitOspfInternal.1.IsTyped :=
  { typed with
    intra := typed.intra.absorb typed.stagedIntra
    inter := typed.inter.absorb typed.stagedInter }

theorem absorb_internal {t : Rib}
    (draws : t.DrawsFrom .ospf (ospfRoutes [.ospfIntra, .ospfInter, .ospfE1, .ospfE2])) :
    ((t.absorb r.ospf.intra).1.absorb r.ospf.inter).1.DrawsFrom .ospf
      (ospfRoutes [.ospfIntra, .ospfInter, .ospfE1, .ospfE2]) :=
  (draws.mergeAll fun _ member => routesOf_mono (by simp) (typed.intra.mem member)).mergeAll
    fun _ member => routesOf_mono (by simp) (typed.inter.mem member)

theorem importOspfInternal : r.importOspfInternal.IsTyped :=
  have ospf := typed.absorb_internal typed.ospf
  { typed with
    ospf := ospf
    independent := typed.independent.mergeAll fun _ member => routesOf_lawful (ospf.mem member) }

theorem startRound : r.startRound.IsTyped :=
  { typed with
    previousMain := typed.main
    previousE1 := typed.e1
    previousE2 := typed.e2
    previousBgp := typed.bgp
    main := (Rib.DrawsFrom.empty (suits_of_ne (by decide) _)).absorb typed.independent
    static := .empty (suits_of_ne (by decide) _)
    generated := .empty (suits_of_ne (by decide) _)
    exports := .empty (suits_of_ne (by decide) _)
    e1 := .empty (suits_of_ne (by decide) _)
    e2 := .empty (suits_of_ne (by decide) _)
    ospf := typed.absorb_internal (.empty (suits_of_ne (by decide) _))
    external := typed.baseExternal
    internal := typed.baseInternal
    bgp := .empty bgpRoutesOf_suits
    stagedIntra := .empty (suits_of_ne (by decide) _)
    stagedInter := .empty (suits_of_ne (by decide) _)
    stagedE1 := .empty (suits_of_ne (by decide) _)
    stagedE2 := .empty (suits_of_ne (by decide) _)
    stagedExternal := .empty bgpRoutesOf_suits
    stagedInternal := .empty bgpRoutesOf_suits }

theorem activateStatic : r.activateStatic.1.IsTyped := by
  obtain ⟨ready, effect⟩ := r.activateStatic_effect
  rw [effect]
  exact { typed with
    static := typed.static.mergeAll (staticRoutes_typed ready)
    main := typed.main.mergeAll fun x member => routesOf_lawful (staticRoutes_typed ready x member) }

theorem activateGenerated : r.activateGenerated.1.IsTyped := by
  obtain ⟨ready, effect⟩ := r.activateGenerated_effect
  rw [effect]
  exact { typed with
    generated := typed.generated.mergeAll (generatedRoutes_typed ready)
    main := typed.main.mergeAll fun x member =>
      routesOf_lawful (generatedRoutes_typed ready x member) }

theorem initOspfExports (done : r.initOspfExports = .ok r') : r'.IsTyped := by
  obtain ⟨l, out, rfl⟩ := initOspfExports_effect done
  exact { typed with exports := typed.exports.mergeAll fun x member => (out x member).typed }

theorem gatherOspfExternal : (r.gatherOspfExternal f routers).1.IsTyped :=
  { typed with
    stagedE1 := typed.stagedE1.mergeAll fun _ arrived => (learns_of_external arrived).typed rfl
    stagedE2 := typed.stagedE2.mergeAll fun _ arrived => (learns_of_external arrived).typed rfl }

theorem commitOspfExternal : r.commitOspfExternal.1.IsTyped :=
  { typed with
    e1 := typed.e1.absorb typed.stagedE1
    e2 := typed.e2.absorb typed.stagedE2 }

theorem importOspfExternal : r.importOspfExternal.IsTyped :=
  have ospf := (typed.ospf.mergeAll fun _ member =>
    routesOf_mono (by simp) (typed.e1.mem member)).mergeAll fun _ member =>
      routesOf_mono (by simp) (typed.e2.mem member)
  { typed with
    ospf := ospf
    main := typed.main.mergeAll fun _ member => routesOf_lawful (ospf.mem member) }

theorem commitBgp : r.commitBgp.1.IsTyped := by
  have bgp := (typed.bgp.mergeAll fun _ member =>
    side_subset true (typed.external.mem member)).mergeAll fun _ member =>
      side_subset false (typed.internal.mem member)
  refine { typed with bgp := bgp, main := typed.main.installAll fun best listed x installable => ?_ }
  have held := (bestRoutes_areHeld bgp listed).installable x installable
  exact routesOf_lawful (bgp.mem_of_held held)

theorem originateBgp (done : r.originateBgp = .ok r') : r'.IsTyped := by
  rcases originateBgp_effect done with ⟨rfl, -⟩ | ⟨l, originates, rfl⟩
  · exact typed
  · have merged : (r.bringIn l).IsTyped :=
      { typed with external := typed.external.mergeAll fun x member => ((originates x).1 member).typed }
    exact merged.commitBgp

theorem gatherBgp {g : Router × Bool} (done : r.gatherBgp f routers = .ok g) : g.1.IsTyped := by
  obtain ⟨arrived, rfl, external, internal⟩ := gatherBgp_ok done
  exact { typed with
    stagedExternal := typed.stagedExternal.mergeAll fun x member => ((external x).1 member).typed
    stagedInternal := typed.stagedInternal.mergeAll fun x member => ((internal x).1 member).typed }

theorem commitStagedBgp : r.commitStagedBgp.1.IsTyped := by
  have absorbed : r.takeStaged.IsTyped :=
    { typed with
      external := typed.external.absorb typed.stagedExternal
      internal := typed.internal.absorb typed.stagedInternal }
  exact absorbed.commitBgp

/-- No operation puts a route into a table that it is not for. -/
theorem move (moves : Moves f announcements routers r r') : r'.IsTyped := by
  cases moves with
  | stay => exact typed
  | prepare done => exact typed.initConnected.initStatic.initOspf.initBgp done
  | gatherOspfInternal => exact typed.gatherOspfInternal
  | commitOspfInternal => exact typed.commitOspfInternal
  | importOspfInternal => exact typed.importOspfInternal
  | startRound => exact typed.startRound
  | activateStatic => exact typed.activateStatic
  | activateGenerated => exact typed.activateGenerated
  | initOspfExports done => exact typed.initOspfExports done
  | gatherOspfExternal => exact typed.gatherOspfExternal
  | commitOspfExternal => exact typed.commitOspfExternal
  | importOspfExternal => exact typed.importOspfExternal
  | originateBgp done => exact typed.originateBgp done
  | gatherBgp done => exact typed.gatherBgp done
  | commitStagedBgp => exact typed.commitStagedBgp
  | compileForwarding => exact { typed with }

end IsTyped

end Router

end RoutePlane
