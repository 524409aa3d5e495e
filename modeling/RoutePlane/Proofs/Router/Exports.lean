import RoutePlane.Proofs.Router.LocalRoutes
import RoutePlane.Proofs.Router.Previous

/-! What a router exports into OSPF. In each round the export policy judges two tables: the main table
as it is before routes from outside OSPF and from BGP come in, and that of the round before. What it
lets out stays through the rest of the round, whatever displaces its sources. -/
namespace RoutePlane

open Fallible

namespace Rib

variable {t u : Rib} {k : RibKind} {offered more : Set Route} {p : Prefix}

/-- A table with more to choose from holds the same for a network exactly if it chooses nothing else. -/
theorem Weighs.held_eq_iff (weighs : t.Weighs k more) (others : u.Weighs k offered)
    (fewer : offered ⊆ more) : t.held p = u.held p ↔ ∀ x ∈ t.held p, x ∈ offered := by
  constructor
  · intro same x held
    exact (others.mem_iff.1 (same ▸ held)).1.1
  · intro chosen
    have enough : k.best more p ⊆ offered := fun x best => chosen x (weighs.mem_iff.2 best)
    refine SortedSet.ext fun x => ?_
    rw [weighs.mem_iff, others.mem_iff, RibKind.best_eq_of_subset weighs.suits fewer enough]

theorem Weighs.routes_eq (weighs : t.Weighs k offered) (others : u.Weighs k offered) :
    t.routes = u.routes := by
  refine routes_congr (bindings_eq_iff.2 (funext fun p => ?_))
  exact (weighs.held_eq_iff others subset_rfl).2 fun x held => (weighs.mem_iff.1 held).1.1

end Rib

namespace Router

variable {r r' : Router} {process : OspfProcess} {policy : String} {sources others l : List Route}
  {p : Prefix} {x source : Route} {S G : Set Route} {f : Fabric} {routers : List Router}

-- Tables are compared by what is merged into them, never by their entries.
attribute [local irreducible] Rib.mergeAll installAll bestRoutes

/-- The policy lets a route out for another one, which is not from OSPF. -/
def ExportsFor (r : Router) (process : OspfProcess) (policy : String) (source x : Route) : Prop :=
  source.protocol.isOspf = false ∧
    accepted? r.policyContext (some policy) source (r.exportDraft process source) = .ok (some x)

def exportsOf (r : Router) (process : OspfProcess) (policy : String) (sources : List Route) :
    Except NetworkError (List Route) :=
  (sources.filter (!·.protocol.isOspf)).filterMapM fun source =>
    accepted? r.policyContext (some policy) source (r.exportDraft process source)

theorem mem_exportsOf_iff (done : r.exportsOf process policy sources = .ok l) :
    x ∈ l ↔ ∃ source ∈ sources, r.ExportsFor process policy source x := by
  rw [mem_filterMapM done]
  simp only [List.mem_filter, Bool.not_eq_true', ExportsFor, and_assoc]

theorem exportsOf_append (done : r.exportsOf process policy (sources ++ others) = .ok l) :
    ∃ m n, r.exportsOf process policy sources = .ok m ∧ r.exportsOf process policy others = .ok n ∧
      l = m ++ n := by
  rw [exportsOf, List.filter_append, filterMapM_append] at done
  obtain ⟨m, first, rest⟩ := bind_eq_ok.1 done
  obtain ⟨n, second, same⟩ := bind_eq_ok.1 rest
  exact ⟨m, n, first, second, (pure_eq_ok.1 same).symm⟩

theorem ExportsFor.network_eq (lets : r.ExportsFor process policy source x) :
    x.network = source.network := by
  obtain ⟨edited, built, core⟩ := accepted_core lets.2
  have network : edited.network = some source.network := congrArg RouteDraft.network core
  exact Option.some.inj ((RouteDraft.build_eq_ok built).1.symm.trans network)

/-- What is let out has a source for its network in the table that was judged. -/
theorem exists_source {t : Rib} (draws : t.DrawsFrom .main anyRoute)
    (done : r.exportsOf process policy t.routes = .ok l) (member : x ∈ l) :
    ∃ source ∈ t.held x.network, r.ExportsFor process policy source x := by
  obtain ⟨source, listed, lets⟩ := (mem_exportsOf_iff done).1 member
  obtain ⟨q, held⟩ := Rib.mem_routes_iff.1 listed
  refine ⟨source, ?_, lets⟩
  rwa [lets.network_eq, draws.network_eq held]

/-- The main table of a router that has no routes from outside OSPF and none from BGP. -/
def ownTable (r : Router) : Rib :=
  ((Rib.empty .main).mergeAll (r.independent.routes ++ r.static.routes ++ r.generated.routes)).1

theorem ownTable_weighs (r : Router) : r.ownTable.Weighs .main
    ({x | x ∈ r.independent.routes} ∪ {x | x ∈ r.static.routes} ∪ {x | x ∈ r.generated.routes}) := by
  have parts : {x | x ∈ r.independent.routes ++ r.static.routes ++ r.generated.routes} =
      {x | x ∈ r.independent.routes} ∪ {x | x ∈ r.static.routes} ∪ {x | x ∈ r.generated.routes} := by
    ext x
    simp only [List.mem_append, Set.mem_union, Set.mem_ofPred_eq]
  rw [← parts]
  exact .of_empty (suits_of_ne (by decide) _)

theorem ownTable_draws (r : Router) : r.ownTable.DrawsFrom .main anyRoute :=
  r.ownTable_weighs.drawsFrom (fun _ _ never => by cases never) fun _ _ => trivial

theorem exists_source_of_held {own current : List Route} (main : r.main.DrawsFrom .main anyRoute)
    (first : r.exportsOf process policy r.ownTable.routes = .ok own)
    (second : r.exportsOf process policy r.main.routes = .ok current)
    (weighs : r.ospf.exports.Weighs .ospf {x | x ∈ own ++ current}) (held : x ∈ r.ospf.exports.held p) :
    ∃ source, (source ∈ r.ownTable.held p ∨ source ∈ r.main.held p) ∧
      r.ExportsFor process policy source x := by
  obtain ⟨judged, -, rfl⟩ := (weighs.mem_iff.1 held).1
  rcases List.mem_append.1 judged with judged | judged
  · obtain ⟨source, held, lets⟩ := exists_source r.ownTable_draws first judged
    exact ⟨source, .inl held, lets⟩
  · obtain ⟨source, held, lets⟩ := exists_source main second judged
    exact ⟨source, .inr held, lets⟩

theorem initOspfExports_ok (own : r.ospfProcess? = some process)
    (exporting : process.exportPolicy = some policy) : r.initOspfExports = .ok r' ↔
      ∃ l, r.exportsOf process policy (r.main.routes ++ r.previous.main.routes) = .ok l ∧
        r' = { r with ospf := { r.ospf with exports := (r.ospf.exports.mergeAll l).1 } } := by
  rw [initOspfExports, own]
  dsimp only
  rw [exporting]
  refine bind_eq_ok.trans (exists_congr fun l => and_congr_right fun _ => ?_)
  rw [pure_eq_ok, eq_comm]

/-- The export table has what the policy has let out of the own table and of the main table of the
round before. -/
def HasExported (r : Router) : Prop :=
  ∀ process policy, r.ospfProcess? = some process → process.exportPolicy = some policy →
    ∃ l, r.exportsOf process policy (r.ownTable.routes ++ r.previous.main.routes) = .ok l ∧
      r.ospf.exports = ((Rib.empty .ospf).mergeAll l).1

structure AwaitsExport (r : Router) : Prop where
  activated : ∃ S G, r.IsActivated S G
  none : r.ospf.exports = .empty .ospf

namespace AwaitsExport

theorem startRound (holds : r.HoldsLocal) : r.startRound.AwaitsExport :=
  ⟨⟨∅, ∅, .startRound holds⟩, rfl⟩

variable (awaits : r.AwaitsExport)
include awaits

theorem activateStatic : r.activateStatic.1.AwaitsExport := by
  obtain ⟨⟨S, G, activated⟩, none⟩ := awaits
  obtain ⟨S', activated⟩ := activated.activateStatic
  refine ⟨⟨S', G, activated⟩, ?_⟩
  obtain ⟨ready, effect⟩ := r.activateStatic_effect
  rw [effect]
  exact none

theorem activateGenerated : r.activateGenerated.1.AwaitsExport := by
  obtain ⟨⟨S, G, activated⟩, none⟩ := awaits
  obtain ⟨G', activated⟩ := activated.activateGenerated
  refine ⟨⟨S, G', activated⟩, ?_⟩
  obtain ⟨ready, effect⟩ := r.activateGenerated_effect
  rw [effect]
  exact none

/-- When its turn comes, the main table of the router is its own one. -/
theorem initOspfExports (done : r.initOspfExports = .ok r') : r'.HasExported := by
  obtain ⟨⟨S, G, activated⟩, none⟩ := awaits
  have same : r'.ospfProcess? = r.ospfProcess? := by
    obtain ⟨l, -, rfl⟩ := initOspfExports_effect done
    rfl
  intro process policy own exporting
  obtain ⟨l, exported, rfl⟩ := (initOspfExports_ok (same ▸ own) exporting).1 done
  rw [activated.main_weighs.routes_eq r.ownTable_weighs] at exported
  refine ⟨l, exported, ?_⟩
  dsimp only
  rw [none]

end AwaitsExport

namespace HasExported

variable (exported : r.HasExported)
include exported

-- Nothing that the policy has judged moves in the rest of a round.

theorem ospfExternal : (r.gatherOspfExternal f routers).1.commitOspfExternal.1.HasExported :=
  fun process policy runs exporting => exported process policy runs exporting

theorem importOspfExternal : r.importOspfExternal.HasExported :=
  fun process policy runs exporting => exported process policy runs exporting

theorem originateBgp (done : r.originateBgp = .ok r') : r'.HasExported := by
  rcases originateBgp_effect done with ⟨rfl, -⟩ | ⟨l, -, rfl⟩
  · exact exported
  · exact fun process policy runs exporting => exported process policy runs exporting

theorem bgp {g : Router × Bool} (gathered : r.gatherBgp f routers = .ok g) :
    g.1.commitStagedBgp.1.HasExported := by
  obtain ⟨arrived, rfl, -⟩ := gatherBgp_ok gathered
  exact fun process policy runs exporting => exported process policy runs exporting

end HasExported

end Router

end RoutePlane
