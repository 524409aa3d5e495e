import RoutePlane.Proofs.Network.Displacement
import RoutePlane.Proofs.Router.Exports

/-! OSPF exports and the final main tables. The exports of the last round were taken from two tables: the
main table as the router has it by itself, and that of the round before, which is the final one again.
A route of the first that has been displaced from the final one is still exported. -/
namespace RoutePlane

open Fallible

namespace Schedule

variable {f : Fabric} {limit : Nat} {routers entry : List Router}

theorem beforeBgp_exported (start : ∀ r ∈ routers, r.HoldsLocal)
    (done : beforeBgp f limit routers = .ok entry) : ∀ r ∈ entry, r.HasExported := by
  obtain ⟨exported, converged, _, first, second, rfl⟩ := beforeBgp_ok.1 done
  have afterExports : ∀ r ∈ exported, r.HasExported :=
    beforeOspf_exported (fun r member => Router.AwaitsExport.startRound (start r member))
      (fun _ => .activateStatic) (fun _ => .activateGenerated)
      (fun _ _ awaits => awaits.initOspfExports) first
  have afterExternal : ∀ r ∈ converged, r.HasExported :=
    repeated_total_exchanges_keep afterExports (fun _ all r member => (all r member).ospfExternal) second
  intro r member
  obtain ⟨r, source, rfl⟩ := List.mem_map.1 member
  exact (afterExternal r source).importOspfExternal

theorem BgpRun.exported (run : BgpRun f entry) (start : ∀ e ∈ entry, e.HasExported) :
    ∀ r ∈ run.final, r.HasExported := by
  refine run.keeps (P := fun routers => ∀ r ∈ routers, r.HasExported) ?_ ?_ le_rfl
  · intro r member
    obtain ⟨e, source, originated⟩ := source_of_mem (mapM_eq_ok.1 run.originated) member
    exact (start e source).originateBgp originated
  · intro routers moved changed all step
    exact exchange_keeps (fun r member g gathered => (all r member).bgp gathered) step

end Schedule

namespace Network

open Schedule

variable {n : Network} {d : DataPlane}

theorem LastRound.exported (last : n.LastRound d) : ∀ r ∈ last.final, r.HasExported :=
  last.bgp.exported (beforeBgp_exported last.reached.holdsLocal last.entered)

/-- The last round has found the main table that it leaves. -/
theorem LastRound.previous_routes (last : n.LastRound d) {r : Router} (member : r ∈ last.final) :
    r.previous.main.routes = r.main.routes :=
  Rib.routes_congr (Rib.bindings_eq_iff.2 (last.main_held member).symm)

theorem LastRound.main_draws (last : n.LastRound d) {r : Router} (member : r ∈ last.final) :
    r.main.DrawsFrom .main Router.anyRoute :=
  (last.bgp.sound (beforeBgp_entry last.reached.bases last.entered) le_rfl r member).tables.main

/-- The final exports of a router with an export policy are the best of what the policy lets out for the
routes of its own table and of its final main table. For a network they are those of the final main table
alone exactly if all of them are exported for routes of it too, and so they are if it still holds the
routes of the own table. What is exported for a network has a source for that network in one of the two
tables. -/
theorem exports_of_own_and_main (done : n.compute = .ok d) :
    ∀ r ∈ d.routers, ∀ process policy, r.ospfProcess? = some process →
      process.exportPolicy = some policy → ∃ own current,
        r.exportsOf process policy r.ownTable.routes = .ok own ∧
        r.exportsOf process policy r.main.routes = .ok current ∧
        r.ospf.exports = ((Rib.empty .ospf).mergeAll (own ++ current)).1 ∧
        ∀ p, (r.ospf.exports.held p = ((Rib.empty .ospf).mergeAll current).1.held p ↔
            ∀ x ∈ r.ospf.exports.held p, x ∈ current) ∧
          ((∀ source ∈ r.ownTable.held p, source.protocol.isOspf = false → source ∈ r.main.held p) →
            r.ospf.exports.held p = ((Rib.empty .ospf).mergeAll current).1.held p) ∧
          ∀ x ∈ r.ospf.exports.held p, ∃ source, (source ∈ r.ownTable.held p ∨
            source ∈ r.main.held p) ∧ r.ExportsFor process policy source x := by
  obtain ⟨last⟩ := exists_lastRound done
  rw [last.result]
  intro r member process policy runs exporting
  obtain ⟨r, listed, rfl⟩ := List.mem_map.1 member
  change r.ospfProcess? = some process at runs
  obtain ⟨l, exported, table⟩ := last.exported r listed process policy runs exporting
  rw [last.previous_routes listed] at exported
  obtain ⟨own, current, first, second, rfl⟩ := Router.exportsOf_append exported
  refine ⟨own, current, first, second, table, fun p => ?_⟩
  have weighs : r.ospf.exports.Weighs .ospf {x | x ∈ own ++ current} :=
    table ▸ .of_empty (suits_of_ne (by decide) _)
  have same : r.ospf.exports.held p = ((Rib.empty .ospf).mergeAll current).1.held p ↔
      ∀ x ∈ r.ospf.exports.held p, x ∈ current :=
    weighs.held_eq_iff (.of_empty (suits_of_ne (by decide) _)) fun x => List.mem_append_right own
  have sources (x : Route) (held : x ∈ r.ospf.exports.held p) :=
    Router.exists_source_of_held (last.main_draws listed) first second weighs held
  refine ⟨same, fun kept => same.2 fun x held => ?_, sources⟩
  obtain ⟨source, found, lets⟩ := sources x held
  have still : source ∈ r.main.held p := found.elim (kept source · lets.1) id
  exact (Router.mem_exportsOf_iff second).2 ⟨source, Rib.mem_routes_iff.2 ⟨p, still⟩, lets⟩

/-- Some router with an export policy exports for the network, and its main table has OSPF routes at the
most for it. -/
def exportsStale (p : Prefix) (d : DataPlane) : Bool :=
  d.routers.any fun r => (r.ospfProcess?.bind (·.exportPolicy)).isSome &&
    (!(r.ospf.exports.held p).isEmpty && (r.main.held p).toList.all (·.protocol.isOspf))

theorem exists_of_exportsStale {p : Prefix} (stale : exportsStale p d = true) :
    ∃ r ∈ d.routers, ∃ process policy, r.ospfProcess? = some process ∧
      process.exportPolicy = some policy ∧ (∃ x, x ∈ r.ospf.exports.held p) ∧
        ∀ source ∈ r.main.held p, source.protocol.isOspf = true := by
  obtain ⟨r, member, stale⟩ := List.any_eq_true.1 stale
  obtain ⟨runs, stale⟩ := Bool.and_eq_true_iff.1 stale
  obtain ⟨policy, runs⟩ := Option.isSome_iff_exists.1 runs
  obtain ⟨process, runs, exporting⟩ := Option.bind_eq_some_iff.1 runs
  obtain ⟨some, outside⟩ := Bool.and_eq_true_iff.1 stale
  refine ⟨r, member, process, policy, runs, exporting, ?_, List.all_eq_true.1 outside⟩
  exact SortedSet.exists_mem_iff.2 fun none => by simp [SortedSet.isEmpty_iff.2 none] at some

/-- Two routers on a link announce their static routes to the same network. The first one prefers the
announcement of the second to its own route. -/
def rivals : Network :=
  let target := (InterfaceAddress.ofOctets 20 0 0 0 8).network
  let rival (name : String) (host : Nat) (distance : UInt32) : Configuration := ({
      hostname := name
      vrfs := .ofList [(defaultVrf, {
        staticRoutes := [{ network := target, nextHop := .discard, distance := distance }]
        ospf := some { routerId := .ofOctets host host host host, exportPolicy := some "static" } })]
      routeMaps := .ofList [("static", .ofEntries "static" [{
        sequence := 10, action := .accept, conditions := [.protocol .static], actions := []
        next := .exit }])] } : Configuration)
    |>.withInterface "eth0" (.withOspf (.ofAddress (.ofOctets 10 0 0 host 30)) .backbone (some 1))
  ofConfigurations [rival "first" 1 250, rival "second" 2 1]

theorem rivals_export : ∃ d, rivals.compute = .ok d ∧
    exportsStale (InterfaceAddress.ofOctets 20 0 0 0 8).network d = true :=
  of_any (by decide +kernel)

/-- What a table has lost is still announced from it. -/
theorem stale_export : ¬∀ (n : Network) (d : DataPlane), n.compute = .ok d → ∀ r ∈ d.routers,
    ∀ process policy, r.ospfProcess? = some process → process.exportPolicy = some policy →
      (∃ current, r.exportsOf process policy r.main.routes = .ok current ∧
        r.ospf.exports.sameRoutes ((Rib.empty .ospf).mergeAll current).1 = true) ∧
      ∀ p, (∃ x, x ∈ r.ospf.exports.held p) →
        ∃ source ∈ r.main.held p, ∃ x, r.ExportsFor process policy source x := by
  intro matched
  obtain ⟨d, done, stale⟩ := rivals_export
  obtain ⟨r, member, process, policy, runs, exporting, some, outside⟩ := exists_of_exportsStale stale
  obtain ⟨-, sources⟩ := matched rivals d done r member process policy runs exporting
  obtain ⟨source, held, x, other, -⟩ := sources _ some
  rw [outside source held] at other
  cases other

/-- The first router exports its own route, which its main table has lost. -/
theorem displaced_route_is_exported : ∃ d, rivals.compute = .ok d ∧ ∃ r ∈ d.routers,
    ∃ process policy, r.ospfProcess? = some process ∧ process.exportPolicy = some policy ∧
      ∃ p, ∃ x ∈ r.ospf.exports.held p, ∃ source ∈ r.ownTable.held p,
        r.ExportsFor process policy source x ∧ source ∉ r.main.held p := by
  obtain ⟨d, done, stale⟩ := rivals_export
  obtain ⟨r, member, process, policy, runs, exporting, ⟨x, held⟩, outside⟩ :=
    exists_of_exportsStale stale
  obtain ⟨own, current, -, -, -, all⟩ :=
    exports_of_own_and_main done r member process policy runs exporting
  obtain ⟨source, found, lets⟩ := (all _).2.2 x held
  have gone : source ∉ r.main.held (InterfaceAddress.ofOctets 20 0 0 0 8).network := by
    intro still
    have other := lets.1
    rw [outside source still] at other
    cases other
  exact ⟨d, done, r, member, process, policy, runs, exporting, _, x, held, source,
    found.resolve_right gone, lets, gone⟩

end Network

end RoutePlane
