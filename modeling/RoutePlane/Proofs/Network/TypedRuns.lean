import RoutePlane.Proofs.Network.Coverage
import RoutePlane.Proofs.Router.TypedTables

/-! What the tables hold in every state of a run. A table never has a route of another sort, so the BGP
decision process, which ranks BGP routes only, is never asked about any other. -/
namespace RoutePlane

open Fallible

namespace Network

variable {n : Network} {routers : List Router}

theorem History.typed {past : List (List Router)} (history : n.History past) :
    ∀ routers ∈ past, ∀ r ∈ routers, r.IsTyped := by
  induction history with
  | start =>
    intro routers member r fresh
    rw [List.mem_singleton.1 member] at fresh
    obtain ⟨c, -, source⟩ := List.mem_flatMap.1 fresh
    obtain ⟨vrf, -, rfl⟩ := List.mem_map.1 source
    exact .fresh c vrf
  | @move routers moved earlier history moves ih =>
    refine List.forall_mem_cons.2 ⟨fun r' member => ?_, ih⟩
    obtain ⟨r, source, moves⟩ := source_of_mem moves member
    exact (ih routers List.mem_cons_self r source).move moves

theorem Reaches.typed (reached : n.Reaches routers) : ∀ r ∈ routers, r.IsTyped := by
  obtain ⟨earlier, history⟩ := reached
  exact history.typed routers List.mem_cons_self

/-- In every state of a run every table of every router keeps to its kind, its sort of routes and its
order, and only BGP routes come in for a BGP table. -/
theorem tables_typed (n : Network) (routers : List Router) (reached : n.Reaches routers) :
    ∀ r ∈ routers, r.EachTable Rib.Keeps ∧ ∀ external x,
      r.IsAnnounced n.announcements external x ∨ r.Originates x ∨
          r.Hears n.fabric routers external x →
        x.isBgpKind = true := by
  intro r member
  refine ⟨(reached.typed r member).imp fun t k pool lawful draws => draws.keeps lawful, ?_⟩
  rintro external x (announced | originates | hears)
  · exact announced.isBgpKind
  · exact Router.isBgpKind_of_own originates.own
  · exact bgpRoutesOf_suits x hears.typed rfl

/-- When the routers of the bypass have converged, one of them holds a route from an internal session. -/
theorem bypass_tables_typed : ∃ d, bypass.compute = .ok d ∧ bypass.Reaches d.routers ∧
    (∃ r ∈ d.routers, ∃ x ∈ r.bgp.internal.routes, x ∈ r.main.routes) ∧
    ∀ r ∈ d.routers, r.EachTable Rib.Keeps := by
  obtain ⟨d, done, held⟩ := of_any (x := bypass.compute)
    (p := fun d => d.routers.any fun r => r.bgp.internal.routes.any (r.main.routes.contains ·))
    (by decide +kernel)
  obtain ⟨r, member, held⟩ := List.any_eq_true.1 held
  obtain ⟨x, internal, main⟩ := List.any_eq_true.1 held
  have reached := reaches_compute done
  exact ⟨d, done, reached, ⟨r, member, x, internal, List.contains_iff_mem.1 main⟩,
    fun r member => (tables_typed bypass d.routers reached r member).1⟩

end Network

end RoutePlane
