import RoutePlane.Proofs.Network.OwnRoutes
import RoutePlane.Proofs.Router.SymbolicHops

/-! Symbolic next hops along a run. In every state the routes with a symbolic next hop are own BGP routes
that a redistribution policy has given it. They are among the routes of the router itself, the best BGP
routes and those of the main table, and never among routes that were announced or heard. -/
namespace RoutePlane

open Fallible

namespace Router

variable {f : Fabric} {announcements : List Announcement} {routers : List Router} {r r' : Router}
  {pool : Set Route}

-- Tables are compared by what is merged into them, never by their entries.
attribute [local irreducible] Rib.mergeAll installAll bestRoutes

def BasesHoldOnly (pool : Set Route) (r : Router) : Prop :=
  r.bgp.baseExternal.HoldsOnly pool ∧ r.bgp.baseInternal.HoldsOnly pool

/-- Nothing gets into the base tables but what is announced. -/
theorem BasesHoldOnly.move (holds : r.BasesHoldOnly pool)
    (announced : ∀ external x, r.IsAnnounced announcements external x → x ∈ pool)
    (moves : Moves f announcements routers r r') : r'.BasesHoldOnly pool := by
  cases moves with
  | prepare done =>
    obtain ⟨costs, effect⟩ := r.initConnected.initStatic.initOspfCosts_effect
    rw [Schedule.prepare, effect] at done
    obtain ⟨external, internal, first, second, rfl⟩ := initBgp_effect done
    have same : IsAnnounced announcements
        ({ r.initConnected.initStatic with ospf := { r.initConnected.initStatic.ospf with
          costs := costs } } : Router).initOspf = r.IsAnnounced announcements :=
      isAnnounced_congr rfl
    rw [same] at first second
    exact ⟨holds.1.mergeAll fun x member => announced true x ((first x).1 member),
      holds.2.mergeAll fun x member => announced false x ((second x).1 member)⟩
  | activateStatic =>
    obtain ⟨_, effect⟩ := r.activateStatic_effect
    rwa [effect]
  | activateGenerated =>
    obtain ⟨_, effect⟩ := r.activateGenerated_effect
    rwa [effect]
  | initOspfExports done =>
    obtain ⟨_, -, rfl⟩ := initOspfExports_effect done
    exact holds
  | originateBgp done =>
    rcases originateBgp_effect done with ⟨rfl, -⟩ | ⟨_, -, rfl⟩ <;> exact holds
  | gatherBgp done =>
    obtain ⟨_, rfl, -⟩ := gatherBgp_ok done
    exact holds
  | _ => exact holds

/-- A symbolic next hop in a table of the router is one that its redistribution policy has written into an
own BGP route; tables of what was learned have none. -/
structure ConfinesSymbols (r : Router) : Prop where
  main : ∀ x ∈ r.main.routes, x.nextHop.isSymbolic = true → r.Marks x
  external : ∀ x ∈ r.bgp.external.routes, x.nextHop.isSymbolic = true → r.Marks x
  combined : ∀ x ∈ r.bgp.combined.routes, x.nextHop.isSymbolic = true → r.Marks x
  internal : ∀ x ∈ r.bgp.internal.routes, x.nextHop.isSymbolic = false
  baseExternal : ∀ x ∈ r.bgp.baseExternal.routes, x.nextHop.isSymbolic = false
  baseInternal : ∀ x ∈ r.bgp.baseInternal.routes, x.nextHop.isSymbolic = false

end Router

namespace Network

open Schedule

variable {n : Network} {routers : List Router}

theorem Reaches.bases_concrete (reached : n.Reaches routers) :
    ∀ r ∈ routers, r.BasesHoldOnly {x | x.nextHop.isSymbolic = false} := by
  obtain ⟨earlier, history⟩ := reached
  generalize same : routers :: earlier = past at history
  induction history generalizing routers earlier with
  | start =>
    cases same
    intro r member
    obtain ⟨c, -, source⟩ := List.mem_flatMap.1 member
    obtain ⟨vrf, -, rfl⟩ := List.mem_map.1 source
    exact ⟨Rib.holdsOnly_empty _, Rib.holdsOnly_empty _⟩
  | @move routers moved earlier history moves ih =>
    cases same
    intro r' member
    obtain ⟨r, source, moves⟩ := source_of_mem moves member
    exact (ih earlier rfl r source).move (fun _ _ announced => announced.concrete) moves

/-- In every state of a run the tables hold marked routes only. -/
theorem Reaches.marked (reached : n.Reaches routers) :
    ∀ r ∈ routers, r.HoldsOnly (Router.markedRoutes r.device) :=
  Reaches.holdsOnly (fun _ _ holds r member => Router.sources_marked (holds r member).main) reached

/-- What is learned inside a system has another protocol than redistributed routes. -/
theorem Reaches.internal_concrete (reached : n.Reaches routers) :
    ∀ r ∈ routers, ∀ x ∈ r.bgp.internal.routes, x.nextHop.isSymbolic = false := by
  intro r member x listed
  rw [← Bool.not_eq_true]
  intro symbolic
  have marks := Router.mem_markedRoutes.1 ((reached.marked r member).internal x listed) symbolic
  have learned := ((reached.typed r member).internal.mem listed).2.1
  rw [marks.isOwn.1] at learned
  simp at learned

theorem Reaches.confinesSymbols (reached : n.Reaches routers) : ∀ r ∈ routers, r.ConfinesSymbols := by
  intro r member
  have marked := reached.marked r member
  have bases := reached.bases_concrete r member
  exact {
    main := fun x listed => Router.mem_markedRoutes.1 (marked.main x listed)
    external := fun x listed => Router.mem_markedRoutes.1 (marked.external x listed)
    combined := fun x listed => Router.mem_markedRoutes.1 (marked.bgp x listed)
    internal := reached.internal_concrete r member
    baseExternal := bases.1
    baseInternal := bases.2 }

/-- Of all that a router weighs in a BGP phase, only what it brings in itself has symbolic next hops. -/
theorem BgpCourse.symbolic_held_iff (course : n.BgpCourse) {ρ : Nat → Router} {k : Nat}
    (member : ρ ∈ course.histories) (some : 0 < k) (le : k ≤ course.commits) {x : Route} {p : Prefix}
    (symbolic : x.nextHop.isSymbolic = true) :
    x ∈ (ρ k).bgp.combined.held p ↔ (ρ 0).Originates x ∧
      x ∈ RibKind.bgp.best ((ρ 0).offers n.announcements true ∪ course.heardBefore ρ k true ∪
        ((ρ 0).offers n.announcements false ∪ course.heardBefore ρ k false)) p := by
  obtain ⟨-, weighed⟩ := course.hasWeighed member some le
  rw [weighed.combined.mem_iff]
  refine ⟨fun best => ⟨?_, best⟩, And.right⟩
  have concrete : x.nextHop.isSymbolic ≠ false := by simp [symbolic]
  rcases RibKind.best_subset best with
    ((announced | ⟨-, originates⟩) | ⟨_, -, -, hears⟩) | ((announced | ⟨never, -⟩) | ⟨_, -, -, hears⟩)
  · exact absurd announced.concrete concrete
  · exact originates
  · exact absurd hears.concrete concrete
  · exact absurd announced.concrete concrete
  · cases never
  · exact absurd hears.concrete concrete

/-- In every state of every run, up to the final tables, symbolic next hops are confined to own routes for
which a redistribution policy has written them, and nothing that is announced or heard has one. A router
holds such a route among its BGP routes exactly if it has brought it in and no other offer is better. -/
theorem symbolic_hops_redistributed (n : Network) :
    (∀ routers, n.Reaches routers → ∀ r ∈ routers, r.ConfinesSymbols ∧ ∀ external x,
      r.IsAnnounced n.announcements external x ∨ r.Hears n.fabric routers external x →
        x.nextHop.isSymbolic = false) ∧
    (∀ course : n.BgpCourse, ∀ ρ ∈ course.histories, ∀ k, 0 < k → k ≤ course.commits →
      ∀ (x : Route) (p : Prefix), x.nextHop.isSymbolic = true →
        (x ∈ (ρ k).bgp.combined.held p ↔ (ρ 0).Originates x ∧
          x ∈ RibKind.bgp.best ((ρ 0).offers n.announcements true ∪ course.heardBefore ρ k true ∪
            ((ρ 0).offers n.announcements false ∪ course.heardBefore ρ k false)) p)) ∧
    ∀ d, n.compute = .ok d → ∀ r ∈ d.routers, r.ConfinesSymbols := by
  refine ⟨fun routers reached r member => ⟨reached.confinesSymbols r member, ?_⟩,
    fun course ρ member k some le x p symbolic => course.symbolic_held_iff member some le symbolic,
    fun d done => (reaches_compute done).confinesSymbols⟩
  rintro external x (announced | hears)
  · exact announced.concrete
  · exact hears.concrete

/-- A router that drops what goes to a network, and redistributes this with its own end as next hop. -/
def stamped : Network :=
  let settings : Vrf := {
    staticRoutes := [{ network := (InterfaceAddress.ofOctets 20 0 0 0 8).network, nextHop := .discard }]
    bgp := some {
      routerId := .ofOctets 1 1 1 1, localAs := 65001, redistributionPolicy := some "stamp" } }
  ofConfigurations [{
    hostname := "first"
    vrfs := .ofList [(defaultVrf, settings)]
    routeMaps := .ofList [("stamp", .ofEntries "stamp" [⟨10, .accept, [], [.nextHop .self], .exit⟩])] }]

theorem stamped_holds : ∃ d, stamped.compute = .ok d ∧ ∃ r ∈ d.routers,
    ∃ x ∈ r.bgp.combined.routes, x.nextHop.isSymbolic = true := by
  obtain ⟨d, done, holds⟩ := of_any (x := stamped.compute)
    (p := fun d => d.routers.any fun r => r.bgp.combined.routes.any (·.nextHop.isSymbolic))
    (by decide +kernel)
  obtain ⟨r, member, holds⟩ := List.any_eq_true.1 holds
  obtain ⟨x, listed, symbolic⟩ := List.any_eq_true.1 holds
  exact ⟨d, done, r, member, x, listed, symbolic⟩

/-- A stand-in for the end of a session gets into a table, where no session is. -/
theorem symbolic_hop_is_held : ¬∀ (n : Network) (routers : List Router), n.Reaches routers →
    ∀ r ∈ routers, ∀ x ∈ r.bgp.combined.routes, x.nextHop.isSymbolic = false := by
  intro concrete
  obtain ⟨d, done, r, member, x, listed, symbolic⟩ := stamped_holds
  have none := concrete stamped d.routers (reaches_compute done) r member x listed
  rw [symbolic] at none
  cases none

/-- The policy of the router has written it. -/
theorem stamped_marks : ∃ d, stamped.compute = .ok d ∧ stamped.Reaches d.routers ∧
    ∃ r ∈ d.routers, r.ConfinesSymbols ∧ ∃ x ∈ r.bgp.combined.routes,
      x.nextHop.isSymbolic = true ∧ r.Marks x ∧ ∃ course : stamped.BgpCourse,
        ∃ ρ ∈ course.histories, (ρ 0).Originates x := by
  obtain ⟨d, done, r, member, x, listed, symbolic⟩ := stamped_holds
  obtain ⟨confined, held, final⟩ := symbolic_hops_redistributed stamped
  have reached := reaches_compute done
  obtain ⟨last⟩ := exists_lastRound done
  obtain ⟨course, commits, same⟩ := last.exists_course
  have source := member
  rw [last.result.trans (congrArg _ same.symm), List.map_map] at source
  obtain ⟨ρ, history, rfl⟩ := List.mem_map.1 source
  obtain ⟨p, here⟩ := Rib.mem_routes_iff.1 listed
  have originates := ((held course ρ history _ (Nat.zero_lt_of_lt commits) le_rfl x p symbolic).1 here).1
  have confines := (confined d.routers reached _ member).1
  exact ⟨d, done, reached, _, member, confines, x, listed, symbolic,
    confines.combined x listed symbolic, course, ρ, history, originates⟩

end Network

end RoutePlane
