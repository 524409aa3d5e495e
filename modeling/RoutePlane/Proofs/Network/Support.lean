import RoutePlane.Proofs.Network.BgpHistory
import RoutePlane.Proofs.Router.Conveyance

/-! Support of learned BGP routes. A router that holds a learned route at the end has heard it in some
state of the last BGP phase. Its sender may have replaced the route from which it was made by then, and
nothing takes the learned route back. -/
namespace RoutePlane

open Fallible

namespace Router

variable {r : Router}

-- Tables are compared by what is merged into them, never by their entries.
attribute [local irreducible] Rib.mergeAll installAll bestRoutes

/-- The BGP routes that the router has from a peer, but not by an announcement from outside. -/
def learned (announcements : List Announcement) (r : Router) : Set Route :=
  {x | x ∈ r.bgp.combined.routes ∧ x.isLocal = false ∧
    ∀ external, ¬r.IsAnnounced announcements external x}

theorem HoldsBgp.idle {pool : Set Route} (holds : r.HoldsBgp pool)
    (idle : r.commitStagedBgp.2 = false) :
    r.commitStagedBgp.1.bgp.combined.held = r.bgp.combined.held := by
  have committed := holds.commitStaged
  obtain ⟨-, combined⟩ := Bool.or_eq_false_iff.1 idle
  obtain ⟨both, -⟩ := Bool.or_eq_false_iff.1 combined
  obtain ⟨first, second⟩ := Bool.or_eq_false_iff.1 both
  have external := holds.combined.mergeAll_flag_iff fun x => committed.external.mem
  have internal := (holds.combined.absorb committed.external).mergeAll_flag_iff fun x =>
    committed.internal.mem
  rw [← Bool.not_eq_true] at first second
  exact (not_not.1 (mt internal.2 second)).trans (not_not.1 (mt external.2 first))

end Router

namespace Schedule

attribute [local irreducible] Rib.mergeAll Router.installAll Router.bestRoutes

variable {f : Fabric} {routers entry moved : List Router} {announcements : List Announcement}

theorem bgpStep_idle (sound : ∀ r ∈ routers, r.IsSound announcements)
    (idle : bgpStep f routers = .ok (moved, false)) :
    moved.map Router.bgpView = routers.map Router.bgpView := by
  obtain ⟨gathered, all, rfl, quiet⟩ := exchange_ok.1 idle
  rw [List.map_map]
  refine (map_eq_iff_forall₂.2 (List.forall₂_iff_get.2 ⟨all.length_eq, fun i first second => ?_⟩)).symm
  have outcome := (List.forall₂_iff_get.1 all).2 i first second
  have still := List.any_eq_false.1 quiet.symm _ (List.get_mem gathered ⟨i, second⟩)
  have source := sound _ (List.get_mem routers ⟨i, first⟩)
  generalize routers.get ⟨i, first⟩ = r at outcome source
  generalize gathered.get ⟨i, second⟩ = g at outcome still
  obtain ⟨arrived, rfl, external, internal⟩ := Router.gatherBgp_ok outcome
  have holds : (r.stageBgp arrived).1.HoldsBgp bgpRoutes :=
    source.tables.stage (fun x member => ((external x).1 member).isBgpKind sound)
      fun x member => ((internal x).1 member).isBgpKind sound
  rw [Bool.or_eq_true, not_or, Bool.not_eq_true, Bool.not_eq_true] at still
  have bindings := Rib.bindings_eq_iff.2 (holds.idle still.2)
  exact Prod.ext rfl bindings.symm

namespace BgpRun

variable (run : BgpRun f entry) {r : Router} {x : Route}

/-- The learned route was made in some state of a route that its sender still holds in the end. -/
def KeepsSource (r : Router) (x : Route) : Prop :=
  ∃ k ≤ run.moves, ∃ process, r.bgpProcess? = some process ∧
    ∃ s ∈ f.sessions.incoming r.hostname r.vrf, ∃ route,
      Router.SenderHolds (run.states k) s route ∧
      Router.Makes (run.states k) r process s route x ∧ Router.SenderHolds run.final s route

/-- Only what is made of a kept route is sent at last. -/
theorem isSent_final_iff (sound : ∀ e ∈ entry, e.IsSound announcements) :
    r.IsSent f run.final x ↔ run.KeepsSource r x := by
  have idle : run.final.map Router.bgpView = (run.states run.moves).map Router.bgpView :=
    bgpStep_idle (run.sound sound (Nat.le_succ _)) run.idle
  have devices {k : Nat} (le : k ≤ run.moves) :
      (run.states k).map Router.device = run.final.map Router.device :=
    (run.map_device (by omega)).trans (run.map_device le_rfl).symm
  rw [Router.isSent_iff]
  constructor
  · rintro ⟨process, own, s, incoming, route, holds, makes⟩
    exact ⟨run.moves, le_rfl, process, own, s, incoming, route, Router.senderHolds_congr idle holds,
      Router.makes_congr (devices le_rfl).symm makes, holds⟩
  · rintro ⟨k, le, process, own, s, incoming, route, -, makes, holds⟩
    exact ⟨process, own, s, incoming, route, holds, Router.makes_congr (devices le) makes⟩

end BgpRun

end Schedule

namespace Network

open Schedule

variable {n : Network} {d : DataPlane}

namespace LastRound

variable (last : n.LastRound d) {r : Router} {x : Route}

theorem sound : ∀ e ∈ last.entry, e.IsSound n.announcements :=
  beforeBgp_entry last.reached.bases last.entered

/-- The routers of the result have weighed all that was conveyed in the last BGP phase. -/
theorem weighed : List.Forall₂ (fun e r => r.device = e.device ∧
    r.HasWeighed (e.offers n.announcements) (last.bgp.heardBefore e (last.bgp.moves + 1)))
    last.entry d.routers := by
  rw [last.result, List.forall₂_map_right_iff]
  refine (last.bgp.weighed last.sound (beforeBgp_fresh last.entered) le_rfl).imp ?_
  intro e r weighs
  exact ⟨weighs.1, { weighs.2 with }⟩

/-- A router has heard the routes that it has learned. -/
theorem learned_sent (member : r ∈ d.routers) (learned : x ∈ r.learned n.announcements) :
    ∃ k ≤ last.bgp.moves, r.IsSent n.fabric (last.bgp.states k) x := by
  obtain ⟨e, -, same, weighs⟩ := source_of_mem last.weighed member
  obtain ⟨held, remote, unannounced⟩ := learned
  have offered : ∃ external, x ∈ e.offers n.announcements external ∨
      x ∈ last.bgp.heardBefore e (last.bgp.moves + 1) external := by
    rcases weighs.combined.mem_of_routes held with external | internal
    · exact ⟨true, external⟩
    · exact ⟨false, internal⟩
  obtain ⟨external, (announced | ⟨-, originates⟩) | ⟨k, before, hears⟩⟩ := offered
  · rw [← Router.isAnnounced_congr same] at announced
    exact absurd announced (unannounced external)
  · rw [Router.isLocal_of_own originates.own] at remote
    cases remote
  · rw [← Router.hears_congr same] at hears
    exact ⟨k, Nat.le_of_lt_succ before, external, hears⟩

theorem isSent_result_iff : r.IsSent n.fabric d.routers x ↔ last.bgp.KeepsSource r x := by
  have view : d.routers.map Router.bgpView = last.final.map Router.bgpView := by
    rw [last.result, List.map_map]
    rfl
  rw [← last.bgp.isSent_final_iff last.sound]
  exact ⟨Router.isSent_congr view, Router.isSent_congr view.symm⟩

/-- If no sender gives up a route during the phase, then all that is learned is still sent. -/
theorem learned_supported (kept : ∀ k ≤ last.bgp.moves, ∀ s route,
      Router.SenderHolds (last.bgp.states k) s route → Router.SenderHolds last.final s route)
    (member : r ∈ d.routers) (learned : x ∈ r.learned n.announcements) :
    r.IsSent n.fabric d.routers x := by
  obtain ⟨k, le, sent⟩ := last.learned_sent member learned
  obtain ⟨process, own, s, incoming, route, holds, makes⟩ := Router.isSent_iff.1 sent
  rw [last.isSent_result_iff]
  exact ⟨k, le, process, own, s, incoming, route, holds, makes, kept k le s route holds⟩

end LastRound

/-- At the end every router holds the best of what was ever conveyed to it in the last BGP phase. So
what it has learned was sent at some time, and it is still sent exactly if, of the routes of which it
was made in the phase, one is still held by its sender. -/
theorem learned_routes_supported_iff (done : n.compute = .ok d) :
    Nonempty (n.LastRound d) ∧ ∀ last : n.LastRound d,
      List.Forall₂ (fun e r => ∀ p x, x ∈ r.bgp.combined.held p ↔
        x ∈ RibKind.bgp.best {y | ∃ external, y ∈ e.offers n.announcements external ∨
          y ∈ last.bgp.heardBefore e (last.bgp.moves + 1) external} p) last.entry d.routers ∧
      (∀ r ∈ d.routers, ∀ x ∈ r.learned n.announcements,
        ∃ k ≤ last.bgp.moves, r.IsSent n.fabric (last.bgp.states k) x) ∧
      ((∀ r ∈ d.routers, ∀ x ∈ r.learned n.announcements, r.IsSent n.fabric d.routers x) ↔
        ∀ r ∈ d.routers, ∀ x ∈ r.learned n.announcements, last.bgp.KeepsSource r x) := by
  refine ⟨exists_lastRound done, fun last => ⟨?_, ?_, ?_⟩⟩
  · refine last.weighed.imp fun e r weighs p x => ?_
    rw [weighs.2.combined.mem_iff]
    have all : {y | ∃ external, y ∈ e.offers n.announcements external ∨
        y ∈ last.bgp.heardBefore e (last.bgp.moves + 1) external} =
        e.offers n.announcements true ∪ last.bgp.heardBefore e (last.bgp.moves + 1) true ∪
          (e.offers n.announcements false ∪
            last.bgp.heardBefore e (last.bgp.moves + 1) false) := by
      ext y
      simp [or_comm]
    rw [all]
  · exact fun r member x learned => last.learned_sent member learned
  · simp only [last.isSent_result_iff]

/-- Some router has learned a route that no session of the result conveys to it. -/
def holdsStale (n : Network) (d : DataPlane) : Bool :=
  d.routers.any fun r => r.bgpProcess?.any fun process =>
    n.announcements.all (·.node != r.hostname) &&
      match r.bgpArrivals n.fabric d.routers process with
      | .ok (external, internal) => r.bgp.combined.routes.any fun x =>
          !x.isLocal && !external.contains x && !internal.contains x
      | .error _ => false

theorem exists_of_holdsStale (stale : n.holdsStale d = true) :
    ∃ r ∈ d.routers, ∃ x ∈ r.learned n.announcements, ¬r.IsSent n.fabric d.routers x := by
  obtain ⟨r, member, stale⟩ := List.any_eq_true.1 stale
  obtain ⟨process, own, stale⟩ := (Option.any_eq_true _ _).1 stale
  obtain ⟨others, stale⟩ := Bool.and_eq_true_iff.1 stale
  split at stale
  next external internal arrived =>
    obtain ⟨x, held, stale⟩ := List.any_eq_true.1 stale
    simp only [Bool.and_eq_true, Bool.not_eq_true', List.contains_eq_mem,
      decide_eq_false_iff_not] at stale
    obtain ⟨⟨remote, notExternal⟩, notInternal⟩ := stale
    refine ⟨r, member, x, ⟨held, remote, ?_⟩, ?_⟩
    · rintro - ⟨-, -, a, listed, node, -⟩
      have other := List.all_eq_true.1 others a listed
      simp [node] at other
    · rintro ⟨type, process', own', s, incoming, kind, conveys⟩
      rw [own] at own'
      cases own'
      have arrivals := Router.mem_bgpArrivals (x := x) arrived
      cases type with
      | true => exact notExternal (arrivals.1.2 ⟨s, incoming, kind, conveys⟩)
      | false => exact notInternal (arrivals.2.2 ⟨s, incoming, kind, conveys⟩)
  next => cases stale

def speaker (name : String) (id : Address) (system : AsNumber) (networks : SortedSet Prefix)
    (neighbors : List Neighbor) : Configuration where
  hostname := name
  vrfs := .ofList [(defaultVrf, { bgp := some {
    routerId := id, localAs := system, neighbors := neighbors, networks := networks } })]

/-- Three systems in a row. The one in the middle brings a network into BGP and sends it to the last.
It replaces its route by one that the first has from outside, which makes a longer path for the last. -/
def row : Network :=
  let shared := InterfaceAddress.ofOctets 9 9 9 9 32
  let first := (speaker "first" (.ofOctets 1 1 1 1) 65001 .empty [
      { peer := .ofOctets 10 0 1 2, remoteAs := 65002 },
      { peer := .ofOctets 192 0 2 2, remoteAs := 65100 }])
    |>.withInterface "eth0" (.ofAddress (.ofOctets 10 0 1 1 30))
    |>.withInterface "eth1" (.ofAddress (.ofOctets 192 0 2 1 30))
  let middle := (speaker "middle" (.ofOctets 2 2 2 2) 65002 (.singleton shared.network) [
      { peer := .ofOctets 10 0 1 1, remoteAs := 65001 },
      { peer := .ofOctets 10 0 2 2, remoteAs := 65003 }])
    |>.withInterface "eth0" (.ofAddress (.ofOctets 10 0 1 2 30))
    |>.withInterface "eth1" (.ofAddress (.ofOctets 10 0 2 1 30))
    |>.withInterface "lo" (.ofLoopback shared)
  let last := (speaker "last" (.ofOctets 3 3 3 3) 65003 .empty [
      { peer := .ofOctets 10 0 2 1, remoteAs := 65002 }])
    |>.withInterface "eth0" (.ofAddress (.ofOctets 10 0 2 2 30))
  (ofConfigurations [first, middle, last]).addAnnouncement
    { node := "first", peer := .ofOctets 192 0 2 2, network := shared.network }

theorem row_holdsStale : ∃ d, row.compute = .ok d ∧ row.holdsStale d = true := by
  have stale : row.compute.toOption.any row.holdsStale = true := by decide +kernel
  cases done : row.compute with
  | error e =>
    rw [done] at stale
    cases stale
  | ok d =>
    rw [done] at stale
    exact ⟨d, rfl, stale⟩

/-- The last router of the row holds the route that the middle one has replaced. -/
theorem replaced_route_is_kept : ¬∀ (n : Network) (d : DataPlane), n.compute = .ok d →
    ∀ r ∈ d.routers, ∀ x ∈ r.learned n.announcements, r.IsSent n.fabric d.routers x := by
  intro supported
  obtain ⟨d, done, stale⟩ := row_holdsStale
  obtain ⟨r, member, x, learned, unsent⟩ := exists_of_holdsStale stale
  exact unsent (supported row d done r member x learned)

/-- In the row a source of a learned route has been given up. -/
theorem row_gives_up_source : ∃ d, row.compute = .ok d ∧ ∃ last : row.LastRound d,
    ∃ r ∈ d.routers, ∃ x ∈ r.learned row.announcements, ¬last.bgp.KeepsSource r x := by
  obtain ⟨d, done, stale⟩ := row_holdsStale
  obtain ⟨⟨last⟩, all⟩ := learned_routes_supported_iff done
  obtain ⟨r, member, x, learned, unsent⟩ := exists_of_holdsStale stale
  refine ⟨d, done, last, ?_⟩
  by_contra kept
  push Not at kept
  exact unsent ((all last).2.2.2 kept r member x learned)

end Network

end RoutePlane
