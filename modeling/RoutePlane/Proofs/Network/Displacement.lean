import RoutePlane.Proofs.Network.Support
import RoutePlane.Proofs.Router.LocalRoutes
import RoutePlane.Proofs.Router.Withdrawal

/-! Commits of BGP routes and the routes that they displace. The main tables are followed from the
start of a BGP phase through each of its commits. A network for which the BGP route is withdrawn has its
local routes back, unless one of the commits has displaced them: nothing merges them again within the
phase, and then the network is lost from the main table. -/
namespace RoutePlane

open Fallible

namespace Router

variable {r r' : Router} {f : Fabric} {routers : List Router} {g : Router × Bool}

-- Tables are compared by what is merged into them, never by their entries.
attribute [local irreducible] Rib.mergeAll installAll bestRoutes

theorem originateBgp_commits (fresh : r.IsFresh) (done : r.originateBgp = .ok r') :
    r.Commits r' ∧ r'.localRoutes = r.localRoutes := by
  rcases originateBgp_effect done with ⟨rfl, -⟩ | ⟨l, -, rfl⟩
  · refine ⟨?_, rfl⟩
    rw [Commits, fresh.combined, installAll_empty]
  · exact ⟨rfl, rfl⟩

theorem gatherBgp_commits (gathered : r.gatherBgp f routers = .ok g) :
    r.Commits g.1.commitStagedBgp.1 ∧ g.1.commitStagedBgp.1.localRoutes = r.localRoutes := by
  obtain ⟨arrived, rfl, -⟩ := gatherBgp_ok gathered
  exact ⟨rfl, rfl⟩

end Router

namespace Schedule

variable {f : Fabric} {limit steps : Nat} {routers entry moved : List Router}
  {announcements : List Announcement}

theorem independent_holdsLocal (done : independent f limit announcements = .ok (routers, steps)) :
    ∀ r ∈ routers, r.HoldsLocal :=
  independent_keeps (fun c vrf _ prepared => (Router.HoldsLocal.fresh c vrf).prepare prepared)
    (fun _ all r member => (all r member).ospfInternal) (fun _ => .importOspfInternal) done

/-- When BGP starts, the main tables hold the best of the local routes. -/
theorem beforeBgp_local (start : ∀ r ∈ routers, r.HoldsLocal)
    (done : beforeBgp f limit routers = .ok entry) : ∀ r ∈ entry, r.HoldsLocal ∧
      r.main.Weighs .main r.localRoutes ∧ ∀ x ∈ r.localRoutes, x ∈ localPool := by
  obtain ⟨exported, converged, _, first, second, rfl⟩ := beforeBgp_ok.1 done
  have afterExports : ∀ r ∈ exported, ∃ S G, r.IsActivated S G := by
    refine beforeOspf_keeps ?_ ?_ ?_ ?_ first
    · intro r member
      exact ⟨∅, ∅, .startRound (start r member)⟩
    · rintro r ⟨S, G, activated⟩
      obtain ⟨S', activated⟩ := activated.activateStatic
      exact ⟨S', G, activated⟩
    · rintro r ⟨S, G, activated⟩
      obtain ⟨G', activated⟩ := activated.activateGenerated
      exact ⟨S, G', activated⟩
    · rintro r m ⟨S, G, activated⟩ outcome
      exact ⟨S, G, activated.initOspfExports outcome⟩
  have afterExternal : ∀ r ∈ converged, ∃ S G, r.IsActivated S G := by
    refine repeated_total_exchanges_keep afterExports (fun routers all r member => ?_) second
    obtain ⟨S, G, activated⟩ := all r member
    exact ⟨S, G, activated.ospfExternal⟩
  intro r member
  obtain ⟨r, source, rfl⟩ := List.mem_map.1 member
  obtain ⟨S, G, activated⟩ := afterExternal r source
  exact ⟨activated.holds.importOspfExternal, activated.importOspfExternal,
    activated.localRoutes_own⟩

theorem round_holdsLocal (start : ∀ r ∈ routers, r.HoldsLocal)
    (done : round f limit routers = .ok (moved, steps)) : ∀ r ∈ moved, r.HoldsLocal := by
  obtain ⟨entry, first, rest⟩ := bind_eq_ok.1 done
  obtain ⟨originated, second, third⟩ := bind_eq_ok.1 rest
  have after : ∀ r ∈ originated, r.HoldsLocal := by
    intro r member
    obtain ⟨e, source, outcome⟩ := source_of_mem (mapM_eq_ok.1 second) member
    exact (beforeBgp_local start first e source).1.originateBgp outcome
  exact repeated_exchanges_keep after (fun _ all r member g gathered => (all r member).bgp gathered)
    third

end Schedule

namespace Network

open Schedule

variable {n : Network} {d : DataPlane} {p : Prefix}

theorem RoundStart.holdsLocal {routers : List Router} (start : n.RoundStart routers) :
    ∀ r ∈ routers, r.HoldsLocal := by
  induction start with
  | first done => exact independent_holdsLocal done
  | next _ done ih => exact round_holdsLocal ih done

abbrev stateOf (histories : List (Nat → Router)) (k : Nat) : List Router :=
  histories.map fun ρ => ρ k

/-- The BGP phase of any round, up to any of its commits: the histories of the routers from the start
of the phase on. The first commit is of what the routers bring into BGP, and every other one of what
they have gathered. -/
structure BgpCourse (n : Network) where
  start : List Router
  reached : n.RoundStart start
  limit : Nat
  commits : Nat
  histories : List (Nat → Router)
  entered : beforeBgp n.fabric limit start = .ok (stateOf histories 0)
  originated : 0 < commits →
    (stateOf histories 0).mapM Router.originateBgp = .ok (stateOf histories 1)
  step : ∀ k, 0 < k → k < commits → ∃ changed,
    bgpStep n.fabric (stateOf histories k) = .ok (stateOf histories (k + 1), changed)

namespace BgpCourse

variable (course : n.BgpCourse) {ρ : Nat → Router} {k : Nat}

theorem sound (le : k ≤ course.commits) :
    ∀ r ∈ stateOf course.histories k, r.IsSound n.announcements := by
  induction k with
  | zero => exact beforeBgp_entry course.reached.bases course.entered
  | succ k ih =>
    have before := ih (by omega)
    rcases Nat.eq_zero_or_pos k with rfl | later
    · exact originated_entry before (course.originated le)
    · obtain ⟨changed, step⟩ := course.step k later le
      exact exchange_keeps (fun r member g gathered => (before r member).bgp before gathered) step

variable (member : ρ ∈ course.histories)
include member

theorem originated_at (some : 0 < course.commits) : (ρ 0).originateBgp = .ok (ρ 1) := by
  have outcomes := mapM_eq_ok.1 (course.originated some)
  rw [List.forall₂_map_left_iff, List.forall₂_map_right_iff, List.forall₂_same] at outcomes
  exact outcomes ρ member

theorem gathered_at (later : 0 < k) (lt : k < course.commits) :
    ∃ g, (ρ k).gatherBgp n.fabric (stateOf course.histories k) = .ok g ∧
      ρ (k + 1) = g.1.commitStagedBgp.1 := by
  obtain ⟨changed, step⟩ := course.step k later lt
  have related := exchange_forall₂ (l := course.histories) (P := fun ρ r => r = ρ k)
    (Q := fun ρ r => ∃ g, (ρ k).gatherBgp n.fabric (stateOf course.histories k) = .ok g ∧
      r = g.1.commitStagedBgp.1)
    (fun ρ r g same gathered => ⟨g, same ▸ gathered, rfl⟩)
    (by rw [List.forall₂_map_right_iff, List.forall₂_same]; exact fun _ _ => rfl) step
  rw [List.forall₂_map_right_iff, List.forall₂_same] at related
  exact related ρ member

theorem commits_at (lt : k < course.commits) :
    (ρ k).Commits (ρ (k + 1)) ∧ (ρ (k + 1)).localRoutes = (ρ k).localRoutes := by
  rcases Nat.eq_zero_or_pos k with rfl | later
  · have fresh := beforeBgp_fresh course.entered (ρ 0) (List.mem_map_of_mem member)
    exact Router.originateBgp_commits fresh (course.originated_at member lt)
  · obtain ⟨g, gathered, next⟩ := course.gathered_at member later lt
    rw [next]
    exact Router.gatherBgp_commits gathered

theorem localRoutes_eq (le : k ≤ course.commits) : (ρ k).localRoutes = (ρ 0).localRoutes := by
  induction k with
  | zero => rfl
  | succ k ih => exact (course.commits_at member le).2.trans (ih (by omega))

theorem history : Router.CommitHistory (ρ 0).localRoutes ρ course.commits := by
  obtain ⟨-, weighs, own⟩ :=
    beforeBgp_local course.reached.holdsLocal course.entered (ρ 0) (List.mem_map_of_mem member)
  exact {
    own := fun x listed => (own x listed).1
    weighs := weighs
    holds := fun k lt => (course.sound lt _ (List.mem_map_of_mem member)).tables.combined
    step := fun k lt => (course.commits_at member lt).1 }

/-- What a router holds for a network after a commit, and when its local routes are back. -/
theorem restores_iff (le : k ≤ course.commits) (p : Prefix) :
    (∀ y, y.isBgpKind = false → (y ∈ (ρ k).main.held p ↔
      y ∈ RibKind.main.best (ρ k).localRoutes p ∧ ∀ j < k, ¬(ρ j).Displaces (ρ (j + 1)) y)) ∧
    (Router.Restores (ρ k).main (ρ k).localRoutes p ↔
      (∃ x ∈ (ρ k).main.held p, x.isBgpKind = true) ∨
        ∀ y ∈ RibKind.main.best (ρ k).localRoutes p, ∀ j < k, ¬(ρ j).Displaces (ρ (j + 1)) y) ∧
    (¬Router.Restores (ρ k).main (ρ k).localRoutes p ↔
      (∃ y, y ∈ RibKind.main.best (ρ k).localRoutes p) ∧ (ρ k).main.held p = .empty) := by
  have history := course.history member
  rw [course.localRoutes_eq member le]
  exact ⟨fun y => history.mem_held_iff le, history.restores_iff le, history.not_restores_iff le⟩

end BgpCourse

theorem exists_histories {L : Nat → List Router} {last : Nat}
    (same : ∀ k ≤ last, (L k).length = (L 0).length) :
    ∃ histories, ∀ k ≤ last, stateOf histories k = L k := by
  refine ⟨(L 0).mapIdx fun i r k => (L k)[i]?.getD r, fun k le => ?_⟩
  refine List.ext_getElem (by simp [same k le]) fun i first second => ?_
  simp [second]

/-- The routers before the BGP phase of the last round, and in the states of it. -/
def LastRound.timeline (last : n.LastRound d) : Nat → List Router
  | 0 => last.entry
  | k + 1 => last.bgp.states k

theorem LastRound.length_timeline (last : n.LastRound d) {k : Nat} (le : k ≤ last.bgp.moves + 2) :
    (last.timeline k).length = last.entry.length := by
  cases k with
  | zero => rfl
  | succ k =>
    have outside := congrArg List.length (last.bgp.map_outsideBgp (Nat.le_of_succ_le_succ le))
    rwa [List.length_map, List.length_map] at outside

/-- The BGP phase of the last round is such a course. -/
theorem LastRound.exists_course (last : n.LastRound d) : ∃ course : n.BgpCourse,
    1 < course.commits ∧ stateOf course.histories course.commits = last.final := by
  obtain ⟨histories, state_eq⟩ := exists_histories fun _ => last.length_timeline
  refine ⟨{
    start := last.before
    reached := last.reached
    limit := n.settings.maxInner
    commits := last.bgp.moves + 2
    histories := histories
    entered := ?_
    originated := fun _ => ?_
    step := fun k later lt => ?_ }, Nat.succ_lt_succ (Nat.succ_pos _), state_eq _ le_rfl⟩
  · rw [state_eq 0 (by omega)]
    exact last.entered
  · rw [state_eq 0 (by omega), state_eq 1 (by omega)]
    exact last.bgp.originated
  · obtain ⟨k, rfl⟩ : ∃ j, k = j + 1 := ⟨k - 1, by omega⟩
    rw [state_eq (k + 1) (by omega), state_eq (k + 2) (by omega)]
    exact last.bgp.step (by omega)

/-- In every state of every BGP phase, up to the final data plane: of the routes that are not from BGP,
a router holds for a network the best local ones that no commit of the phase has displaced. So if it has
no BGP route for the network, the best local routes are there again exactly if they have never been
displaced; and if they are not, then the network is lost. -/
theorem local_routes_restored_iff (n : Network) :
    (∀ course : n.BgpCourse, ∀ ρ ∈ course.histories, ∀ k ≤ course.commits, ∀ p,
      (∀ y, y.isBgpKind = false → (y ∈ (ρ k).main.held p ↔
        y ∈ RibKind.main.best (ρ k).localRoutes p ∧ ∀ j < k, ¬(ρ j).Displaces (ρ (j + 1)) y)) ∧
      (Router.Restores (ρ k).main (ρ k).localRoutes p ↔
        (∃ x ∈ (ρ k).main.held p, x.isBgpKind = true) ∨
          ∀ y ∈ RibKind.main.best (ρ k).localRoutes p, ∀ j < k, ¬(ρ j).Displaces (ρ (j + 1)) y) ∧
      (¬Router.Restores (ρ k).main (ρ k).localRoutes p ↔
        (∃ y, y ∈ RibKind.main.best (ρ k).localRoutes p) ∧ (ρ k).main.held p = .empty)) ∧
    ∀ d, n.compute = .ok d → ∃ course : n.BgpCourse, d.routers =
      (stateOf course.histories course.commits).map (Router.compileForwarding n.fabric.owners) := by
  refine ⟨fun course ρ member k le p => course.restores_iff member le p, fun d done => ?_⟩
  obtain ⟨last⟩ := exists_lastRound done
  obtain ⟨course, -, final⟩ := last.exists_course
  exact ⟨course, last.result.trans (congrArg _ final.symm)⟩

def loses (p : Prefix) (d : DataPlane) : Bool :=
  d.routers.any fun r => (r.main.held p).isEmpty &&
    r.independent.routes.any fun x => x.network == p && !x.nonRouting

theorem not_restores_of_loses (lost : loses p d = true) :
    ∃ r ∈ d.routers, ¬Router.Restores r.main r.localRoutes p := by
  obtain ⟨r, member, lost⟩ := List.any_eq_true.1 lost
  obtain ⟨nothing, lost⟩ := Bool.and_eq_true_iff.1 lost
  obtain ⟨x, own, lost⟩ := List.any_eq_true.1 lost
  simp only [Bool.and_eq_true, beq_iff_eq, Bool.not_eq_true'] at lost
  obtain ⟨place, routing⟩ := lost
  refine ⟨r, member, fun restores => ?_⟩
  have candidate : x ∈ RibKind.main.candidates r.localRoutes p :=
    ⟨.inl (.inl (.inl own)), by simp [RibKind.Admits, routing], place⟩
  obtain ⟨y, best⟩ := RibKind.exists_best (suits_of_ne (by decide) _) candidate
  rw [Router.Restores, SortedSet.isEmpty_iff.1 nothing] at restores
  exact SortedSet.not_mem_empty y
    ((restores (fun x never => absurd never (SortedSet.not_mem_empty x)) y).2 best)

/-- A network with a default way to drop packets, as a last resort at the first of two routers of one
system. From a neighbor it hears of a longer way, and installs it. Then the second router tells it of a
shorter one, with a next hop that nothing covers: the longer way is withdrawn. -/
def resort : Network :=
  let target := (InterfaceAddress.ofOctets 20 0 0 0 8).network
  let process : BgpProcess := {
    routerId := .ofOctets 1 1 1 1
    localAs := 65001
    neighbors := [
      { peer := .ofOctets 10 0 0 2, remoteAs := 65001 },
      { peer := .ofOctets 10 0 1 2, remoteAs := 65001 }] }
  let settings : Vrf := {
    staticRoutes := [{ network := target, nextHop := .discard, distance := 250 }]
    bgp := some process }
  let first := ({ hostname := "first", vrfs := .ofList [(defaultVrf, settings)] } : Configuration)
    |>.withInterface "eth0" (.ofAddress (.ofOctets 10 0 0 1 30))
    |>.withInterface "eth1" (.ofAddress (.ofOctets 10 0 1 1 30))
  let second := (speaker "second" (.ofOctets 2 2 2 2) 65001 .empty [
      { peer := .ofOctets 10 0 0 1, remoteAs := 65001 },
      { peer := .ofOctets 192 0 2 2, remoteAs := 65100 }])
    |>.withInterface "eth0" (.ofAddress (.ofOctets 10 0 0 2 30))
    |>.withInterface "eth1" (.ofAddress (.ofOctets 192 0 2 1 30))
  (ofConfigurations [first, second])
    |>.addAnnouncement {
      node := "first", peer := .ofOctets 10 0 1 2, network := target, asPath := [65200, 65100] }
    |>.addAnnouncement {
      node := "second", peer := .ofOctets 192 0 2 2, network := target, asPath := [65100] }

theorem resort_loses : ∃ d, resort.compute = .ok d ∧
    loses (InterfaceAddress.ofOctets 20 0 0 0 8).network d = true :=
  of_any (by decide +kernel)

/-- The last resort is gone with the route that has displaced it. -/
theorem last_resort_is_lost : ¬∀ (n : Network) (d : DataPlane), n.compute = .ok d →
    ∀ r ∈ d.routers, ∀ p, Router.Restores r.main r.localRoutes p := by
  intro restored
  obtain ⟨d, done, lost⟩ := resort_loses
  obtain ⟨r, member, fails⟩ := not_restores_of_loses lost
  exact fails (restored resort d done r member _)

/-- On the way to the final tables a commit has displaced the last resort. -/
theorem last_resort_displaced : ∃ d, resort.compute = .ok d ∧ ∃ course : resort.BgpCourse,
    ∃ ρ ∈ course.histories, ∃ y ∈ (ρ course.commits).localRoutes,
      ∃ j < course.commits, (ρ j).Displaces (ρ (j + 1)) y := by
  obtain ⟨d, done, lost⟩ := resort_loses
  obtain ⟨r, member, fails⟩ := not_restores_of_loses lost
  obtain ⟨all, final⟩ := local_routes_restored_iff resort
  obtain ⟨course, result⟩ := final d done
  rw [result, List.map_map] at member
  obtain ⟨ρ, listed, rfl⟩ := List.mem_map.1 member
  have law := (all course ρ listed course.commits le_rfl
    (InterfaceAddress.ofOctets 20 0 0 0 8).network).2.1
  have displaced := mt law.2 fails
  push Not at displaced
  obtain ⟨-, y, best, j, lt, displaces⟩ := displaced
  exact ⟨d, done, course, ρ, listed, y, best.1.1, j, lt, displaces⟩

end Network

end RoutePlane
