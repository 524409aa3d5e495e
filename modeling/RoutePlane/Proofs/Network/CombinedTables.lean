import RoutePlane.Proofs.Network.Displacement
import RoutePlane.Proofs.Network.ExternalRoutes
import RoutePlane.Proofs.Network.TypedRuns
import RoutePlane.Proofs.Router.CombinedTables

/-! Combined tables along a computation. After every commit of every BGP phase the tables that were built
up over the steps are those that would be made of the tables as they are, and the main tables keep to
them. -/
namespace RoutePlane

open Fallible

namespace Schedule

variable {f : Fabric} {limit steps : Nat} {routers entry moved : List Router} {r e : Router}
  {announcements : List Announcement}

-- Tables are compared by what is merged into them, never by their entries.
attribute [local irreducible] Rib.mergeAll Router.installAll Router.bestRoutes

theorem independent_keepsInternal (done : independent f limit announcements = .ok (routers, steps)) :
    ∀ r ∈ routers, r.KeepsInternal := by
  obtain ⟨prepared, converged, first, second, rfl⟩ := independent_ok.1 done
  have start : ∀ r ∈ prepared, r.LacksOspf := by
    intro r member
    obtain ⟨c, -, vrf, outcome⟩ := device_of_prepared first member
    exact .prepare outcome
  have lacks : ∀ r ∈ converged, r.LacksOspf :=
    repeated_total_exchanges_keep start (fun _ all r member =>
      ⟨(all r member).combined, (all r member).independent⟩) second
  intro r member
  obtain ⟨r, source, rfl⟩ := List.mem_map.1 member
  exact (lacks r source).importOspfInternal

theorem round_keepsInternal (start : ∀ r ∈ routers, r.KeepsInternal)
    (done : round f limit routers = .ok (moved, steps)) : ∀ r ∈ moved, r.KeepsInternal := by
  intro r member
  -- the independent routes and those inside OSPF are part of what a round leaves alone
  have source : r.fixed ∈ routers.map Router.startRound := by
    rw [← round_map_fixed done]
    exact List.mem_map_of_mem member
  obtain ⟨b, listed, same⟩ := List.mem_map.1 source
  have keeps : b.startRound.KeepsInternal := start b listed
  rw [same] at keeps
  exact keeps

/-- When BGP starts, all OSPF routes have been combined. -/
theorem beforeBgp_hasOspf (start : ∀ r ∈ routers, r.KeepsInternal)
    (done : beforeBgp f limit routers = .ok entry) : ∀ r ∈ entry, r.HasOspf := by
  obtain ⟨exported, converged, _, first, second, rfl⟩ := beforeBgp_ok.1 done
  have afterExports : ∀ r ∈ exported, r.ospf.combined = r.internalOspf ∧ r.KeepsInternal := by
    refine beforeOspf_keeps ?_ ?_ ?_ ?_ first
    · intro r member
      exact ⟨rfl, start r member⟩
    · intro r before
      obtain ⟨ready, effect⟩ := r.activateStatic_effect
      rw [effect]
      exact before
    · intro r before
      obtain ⟨ready, effect⟩ := r.activateGenerated_effect
      rw [effect]
      exact before
    · intro r m before outcome
      obtain ⟨l, -, rfl⟩ := Router.initOspfExports_effect outcome
      exact before
  have afterExternal : ∀ r ∈ converged, r.ospf.combined = r.internalOspf ∧ r.KeepsInternal :=
    repeated_total_exchanges_keep afterExports (fun _ all r member => all r member) second
  intro r member
  obtain ⟨r, source, rfl⟩ := List.mem_map.1 member
  obtain ⟨combined, keeps⟩ := afterExternal r source
  exact .importOspfExternal combined keeps

/-- BGP leaves the OSPF routes alone. -/
theorem hasOspf_of_outsideBgp (same : outsideBgp r = outsideBgp e) (has : e.HasOspf) : r.HasOspf := by
  obtain ⟨fixed, ospf⟩ := Prod.mk.inj same
  refine ⟨?_, ?_⟩
  · have combined := has.combined
    simp only [Router.recombinedOspf, Router.internalOspf, ← ospf] at combined
    exact combined
  · have keeps : e.fixed.KeepsInternal := has.keeps
    rw [← fixed] at keeps
    exact keeps

end Schedule

namespace Network

open Schedule

variable {n : Network} {d : DataPlane} {routers : List Router}

theorem RoundStart.reaches (start : n.RoundStart routers) : n.Reaches routers := by
  induction start with
  | first done => exact reaches_independent done
  | next _ done ih => exact ih.round done

theorem RoundStart.keepsInternal (start : n.RoundStart routers) : ∀ r ∈ routers, r.KeepsInternal := by
  induction start with
  | first done => exact independent_keepsInternal done
  | next _ done ih => exact round_keepsInternal ih done

theorem Reaches.standard (reached : n.Reaches routers) :
    ∀ r ∈ routers, r.HoldsOnly Router.standardRoutes :=
  @Reaches.holdsOnly n (fun _ => Router.standardRoutes) routers
    (fun routers _ _ r _ => Router.sources_standard n.fabric n.announcements routers r) reached

namespace BgpCourse

variable (course : n.BgpCourse) {ρ : Nat → Router} {k : Nat}

theorem reaches (le : k ≤ course.commits) : n.Reaches (stateOf course.histories k) := by
  induction k with
  | zero => exact course.reached.reaches.beforeBgp course.entered
  | succ k ih =>
    have before := ih (by omega)
    rcases Nat.eq_zero_or_pos k with rfl | later
    · exact before.mapM (fun _ _ => .originateBgp) (course.originated le)
    · obtain ⟨changed, step⟩ := course.step k later le
      exact before.bgpStep step

variable (member : ρ ∈ course.histories)
include member

theorem hasOspf (le : k ≤ course.commits) : (ρ k).HasOspf := by
  induction k with
  | zero =>
    exact beforeBgp_hasOspf course.reached.keepsInternal course.entered _ (List.mem_map_of_mem member)
  | succ k ih =>
    refine hasOspf_of_outsideBgp ?_ (ih (by omega))
    rcases Nat.eq_zero_or_pos k with rfl | later
    · exact outsideBgp_originateBgp (course.originated_at member le)
    · obtain ⟨g, gathered, next⟩ := course.gathered_at member later le
      rw [next]
      exact outsideBgp_gatherBgp gathered

/-- After each commit the BGP tables are combined of all that has been learned. -/
theorem hasCommitted (some : 0 < k) (le : k ≤ course.commits) : (ρ k).HasCommitted := by
  induction k with
  | zero => exact absurd some (Nat.lt_irrefl 0)
  | succ k ih =>
    have sound := course.sound (Nat.le_of_succ_le le)
    have own := sound (ρ k) (List.mem_map_of_mem member)
    rcases Nat.eq_zero_or_pos k with rfl | later
    · have entry : ρ 0 ∈ stateOf course.histories 0 := List.mem_map_of_mem member
      have fresh := beforeBgp_fresh course.entered (ρ 0) entry
      obtain ⟨-, weighs, locals⟩ :=
        beforeBgp_local course.reached.holdsLocal course.entered (ρ 0) entry
      have plain (p : Prefix) (x : Route) (held : x ∈ (ρ 0).main.held p) : x.isBgpKind = false :=
        (locals x (weighs.mem_iff.1 held).1.1).1
      exact .originate own fresh plain (course.originated_at member le)
    · obtain ⟨g, gathered, next⟩ := course.gathered_at member later le
      rw [next]
      exact (ih later (by omega)).step sound own gathered

theorem agrees (some : 0 < k) (le : k ≤ course.commits) : (ρ k).Agrees := by
  have here : ρ k ∈ stateOf course.histories k := List.mem_map_of_mem member
  refine (course.hasCommitted member some le).agrees (course.hasOspf member le)
    ((course.reaches le).typed _ here) ((course.reaches le).standard _ here) ?_
  intro p x held other
  exact (((course.restores_iff member le p).1 x other).1 held).1.1.1

end BgpCourse

/-- After every commit of every BGP phase, also while the next routes are gathered, and so in the result:
the combined tables are what they would be if they were made anew, and the main tables agree with them. -/
theorem combined_tables_agree (n : Network) :
    (∀ course : n.BgpCourse, ∀ ρ ∈ course.histories, ∀ k, 0 < k → k ≤ course.commits →
      (ρ k).Agrees ∧ ∀ g, (ρ k).gatherBgp n.fabric (stateOf course.histories k) = .ok g →
        g.1.Agrees) ∧
    ∀ d, n.compute = .ok d → ∀ r ∈ d.routers, r.Agrees := by
  constructor
  · intro course ρ member k some le
    have agrees := course.agrees member some le
    refine ⟨agrees, fun g gathered => ?_⟩
    obtain ⟨arrived, rfl, -⟩ := Router.gatherBgp_ok gathered
    exact { agrees with }
  · intro d done r member
    obtain ⟨last⟩ := exists_lastRound done
    obtain ⟨course, commits, final⟩ := last.exists_course
    rw [last.result.trans (congrArg _ final.symm), List.map_map] at member
    obtain ⟨ρ, listed, rfl⟩ := List.mem_map.1 member
    exact { course.agrees listed (Nat.zero_lt_of_lt commits) le_rfl with }

/-- Two routers on a long OSPF link. The second has a network inside OSPF and announces it as external
too, with less than the way to it costs. A peer of the first announces another network. -/
def contested : Network :=
  let link (host : Nat) :=
    Interface.withOspf (.ofAddress (.ofOctets 10 0 0 host 30)) .backbone (some 50)
  let first := ({ hostname := "first", vrfs := .ofList [(defaultVrf, {
      ospf := some { routerId := .ofOctets 1 1 1 1 }
      bgp := some {
        routerId := .ofOctets 1 1 1 1
        localAs := 65001
        neighbors := [{ peer := .ofOctets 192 0 2 2, remoteAs := 65100 }] } })] } : Configuration)
    |>.withInterface "eth0" (link 1)
    |>.withInterface "eth1" (.ofAddress (.ofOctets 192 0 2 1 30))
  let second := ({
      hostname := "second"
      vrfs := .ofList [(defaultVrf, {
        ospf := some { routerId := .ofOctets 2 2 2 2, exportPolicy := some "all" } })]
      routeMaps := .ofList [("all", .ofEntries "all" [{
        sequence := 10, action := .accept, conditions := [], actions := [], next := .exit }])] } :
      Configuration)
    |>.withInterface "eth0" (link 2)
    |>.withInterface "lo" ((Interface.ofLoopback (.ofOctets 9 9 9 9 32)).withOspf .backbone (some 1))
  (ofConfigurations [first, second]).addAnnouncement {
    node := "first", peer := .ofOctets 192 0 2 2, network := behind, asPath := [65100] }

/-- The first router installs the announced route, and keeps to the way inside OSPF. -/
def keepsToOspf (r : Router) : Bool :=
  r.main.routes.any (·.isBgpKind) && r.main.routes.any fun x => x.protocol.isOspf &&
    r.ospf.e2.routes.any fun y => y.network == x.network && decide (y.metric < x.metric)

theorem contested_tables_agree : ∃ d, contested.compute = .ok d ∧
    (∃ r ∈ d.routers, keepsToOspf r = true) ∧ (∀ r ∈ d.routers, r.Agrees) ∧
    ∃ course : contested.BgpCourse, ∃ ρ ∈ course.histories, ∃ g,
      0 < 1 ∧ 1 ≤ course.commits ∧ (ρ 1).Agrees ∧
      (ρ 1).gatherBgp contested.fabric (stateOf course.histories 1) = .ok g ∧ g.1.Agrees := by
  obtain ⟨d, done, keeps⟩ := of_any (x := contested.compute)
    (p := fun d => d.routers.any keepsToOspf) (by decide +kernel)
  obtain ⟨r, member, keeps⟩ := List.any_eq_true.1 keeps
  obtain ⟨steps, final⟩ := combined_tables_agree contested
  obtain ⟨last⟩ := exists_lastRound done
  obtain ⟨course, commits, same⟩ := last.exists_course
  have listed := member
  rw [last.result.trans (congrArg _ same.symm), List.map_map] at listed
  obtain ⟨ρ, source, -⟩ := List.mem_map.1 listed
  obtain ⟨g, gathered, -⟩ := course.gathered_at source Nat.one_pos commits
  obtain ⟨agrees, staged⟩ := steps course ρ source 1 Nat.one_pos (Nat.le_of_lt commits)
  exact ⟨d, done, ⟨r, member, keeps⟩, final d done, course, ρ, source, g, Nat.one_pos,
    Nat.le_of_lt commits, agrees, gathered, staged g gathered⟩

end Network

end RoutePlane
