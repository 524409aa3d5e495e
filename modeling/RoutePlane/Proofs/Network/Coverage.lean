import RoutePlane.Proofs.Network.Displacement
import RoutePlane.Proofs.Router.Abandonment

/-! Next hops of installed BGP routes, from the start of a BGP phase through each of its commits to the
final main tables. A next hop was covered when its route was installed. It stays covered as long as a
network around it lasts, and nothing looks for it again when the last one goes. -/
namespace RoutePlane

open Fallible

namespace Network

variable {n : Network} {d : DataPlane}

/-- In every state of every BGP phase, up to the final data plane: an installed BGP route with an address
as its next hop has come with a commit of the phase, and another entry covered the address then. One
covers it still exactly if some network around the address had routes at that time, or got some from a
later commit, and no commit has abandoned the network since. -/
theorem next_hops_covered_iff (n : Network) :
    (∀ course : n.BgpCourse, ∀ ρ ∈ course.histories, ∀ k ≤ course.commits, ∀ p,
      ∀ x ∈ (ρ k).main.held p, x.isBgpKind = true → ∀ a, x.nextHop = .address a →
        ∃ j < k, x ∈ Router.installs (ρ j).main (ρ (j + 1)).bgp.combined ∧ (ρ j).main.Covers a p ∧
          ((ρ k).main.Covers a p ↔ ∃ q, q ≠ p ∧ q.containsAddress a = true ∧
            Router.CommitHistory.Remains ρ j k q)) ∧
    ∀ d, n.compute = .ok d → ∃ course : n.BgpCourse, d.routers =
      (stateOf course.histories course.commits).map (Router.compileForwarding n.fabric.owners) := by
  constructor
  · intro course ρ member k le p x held bgp a hop
    exact (course.history member).covers_iff le held bgp hop
  · intro d done
    obtain ⟨last⟩ := exists_lastRound done
    obtain ⟨course, -, final⟩ := last.exists_course
    exact ⟨course, last.result.trans (congrArg _ final.symm)⟩

/-- Some router has installed a BGP route whose next hop nothing covers. -/
def strands (d : DataPlane) : Bool :=
  d.routers.any fun r => r.main.bindings.any fun b => b.2.toList.any fun x => x.isBgpKind &&
    match x.nextHop with
    | .address a => decide (¬r.main.Covers a b.1)
    | _ => false

theorem exists_of_strands (stranded : strands d = true) : ∃ r ∈ d.routers, ∃ p, ∃ x ∈ r.main.held p,
    x.isBgpKind = true ∧ ∃ a, x.nextHop = .address a ∧ ¬r.main.Covers a p := by
  obtain ⟨r, member, stranded⟩ := List.any_eq_true.1 stranded
  obtain ⟨⟨p, routes⟩, bound, stranded⟩ := List.any_eq_true.1 stranded
  obtain ⟨x, listed, stranded⟩ := List.any_eq_true.1 stranded
  obtain ⟨bgp, stranded⟩ := Bool.and_eq_true_iff.1 stranded
  refine ⟨r, member, p, x, Rib.mem_held_iff_bindings.2 ⟨routes, bound, listed⟩, bgp, ?_⟩
  split at stranded
  next a hop => exact ⟨a, hop, of_decide_eq_true stranded⟩
  next => cases stranded

/-- At the first of two routers of one system a route leads through a network for which a neighbor has
announced another one. Then the second router tells the first of a shorter way to that network, with a
next hop that nothing covers: the network is lost, and the route that leads through it stays. -/
def bypass : Network :=
  let near := (InterfaceAddress.ofOctets 20 0 0 0 8).network
  let far := (InterfaceAddress.ofOctets 30 0 0 0 8).network
  let first := (speaker "first" (.ofOctets 1 1 1 1) 65001 .empty [
      { peer := .ofOctets 10 0 0 2, remoteAs := 65001 },
      { peer := .ofOctets 10 0 1 2, remoteAs := 65001 }])
    |>.withInterface "eth0" (.ofAddress (.ofOctets 10 0 0 1 30))
    |>.withInterface "eth1" (.ofAddress (.ofOctets 10 0 1 1 30))
  let second := (speaker "second" (.ofOctets 2 2 2 2) 65001 .empty [
      { peer := .ofOctets 10 0 0 1, remoteAs := 65001 },
      { peer := .ofOctets 192 0 2 2, remoteAs := 65100 }])
    |>.withInterface "eth0" (.ofAddress (.ofOctets 10 0 0 2 30))
    |>.withInterface "eth1" (.ofAddress (.ofOctets 192 0 2 1 30))
  (ofConfigurations [first, second])
    |>.addAnnouncement {
      node := "first", peer := .ofOctets 10 0 1 2, network := near, asPath := [65200, 65100] }
    |>.addAnnouncement {
      node := "first", peer := .ofOctets 10 0 1 2, network := far, asPath := [65200]
      nextHop := some (.ofOctets 20 0 0 1) }
    |>.addAnnouncement {
      node := "second", peer := .ofOctets 192 0 2 2, network := near, asPath := [65100] }

theorem bypass_strands : ∃ d, bypass.compute = .ok d ∧ strands d = true :=
  of_any (by decide +kernel)

/-- A route stays when its way is gone. -/
theorem installed_next_hop_is_stranded : ¬∀ (n : Network) (d : DataPlane), n.compute = .ok d →
    ∀ r ∈ d.routers, ∀ p, ∀ x ∈ r.main.held p, x.isBgpKind = true →
      ∀ a, x.nextHop = .address a → r.main.Covers a p := by
  intro covered
  obtain ⟨d, done, stranded⟩ := bypass_strands
  obtain ⟨r, member, p, x, held, bgp, a, hop, bare⟩ := exists_of_strands stranded
  exact bare (covered bypass d done r member p x held bgp a hop)

/-- On the way to the final tables, after the route was installed, a commit has abandoned the network that
it leads through. -/
theorem way_is_abandoned : ∃ d, bypass.compute = .ok d ∧ ∃ course : bypass.BgpCourse,
    ∃ ρ ∈ course.histories, ∃ q, ∃ j, (∃ y, y ∈ (ρ j).main.held q) ∧
      ∃ m, j ≤ m ∧ m < course.commits ∧ (ρ m).Abandons (ρ (m + 1)) q := by
  obtain ⟨d, done, stranded⟩ := bypass_strands
  obtain ⟨r, member, p, x, held, bgp, a, hop, bare⟩ := exists_of_strands stranded
  obtain ⟨all, final⟩ := next_hops_covered_iff bypass
  obtain ⟨course, result⟩ := final d done
  rw [result, List.map_map] at member
  obtain ⟨ρ, listed, rfl⟩ := List.mem_map.1 member
  obtain ⟨j, -, -, ⟨q, other, inside, before⟩, remains⟩ :=
    all course ρ listed course.commits le_rfl p x held bgp a hop
  refine ⟨d, done, course, ρ, listed, q, j, before, ?_⟩
  by_contra never
  push Not at never
  exact bare (remains.2 ⟨q, other, inside, .inl ⟨before, never⟩⟩)

end Network

end RoutePlane
