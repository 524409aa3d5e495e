import RoutePlane.Proofs.Network.ShortestPaths
import RoutePlane.Proofs.Topology.Links

/-! Neighbors have each other. Links go both ways, an adjacency needs the same of both interfaces, and
every interface that runs OSPF has a cost before the OSPF loop starts: so if a router receives from
another one, then the other one receives from it. -/
namespace RoutePlane

open Schedule

theorem Interface.exists_host {i : Interface} {o : OspfInterface} (running : i.runningOspf? = some o) :
    ∃ address, i.host? = some address := by
  rw [runningOspf?] at running
  split at running
  next up =>
    obtain ⟨-, addressed⟩ := Bool.and_eq_true_iff.1 up
    exact Option.isSome_iff_exists.1 (by rw [host?, Option.isSome_map, addressed])
  next => cases running

namespace Router

variable {f : Fabric} {routers : List Router} {r o : Router} {area : Area}

/-- The first router receives from the second over an adjacency of the area. -/
def Adjoins (f : Fabric) (routers : List Router) (area : Area) (r o : Router) : Prop :=
  ∃ a ∈ r.adjacencies f routers, a.area = area ∧ a.neighbor = o

def HasCosts (r : Router) : Prop :=
  r.ospfProcess?.isSome = true → ∀ name i o, (name, i, o) ∈ r.ospfInterfaces →
    ∃ cost, r.ospf.costs.get? name = some cost

theorem hasCosts_of_bare (same : r.bare = o.initOspfCosts.bare) : r.HasCosts := by
  intro runs name i settings running
  have costs := seen_of_bare (fun r => r.ospf.costs) (fun _ => rfl) same
  have process := seen_of_bare Router.ospfProcess? (fun _ => rfl) same
  have interfaces := seen_of_bare Router.ospfInterfaces (fun _ => rfl) same
  rw [costs]
  rw [process] at runs
  rw [interfaces] at running
  rw [initOspfCosts] at runs running ⊢
  split at runs
  next none =>
    rw [none] at runs
    cases runs
  next process found =>
    refine Option.isSome_iff_exists.1 ?_
    simp only [found] at running ⊢
    exact SortedMap.isSome_get?_ofList (List.mem_map.2 ⟨_, List.mem_map.2 ⟨_, running, rfl⟩, rfl⟩)

end Router

namespace Network

variable {n : Network} {routers : List Router} {r o : Router} {area : Area} {limit steps : Nat}

/-- No step of the OSPF loop changes a device or the costs of its interfaces. -/
theorem bare_of_independent
    (done : independent n.fabric limit n.announcements = .ok (routers, steps)) :
    ∀ r ∈ routers, ∃ o : Router, r.bare = o.initOspfCosts.bare := by
  refine independent_keeps (fun c vrf r prepared => ?_) (fun routers all r member => ?_)
    (fun r before => ?_) done
  · exact ⟨_, (Router.prepare_internal prepared).1⟩
  · obtain ⟨o, same⟩ := all r member
    exact ⟨o, (Router.bare_moveInternal r).trans same⟩
  · obtain ⟨o, same⟩ := before
    exact ⟨o, same⟩

theorem HasDevices.adjoins_symm (devices : n.HasDevices routers) (costs : ∀ r ∈ routers, r.HasCosts) (member : r ∈ routers)
    (adjoins : Router.Adjoins n.fabric routers area r o) :
    o ∈ routers ∧ Router.Adjoins n.fabric routers area o r := by
  obtain ⟨a, adjacent, rfl, rfl⟩ := adjoins
  obtain ⟨runs, i, settings, l, own, active, inside, known, link, source, remote⟩ :=
    Router.mem_adjacencies_iff.1 adjacent
  obtain ⟨c, there, i', bound, settings', runs', fits, found, -, process⟩ :=
    Router.ospfNeighbor?_eq_some_iff.1 remote
  obtain ⟨neighbor, name, vrf⟩ := devices.findRouter_iff.1 found
  have configuration : a.neighbor.configuration = c := by
    have listed := get_hostname (devices.listed neighbor)
    change n.configurations.get? a.neighbor.hostname = _ at listed
    rw [name] at listed
    exact Option.some.inj (listed.symm.trans there)
  have own' : (l.target.interface, i', settings') ∈ a.neighbor.ospfInterfaces := by
    refine Router.mem_ospfInterfaces_iff.2 ⟨List.mem_filter.2 ⟨?_, ?_⟩, runs'⟩
    · rw [configuration]
      exact SortedMap.mem_toList_iff.2 bound
    · rw [vrf]
      exact beq_self_eq_true _
  obtain ⟨cost, known'⟩ := costs _ neighbor process _ _ _ own'
  obtain ⟨mine, running⟩ := Router.mem_ospfInterfaces_iff.1 own
  obtain ⟨listed, place⟩ := List.mem_filter.1 mine
  obtain ⟨address, host⟩ := Interface.exists_host running
  refine ⟨neighbor, ⟨l.target.interface, a.area, cost, r, address⟩, Router.mem_adjacencies_iff.2
    ⟨process, i', settings', l.reverse, own', fits.1, fits.2, known', Topology.reverse_mem_links link, ?_,
      Router.ospfNeighbor?_eq_some_iff.2 ⟨r.configuration, ?_, i, ?_, settings, running, ⟨active, inside⟩,
        devices.findRouter_iff.2 ⟨member, ?_, ?_⟩, host, runs⟩⟩, rfl, rfl⟩
  · show l.target = _
    rw [name]
  · show n.configurations.get? l.source.node = _
    rw [source]
    exact get_hostname (devices.listed member)
  · show r.configuration.interfaces.get? l.source.interface = _
    rw [source]
    exact SortedMap.mem_toList_iff.1 listed
  · show r.hostname = l.source.node
    rw [source]
  · exact (beq_iff_eq.1 place).symm

end Network

end RoutePlane
