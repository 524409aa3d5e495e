import Mathlib.Data.List.Basic
import Mathlib.Data.Option.Basic
import RoutePlane.Proofs.Router.OspfOffers
import RoutePlane.Proofs.Topology.Links

/-! What makes two routers adjacent, and that adjacencies are there from the start. Which routers are
adjacent, over which interfaces and at what cost, depends on the devices and on the costs of their
interfaces only, not on any table. -/
namespace RoutePlane

structure Fabric.LinksLike (f f' : Fabric) : Prop where
  topology : f'.topology = f.topology
  interfaces : ∀ node, (f'.configurations.get? node).map (·.interfaces) =
    (f.configurations.get? node).map (·.interfaces)

theorem Fabric.LinksLike.refl (f : Fabric) : f.LinksLike f := ⟨rfl, fun _ => rfl⟩

namespace Router

/-- A router without its tables: the device, and the costs of the interfaces that run OSPF. -/
def bare (r : Router) : Router :=
  { configuration := r.configuration, vrf := r.vrf, ospf := { costs := r.ospf.costs } }

variable {f : Fabric} {routers : List Router} {r : Router} {a : Adjacency} {look : Router → Router}

theorem ospfNeighbor?_eq_some_iff {area : Area} {far : InterfaceId} {neighbor : Router}
    {address : Address} : ospfNeighbor? f routers area far = some (neighbor, address) ↔
      ∃ c, f.configurations.get? far.node = some c ∧
      ∃ i, c.interfaces.get? far.interface = some i ∧
      ∃ o, i.runningOspf? = some o ∧ (o.passive = false ∧ o.area = area) ∧
        findRouter? routers far.node i.vrf = some neighbor ∧ i.host? = some address ∧
        neighbor.ospfProcess?.isSome = true := by
  simp only [ospfNeighbor?, Option.bind_eq_bind, Option.bind_eq_some_iff, Option.guard_eq_some',
    Option.pure_def, Option.some.injEq, Prod.mk.injEq, exists_const, Bool.and_eq_true,
    Bool.not_eq_true', beq_iff_eq]
  constructor
  · rintro ⟨c, known, i, bound, o, runs, fits, _, found, _, host, process, rfl, rfl⟩
    exact ⟨c, known, i, bound, o, runs, fits, found, host, process⟩
  · rintro ⟨c, known, i, bound, o, runs, fits, found, host, process⟩
    exact ⟨c, known, i, bound, o, runs, fits, _, found, _, host, process, rfl, rfl⟩

theorem mem_adjacencies_iff : a ∈ r.adjacencies f routers ↔ r.ospfProcess?.isSome = true ∧
    ∃ i o l, (a.interface, i, o) ∈ r.ospfInterfaces ∧ o.passive = false ∧ o.area = a.area ∧
      r.ospf.costs.get? a.interface = some a.cost ∧ l ∈ f.topology.links ∧
      l.source = ⟨r.hostname, a.interface⟩ ∧
      ospfNeighbor? f routers a.area l.target = some (a.neighbor, a.neighborAddress) := by
  rw [adjacencies]
  split
  next none => simp [Option.isNone_iff_eq_none.1 none]
  next runs =>
    rw [Bool.not_eq_true, Option.isNone_eq_false_iff] at runs
    simp only [runs, true_and, List.mem_flatMap, List.mem_filter, Bool.not_eq_true']
    constructor
    · rintro ⟨⟨name, i, o⟩, ⟨own, active⟩, member⟩
      dsimp only at member
      split at member
      next => exact absurd member List.not_mem_nil
      next cost known =>
        obtain ⟨l, listed, found⟩ := List.mem_filterMap.1 member
        obtain ⟨link, source⟩ := Topology.mem_linksFrom_iff.1 listed
        obtain ⟨⟨neighbor, address⟩, remote, rfl⟩ := Option.map_eq_some_iff.1 found
        exact ⟨i, o, l, own, active, rfl, known, link, source, remote⟩
    · rintro ⟨i, o, l, own, active, area, known, link, source, remote⟩
      refine ⟨(a.interface, i, o), ⟨own, active⟩, ?_⟩
      dsimp only
      rw [known, area]
      refine List.mem_filterMap.2 ⟨l, Topology.mem_linksFrom_iff.2 ⟨link, source⟩, ?_⟩
      rw [remote]
      rfl

theorem seen_of_bare {κ : Type} (see : Router → κ) (shown : ∀ r : Router, see r.bare = see r)
    {r o : Router} (same : r.bare = o.bare) : see r = see o := by
  rw [← shown, same, shown]

def Adjacency.map (look : Router → Router) (a : Adjacency) : Adjacency :=
  { a with neighbor := look a.neighbor }

/-- What a look leaves of a router for others to find it. -/
structure LeavesNames (look : Router → Router) : Prop where
  hostname : ∀ r, (look r).hostname = r.hostname
  vrf : ∀ r, (look r).vrf = r.vrf

/-- What a look leaves of a router for OSPF: its interfaces, and their costs. -/
structure LeavesOspf (look : Router → Router) : Prop extends LeavesNames look where
  process : ∀ r, (look r).ospfProcess? = r.ospfProcess?
  interfaces : ∀ r, (look r).ospfInterfaces = r.ospfInterfaces
  costs : ∀ r, (look r).ospf.costs = r.ospf.costs

section Looks

variable {f' : Fabric}

theorem LeavesNames.findRouter (leaves : LeavesNames look) (node vrf : String) :
    findRouter? (routers.map look) node vrf = (findRouter? routers node vrf).map look := by
  rw [findRouter?, List.find?_map]
  simp only [Function.comp_def, leaves.hostname, leaves.vrf]
  rfl

variable (leaves : LeavesOspf look) (links : f.LinksLike f')
include leaves links

theorem LeavesOspf.ospfNeighbor (area : Area) (far : InterfaceId) :
    ospfNeighbor? f' (routers.map look) area far =
      (ospfNeighbor? f routers area far).map fun n => (look n.1, n.2) := by
  have interfaces := links.interfaces far.node
  simp only [ospfNeighbor?, Option.bind_eq_bind]
  cases known : f.configurations.get? far.node with
  | none =>
    rw [known, Option.map_none, Option.map_eq_none_iff] at interfaces
    rw [interfaces]
    rfl
  | some c =>
    rw [known, Option.map_some, Option.map_eq_some_iff] at interfaces
    obtain ⟨c', known', same⟩ := interfaces
    rw [known', Option.bind_some, Option.bind_some, same]
    simp only [leaves.findRouter, Option.map_bind, Function.comp_def, Option.bind_map, leaves.process]
    rfl

theorem LeavesOspf.adjacencies : (look r).adjacencies f' (routers.map look) =
    (r.adjacencies f routers).map (Adjacency.map look) := by
  rw [Router.adjacencies, Router.adjacencies, leaves.process, leaves.interfaces, leaves.costs,
    leaves.hostname, links.topology]
  split
  · rfl
  · rw [List.map_flatMap]
    refine List.flatMap_congr fun i _ => ?_
    obtain ⟨name, settings, o⟩ := i
    dsimp only
    split
    · rfl
    · rw [List.map_filterMap]
      refine List.filterMap_congr fun l _ => ?_
      rw [leaves.ospfNeighbor links, Option.map_map, Option.map_map]
      rfl

end Looks

section Bare

variable (keeps : ∀ r, (look r).bare = r.bare)
include keeps

theorem seen_of_keeps {κ : Type} (see : Router → κ) (shown : ∀ r : Router, see r.bare = see r)
    (r : Router) : see (look r) = see r :=
  seen_of_bare see shown (keeps r)

theorem LeavesOspf.of_bare : LeavesOspf look where
  hostname := seen_of_keeps keeps hostname fun _ => rfl
  vrf := seen_of_keeps keeps Router.vrf fun _ => rfl
  process := seen_of_keeps keeps ospfProcess? fun _ => rfl
  interfaces := seen_of_keeps keeps ospfInterfaces fun _ => rfl
  costs := seen_of_keeps keeps (fun r => r.ospf.costs) fun _ => rfl

theorem adjacencies_map : (look r).adjacencies f (routers.map look) =
    (r.adjacencies f routers).map (Adjacency.map look) :=
  (LeavesOspf.of_bare keeps).adjacencies (.refl f)

end Bare

end Router

end RoutePlane
