import RoutePlane.Proofs.Network.Neighborhood
import RoutePlane.Proofs.Router.Vouching

/-! How far networks are known inside OSPF. When the OSPF loop has ended, a router knows what its
neighbors know, unless one on the border of areas withholds it: that one keeps its best routes between
areas only, whatever area they come from, and brings up those of the backbone alone. In a hierarchy of
areas this is the only reason for a router not to know a network. -/
namespace RoutePlane

open Schedule

-- Tables are compared by what is merged into them, never by their entries.
attribute [local irreducible] Rib.mergeAll

namespace Router

variable {f : Fabric} {routers : List Router} {r : Router} {a : Adjacency} {x : Route} {network : Prefix}

section Steps

variable (all : ∀ r ∈ routers, r.IsVouched routers)
include all

theorem intraArrivals_vouched : ∀ x ∈ r.intraArrivals f routers, x ∈ vouched routers r := by
  intro x member
  obtain ⟨a, adjacent, candidate⟩ := mem_intraArrivals_iff.1 member
  exact arrives_vouched all adjacent (.inl candidate)

theorem interArrivals_vouched : ∀ x ∈ r.interArrivals f routers, x ∈ vouched routers r := by
  intro x member
  obtain ⟨a, adjacent, candidate⟩ := mem_interArrivals_iff.1 member
  exact arrives_vouched all adjacent (.inr candidate)

variable (own : r.IsVouched routers)
include own

theorem Knows.move (knows : r.Knows network) : (r.moveInternal f routers).Knows network := by
  obtain ⟨x, held | held⟩ := knows
  · obtain ⟨y, kept⟩ := own.intra.exists_held_staged own.stagedIntra (intraArrivals_vouched (f := f) all)
      (by decide) (.inl held)
    exact ⟨y, .inl kept⟩
  · obtain ⟨y, kept⟩ := own.inter.exists_held_staged own.stagedInter (interArrivals_vouched (f := f) all)
      (by decide) (.inl held)
    exact ⟨y, .inr kept⟩

theorem Arrives.move (adjacent : a ∈ r.adjacencies f routers) (arrives : r.Arrives a x) :
    (r.moveInternal f routers).Knows x.network := by
  rcases arrives with inside | between
  · obtain ⟨y, kept⟩ := own.intra.exists_held_staged own.stagedIntra (intraArrivals_vouched (f := f) all)
      (by decide) (.inr ⟨mem_intraArrivals_iff.2 ⟨a, adjacent, inside⟩, rfl⟩)
    exact ⟨y, .inl kept⟩
  · obtain ⟨y, kept⟩ := own.inter.exists_held_staged own.stagedInter (interArrivals_vouched (f := f) all)
      (by decide) (.inr ⟨mem_interArrivals_iff.2 ⟨a, adjacent, between⟩, rfl⟩)
    exact ⟨y, .inr kept⟩

omit own in
theorem vouched_move : vouched routers r ⊆
    vouched (routers.map (moveInternal f routers)) (r.moveInternal f routers) := by
  rintro x ⟨data, known, inside, o, member, runs, name, knows⟩
  exact ⟨data, known, inside, _, List.mem_map_of_mem member, runs, name, knows.move all (all o member)⟩

theorem IsVouched.move :
    (r.moveInternal f routers).IsVouched (routers.map (moveInternal f routers)) := by
  have wider {t : Rib} {k : RibKind} (draws : t.DrawsFrom k (vouched routers r)) (other : k ≠ .bgp) :
      t.DrawsFrom k (vouched (routers.map (moveInternal f routers)) (r.moveInternal f routers)) :=
    draws.restrict (fun _ _ never => absurd never other) fun x member =>
      vouched_move all (draws.mem member)
  have stagedIntra := own.stagedIntra.mergeAll (intraArrivals_vouched (f := f) all)
  have stagedInter := own.stagedInter.mergeAll (interArrivals_vouched (f := f) all)
  exact {
    own := fun x base => (own.own x base).move all own
    intra := wider (own.intra.absorb stagedIntra) (by decide)
    inter := wider (own.inter.absorb stagedInter) (by decide)
    stagedIntra := wider stagedIntra (by decide)
    stagedInter := wider stagedInter (by decide) }

omit all in
theorem IsVouched.routes_of_idle
    (idle : (r.gatherOspfInternal f routers).1.commitOspfInternal.2 = false) :
    (r.moveInternal f routers).ospf.intra.routes = r.ospf.intra.routes ∧
      (r.moveInternal f routers).ospf.inter.routes = r.ospf.inter.routes := by
  obtain ⟨stillIntra, stillInter⟩ := Bool.or_eq_false_iff.1 idle
  exact ⟨own.intra.routes_of_still (by decide) stillIntra,
    own.inter.routes_of_still (by decide) stillInter⟩

/-- After an idle step the routers know all that still arrives. -/
theorem IsVouched.supplied
    (idle : ∀ r ∈ routers, (r.gatherOspfInternal f routers).1.commitOspfInternal.2 = false) :
    (r.moveInternal f routers).IsSupplied f (routers.map (moveInternal f routers)) := by
  refine { own.move all with supplied := fun a adjacent x arrives => ?_ }
  rw [adjacencies_map bare_moveInternal] at adjacent
  obtain ⟨a, before, rfl⟩ := List.mem_map.1 adjacent
  have neighbor := (mem_adjacencies before).2
  obtain ⟨intra, inter⟩ := (all _ neighbor).routes_of_idle (idle _ neighbor)
  -- The neighbor held the same routes before the step, so they have arrived in it.
  have arrived : r.Arrives a x := by
    simp only [Arrives, mem_intraCandidates_iff, mem_summaryCandidates_iff, mem_interCandidates_iff,
      mem_ospfOffers_iff] at arrives ⊢
    rw [← intra, ← inter]
    exact arrives
  exact Arrives.move all own before arrived

end Steps

section Import

variable (own : r.IsVouched routers)
include own

/-- Where the OSPF table is empty before, it gets a route for what the router knows. -/
theorem IsVouched.combined_iff (empty : r.ospf.combined = .empty .ospf) :
    (∃ x, x ∈ r.importOspfInternal.ospf.combined.held network) ↔ r.Knows network := by
  have pool : ∀ x ∈ {x : Route | r.Knows x.network}, RibKind.ospf.Suits x := fun _ _ never => by
    cases never
  have intra : r.ospf.intra.DrawsFrom .ospfIntra {x | r.Knows x.network} :=
    own.intra.restrict (fun _ _ never => by cases never) fun _ => own.knows_of_intra
  have inter : r.ospf.inter.DrawsFrom .ospfInter {x | r.Knows x.network} :=
    own.inter.restrict (fun _ _ never => by cases never) fun _ => own.knows_of_inter
  have first := (Rib.DrawsFrom.empty pool).absorb intra
  have second := first.absorb inter
  have combined : r.importOspfInternal.ospf.combined =
      (((Rib.empty .ospf).absorb r.ospf.intra).1.absorb r.ospf.inter).1 := by
    rw [← empty]
    rfl
  rw [combined]
  constructor
  · rintro ⟨x, held⟩
    exact second.network_eq held ▸ second.mem_of_held held
  · have absorbed {x : Route} := first.exists_held_mergeAll (x := x) (p := network) fun _ => inter.mem
    have admits {x : Route} : RibKind.ospf.Admits x := RibKind.admits_of_ne (by decide)
    rintro ⟨x, held | held⟩
    · obtain ⟨y, kept⟩ := (Rib.DrawsFrom.empty pool).exists_held_mergeAll (fun _ => intra.mem)
        (.inr ⟨Rib.mem_routes_iff.2 ⟨network, held⟩, admits, intra.network_eq held⟩)
      exact absorbed (.inl kept)
    · exact absorbed (.inr ⟨Rib.mem_routes_iff.2 ⟨network, held⟩, admits, inter.network_eq held⟩)

theorem IsVouched.import : r.importOspfInternal.IsVouched (routers.map importOspfInternal) := by
  have wider {t : Rib} {k : RibKind} (draws : t.DrawsFrom k (vouched routers r)) (other : k ≠ .bgp) :
      t.DrawsFrom k (vouched (routers.map importOspfInternal) r.importOspfInternal) := by
    refine draws.restrict (fun _ _ never => absurd never other) fun x member => ?_
    obtain ⟨data, known, inside, o, listed, runs, name, knows⟩ := draws.mem member
    exact ⟨data, known, inside, _, List.mem_map_of_mem listed, runs, name, knows⟩
  exact {
    own := own.own
    intra := wider own.intra (by decide)
    inter := wider own.inter (by decide)
    stagedIntra := wider own.stagedIntra (by decide)
    stagedInter := wider own.stagedInter (by decide) }

theorem IsVouched.knows_attached (costs : r.HasCosts) (runs : r.ospfProcess?.isSome = true)
    (attached : ∃ b ∈ r.ospfInterfaces, b.2.1.network? = some network) : r.Knows network := by
  obtain ⟨⟨name, i, o⟩, running, place⟩ := attached
  obtain ⟨cost, known⟩ := costs runs name i o running
  have knows := own.own _ (mem_ospfBaseRoutes_iff.2
    ⟨runs, name, i, o, network, cost, running, place, known, rfl⟩)
  exact knows

end Import

theorem IsSupplied.import (supplied : r.IsSupplied f routers) :
    r.importOspfInternal.IsSupplied f (routers.map importOspfInternal) := by
  refine { supplied.toIsVouched.import with supplied := fun a adjacent x arrives => ?_ }
  have keeps (r : Router) : r.importOspfInternal.bare = r.bare := rfl
  rw [adjacencies_map keeps] at adjacent
  obtain ⟨a, before, rfl⟩ := List.mem_map.1 adjacent
  exact supplied.supplied a before x arrives

def IsIn (r : Router) (area : Area) : Prop :=
  r.ospfProcess?.isSome = true ∧ ∃ b ∈ r.ospfInterfaces, b.2.2.area = area

instance {r : Router} {area : Area} : Decidable (r.IsIn area) :=
  inferInstanceAs (Decidable (_ ∧ ∃ b ∈ r.ospfInterfaces, _))

theorem isAreaBorder_iff : r.isAreaBorder = true ↔
    (∃ b ∈ r.ospfInterfaces, b.2.2.area = .backbone) ∧
      ∃ b ∈ r.ospfInterfaces, b.2.2.area ≠ .backbone := by
  simp [isAreaBorder, Area.isBackbone]

end Router

namespace Network

variable {n : Network} {network : Prefix} {routers : List Router} {r o : Router} {area : Area}
  {limit steps : Nat}

theorem prepared_vouched (done : n.fabric.freshRouters.mapM (prepare n.announcements) = .ok routers) :
    ∀ r ∈ routers, r.IsVouched routers ∧ r.ospf.combined = .empty .ospf := by
  intro r member
  obtain ⟨-, outcome⟩ := prepared_source done member
  obtain ⟨-, staging, -, inter, combined⟩ := Router.prepare_internal outcome
  have weighs := prepared_weighs done member
  have own : ∀ x ∈ r.ospfBaseRoutes, r.Knows x.network := by
    intro x base
    obtain ⟨y, held⟩ := weighs.exists_held ⟨base, RibKind.admits_of_ne (by decide), rfl⟩
    exact ⟨y, .inl held⟩
  have empty (k : RibKind) (other : k ≠ .bgp) :
      (Rib.empty k).DrawsFrom k (Router.vouched routers r) :=
    .empty fun _ _ never => absurd never other
  refine ⟨⟨own, ?_, ?_, ?_, ?_⟩, combined⟩
  · refine weighs.drawsFrom (fun _ _ never => by cases never) fun x base => ?_
    have knows := own x base
    obtain ⟨runs, name, i, o, place, cost, running, -, -, rfl⟩ :=
      Router.mem_ospfBaseRoutes_iff.1 base
    exact ⟨_, rfl, ⟨_, running, rfl⟩, r, member, runs, rfl, knows⟩
  · rw [inter]
    exact empty .ospfInter (by decide)
  · rw [staging]
    exact empty .ospfIntra (by decide)
  · rw [staging]
    exact empty .ospfInter (by decide)

/-- When the OSPF loop has ended, all routers are supplied, and the OSPF tables have routes for what the
routers know. -/
theorem independent_supplied
    (done : independent n.fabric limit n.announcements = .ok (routers, steps)) :
    ∀ r ∈ routers, r.IsSupplied n.fabric routers ∧
      ∀ network, (∃ x, x ∈ r.ospf.combined.held network) ↔ r.Knows network := by
  obtain ⟨prepared, converged, first, ended, rfl⟩ := independent_ok.1 done
  obtain ⟨last, good, rfl, idle⟩ := exists_idle_ospfInternal
    (P := fun routers => ∀ r ∈ routers, r.IsVouched routers ∧ r.ospf.combined = .empty .ospf)
    (prepared_vouched first) (fun routers good r member => by
      obtain ⟨r, before, rfl⟩ := List.mem_map.1 member
      exact ⟨(good r before).1.move fun r member => (good r member).1, (good r before).2⟩) ended
  intro r member
  obtain ⟨moved, listed, rfl⟩ := List.mem_map.1 member
  obtain ⟨r, before, rfl⟩ := List.mem_map.1 listed
  have vouched (r : Router) (member : r ∈ last) := (good r member).1
  have supplied := (vouched r before).supplied (f := n.fabric) vouched idle
  exact ⟨supplied.import, fun _ => supplied.toIsVouched.combined_iff (good r before).2⟩

/-- The OSPF routers of the backbone are connected inside it. Every other OSPF router has its interfaces
in one area, and is connected inside it to a router on the border. -/
structure IsHierarchical (f : Fabric) (routers : List Router) : Prop where
  backbone : ∀ r ∈ routers, ∀ o ∈ routers, r.IsIn .backbone → o.IsIn .backbone →
    Relation.ReflTransGen (Router.Adjoins f routers .backbone) r o
  others : ∀ r ∈ routers, r.ospfProcess?.isSome = true → ¬r.IsIn .backbone → ∃ area,
    (∀ b ∈ r.ospfInterfaces, b.2.2.area = area) ∧
      ∃ o, Relation.ReflTransGen (Router.Adjoins f routers area) r o ∧ o.isAreaBorder = true

/-- In a hierarchy a router with interfaces in several areas is on the border. -/
theorem IsHierarchical.single_or_border {f : Fabric} (hierarchy : IsHierarchical f routers)
    (member : r ∈ routers) (inside : r.IsIn area) :
    (∀ b ∈ r.ospfInterfaces, b.2.2.area = area) ∨ r.isAreaBorder = true := by
  by_cases backbone : r.IsIn .backbone
  · by_cases single : ∀ b ∈ r.ospfInterfaces, b.2.2.area = .backbone
    · obtain ⟨-, b, own, rfl⟩ := inside
      exact .inl fun c other => (single c other).trans (single b own).symm
    · push Not at single
      exact .inr (Router.isAreaBorder_iff.2 ⟨backbone.2, single⟩)
  · obtain ⟨other, single, -⟩ := hierarchy.others r member inside.1 backbone
    obtain ⟨-, b, own, rfl⟩ := inside
    exact .inl fun c listed => (single c listed).trans (single b own).symm

/-- A hierarchy with chains of one adjacency: backbone routers are neighbors of each other, and every
other OSPF router has a neighbor on the border. -/
structure IsShallow (f : Fabric) (routers : List Router) : Prop where
  backbone : ∀ r ∈ routers, ∀ o ∈ routers, r.IsIn .backbone → o.IsIn .backbone →
    r.hostname = o.hostname ∧ r.vrf = o.vrf ∨ ∃ a ∈ r.adjacencies f routers, a.area = .backbone ∧
      a.neighbor.hostname = o.hostname ∧ a.neighbor.vrf = o.vrf
  others : ∀ r ∈ routers, r.ospfProcess?.isSome = true → ¬r.IsIn .backbone →
    ∃ a ∈ r.adjacencies f routers, (∀ b ∈ r.ospfInterfaces, b.2.2.area = a.area) ∧
      a.neighbor.isAreaBorder = true

instance {f : Fabric} : Decidable (IsShallow f routers) :=
  decidable_of_iff (_ ∧ _) ⟨fun both => ⟨both.1, both.2⟩, fun shallow => ⟨shallow.1, shallow.2⟩⟩

theorem IsShallow.isHierarchical (shallow : IsShallow n.fabric routers)
    (devices : n.HasDevices routers) : IsHierarchical n.fabric routers where
  backbone := by
    intro r member o other inside inside'
    rcases shallow.backbone r member o other inside inside' with ⟨name, vrf⟩ | found
    · rw [devices.eq_of_names member other name vrf]
    · obtain ⟨a, adjacent, area, name, vrf⟩ := found
      have neighbor := (Router.mem_adjacencies adjacent).2
      exact .single ⟨a, adjacent, area, devices.eq_of_names neighbor other name vrf⟩
  others := by
    intro r member runs outside
    obtain ⟨a, adjacent, single, border⟩ := shallow.others r member runs outside
    exact ⟨a.area, single, a.neighbor, .single ⟨a, adjacent, rfl, rfl⟩, border⟩

section Chains

variable {f : Fabric} (chain : Relation.ReflTransGen (Router.Adjoins f routers area) r o)
  (member : r ∈ routers)
include chain member

/-- What the end of a chain knows its start knows, if all routers learn from their neighbors. -/
theorem knows_of_chain (learns : ∀ r ∈ routers, ∀ a ∈ r.adjacencies f routers,
    a.neighbor.Knows network → r.Knows network) (knows : o.Knows network) : r.Knows network := by
  induction chain using Relation.ReflTransGen.head_induction_on with
  | refl => exact knows
  | head first _ ih =>
    obtain ⟨a, adjacent, -, rfl⟩ := first
    exact learns _ member a adjacent (ih (Router.mem_adjacencies adjacent).2)

theorem chain_symm (symm : ∀ r ∈ routers, ∀ o, Router.Adjoins f routers area r o →
      o ∈ routers ∧ Router.Adjoins f routers area o r) (runs : r.ospfProcess?.isSome = true) :
    o ∈ routers ∧ o.ospfProcess?.isSome = true ∧
      Relation.ReflTransGen (Router.Adjoins f routers area) o r := by
  induction chain with
  | refl => exact ⟨member, runs, .refl⟩
  | tail _ last ih =>
    obtain ⟨before, -, back⟩ := ih
    obtain ⟨listed, reverse⟩ := symm _ before _ last
    obtain ⟨a, adjacent, -, rfl⟩ := last
    exact ⟨listed, Router.process_of_adjacent adjacent, .head reverse back⟩

end Chains

/-- In a hierarchy of areas in which all routers learn from their neighbors, they know the networks of all
interfaces. -/
theorem IsHierarchical.all_know {f : Fabric} (hierarchy : IsHierarchical f routers)
    (symm : ∀ area, ∀ r ∈ routers, ∀ o, Router.Adjoins f routers area r o →
      o ∈ routers ∧ Router.Adjoins f routers area o r)
    (learns : ∀ r ∈ routers, ∀ a ∈ r.adjacencies f routers,
      a.neighbor.Knows network → r.Knows network)
    (source : o ∈ routers) (own : o.ospfProcess?.isSome = true) (knows : o.Knows network)
    (member : r ∈ routers) (runs : r.ospfProcess?.isSome = true) : r.Knows network := by
  -- Every router is connected to one of the backbone.
  have up {r : Router} (member : r ∈ routers) (runs : r.ospfProcess?.isSome = true) :
      ∃ area, ∃ b ∈ routers, b.IsIn .backbone ∧
        Relation.ReflTransGen (Router.Adjoins f routers area) r b := by
    by_cases inside : r.IsIn .backbone
    · exact ⟨.backbone, r, member, inside, .refl⟩
    · obtain ⟨area, -, b, chain, border⟩ := hierarchy.others r member runs inside
      obtain ⟨listed, process, -⟩ := chain_symm chain member (symm area) runs
      exact ⟨area, b, listed, ⟨process, (Router.isAreaBorder_iff.1 border).1⟩, chain⟩
  obtain ⟨area, b, listed, inside, chain⟩ := up source own
  obtain ⟨area', b', listed', inside', chain'⟩ := up member runs
  have first := knows_of_chain (chain_symm chain source (symm area) own).2.2 listed learns knows
  have between := hierarchy.backbone b' listed' b listed inside' inside
  have second := knows_of_chain between listed' learns first
  exact knows_of_chain chain' member learns second

/-- In a hierarchy of areas all OSPF routers have OSPF routes for the network of an interface that runs
OSPF, exactly if those have them from whose area a router on the border withholds the network. -/
theorem networks_known_iff (plain : n.HasPlainOspf)
    (done : independent n.fabric limit n.announcements = .ok (routers, steps))
    (hierarchy : IsHierarchical n.fabric routers) (source : o ∈ routers)
    (runs : o.ospfProcess?.isSome = true)
    (attached : ∃ b ∈ o.ospfInterfaces, b.2.1.network? = some network) :
    (∀ r ∈ routers, r.ospfProcess?.isSome = true → ∃ x, x ∈ r.ospf.combined.held network) ↔
      ∀ r ∈ routers, ∀ a ∈ r.adjacencies n.fabric routers, a.neighbor.Withholds network a.area →
        ∃ x, x ∈ r.ospf.combined.held network := by
  have all := independent_supplied done
  have devices : n.HasDevices routers := independent_device done
  have costs (r : Router) (member : r ∈ routers) : r.HasCosts := by
    obtain ⟨o, same⟩ := bare_of_independent done r member
    exact Router.hasCosts_of_bare same
  have symm (area : Area) (r : Router) (member : r ∈ routers) (o : Router)
      (adjoins : Router.Adjoins n.fabric routers area r o) :=
    devices.adjoins_symm costs member adjoins
  have alone (r : Router) (member : r ∈ routers) (runs : r.ospfProcess?.isSome = true) (o : Router)
      (other : o ∈ routers) (runs' : o.ospfProcess?.isSome = true) (same : o.hostname = r.hostname) :
      o = r := by
    have configuration : o.configuration = r.configuration :=
      eq_of_hostname (devices.listed other) (devices.listed member) same
    rw [Router.ospfProcess?, configuration] at runs'
    have vrf : o.vrf = r.vrf := plain.eq_of_process (devices.listed member) runs' runs
    exact devices.eq_of_device other member (Prod.ext configuration vrf)
  constructor
  · intro known r member a adjacent _
    exact known r member (Router.mem_adjacencies_iff.1 adjacent).1
  · intro given r member process
    have learns (r : Router) (member : r ∈ routers) (a : Router.Adjacency)
        (adjacent : a ∈ r.adjacencies n.fabric routers) (knows : a.neighbor.Knows network) :
        r.Knows network := by
      obtain ⟨neighbor, back, adjacent', area, -⟩ := symm a.area r member _ ⟨a, adjacent, rfl, rfl⟩
      have inside : a.neighbor.IsIn a.area :=
        ⟨Router.process_of_adjacent adjacent, area ▸ Router.area_of_adjacent adjacent'⟩
      rcases (all r member).1.knows_of_adjacent (all _ neighbor).1.toIsVouched adjacent
        (alone r member (Router.mem_adjacencies_iff.1 adjacent).1)
        (hierarchy.single_or_border neighbor inside) knows with knows | withholds
      · exact knows
      · exact ((all r member).2 network).1 (given r member a adjacent withholds)
    have own := (all o source).1.knows_attached (costs o source) runs attached
    exact ((all r member).2 network).2 (hierarchy.all_know symm learns source runs own member process)

/-- Two routers on the border of areas, linked in the backbone and, at less cost, in an area of their own.
The first has a network in a third area, the second a neighbor in a fourth. -/
def tiers : Network :=
  let process : SortedMap String Vrf :=
    .ofList [(defaultVrf, { ospf := some { routerId := .ofOctets 1 1 1 1 } })]
  let first := ({ hostname := "first", vrfs := process } : Configuration)
    |>.withInterface "lo" ((Interface.ofLoopback (.ofOctets 9 9 9 9 32)).withOspf ⟨2⟩ (some 1))
    |>.withInterface "eth0" ((Interface.ofAddress (.ofOctets 10 0 0 1 30)).withOspf .backbone (some 10))
    |>.withInterface "eth1" ((Interface.ofAddress (.ofOctets 10 0 1 1 30)).withOspf ⟨1⟩ (some 1))
  let second := ({ hostname := "second", vrfs := process } : Configuration)
    |>.withInterface "eth0" ((Interface.ofAddress (.ofOctets 10 0 0 2 30)).withOspf .backbone (some 10))
    |>.withInterface "eth1" ((Interface.ofAddress (.ofOctets 10 0 1 2 30)).withOspf ⟨1⟩ (some 1))
    |>.withInterface "eth2" ((Interface.ofAddress (.ofOctets 10 0 3 1 30)).withOspf ⟨3⟩ (some 1))
  let third := ({ hostname := "third", vrfs := process } : Configuration)
    |>.withInterface "eth0" ((Interface.ofAddress (.ofOctets 10 0 3 2 30)).withOspf ⟨3⟩ (some 1))
  ofConfigurations [first, second, third]

theorem tiers_plain : tiers.HasPlainOspf := by decide +kernel

/-- The tiers are a hierarchy, and one of the routers has no route for the network of the first. -/
theorem tiers_outcome : ∃ routers steps,
    independent tiers.fabric 20 tiers.announcements = .ok (routers, steps) ∧
      IsHierarchical tiers.fabric routers ∧
      (∃ o ∈ routers, o.ospfProcess?.isSome = true ∧ ∃ b ∈ o.ospfInterfaces,
        b.2.1.network? = some (InterfaceAddress.ofOctets 9 9 9 9 32).network) ∧
      ∃ r ∈ routers, r.ospfProcess?.isSome = true ∧
        ∀ x, x ∉ r.ospf.combined.held (InterfaceAddress.ofOctets 9 9 9 9 32).network := by
  have passed : (independent tiers.fabric 20 tiers.announcements).toOption.any (fun done =>
      decide (IsShallow tiers.fabric done.1 ∧
        (∃ o ∈ done.1, o.ospfProcess?.isSome = true ∧ ∃ b ∈ o.ospfInterfaces,
          b.2.1.network? = some (InterfaceAddress.ofOctets 9 9 9 9 32).network) ∧
        ∃ r ∈ done.1, r.ospfProcess?.isSome = true ∧
          (r.ospf.combined.held (InterfaceAddress.ofOctets 9 9 9 9 32).network).isEmpty = true)) =
      true := by
    decide +kernel
  obtain ⟨⟨routers, steps⟩, done, holds⟩ := Fallible.of_any passed
  obtain ⟨shallow, attached, r, member, runs, empty⟩ := of_decide_eq_true holds
  refine ⟨routers, steps, done,
    shallow.isHierarchical (independent_device done), attached, r, member, runs, ?_⟩
  intro x held
  rw [SortedSet.isEmpty_iff.1 empty] at held
  exact SortedSet.not_mem_empty x held

/-- So a router on the border withholds the network from the area of that router. -/
theorem tiers_withhold : ∃ routers steps,
    independent tiers.fabric 20 tiers.announcements = .ok (routers, steps) ∧
      ∃ r ∈ routers, ∃ a ∈ r.adjacencies tiers.fabric routers,
        a.neighbor.Withholds (InterfaceAddress.ofOctets 9 9 9 9 32).network a.area := by
  obtain ⟨routers, steps, done, hierarchy, ⟨o, source, runs, attached⟩, r, member, process, none⟩ :=
    tiers_outcome
  refine ⟨routers, steps, done, ?_⟩
  by_contra given
  have known := (networks_known_iff tiers_plain done hierarchy source runs attached).2
    fun r member a adjacent withholds => absurd ⟨r, member, a, adjacent, withholds⟩ given
  obtain ⟨x, held⟩ := known r member process
  exact none x held

/-- In a hierarchy of areas, a router need not have a route for the network of another one. -/
theorem network_is_withheld : ∃ routers steps, tiers.HasPlainOspf ∧
    independent tiers.fabric 20 tiers.announcements = .ok (routers, steps) ∧
      IsHierarchical tiers.fabric routers ∧
      ¬∀ o ∈ routers, o.ospfProcess?.isSome = true → ∀ b ∈ o.ospfInterfaces, ∀ network,
        b.2.1.network? = some network →
          ∀ r ∈ routers, r.ospfProcess?.isSome = true → ∃ x, x ∈ r.ospf.combined.held network := by
  obtain ⟨routers, steps, done, hierarchy, ⟨o, source, runs, b, own, place⟩, r, member, process, none⟩ :=
    tiers_outcome
  refine ⟨routers, steps, tiers_plain, done, hierarchy, fun all => ?_⟩
  obtain ⟨x, held⟩ := all o source runs b own _ place r member process
  exact none x held

end Network

end RoutePlane
