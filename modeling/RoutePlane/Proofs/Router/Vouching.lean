import RoutePlane.Proofs.Router.OspfSettling

/-! Who knows a network inside OSPF. Every route of a table names an advertiser that knows the network
itself, and an area in which the router has an interface. So what a router hears from a neighbor it can
use, unless it knows the network anyway, or the neighbor is on the border of areas and knows the network
from other areas only. -/
namespace RoutePlane.Router

variable {f : Fabric} {routers : List Router} {r o : Router} {a : Adjacency} {x : Route}
  {network : Prefix} {protocol : Protocol} {advertiser : String} {metric : UInt32} {hop : NextHop}

-- Tables are compared by what is merged into them, never by their entries.
attribute [local irreducible] Rib.mergeAll

/-- The router has a route for the network, inside an area or between areas. -/
def Knows (r : Router) (network : Prefix) : Prop :=
  ∃ x, x ∈ r.ospf.intra.held network ∨ x ∈ r.ospf.inter.held network

/-- The router is on the border of areas. Its routes for the network come from other areas than the given
one and the backbone, so it brings up none of them there. -/
def Withholds (r : Router) (network : Prefix) (area : Area) : Prop :=
  r.isAreaBorder = true ∧ (∀ x, x ∉ r.ospf.intra.held network) ∧
    (∃ x, x ∈ r.ospf.inter.held network) ∧
    ∀ x ∈ r.ospf.inter.held network, ∀ data ∈ x.ospf?, data.area ≠ area ∧ data.area ≠ .backbone

/-- The routes of an area of the router whose advertiser knows their network. -/
def vouched (routers : List Router) (r : Router) : Set Route :=
  {x | ∃ data, x.ospf? = some data ∧ (∃ b ∈ r.ospfInterfaces, b.2.2.area = data.area) ∧
    ∃ o ∈ routers, o.ospfProcess?.isSome = true ∧ o.hostname = data.advertiser ∧ o.Knows x.network}

/-- The router knows its own networks, and all its routes inside OSPF are vouched for. -/
structure IsVouched (routers : List Router) (r : Router) : Prop where
  own : ∀ x ∈ r.ospfBaseRoutes, r.Knows x.network
  intra : r.ospf.intra.DrawsFrom .ospfIntra (vouched routers r)
  inter : r.ospf.inter.DrawsFrom .ospfInter (vouched routers r)
  stagedIntra : r.staging.intra.DrawsFrom .ospfIntra (vouched routers r)
  stagedInter : r.staging.inter.DrawsFrom .ospfInter (vouched routers r)

def Arrives (r : Router) (a : Adjacency) (x : Route) : Prop :=
  x ∈ r.intraCandidates a ∨ x ∈ r.summaryCandidates a ∨ x ∈ r.interCandidates a

theorem IsVouched.knows_of_intra (vouched : r.IsVouched routers) (member : x ∈ r.ospf.intra.routes) :
    r.Knows x.network := by
  obtain ⟨p, held⟩ := Rib.mem_routes_iff.1 member
  exact ⟨x, .inl (vouched.intra.network_eq held ▸ held)⟩

theorem IsVouched.knows_of_inter (vouched : r.IsVouched routers) (member : x ∈ r.ospf.inter.routes) :
    r.Knows x.network := by
  obtain ⟨p, held⟩ := Rib.mem_routes_iff.1 member
  exact ⟨x, .inr (vouched.inter.network_eq held ▸ held)⟩

theorem area_of_adjacent (adjacent : a ∈ r.adjacencies f routers) :
    ∃ b ∈ r.ospfInterfaces, b.2.2.area = a.area := by
  obtain ⟨-, i, o, -, own, -, inside, -⟩ := mem_adjacencies_iff.1 adjacent
  exact ⟨_, own, inside⟩

theorem process_of_adjacent (adjacent : a ∈ r.adjacencies f routers) :
    a.neighbor.ospfProcess?.isSome = true := by
  obtain ⟨_, _, _, _, _, _, _, _, _, _, remote⟩ := mem_adjacencies_iff.1 adjacent
  obtain ⟨_, _, _, _, _, _, _, _, _, process⟩ := ospfNeighbor?_eq_some_iff.1 remote
  exact process

theorem ospfRoute_vouched (adjacent : a ∈ r.adjacencies f routers) (other : o ∈ routers)
    (runs : o.ospfProcess?.isSome = true) (knows : o.Knows network) :
    ospfRoute protocol a.area o.hostname network metric hop ∈ vouched routers r :=
  ⟨_, rfl, area_of_adjacent adjacent, o, other, runs, rfl, knows⟩

/-- What arrives is vouched for, by the advertiser of the route that it is made of or by the neighbor. -/
theorem arrives_vouched (all : ∀ r ∈ routers, r.IsVouched routers)
    (adjacent : a ∈ r.adjacencies f routers) (arrives : r.Arrives a x) : x ∈ vouched routers r := by
  have neighbor := all _ (mem_adjacencies adjacent).2
  rcases arrives with candidate | candidate | candidate
  · obtain ⟨route, data, offer, -, rfl⟩ := mem_intraCandidates_iff.1 candidate
    obtain ⟨held, known, -⟩ := mem_ospfOffers_iff.1 offer
    obtain ⟨data', known', -, o, other, runs, name, knows⟩ := neighbor.intra.mem held
    obtain rfl := Option.some.inj (known'.symm.trans known)
    rw [← name]
    exact ospfRoute_vouched adjacent other runs knows
  · obtain ⟨route, data, offer, -, rfl⟩ := mem_summaryCandidates_iff.1 candidate
    obtain ⟨held, -, -⟩ := mem_ospfOffers_iff.1 offer
    exact ospfRoute_vouched adjacent (mem_adjacencies adjacent).2 (process_of_adjacent adjacent)
      (neighbor.knows_of_intra held)
  · obtain ⟨route, data, advertiser, offer, choice, rfl⟩ := mem_interCandidates_iff.1 candidate
    obtain ⟨held, known, -⟩ := mem_ospfOffers_iff.1 offer
    rcases choice with ⟨-, rfl⟩ | ⟨-, -, rfl⟩
    · obtain ⟨data', known', -, o, other, runs, name, knows⟩ := neighbor.inter.mem held
      obtain rfl := Option.some.inj (known'.symm.trans known)
      rw [← name]
      exact ospfRoute_vouched adjacent other runs knows
    · exact ospfRoute_vouched adjacent (mem_adjacencies adjacent).2 (process_of_adjacent adjacent)
        (neighbor.knows_of_inter held)

structure IsSupplied (f : Fabric) (routers : List Router) (r : Router) : Prop
    extends r.IsVouched routers where
  supplied : ∀ a ∈ r.adjacencies f routers, ∀ x, r.Arrives a x → r.Knows x.network

/-- What a neighbor has for a network is offered to a router that does not know the network: an
advertiser that the router would refuse is the router itself, and it knows what it advertises. -/
theorem offered_of_vouched {t : Rib} {k : RibKind} (draws : t.DrawsFrom k (vouched routers a.neighbor))
    (alone : ∀ o ∈ routers, o.ospfProcess?.isSome = true → o.hostname = r.hostname → o = r)
    (border : (∀ b ∈ a.neighbor.ospfInterfaces, b.2.2.area = a.area) ∨ a.neighbor.isAreaBorder = true)
    (ignorant : ¬r.Knows network) (held : x ∈ t.held network) :
    ∃ data, (x, data) ∈ r.ospfOffers t ∧ x.network = network ∧
      (data.area = a.area ∨ a.neighbor.isAreaBorder = true) := by
  have place := draws.network_eq held
  obtain ⟨data, known, ⟨b, own, inside⟩, o, other, runs, name, knows⟩ := draws.mem_of_held held
  refine ⟨data, mem_ospfOffers_iff.2 ⟨Rib.mem_routes_iff.2 ⟨_, held⟩, known, ?_⟩, place, ?_⟩
  · intro own
    rw [place, alone o other runs (name.trans own)] at knows
    exact ignorant knows
  · exact border.imp_left fun single => inside ▸ single b own

/-- A router knows what its neighbor knows, unless the neighbor withholds it. -/
theorem IsSupplied.knows_of_adjacent (supplied : r.IsSupplied f routers)
    (neighbor : a.neighbor.IsVouched routers) (adjacent : a ∈ r.adjacencies f routers)
    (alone : ∀ o ∈ routers, o.ospfProcess?.isSome = true → o.hostname = r.hostname → o = r)
    (border : (∀ b ∈ a.neighbor.ospfInterfaces, b.2.2.area = a.area) ∨ a.neighbor.isAreaBorder = true)
    (knows : a.neighbor.Knows network) : r.Knows network ∨ a.neighbor.Withholds network a.area := by
  by_contra neither
  rw [not_or] at neither
  obtain ⟨ignorant, gives⟩ := neither
  have arriving (x : Route) (arrives : r.Arrives a x) : x.network ≠ network := by
    rintro rfl
    exact ignorant (supplied.supplied a adjacent x arrives)
  have noneInside (x : Route) : x ∉ a.neighbor.ospf.intra.held network := by
    intro held
    obtain ⟨data, offer, place, choice⟩ :=
      offered_of_vouched neighbor.intra alone border ignorant held
    by_cases inside : data.area = a.area
    · exact arriving _ (.inl (mem_intraCandidates_iff.2 ⟨x, data, offer, inside, rfl⟩)) place
    · exact arriving _ (.inr (.inl (mem_summaryCandidates_iff.2
        ⟨x, data, offer, ⟨inside, choice.resolve_left inside⟩, rfl⟩))) place
  have others (x : Route) (held : x ∈ a.neighbor.ospf.inter.held network) :
      a.neighbor.isAreaBorder = true ∧ ∀ data ∈ x.ospf?, data.area ≠ a.area ∧ data.area ≠ .backbone := by
    obtain ⟨data, offer, place, choice⟩ :=
      offered_of_vouched neighbor.inter alone border ignorant held
    have outside : data.area ≠ a.area := fun inside => arriving _ (.inr (.inr
      (mem_interCandidates_iff.2 ⟨x, data, _, offer, .inl ⟨inside, rfl⟩, rfl⟩))) place
    have border := choice.resolve_left outside
    refine ⟨border, fun data' known => ?_⟩
    obtain rfl := Option.some.inj ((mem_ospfOffers_iff.1 offer).2.1.symm.trans known)
    refine ⟨outside, fun backbone => arriving _ (.inr (.inr (mem_interCandidates_iff.2
      ⟨x, data, _, offer, .inr ⟨outside, ⟨border, ?_⟩, rfl⟩, rfl⟩))) place⟩
    rw [backbone]
    rfl
  obtain ⟨x, inside | between⟩ := knows
  · exact noneInside x inside
  · exact gives ⟨(others x between).1, noneInside, ⟨x, between⟩, fun y held => (others y held).2⟩

end RoutePlane.Router
