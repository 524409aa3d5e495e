import RoutePlane.Proofs.Router.Ways

/-! Settled intra-area routes. When every router has been offered what its neighbors hold, the routes
that it holds for a network stand for the cheapest ways: none is cheaper, and each of the cheapest ones
is there with its first adjacency. -/
namespace RoutePlane

theorem RibKind.mem_best_ospfIntra_iff {offered : Set Route} {p : Prefix} {x : Route} :
    x ∈ RibKind.ospfIntra.best offered p ↔ (x ∈ offered ∧ x.network = p) ∧
      ∀ y ∈ offered, y.network = p → x.metric.toNat ≤ y.metric.toNat := by
  have candidate (y : Route) : y ∈ RibKind.ospfIntra.candidates offered p ↔
      y ∈ offered ∧ y.network = p := by
    simp [RibKind.mem_candidates, RibKind.Admits]
  have worse (y : Route) : RibKind.ospfIntra.preference y x ≠ .lt ↔
      x.metric.toNat ≤ y.metric.toNat := by
    show compare y.metric x.metric ≠ .lt ↔ _
    rw [Ne, Std.compare_eq_lt, UInt32.lt_iff_toNat_lt, Nat.not_lt]
  show x ∈ RibKind.ospfIntra.candidates offered p ∧ _ ↔ _
  simp only [candidate, worse, and_imp]

namespace Router

variable {f : Fabric} {routers : List Router} {r o : Router} {a : Adjacency} {x y : Route}
  {area : Area} {network : Prefix} {name : String} {cost : UInt32} {total least : Nat}
  {offered : Set Route}

/-- The table has been offered the own routes and all that the neighbors hold, and for the network only
routes that stand for something. -/
structure IsSettled (f : Fabric) (routers : List Router) (area : Area) (network : Prefix) (r : Router)
    (offered : Set Route) : Prop where
  weighs : r.ospf.intra.Weighs .ospfIntra offered
  sound : ∀ x ∈ offered, x.network = network → Stands f routers area network r x
  own : ∀ x ∈ r.ospfBaseRoutes, x ∈ offered
  arrived : ∀ a ∈ r.adjacencies f routers, ∀ x ∈ r.intraCandidates a, x ∈ offered

namespace IsSettled

variable (settled : r.IsSettled f routers area network offered)
include settled

theorem mem_held_iff : x ∈ r.ospf.intra.held network ↔ (x ∈ offered ∧ x.network = network) ∧
    ∀ y ∈ offered, y.network = network → x.metric.toNat ≤ y.metric.toNat := by
  rw [settled.weighs.mem_iff, RibKind.mem_best_ospfIntra_iff]

/-- What is held stands for something. -/
theorem stands (held : x ∈ r.ospf.intra.held network) : Stands f routers area network r x := by
  obtain ⟨⟨offer, place⟩, -⟩ := settled.mem_held_iff.1 held
  exact settled.sound x offer place

theorem exists_held (offer : x ∈ offered) (place : x.network = network) :
    ∃ y ∈ r.ospf.intra.held network, y.metric.toNat ≤ x.metric.toNat := by
  obtain ⟨y, held⟩ := settled.weighs.exists_held (p := network)
    ⟨offer, by simp [RibKind.Admits], place⟩
  exact ⟨y, held, (settled.mem_held_iff.1 held).2 x offer place⟩

theorem own_offered (attaches : r.Attaches network name cost) :
    ospfRoute .ospfIntra area r.hostname network cost (.interface name none) ∈ offered := by
  obtain ⟨runs, known, i, o, own, place⟩ := attaches
  have base : ospfRoute .ospfIntra o.area r.hostname network cost (.interface name none) ∈ offered :=
    settled.own _ (mem_ospfBaseRoutes_iff.2 ⟨runs, name, i, o, network, cost, own, place, known, rfl⟩)
  -- the route stands for something in the area, so that is its area
  obtain ⟨_, _, -, same⟩ := (settled.sound _ base rfl).reaches
  have inside : o.area = area := by
    injection congrArg Route.kind same with same
    exact congrArg OspfData.area same
  rwa [inside] at base

theorem way_offered (adjacent : a ∈ r.adjacencies f routers) (inside : a.area = area)
    {hop : NextHop} (held : ospfRoute .ospfIntra area o.hostname network (Ospf.saturate total) hop ∈
      a.neighbor.ospf.intra.held network) (other : o.hostname ≠ r.hostname) :
    ospfRoute .ospfIntra area o.hostname network (Ospf.saturate (a.cost.toNat + total)) a.nextHop ∈
      offered := by
  have offer := mem_ospfOffers_iff.2 ⟨Rib.mem_routes_iff.2 ⟨_, held⟩, rfl, other⟩
  refine settled.arrived a adjacent _ (mem_intraCandidates_iff.2 ⟨_, _, offer, inside.symm, ?_⟩)
  rw [inside, ← Ospf.addCost_saturate]
  rfl

end IsSettled

def IsCheapest (f : Fabric) (routers : List Router) (area : Area) (network : Prefix) (r : Router)
    (least : Nat) : Prop :=
  IsLeast {total | ∃ o, Reaches f routers area network r o total} least

/-- The rest of a cheapest way is a cheapest one. -/
theorem IsCheapest.onward (cheapest : IsCheapest f routers area network r (a.cost.toNat + total))
    (adjacent : a ∈ r.adjacencies f routers) (inside : a.area = area)
    (onward : Reaches f routers area network a.neighbor o total) :
    IsCheapest f routers area network a.neighbor total := by
  refine ⟨⟨o, onward⟩, ?_⟩
  rintro total' ⟨o', onward'⟩
  exact Nat.le_of_add_le_add_left (cheapest.2 ⟨o', .across adjacent inside onward'⟩)

/-- Every router is settled, and of the routers of one device one runs OSPF. -/
structure AllSettled (f : Fabric) (area : Area) (network : Prefix) (routers : List Router) : Prop where
  settled : ∀ r ∈ routers, ∃ offered, r.IsSettled f routers area network offered
  alike : ∀ r ∈ routers, ∀ o ∈ routers, r.hostname = o.hostname → r.ospfProcess?.isSome = true →
    o.ospfProcess?.isSome = true → r.bare = o.bare

namespace AllSettled

variable (all : AllSettled f area network routers)
include all

/-- A way that ends at a router of the own name costs at least what an own interface does. -/
theorem exists_own (member : r ∈ routers) (runs : r.ospfProcess?.isSome = true) (ends : o ∈ routers)
    (same : r.hostname = o.hostname) {start : Router}
    (reaches : Reaches f routers area network start o total) :
    ∃ name cost, r.Attaches network name cost ∧ cost.toNat ≤ total := by
  obtain ⟨name, cost, attaches, le⟩ := reaches.exists_attaches
  have bare := all.alike r member o ends same runs attaches.1
  exact ⟨name, cost, (attaches_congr bare).2 attaches, le⟩

/-- No way is cheaper than what is held. The induction is on the way. -/
theorem exists_held_of_reaches (member : r ∈ routers)
    (reaches : Reaches f routers area network r o total) :
    ∃ x ∈ r.ospf.intra.held network, x.metric.toNat ≤ total := by
  induction reaches with
  | @here r name cost attaches =>
    obtain ⟨offered, settled⟩ := all.settled r member
    exact settled.exists_held (settled.own_offered attaches) rfl
  | @across r o a total adjacent inside onward ih =>
    obtain ⟨offered, settled⟩ := all.settled r member
    have next := (mem_adjacencies adjacent).2
    obtain ⟨y, held, le⟩ := ih next
    obtain ⟨_, others⟩ := all.settled _ next
    obtain ⟨o', total', reaches, same⟩ := (others.stands held).reaches
    have metric : y.metric.toNat = min total' Ospf.costLimit := by
      rw [same]
      exact Ospf.toNat_saturate total'
    by_cases back : r.hostname = o'.hostname
    · -- the neighbor has the route from here, where the own interface is at least as good
      obtain ⟨name, cost, attaches, cheap⟩ := all.exists_own member (ospf_of_adjacent adjacent)
        (reaches.end_mem next) back reaches
      obtain ⟨x, held, better⟩ := settled.exists_held (settled.own_offered attaches) rfl
      change x.metric.toNat ≤ cost.toNat at better
      have fits := Ospf.le_costLimit cost
      exact ⟨x, held, by omega⟩
    · rw [same] at held
      obtain ⟨x, held, better⟩ :=
        settled.exists_held (settled.way_offered adjacent inside held (Ne.symm back)) rfl
      change x.metric.toNat ≤ (Ospf.saturate (a.cost.toNat + total')).toNat at better
      rw [Ospf.toNat_saturate] at better
      exact ⟨x, held, by omega⟩

section Cheapest

variable (member : r ∈ routers) (cheapest : IsCheapest f routers area network r least)
include member cheapest

theorem metric_eq (held : x ∈ r.ospf.intra.held network) :
    x.metric.toNat = min least Ospf.costLimit := by
  obtain ⟨offered, settled⟩ := all.settled r member
  obtain ⟨⟨o, reaches⟩, below⟩ := cheapest
  have upper : x.metric.toNat ≤ least := by
    obtain ⟨y, other, le⟩ := all.exists_held_of_reaches member reaches
    obtain ⟨⟨offer, place⟩, -⟩ := settled.mem_held_iff.1 other
    exact ((settled.mem_held_iff.1 held).2 y offer place).trans le
  obtain ⟨o', total', reaches', same⟩ := (settled.stands held).reaches
  have metric : x.metric.toNat = min total' Ospf.costLimit := by
    rw [same]
    exact Ospf.toNat_saturate total'
  have lower : least ≤ total' := below ⟨o', reaches'⟩
  omega

/-- An offer of the least cost is held. -/
theorem held_of_offered (settled : r.IsSettled f routers area network offered) (offer : x ∈ offered)
    (place : x.network = network) (metric : x.metric.toNat = min least Ospf.costLimit) :
    x ∈ r.ospf.intra.held network := by
  obtain ⟨y, held, -⟩ := settled.exists_held offer place
  refine settled.mem_held_iff.2 ⟨⟨offer, place⟩, fun z other there => ?_⟩
  rw [metric, ← all.metric_eq member cheapest held]
  exact (settled.mem_held_iff.1 held).2 z other there

end Cheapest

section Onward

variable (member : r ∈ routers) (adjacent : a ∈ r.adjacencies f routers) (inside : a.area = area)
  (cheapest : IsCheapest f routers area network r (a.cost.toNat + total))
include member adjacent inside cheapest

/-- What the neighbor on a cheapest way holds for the rest of it comes over the adjacency. -/
theorem held_over {hop : NextHop}
    (held : ospfRoute .ospfIntra area o.hostname network (Ospf.saturate total) hop ∈
      a.neighbor.ospf.intra.held network) (other : o.hostname ≠ r.hostname) :
    ospfRoute .ospfIntra area o.hostname network (Ospf.saturate (a.cost.toNat + total)) a.nextHop ∈
      r.ospf.intra.held network := by
  obtain ⟨offered, settled⟩ := all.settled r member
  exact all.held_of_offered member cheapest settled
    (settled.way_offered adjacent inside held other) rfl (Ospf.toNat_saturate _)

omit inside in
/-- A cheapest way over a link that costs something does not come back to its start. -/
theorem other_of_pos (onward : Reaches f routers area network a.neighbor o total)
    (positive : 0 < a.cost.toNat) : o.hostname ≠ r.hostname := by
  intro same
  obtain ⟨name, cost, attaches, le⟩ := all.exists_own member (ospf_of_adjacent adjacent)
    (onward.end_mem (mem_adjacencies adjacent).2) same.symm onward
  have least : a.cost.toNat + total ≤ cost.toNat := cheapest.2 ⟨r, .here attaches⟩
  omega

end Onward

/-- A route of an own interface of the least cost is held. -/
theorem held_own (member : r ∈ routers) (attaches : r.Attaches network name cost)
    (cheapest : IsCheapest f routers area network r cost.toNat) :
    ospfRoute .ospfIntra area r.hostname network cost (.interface name none) ∈
      r.ospf.intra.held network := by
  obtain ⟨offered, settled⟩ := all.settled r member
  exact all.held_of_offered member cheapest settled (settled.own_offered attaches) rfl
    (Nat.min_eq_left (Ospf.le_costLimit cost)).symm

/-- At the start of a cheapest way a route is held that its end has brought up. The induction is on the
way; if it comes back to its start, then an own interface is as cheap. -/
theorem exists_held_from (member : r ∈ routers) (reaches : Reaches f routers area network r o total)
    (cheapest : IsCheapest f routers area network r total) :
    ∃ hop, ospfRoute .ospfIntra area o.hostname network (Ospf.saturate total) hop ∈
      r.ospf.intra.held network := by
  induction reaches with
  | here attaches =>
    rw [Ospf.saturate_toNat]
    exact ⟨_, all.held_own member attaches cheapest⟩
  | @across r o a total adjacent inside onward ih =>
    have next := (mem_adjacencies adjacent).2
    by_cases back : r.hostname = o.hostname
    · obtain ⟨name, cost, attaches, le⟩ := all.exists_own member (ospf_of_adjacent adjacent)
        (onward.end_mem next) back (.across adjacent inside onward)
      have same : a.cost.toNat + total = cost.toNat :=
        le_antisymm (cheapest.2 ⟨r, .here attaches⟩) le
      rw [same] at cheapest
      rw [← back, same, Ospf.saturate_toNat]
      exact ⟨_, all.held_own member attaches cheapest⟩
    · obtain ⟨hop, held⟩ := ih next (cheapest.onward adjacent inside onward)
      exact ⟨_, all.held_over member adjacent inside cheapest held (Ne.symm back)⟩

/-- The first hops of the cheapest ways are held, and no others. -/
theorem nextHop_iff (member : r ∈ routers) (cheapest : IsCheapest f routers area network r least)
    (bounded : least < Ospf.costLimit) (hop : NextHop) :
    (∃ x ∈ r.ospf.intra.held network, x.nextHop = hop) ↔
      (∃ name cost, r.Attaches network name cost ∧ cost.toNat = least ∧
        hop = .interface name none) ∨
      ∃ a ∈ r.adjacencies f routers, a.area = area ∧ hop = a.nextHop ∧ ∃ o total,
        Reaches f routers area network a.neighbor o total ∧ o.hostname ≠ r.hostname ∧
          a.cost.toNat + total = least := by
  constructor
  · rintro ⟨x, held, rfl⟩
    obtain ⟨offered, settled⟩ := all.settled r member
    have metric := all.metric_eq member cheapest held
    cases settled.stands held with
    | @own name cost attaches =>
      change cost.toNat = _ at metric
      have fits := Ospf.le_costLimit cost
      exact .inl ⟨name, cost, attaches, by omega, rfl⟩
    | @way o a total adjacent inside onward other =>
      change (Ospf.saturate (a.cost.toNat + total)).toNat = _ at metric
      rw [Ospf.toNat_saturate] at metric
      exact .inr ⟨a, adjacent, inside, rfl, o, total, onward, other, by omega⟩
  · rintro (⟨name, cost, attaches, rfl, rfl⟩ | ⟨a, adjacent, inside, rfl, o, total, onward, other, rfl⟩)
    · exact ⟨_, all.held_own member attaches cheapest, rfl⟩
    · obtain ⟨hop, held⟩ := all.exists_held_from (mem_adjacencies adjacent).2 onward
        (cheapest.onward adjacent inside onward)
      exact ⟨_, all.held_over member adjacent inside cheapest held other, rfl⟩

end AllSettled

end Router

end RoutePlane
