import RoutePlane.Router.Ospf

/-! Where OSPF routes come from: the own interfaces, and what the neighbors hold. A route that arrives
over an adjacency is made of one that the neighbor holds and that another router has brought up. -/
namespace RoutePlane.Router

variable {f : Fabric} {routers : List Router} {r : Router} {a : Adjacency} {x route : Route}
  {data : OspfData} {type : Protocol} {t : Rib}

theorem mem_ospfInterfaces_iff {name : String} {i : Interface} {o : OspfInterface} :
    (name, i, o) ∈ r.ospfInterfaces ↔ (name, i) ∈ r.interfaces ∧ i.runningOspf? = some o := by
  simp [ospfInterfaces, List.mem_filterMap, Option.map_eq_some_iff, and_left_comm]

theorem mem_ospfBaseRoutes_iff : x ∈ r.ospfBaseRoutes ↔ r.ospfProcess?.isSome = true ∧
    ∃ name i o network cost, (name, i, o) ∈ r.ospfInterfaces ∧ i.network? = some network ∧
      r.ospf.costs.get? name = some cost ∧
      x = ospfRoute .ospfIntra o.area r.hostname network cost (.interface name none) := by
  rw [ospfBaseRoutes]
  split
  next none => simp [Option.isNone_iff_eq_none.1 none]
  next runs =>
    rw [Bool.not_eq_true, Option.isNone_eq_false_iff] at runs
    simp only [runs, true_and, List.mem_filterMap, Prod.exists, Option.bind_eq_bind,
      Option.bind_eq_some_iff, pure]
    constructor
    · rintro ⟨name, i, o, own, network, place, cost, known, same⟩
      exact ⟨name, i, o, network, cost, own, place, known, (Option.some.inj same).symm⟩
    · rintro ⟨name, i, o, network, cost, own, place, known, rfl⟩
      exact ⟨name, i, o, own, network, place, cost, known, rfl⟩

theorem mem_ospfOffers_iff : (route, data) ∈ r.ospfOffers t ↔
    route ∈ t.routes ∧ route.ospf? = some data ∧ data.advertiser ≠ r.hostname := by
  rw [ospfOffers, List.mem_filterMap]
  constructor
  · rintro ⟨_, held, offer⟩
    obtain ⟨_, kept, same⟩ := Option.map_eq_some_iff.1 offer
    cases same
    obtain ⟨known, other⟩ := Option.filter_eq_some_iff.1 kept
    exact ⟨held, known, by simpa using other⟩
  · rintro ⟨held, known, other⟩
    refine ⟨route, held, Option.map_eq_some_iff.2 ⟨data, ?_, rfl⟩⟩
    exact Option.filter_eq_some_iff.2 ⟨known, by simpa using other⟩

theorem mem_intraCandidates_iff : x ∈ r.intraCandidates a ↔ ∃ route data,
    (route, data) ∈ r.ospfOffers a.neighbor.ospf.intra ∧ data.area = a.area ∧
      x = ospfRoute .ospfIntra a.area data.advertiser route.network
        (Ospf.addCost route.metric a.cost) a.nextHop := by
  simp only [intraCandidates, List.mem_filterMap, Prod.exists, Option.ite_none_right_eq_some,
    Option.some.injEq, eq_comm (b := x)]

theorem mem_summaryCandidates_iff : x ∈ r.summaryCandidates a ↔ ∃ route data,
    (route, data) ∈ r.ospfOffers a.neighbor.ospf.intra ∧
      (data.area ≠ a.area ∧ a.neighbor.isAreaBorder = true) ∧
      x = ospfRoute .ospfInter a.area a.neighbor.hostname route.network
        (Ospf.addCost route.metric a.cost) a.nextHop := by
  simp only [summaryCandidates, List.mem_filterMap, Prod.exists, Option.ite_none_right_eq_some,
    Option.some.injEq, eq_comm (b := x)]

/-- Between areas the neighbor passes on what it holds of the area, and on the border it brings up
what it holds of the backbone. -/
theorem mem_interCandidates_iff : x ∈ r.interCandidates a ↔ ∃ route data advertiser,
    (route, data) ∈ r.ospfOffers a.neighbor.ospf.inter ∧
      (data.area = a.area ∧ advertiser = data.advertiser ∨
        data.area ≠ a.area ∧ (a.neighbor.isAreaBorder = true ∧ data.area.isBackbone = true) ∧
          advertiser = a.neighbor.hostname) ∧
      x = ospfRoute .ospfInter a.area advertiser route.network
        (Ospf.addCost route.metric a.cost) a.nextHop := by
  rw [interCandidates, List.mem_filterMap]
  constructor
  · rintro ⟨⟨route, data⟩, offer, found⟩
    obtain ⟨advertiser, choice, rfl⟩ := Option.map_eq_some_iff.1 found
    refine ⟨route, data, advertiser, offer, ?_, rfl⟩
    split at choice
    next inside => exact .inl ⟨inside, (Option.some.inj choice).symm⟩
    next outside =>
      split at choice
      next border => exact .inr ⟨outside, border, (Option.some.inj choice).symm⟩
      next => cases choice
  · rintro ⟨route, data, advertiser, offer, choice, rfl⟩
    refine ⟨(route, data), offer, Option.map_eq_some_iff.2 ⟨advertiser, ?_, rfl⟩⟩
    rcases choice with ⟨inside, rfl⟩ | ⟨outside, border, rfl⟩
    · exact if_pos inside
    · exact (if_neg outside).trans (if_pos border)

theorem mem_externalCandidates_iff : x ∈ r.externalCandidates type a ↔ ∃ route data,
    ((route, data) ∈ r.ospfOffers a.neighbor.ospf.exports ∨
      (route, data) ∈ r.ospfOffers a.neighbor.ospf.e1 ∨
        (route, data) ∈ r.ospfOffers a.neighbor.ospf.e2) ∧
      route.protocol = type ∧ x = externalRoute a route data := by
  simp only [externalCandidates, externalOffers, List.mem_filterMap, Prod.exists, List.mem_append,
    or_assoc, Option.ite_none_right_eq_some, Option.some.injEq, eq_comm (b := x)]

theorem mem_intraArrivals_iff : x ∈ r.intraArrivals f routers ↔
    ∃ a ∈ r.adjacencies f routers, x ∈ r.intraCandidates a :=
  List.mem_flatMap

theorem mem_interArrivals_iff : x ∈ r.interArrivals f routers ↔
    ∃ a ∈ r.adjacencies f routers, x ∈ r.summaryCandidates a ∨ x ∈ r.interCandidates a := by
  simp only [interArrivals, List.mem_flatMap, List.mem_append]

theorem mem_externalArrivals_iff : x ∈ r.externalArrivals f routers type ↔
    ∃ a ∈ r.adjacencies f routers, x ∈ r.externalCandidates type a :=
  List.mem_flatMap

/-- A route as it is learned over an adjacency, whatever the neighbor holds: it leads through the own
interface to the neighbor, and but for its metric it has the common fields of its type. -/
structure Learns (f : Fabric) (routers : List Router) (r : Router) (type : Protocol) (x : Route) :
    Prop where
  nextHop : ∃ a ∈ r.adjacencies f routers, x.nextHop = a.nextHop
  protocol : x.protocol = type
  kind : ∃ data, x.kind = .ospf data
  distance : x.distance = type.defaultDistance
  nonRouting : x.nonRouting = false
  isLocal : x.isLocal = true

theorem learns_ospfRoute {area : Area} {advertiser : String} {network : Prefix} {metric : UInt32}
    (adjacent : a ∈ r.adjacencies f routers) :
    r.Learns f routers type (ospfRoute type area advertiser network metric a.nextHop) :=
  ⟨⟨a, adjacent, rfl⟩, rfl, ⟨_, rfl⟩, rfl, rfl, rfl⟩

theorem learns_of_intra (arrived : x ∈ r.intraArrivals f routers) :
    r.Learns f routers .ospfIntra x := by
  obtain ⟨a, adjacent, candidate⟩ := mem_intraArrivals_iff.1 arrived
  obtain ⟨_, _, -, -, rfl⟩ := mem_intraCandidates_iff.1 candidate
  exact learns_ospfRoute adjacent

theorem learns_of_inter (arrived : x ∈ r.interArrivals f routers) :
    r.Learns f routers .ospfInter x := by
  obtain ⟨a, adjacent, candidate | candidate⟩ := mem_interArrivals_iff.1 arrived
  · obtain ⟨_, _, -, -, rfl⟩ := mem_summaryCandidates_iff.1 candidate
    exact learns_ospfRoute adjacent
  · obtain ⟨_, _, _, -, -, rfl⟩ := mem_interCandidates_iff.1 candidate
    exact learns_ospfRoute adjacent

theorem learns_of_external (arrived : x ∈ r.externalArrivals f routers type) :
    r.Learns f routers type x := by
  obtain ⟨a, adjacent, candidate⟩ := mem_externalArrivals_iff.1 arrived
  obtain ⟨_, _, -, rfl, rfl⟩ := mem_externalCandidates_iff.1 candidate
  exact ⟨⟨a, adjacent, rfl⟩, rfl, ⟨_, rfl⟩, rfl, rfl, rfl⟩

end RoutePlane.Router
