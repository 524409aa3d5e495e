import RoutePlane.Proofs.Router.LocalRoutes
import RoutePlane.Proofs.Router.Spared

/-! Of which kind and protocol the routes are that a router puts into its tables. Each source makes
routes of its own protocol; no policy changes the protocol or the kind of a route, so what a policy has
let through is still what its draft was. -/
namespace RoutePlane

open Fallible

/-- The routes of a kind with one of the protocols, which the kind allows. -/
def routesOf (ofKind : RouteKind → Prop) (protocols : List Protocol) : Set Route :=
  {x | ofKind x.kind ∧ x.protocol ∈ protocols ∧ x.kind.allows x.protocol = true}

abbrev lawfulRoutes : Set Route := {x | x.kind.allows x.protocol = true}

abbrev plainRoutes : List Protocol → Set Route := routesOf (· = .plain)

abbrev ospfRoutes : List Protocol → Set Route := routesOf fun k => ∃ data, k = .ospf data

abbrev bgpRoutesOf : List Protocol → Set Route := routesOf fun k => ∃ data, k = .bgp data

variable {ofKind : RouteKind → Prop} {protocols more : List Protocol} {x : Route}

theorem routesOf_lawful : routesOf ofKind protocols ⊆ lawfulRoutes := fun _ member => member.2.2

theorem routesOf_mono (fewer : protocols ⊆ more) : routesOf ofKind protocols ⊆ routesOf ofKind more :=
  fun _ member => ⟨member.1, fewer member.2.1, member.2.2⟩

theorem bgpRoutesOf_suits : ∀ x ∈ bgpRoutesOf protocols, RibKind.bgp.Suits x := by
  rintro x ⟨⟨data, kind⟩, -⟩ -
  rw [Route.isBgpKind, Route.bgp?, kind]
  rfl

theorem mem_bgpRoutesOf (bgp : x.isBgpKind = true) (named : x.protocol ∈ protocols)
    (few : protocols ⊆ [.bgp, .ibgp, .aggregate]) : x ∈ bgpRoutesOf protocols := by
  obtain ⟨data, kind⟩ : ∃ data, x.kind = .bgp data := by
    rw [Route.isBgpKind, Route.bgp?] at bgp
    cases kind : x.kind <;> rw [kind] at bgp <;> cases bgp
    exact ⟨_, rfl⟩
  refine ⟨⟨data, kind⟩, named, ?_⟩
  have one := few named
  simp only [List.mem_cons, List.not_mem_nil, or_false] at one
  rw [kind]
  rcases one with same | same | same <;> rw [same] <;> rfl

namespace Router

variable {f : Fabric} {routers : List Router} {r : Router} {announcements : List Announcement}
  {external : Bool}

section Local

theorem connectedRoutes_typed (r : Router) : ∀ x ∈ r.connectedRoutes, x ∈ plainRoutes [.connected] := by
  intro x member
  obtain ⟨⟨name, i⟩, -, found⟩ := List.mem_filterMap.1 member
  obtain ⟨network, -, rfl⟩ := Option.map_eq_some_iff.1 found
  exact ⟨rfl, List.mem_singleton_self _, rfl⟩

theorem staticRoutes_typed (ready : List StaticRoute) :
    ∀ x ∈ ready.map staticRoute, x ∈ plainRoutes [.static] := by
  intro x member
  obtain ⟨s, -, rfl⟩ := List.mem_map.1 member
  exact ⟨rfl, List.mem_singleton_self _, rfl⟩

theorem generatedRoutes_typed (ready : List GeneratedRoute) :
    ∀ x ∈ ready.map generatedRoute, x ∈ plainRoutes [.aggregate] := by
  intro x member
  obtain ⟨g, -, rfl⟩ := List.mem_map.1 member
  exact ⟨rfl, List.mem_singleton_self _, rfl⟩

end Local

section Ospf

theorem ospfRoute_typed {protocol : Protocol} (ospf : protocol.isOspf = true) (area : Area)
    (advertiser : String) (network : Prefix) (metric : UInt32) (hop : NextHop) :
    ospfRoute protocol area advertiser network metric hop ∈ ospfRoutes [protocol] :=
  ⟨⟨_, rfl⟩, List.mem_singleton_self _, ospf⟩

theorem ospfBaseRoutes_typed (r : Router) : ∀ x ∈ r.ospfBaseRoutes, x ∈ ospfRoutes [.ospfIntra] := by
  intro x member
  obtain ⟨-, _, _, _, _, _, -, -, -, rfl⟩ := mem_ospfBaseRoutes_iff.1 member
  exact ospfRoute_typed rfl ..

theorem Learns.typed {type : Protocol} (learns : r.Learns f routers type x)
    (ospf : type.isOspf = true) : x ∈ ospfRoutes [type] := by
  obtain ⟨data, kind⟩ := learns.kind
  refine ⟨⟨data, kind⟩, by simp [learns.protocol], ?_⟩
  rw [kind, learns.protocol]
  exact ospf

/-- What is let out into OSPF has one of the two external types. -/
theorem LetsOut.typed (out : r.LetsOut x) :
    x ∈ ospfRoutes [.ospfE1, .ospfE2] := by
  obtain ⟨process, policy, routes, -, exported, member⟩ := out
  obtain ⟨source, -, accepted⟩ := (mem_filterMapM exported).1 member
  have complete := exportDraft_complete r process source
  obtain ⟨-, protocol, rank, -⟩ := accepted_some Set.univ (fun _ _ _ _ => trivial) complete accepted
  have kind : ∃ data, x.kind = .ospf data := by
    cases kind : x.kind <;> rw [kind] at rank <;> cases rank
    exact ⟨_, rfl⟩
  obtain ⟨data, kind⟩ := kind
  refine ⟨⟨data, kind⟩, ?_, ?_⟩
  · rw [protocol]
    cases process.exportMetricType <;> simp [MetricType.protocol]
  · rw [kind, protocol]
    cases process.exportMetricType <;> rfl

end Ospf

section Bgp

theorem spares_nothing (c : Configuration) : c.Spares fun _ => () :=
  Configuration.spares_of_edits fun _ _ _ => rfl

/-- What is announced, or comes over a session, has the protocol of its side. -/
abbrev learnedProtocol (external : Bool) : Protocol := if external then .bgp else .ibgp

/-- The tables of one side: what a router brings into BGP is with what comes from outside. -/
abbrev sideRoutes (external : Bool) : Set Route :=
  bgpRoutesOf (if external then [.bgp, .aggregate] else [.ibgp])

theorem mem_sideRoutes (bgp : x.isBgpKind = true) (named : x.protocol = learnedProtocol external) :
    x ∈ sideRoutes external := by
  cases external with
  | true => exact mem_bgpRoutesOf bgp (by simp [named]) (by simp)
  | false => exact mem_bgpRoutesOf bgp (by simp [named]) (by simp)

theorem IsAnnounced.typed (announced : r.IsAnnounced announcements external x) :
    x ∈ sideRoutes external := by
  obtain ⟨_, -, _, -, -, -, _, -, -, -, protocol, -⟩ := announced.seen (spares_nothing _)
  exact mem_sideRoutes announced.isBgpKind protocol

theorem Originates.typed (originates : r.Originates x) : x ∈ sideRoutes true := by
  obtain ⟨protocol, -⟩ := originates.seen (spares_nothing _)
  refine mem_bgpRoutesOf (isBgpKind_of_own originates.own) ?_ (by simp)
  simpa using protocol

theorem Hears.typed (hears : r.Hears f routers external x) : x ∈ sideRoutes external := by
  obtain ⟨_, -, s, -, type, sender, _, _, _, route, draft, -, -, -, sent, received⟩ := hears
  obtain ⟨_, _, _, -, -, -, -, protocol, attributes, -⟩ :=
    handed_over (spares_nothing _) (spares_nothing _) sent received
  rw [type] at protocol
  exact mem_sideRoutes (Route.isBgpKind_of_attributes attributes) protocol

end Bgp

end Router

end RoutePlane
