import RoutePlane.Proofs.Router.Origination
import RoutePlane.Proofs.RouteMap.LastWrites
import RoutePlane.Proofs.Router.UsableInterfaces

/-! Symbolic next hops. A policy on a session replaces them by the ends of the session. Redistribution has
no session, so if its policy writes a symbolic next hop last, then the route that the router brings into
BGP has it. No other route gets one. -/
namespace RoutePlane

open Fallible

/-- The next hop stands for an end of a session. -/
def NextHop.isSymbolic : NextHop → Bool
  | self | peer => true
  | _ => false

namespace PolicyContext

variable {c : PolicyContext} {own peer : Address}

theorem resolve_concrete (first : c.localAddress = some own) (second : c.peerAddress = some peer)
    (hop : NextHop) : (c.resolve hop).isSymbolic = false := by
  cases hop <;> simp [resolve, first, second, NextHop.isSymbolic]

theorem resolve_eq_self (first : c.localAddress = none) (second : c.peerAddress = none)
    (hop : NextHop) : c.resolve hop = hop := by
  cases hop <;> simp [resolve, first, second]

end PolicyContext

namespace Router

variable {f : Fabric} {announcements : List Announcement} {routers : List Router} {r r' : Router}
  {x source : Route} {s : Session} {process : BgpProcess} {neighbor : Neighbor} {external : Bool}
  {draft : RouteDraft} {context : PolicyContext} {policy : Option String} {here there : Address}

/-- A route that the router redistributes into BGP, with a symbolic next hop that its policy writes. -/
structure Marks (r : Router) (x : Route) : Prop where
  symbolic : x.nextHop.isSymbolic = true
  written : ∃ process policy source v, r.bgpProcess? = some process ∧
    process.redistributionPolicy = some policy ∧ source.protocol.isBgp = false ∧
    r.policyContext.verdict (some policy) source = .ok v ∧ v.permitted = true ∧
    v.hop? = some x.nextHop ∧
    (r.policyContext.resolveDraft (v.applyTo (redistributedDraft process source))).build = .ok x

/-- Such a route is an own BGP route. -/
theorem Marks.isOwn (marks : r.Marks x) : x.protocol = .bgp ∧ x.isLocal = true := by
  obtain ⟨process, policy, source, v, -, -, -, -, -, -, built⟩ := marks.written
  obtain ⟨-, protocol, -, kind, -⟩ := RouteDraft.build_eq_ok built
  have core := v.core_applyTo (redistributedDraft process source)
  have kept : (v.applyTo (redistributedDraft process source)).protocol = some .bgp :=
    congrArg RouteDraft.protocol core
  refine ⟨Option.some.inj (protocol.symm.trans kept), isLocal_of_own ?_⟩
  have kinds : (v.applyTo (redistributedDraft process source)).kind.core =
      (redistributedDraft process source).kind.core := congrArg RouteDraft.kind core
  rw [← kind, PolicyContext.resolveDraft, ← RouteKind.isOwn_core, kinds, RouteKind.isOwn_core]
  exact ⟨_, rfl, rfl⟩

/-- The routes that a device may hold: those with a symbolic next hop are redistributed ones. -/
def markedRoutes (device : Configuration × String) : Set Route :=
  {x | x.nextHop.isSymbolic = true →
    ({ configuration := device.1, vrf := device.2 } : Router).Marks x}

theorem mem_markedRoutes : x ∈ markedRoutes r.device ↔ (x.nextHop.isSymbolic = true → r.Marks x) :=
  ⟨fun marked symbolic => ⟨symbolic, (marked symbolic).written⟩,
    fun marked symbolic => ⟨symbolic, (marked symbolic).written⟩⟩

theorem marked_of_concrete {device : Configuration × String} (concrete : x.nextHop.isSymbolic = false) :
    x ∈ markedRoutes device := by
  intro symbolic
  rw [concrete] at symbolic
  cases symbolic

section Local

theorem connectedRoutes_concrete : ∀ x ∈ r.connectedRoutes, x.nextHop.isSymbolic = false := by
  intro x member
  obtain ⟨_, -, found⟩ := List.mem_filterMap.1 member
  obtain ⟨network, -, rfl⟩ := Option.map_eq_some_iff.1 found
  rfl

/-- A static route with a symbolic next hop is of no use. -/
theorem staticRoute_concrete {static : StaticRoute} (usable : r.IsUsableStatic static) :
    (staticRoute static).nextHop.isSymbolic = false := by
  obtain ⟨-, independent | ⟨a, hop⟩⟩ := usable
  · rw [isIndependent] at independent
    show static.nextHop.isSymbolic = false
    cases hop : static.nextHop with
    | self | peer =>
      rw [hop] at independent
      cases independent
    | _ => rfl
  · show static.nextHop.isSymbolic = false
    rw [hop]
    rfl

theorem ospfBaseRoutes_concrete : ∀ x ∈ r.ospfBaseRoutes, x.nextHop.isSymbolic = false := by
  intro x member
  obtain ⟨-, name, i, o, network, cost, -, -, -, rfl⟩ := mem_ospfBaseRoutes_iff.1 member
  rfl

theorem Learns.concrete {type : Protocol} (learns : r.Learns f routers type x) :
    x.nextHop.isSymbolic = false := by
  obtain ⟨a, -, hop⟩ := learns.nextHop
  rw [hop]
  rfl

end Local

section Bgp

/-- What passes a policy of a session has a concrete next hop. -/
theorem concrete_of_session (first : context.localAddress = some here)
    (second : context.peerAddress = some there)
    (accepted : accepted? context policy source draft = .ok (some x)) :
    x.nextHop.isSymbolic = false := by
  obtain ⟨v, -, -, built⟩ := accepted_eq_some accepted
  obtain ⟨-, -, hop, -⟩ := RouteDraft.build_eq_ok built
  obtain ⟨h, -, resolved⟩ := Option.map_eq_some_iff.1 hop
  rw [← resolved]
  exact PolicyContext.resolve_concrete first second h

theorem IsAnnounced.concrete (announced : r.IsAnnounced announcements external x) :
    x.nextHop.isSymbolic = false := by
  obtain ⟨process, -, a, -, -, -, imported⟩ := announced
  obtain ⟨neighbor, own, -, -, -, accepted⟩ := importAnnouncement_ok imported
  exact concrete_of_session rfl rfl accepted

theorem Hears.concrete (hears : r.Hears f routers external x) : x.nextHop.isSymbolic = false := by
  obtain ⟨process, -, s, -, -, conveys⟩ := hears
  obtain ⟨sender, senderProcess, senderNeighbor, neighbor, route, draft, -, -, -, -, received⟩ := conveys
  obtain ⟨c, a, -, -, -, -, accepted⟩ := receive_ok received
  exact concrete_of_session rfl rfl accepted

theorem marked_of_redistribution {name : String} (running : r.bgpProcess? = some process)
    (named : process.redistributionPolicy = some name) (foreign : source.protocol.isBgp = false)
    (concrete : source.nextHop.isSymbolic = false)
    (accepted : accepted? r.policyContext (some name) source (redistributedDraft process source) =
      .ok (some x)) (symbolic : x.nextHop.isSymbolic = true) : r.Marks x := by
  obtain ⟨v, verdict, permitted, built⟩ := accepted_eq_some accepted
  obtain ⟨-, -, hop, -⟩ := RouteDraft.build_eq_ok built
  have start : (redistributedDraft process source).nextHop = some source.nextHop :=
    RouteDraft.nextHop_modifyAttributes _ _
  rw [PolicyContext.resolveDraft, v.nextHop_applyTo start, Option.map_some,
    PolicyContext.resolve_eq_self rfl rfl, Option.some_inj] at hop
  refine ⟨symbolic, process, name, source, v, running, named, foreign, verdict, permitted, ?_, built⟩
  cases last : v.hop? with
  | none =>
    rw [last, Option.getD_none] at hop
    rw [← hop, concrete] at symbolic
    cases symbolic
  | some h =>
    rw [last, Option.getD_some] at hop
    rw [hop]

/-- No route with a symbolic next hop is brought into BGP a second time. -/
theorem concrete_of_main (main : r.main.HoldsOnly (markedRoutes r.device))
    (listed : source ∈ r.main.routes) (foreign : source.protocol.isBgp = false) :
    source.nextHop.isSymbolic = false := by
  rw [← Bool.not_eq_true]
  intro symbolic
  have protocol := (mem_markedRoutes.1 (main source listed) symbolic).isOwn.1
  rw [protocol] at foreign
  cases foreign

theorem Originates.marked (main : r.main.HoldsOnly (markedRoutes r.device))
    (originates : r.Originates x) : x ∈ markedRoutes r.device := by
  obtain ⟨process, running, brings⟩ := originates.brings
  cases brings with
  | network p source listed foreign built =>
    refine marked_of_concrete ?_
    rw [RouteDraft.nextHop_of_build built rfl]
    exact concrete_of_main main listed foreign
  | redistribution policy source named listed foreign accepted =>
    exact mem_markedRoutes.2 (marked_of_redistribution running named foreign
      (concrete_of_main main listed foreign) accepted)
  | aggregate p built =>
    refine marked_of_concrete ?_
    rw [RouteDraft.nextHop_of_build built rfl]
    rfl

end Bgp

/-- All sources of a router give marked routes, if its main table holds such routes only. -/
theorem sources_marked (main : r.main.HoldsOnly (markedRoutes r.device)) :
    r.Sources f announcements routers (markedRoutes r.device) where
  connected := fun x member => marked_of_concrete (connectedRoutes_concrete x member)
  static := fun _ usable => marked_of_concrete (staticRoute_concrete usable)
  generated := fun _ => marked_of_concrete rfl
  base := fun _ x member => marked_of_concrete (ospfBaseRoutes_concrete x member)
  learned := fun _ _ learns => marked_of_concrete learns.concrete
  announced := fun _ _ announced => marked_of_concrete announced.concrete
  originated := fun _ => Originates.marked main
  heard := fun _ _ hears => marked_of_concrete hears.concrete

end Router

end RoutePlane
