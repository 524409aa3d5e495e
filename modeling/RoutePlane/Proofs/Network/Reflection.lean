import RoutePlane.Proofs.Network.History
import RoutePlane.Proofs.Network.SessionPaths
import RoutePlane.Proofs.Router.Spared

/-! Where the routes inside a system come from. A route that was learned over an internal session has
come from the router at which it entered the system over reflectors, each of which was allowed to pass
it on by one of its clients. The attributes tell this way: the originator is where the route entered,
and the clusters are those of the reflectors, no two of them the same. -/
namespace RoutePlane

open Fallible

def BgpAttributes.reflection (a : BgpAttributes) : SortedSet UInt32 × Address × Bool :=
  (a.clusterList, a.originator, a.fromReflectorClient)

theorem Configuration.spares_reflection (c : Configuration) : c.Spares BgpAttributes.reflection :=
  Configuration.spares_of_edits fun a _ b => by cases a <;> rfl

namespace Network

open Schedule

abbrev Speaker := (Configuration × String) × BgpProcess

structure Handover where
  session : Session
  sender : Speaker
  senderEntry : Neighbor
  receiver : Speaker
  receiverEntry : Neighbor

structure Handover.IsInternal (n : Network) (h : Handover) : Prop where
  known : h.session ∈ n.fabric.sessions.toList
  internal : h.session.type.isExternal = false
  sends : h.sender ∈ n.processes
  receives : h.receiver ∈ n.processes
  sender_place : (h.sender.1.1.hostname, h.sender.1.2) = h.session.sender.place
  receiver_place : (h.receiver.1.1.hostname, h.receiver.1.2) = h.session.receiver.place
  sender_entry : h.sender.2.neighbor? h.session.sender.peer = some h.senderEntry
  receiver_entry : h.receiver.2.neighbor? h.session.receiver.peer = some h.receiverEntry

/-- In some state the sender held a route, and the receiver got another one made of it. -/
def Handover.Passes (n : Network) (past : List (List Router)) (h : Handover) (route x : Route) :
    Prop :=
  h.IsInternal n ∧ ∃ routers ∈ past, ∃ sender ∈ routers, ∃ r ∈ routers,
    sender.device = h.sender.1 ∧ r.device = h.receiver.1 ∧ route ∈ sender.bgp.combined.routes ∧
    ∃ draft, sender.send? route h.session h.senderEntry h.sender.2 = .ok (some draft) ∧
      r.receive? draft h.session h.receiverEntry h.receiver.2 = .ok (some x)

/-- In some state the route entered the system at the device: it was announced there by a neighbor of
another system, brought into BGP there, or heard over an external session. -/
def EntersAt (n : Network) (past : List (List Router)) (device : Configuration × String)
    (x : Route) : Prop :=
  ∃ routers ∈ past, ∃ r ∈ routers, r.device = device ∧
    (r.IsAnnounced n.announcements true x ∨ r.Originates x ∨ r.Hears n.fabric routers true x)

/-- The route has come from where it entered the system over reflectors, the latest first, and by a
last handover. Every reflector has got the route from one of its clients, or has sent it to one. -/
inductive CameInside (n : Network) (past : List (List Router)) :
    Speaker → List Speaker → Handover → Route → Prop where
  | sent {h : Handover} {route x : Route} (enters : n.EntersAt past h.sender.1 route)
      (passes : h.Passes n past route x) : CameInside n past h.sender [] h x
  | reflected {origin : Speaker} {reflectors : List Speaker} {before h : Handover} {route x : Route}
      (came : CameInside n past origin reflectors before route) (here : before.receiver = h.sender)
      (client : before.receiverEntry.reflectorClient = true ∨ h.senderEntry.reflectorClient = true)
      (passes : h.Passes n past route x) : CameInside n past origin (h.sender :: reflectors) h x

variable {n : Network} {past more : List (List Router)} {routers : List Router} {r : Router}
  {device : Configuration × String} {origin : Speaker} {reflectors : List Speaker} {h : Handover}
  {route x : Route}

section Past

variable (later : past ⊆ more)
include later

theorem Handover.Passes.mono (passes : h.Passes n past route x) : h.Passes n more route x := by
  obtain ⟨internal, routers, happened, rest⟩ := passes
  exact ⟨internal, routers, later happened, rest⟩

theorem EntersAt.mono (enters : n.EntersAt past device x) : n.EntersAt more device x := by
  obtain ⟨routers, happened, rest⟩ := enters
  exact ⟨routers, later happened, rest⟩

theorem CameInside.mono (came : n.CameInside past origin reflectors h x) :
    n.CameInside more origin reflectors h x := by
  induction came with
  | sent enters passes => exact .sent (enters.mono later) (passes.mono later)
  | reflected came here client passes ih => exact .reflected ih here client (passes.mono later)

end Past

/-- A route that enters a system has no cluster on its list. -/
theorem EntersAt.attributes (enters : n.EntersAt past device x) :
    x.protocol ≠ .ibgp ∧ ∃ a, x.attributes? = some a ∧ a.clusterList = .empty := by
  obtain ⟨routers, -, r, -, -, announced | originates | hears⟩ := enters
  · obtain ⟨process, -, a, -, -, -, neighbor, -, -, -, protocol, seen⟩ :=
      announced.seen r.configuration.spares_reflection
    obtain ⟨b, found, same⟩ := Option.map_eq_some_iff.1 seen
    refine ⟨by simp [protocol], b, found, congrArg Prod.fst same⟩
  · obtain ⟨protocol, a, b, found, same, -, clusters⟩ :=
      originates.seen r.configuration.spares_reflection
    refine ⟨?_, b, found, (congrArg Prod.fst same).trans clusters⟩
    rcases protocol with protocol | protocol <;> simp [protocol]
  · obtain ⟨process, -, s, -, external, sender, senderProcess, senderNeighbor, neighbor, route, draft,
      -, -, -, sent, received⟩ := hears
    obtain ⟨a, a', b, -, -, left, -, protocol, found, same⟩ :=
      Router.handed_over sender.configuration.spares_reflection r.configuration.spares_reflection sent
        received
    refine ⟨by simp [protocol, external], b, found, ?_⟩
    calc b.clusterList = a'.clusterList := congrArg Prod.fst same
      _ = (Router.sentAttributes route s senderProcess senderNeighbor a).clusterList :=
        congrArg Prod.fst left
      _ = .empty := (Router.sentAttributes_external external).2.2

/-- What a handover makes of the attributes. -/
theorem Handover.Passes.attributes (passes : h.Passes n past route x) :
    x.protocol = .ibgp ∧ ∃ a b, route.attributes? = some a ∧ x.attributes? = some b ∧
      Router.maySend route a h.session h.senderEntry = true ∧
      b.clusterList = (if route.protocol = .ibgp then a.clusterList.insert h.sender.2.cluster
        else a.clusterList) ∧
      b.originator = (if route.protocol = .ibgp then a.originator else h.sender.2.routerId) ∧
      b.fromReflectorClient = h.receiverEntry.reflectorClient ∧
      h.receiver.2.routerId ≠ b.originator ∧ h.receiver.2.cluster ∉ b.clusterList := by
  obtain ⟨internal, routers, -, sender, -, r, -, -, -, -, draft, sent, received⟩ := passes
  obtain ⟨a, a', b, carried, may, left, fresh, protocol, found, same⟩ :=
    Router.handed_over sender.configuration.spares_reflection r.configuration.spares_reflection sent
      received
  have edited : (Router.sentAttributes route h.session h.sender.2 h.senderEntry a).clusterList = _ ∧
      (Router.sentAttributes route h.session h.sender.2 h.senderEntry a).originator = _ :=
    (Router.sentAttributes_internal internal.internal).2
  obtain ⟨leftClusters, rest⟩ := Prod.mk.inj left
  obtain ⟨leftOriginator, -⟩ := Prod.mk.inj rest
  obtain ⟨arrivedClusters, rest⟩ := Prod.mk.inj same
  obtain ⟨arrivedOriginator, fromClient⟩ := Prod.mk.inj rest
  rw [Router.hasLooped, if_neg (Bool.eq_false_iff.1 internal.internal), Bool.or_eq_false_iff] at fresh
  obtain ⟨another, unseen⟩ := fresh
  refine ⟨by simp [protocol, internal.internal], a, b, carried, found, may,
    arrivedClusters.trans (leftClusters.trans edited.1),
    arrivedOriginator.trans (leftOriginator.trans edited.2), fromClient, fun back => ?_,
    fun back => ?_⟩
  · exact beq_eq_false_iff_ne.1 another (arrivedOriginator.symm.trans back.symm)
  · rw [arrivedClusters] at back
    exact Bool.eq_false_iff.1 unseen (SortedSet.contains_iff.2 back)

theorem CameInside.isInternal (came : n.CameInside past origin reflectors h x) : h.IsInternal n := by
  cases came with
  | sent enters passes => exact passes.1
  | reflected came here client passes => exact passes.1

/-- The attributes tell the way of a route inside a system. -/
theorem CameInside.attributes (came : n.CameInside past origin reflectors h x) :
    x.protocol = .ibgp ∧ ∃ a, x.attributes? = some a ∧
      a.fromReflectorClient = h.receiverEntry.reflectorClient ∧ a.originator = origin.2.routerId ∧
      (∀ c, c ∈ a.clusterList ↔ c ∈ reflectors.map (·.2.cluster)) ∧
      ((h.receiver :: reflectors).map (·.2.cluster)).Nodup ∧
      h.receiver.2.routerId ≠ origin.2.routerId := by
  induction came with
  | sent enters passes =>
    obtain ⟨outside, a, carried, none⟩ := enters.attributes
    obtain ⟨protocol, _, b, carried', found, -, clusters, originator, fromClient, apart, unseen⟩ :=
      passes.attributes
    cases carried.symm.trans carried'
    rw [if_neg outside] at clusters originator
    refine ⟨protocol, b, found, fromClient, originator, fun c => ?_, List.nodup_singleton _,
      originator ▸ apart⟩
    simp [clusters, none, SortedSet.not_mem_empty]
  | @reflected origin reflectors before h route x came here client passes ih =>
    obtain ⟨inside, a, carried, -, first, list, nodup, -⟩ := ih
    obtain ⟨protocol, _, b, carried', found, -, clusters, originator, fromClient, apart, unseen⟩ :=
      passes.attributes
    cases carried.symm.trans carried'
    rw [if_pos inside] at clusters originator
    have written (c : UInt32) :
        c ∈ b.clusterList ↔ c ∈ (h.sender :: reflectors).map (·.2.cluster) := by
      rw [clusters, SortedSet.mem_insert, List.map_cons, List.mem_cons, list]
    rw [here] at nodup
    exact ⟨protocol, b, found, fromClient, originator.trans first, written,
      List.nodup_cons.2 ⟨mt (written _).2 unseen, nodup⟩, first ▸ originator ▸ apart⟩

def traced (n : Network) (past : List (List Router)) (device : Configuration × String) : Set Route :=
  {x | n.EntersAt past device x ∨
    ∃ origin reflectors h, n.CameInside past origin reflectors h x ∧ h.receiver.1 = device}

/-- What a router hears over an internal session has come there from where it entered the system. -/
theorem traced_of_hears (devices : n.HasDevices routers) (happened : routers ∈ past)
    (all : ∀ r ∈ routers, ∀ x ∈ r.bgp.combined.routes, x ∈ n.traced past r.device)
    (member : r ∈ routers) (hears : r.Hears n.fabric routers false x) : x ∈ n.traced past r.device := by
  obtain ⟨process, own, s, incoming, internal, sender, senderProcess, senderNeighbor, neighbor, route,
    draft, found, entry, held, sent, received⟩ := hears
  obtain ⟨known, node, vrf⟩ := Sessions.mem_incoming_iff.1 incoming
  obtain ⟨source, senderNode, senderVrf, senderOwn, senderEntry⟩ := Router.of_senderOf found
  let h : Handover := ⟨s, (sender.device, senderProcess), senderNeighbor, (r.device, process), neighbor⟩
  have passes : h.Passes n past route x := ⟨{
      known := known
      internal := internal
      sends := devices.runs source senderOwn
      receives := devices.runs member own
      sender_place := Prod.ext senderNode senderVrf
      receiver_place := Prod.ext node.symm vrf.symm
      sender_entry := senderEntry
      receiver_entry := entry },
    routers, happened, sender, source, r, member, rfl, rfl, held, draft, sent, received⟩
  rcases all sender source route held with enters | ⟨origin, reflectors, before, came, here⟩
  · exact .inr ⟨_, _, h, .sent enters passes, rfl⟩
  · obtain ⟨inside, a, carried, fromClient, -⟩ := came.attributes
    obtain ⟨-, _, -, carried', -, may, -⟩ := passes.attributes
    cases carried.symm.trans carried'
    have one : before.receiver = h.sender := by
      have runs := devices.runs source senderOwn
      rw [← here] at runs
      exact Prod.ext here (Option.some.inj ((mem_processes_iff.1 came.isInternal.receives).2.symm.trans
        (mem_processes_iff.1 runs).2))
    have client : before.receiverEntry.reflectorClient = true ∨ h.senderEntry.reflectorClient = true := by
      rw [← fromClient]
      simpa [Router.maySend, SessionType.isInternal, internal, inside, h, or_iff_not_imp_left] using
        (Bool.and_eq_true_iff.1 may).2
    exact .inr ⟨origin, _, h, .reflected came one client passes, rfl⟩

/-- Without reflector clients a route has come straight from where it entered the system. -/
theorem CameInside.of_no_clients (came : n.CameInside past origin reflectors h x)
    (none : ∀ p ∈ n.processes, ∀ neighbor ∈ p.2.neighbors, neighbor.reflectorClient = false) :
    ∃ route, n.EntersAt past h.sender.1 route ∧ h.Passes n past route x := by
  cases came with
  | sent enters passes => exact ⟨_, enters, passes⟩
  | @reflected _ _ before _ _ _ came here client passes =>
    have receiver := none _ came.isInternal.receives _
      (BgpProcess.of_neighbor? came.isInternal.receiver_entry).1
    have sender := none _ passes.1.sends _ (BgpProcess.of_neighbor? passes.1.sender_entry).1
    simp [receiver, sender] at client

theorem gathers_traced (outside : n.HearsOutside) : n.Gathers n.traced where
  suits := by
    rintro past device x (enters | ⟨origin, reflectors, h, came, -⟩)
    · obtain ⟨-, a, found, -⟩ := enters.attributes
      exact Route.isBgpKind_of_attributes found
    · obtain ⟨-, a, found, -⟩ := came.attributes
      exact Route.isBgpKind_of_attributes found
  grows := by
    rintro past moved device x (enters | ⟨origin, reflectors, h, came, here⟩)
    · exact .inl (enters.mono (List.subset_cons_self _ _))
    · exact .inr ⟨origin, reflectors, h, came.mono (List.subset_cons_self _ _), here⟩
  announced := by
    intro past routers devices r member external x announced
    obtain rfl := outside.external devices member announced
    exact .inl ⟨routers, List.mem_cons_self, r, member, rfl, .inl announced⟩
  originated := fun past routers devices r member x originates =>
    .inl ⟨routers, List.mem_cons_self, r, member, rfl, .inr (.inl originates)⟩
  heard := by
    intro past routers devices all r member external x hears
    cases external with
    | true => exact .inl ⟨routers, List.mem_cons_self, r, member, rfl, .inr (.inr hears)⟩
    | false => exact traced_of_hears devices List.mem_cons_self all member hears

/-- Every route that a router has learned over an internal session has a way through the system, which
its attributes tell. It has not been at the router before, nor at another one of the same cluster. -/
def TracesInternal (n : Network) (past : List (List Router)) (routers : List Router) : Prop :=
  ∀ r ∈ routers, ∀ x ∈ r.bgp.combined.routes, x.protocol = .ibgp →
    ∃ origin reflectors h a, n.CameInside past origin reflectors h x ∧ h.receiver.1 = r.device ∧
      x.attributes? = some a ∧ a.originator = origin.2.routerId ∧
      (∀ c, c ∈ a.clusterList ↔ c ∈ reflectors.map (·.2.cluster)) ∧
      ((h.receiver :: reflectors).map (·.2.cluster)).Nodup ∧
      h.receiver.2.routerId ≠ origin.2.routerId ∧
      ((∀ p ∈ n.processes, ∀ neighbor ∈ p.2.neighbors, neighbor.reflectorClient = false) →
        ∃ route, n.EntersAt past h.sender.1 route ∧ h.Passes n past route x)

/-- In all states that the network can get into, and in the result, routes inside a system can be traced
back to where they entered it. -/
theorem internal_routes_traced (outside : n.HearsOutside) :
    (∀ earlier routers, n.History (routers :: earlier) →
      n.TracesInternal (routers :: earlier) routers) ∧
    ∀ d, n.compute = .ok d → ∃ earlier, n.History (d.routers :: earlier) ∧
      n.TracesInternal (d.routers :: earlier) d.routers := by
  have all (earlier : List (List Router)) (routers : List Router)
      (history : n.History (routers :: earlier)) : n.TracesInternal (routers :: earlier) routers := by
    intro r member x held inside
    rcases (history.draws (gathers_traced outside) r member).tables.combined.mem held with
      enters | ⟨origin, reflectors, h, came, here⟩
    · exact absurd inside enters.attributes.1
    · obtain ⟨-, a, found, -, originator, clusters, nodup, apart⟩ := came.attributes
      exact ⟨origin, reflectors, h, a, came, here, found, originator, clusters, nodup, apart,
        came.of_no_clients⟩
  refine ⟨all, fun d done => ?_⟩
  obtain ⟨earlier, history⟩ := reaches_compute done
  exact ⟨earlier, history, all earlier d.routers history⟩

/-- One system of three routers. The first hears a network from outside, and the second reflects it to
the third, which is its client. -/
def reflecting : Network :=
  let shared := InterfaceAddress.ofOctets 9 9 9 9 32
  let first := (speaker "first" (.ofOctets 1 1 1 1) 65001 .empty [
      { peer := .ofOctets 10 0 1 2, remoteAs := 65001 },
      { peer := .ofOctets 192 0 2 2, remoteAs := 65100 }])
    |>.withInterface "eth0" (.ofAddress (.ofOctets 10 0 1 1 30))
    |>.withInterface "eth1" (.ofAddress (.ofOctets 192 0 2 1 30))
  let second := (speaker "second" (.ofOctets 2 2 2 2) 65001 .empty [
      { peer := .ofOctets 10 0 1 1, remoteAs := 65001 },
      { peer := .ofOctets 10 0 2 2, remoteAs := 65001, reflectorClient := true }])
    |>.withInterface "eth0" (.ofAddress (.ofOctets 10 0 1 2 30))
    |>.withInterface "eth1" (.ofAddress (.ofOctets 10 0 2 1 30))
  let third := (speaker "third" (.ofOctets 3 3 3 3) 65001 .empty [
      { peer := .ofOctets 10 0 2 1, remoteAs := 65001 }])
    |>.withInterface "eth0" (.ofAddress (.ofOctets 10 0 2 2 30))
  (ofConfigurations [first, second, third]).addAnnouncement
    { node := "first", peer := .ofOctets 192 0 2 2, network := shared.network, asPath := [65100] }

/-- The route of the third router has come over the second one. -/
theorem reflecting_traced : reflecting.HearsOutside ∧ ∃ d, reflecting.compute = .ok d ∧
    ∃ past, ∃ r ∈ d.routers, ∃ x ∈ r.bgp.combined.routes, ∃ origin reflectors h,
      reflecting.CameInside past origin reflectors h x ∧ h.receiver.1 = r.device ∧
      ∃ reflector ∈ reflectors, reflector.2.cluster = (Address.ofOctets 2 2 2 2).bits := by
  have outside : reflecting.HearsOutside := by decide +kernel
  have passed : reflecting.compute.toOption.any (fun d => d.routers.any fun r =>
      r.bgp.combined.routes.any fun x => x.protocol == .ibgp && x.attributes?.any fun a =>
        a.clusterList.contains (Address.ofOctets 2 2 2 2).bits) = true := by
    decide +kernel
  obtain ⟨d, done, passed⟩ := of_any passed
  obtain ⟨r, member, passed⟩ := List.any_eq_true.1 passed
  obtain ⟨x, held, passed⟩ := List.any_eq_true.1 passed
  obtain ⟨inside, passed⟩ := Bool.and_eq_true_iff.1 passed
  obtain ⟨a, found, listed⟩ := (Option.any_eq_true _ _).1 passed
  obtain ⟨earlier, -, traces⟩ := (internal_routes_traced outside).2 d done
  obtain ⟨origin, reflectors, h, _, came, here, found', -, clusters, -⟩ :=
    traces r member x held (beq_iff_eq.1 inside)
  cases found.symm.trans found'
  have reflected := (clusters _).1 (SortedSet.contains_iff.1 listed)
  exact ⟨outside, d, done, _, r, member, x, held, origin, reflectors, h, came, here,
    List.mem_map.1 reflected⟩

end Network

end RoutePlane
