import RoutePlane.Proofs.DataPlane.Exploration
import RoutePlane.Proofs.Network.References
import RoutePlane.Proofs.Network.TypedRuns
import RoutePlane.Proofs.Rib.Exits
import RoutePlane.Proofs.Router.UsableInterfaces
import RoutePlane.Proofs.Topology.Links

/-! Forwarding tables name usable interfaces. An entry has the interface of a route in the main table, or
drops packets. So a flow that is somewhere in the network finds what it needs to go on: it always
comes to a router of the network, through interfaces that exist. -/
namespace RoutePlane

open Fallible Relation

namespace Rib

variable {t : Rib} {r : Route} {exit : Exit}

/-- A resolution chain ends at an interface that a route of the table names, or drops packets. -/
theorem ResolvesTo.interface {closed : Set Prefix} {last : Option Address}
    (resolves : t.ResolvesTo closed last r exit) (held : r ∈ t.routes) :
    exit.1 = nullInterface ∨ ∃ y ∈ t.routes, exit.1 ∈ y.nextHop.names := by
  induction resolves with
  | discard => exact .inl rfl
  | neighbor out | attached out => exact .inr ⟨_, held, by simp [out, NextHop.names, NextHop.interface?]⟩
  | through address opened leads onward ih =>
    obtain ⟨_, -, ⟨p, routes⟩, longest, member, -⟩ := leads
    refine ih (mem_routes_iff.2 ⟨p, ?_⟩)
    rw [Rib.held, SortedMap.mem_toList_iff.1 longest.listed.1]
    exact member

end Rib

/-- An entry has an interface that a route of the main table names, or drops packets. -/
theorem ForwardingTable.interface_cases {main : Rib} {owners : Owners} {p : Prefix}
    {e : ForwardingEntry} (keyed : main.Keyed) (member : e ∈ (ofRib main owners).entriesAt p) :
    e.interface = nullInterface ∨ ∃ y ∈ main.routes, e.interface ∈ y.nextHop.names := by
  have leads : (e.interface, e.nextHop) ∈ (ofRib main owners).exitsOf e.route := ⟨p, e, member, rfl, rfl⟩
  obtain ⟨held, -, found⟩ := mem_exitsOf_ofRib.1 leads
  exact (keyed.exits_sound held found).interface held

namespace Network

variable {n : Network} {d : DataPlane} {r : Router} {c : Configuration} {f : Flow} {j j' : Journey}
  {e : ForwardingEntry} {error : NetworkError}

/-- The interface of an entry drops packets, or is an active interface of the VRF. -/
def LeavesWell (r : Router) (e : ForwardingEntry) : Prop :=
  e.interface = nullInterface ∨ ∃ i, r.configuration.interfaces.get? e.interface = some i ∧
    i.active = true ∧ i.vrf = r.vrf

theorem leavesWell_of_compute (plain : n.SetsNoInterface) (done : n.compute = .ok d)
    (member : r ∈ d.routers) {p : Prefix} (entry : e ∈ r.forwarding.entriesAt p) :
    LeavesWell r e := by
  obtain ⟨final, reached, -, routers⟩ := compiled_of_compute done
  rw [routers] at member
  obtain ⟨r, source, rfl⟩ := List.mem_map.1 member
  have keyed : r.main.Keyed := fun p x held => (reached.typed r source).main.network_eq held
  rcases ForwardingTable.interface_cases keyed entry with drops | ⟨y, held, named⟩
  · exact .inl drops
  · exact .inr (((reached.usable plain r source).main y held).1 _ named)

theorem router_mem_of_compute {node vrf : String} (here : d.router? node vrf = .ok r) :
    r ∈ d.routers := by
  obtain ⟨-, -, rest⟩ := bind_eq_ok.1 here
  cases search : findRouter? d.routers node vrf with
  | none =>
    rw [search] at rest
    cases rest
  | some o =>
    rw [search, pure_eq_ok] at rest
    exact rest ▸ List.mem_of_find?_eq_some search

section Ways

variable (done : n.compute = .ok d)
include done

theorem exists_router_of_compute {node vrf : String} (found : n.configurations.get? node = some c)
    (name : vrf ∈ c.vrfNames) : ∃ r, d.router? node vrf = .ok r := by
  obtain ⟨_, _, fabric, -⟩ := compiled_of_compute done
  obtain ⟨earlier, history⟩ := reaches_compute done
  have devices := history.hasDevices d.routers List.mem_cons_self
  have bound := SortedMap.mem_toList_iff.2 found
  obtain ⟨r, member, device⟩ := devices.exists_of_vrf (List.mem_map.2 ⟨_, bound, rfl⟩) name
  obtain ⟨configuration, own⟩ := Prod.mk.inj device
  have hostname : r.hostname = node := by
    rw [Router.hostname, configuration]
    exact n.named _ bound
  have search : findRouter? d.routers node vrf = some r :=
    devices.findRouter_iff.2 ⟨member, hostname, own⟩
  have listed : d.fabric.configurations.get? node = some c := fabric ▸ found
  have known : d.configuration? node = .ok c := by rw [DataPlane.configuration?, listed]
  exact ⟨r, by simp only [DataPlane.router?, known, search]; rfl⟩

theorem not_lacksEnd {l : Link} (crosses : d.Crosses f r e l) : ¬d.LacksEnd l error := by
  obtain ⟨_, _, fabric, -⟩ := compiled_of_compute done
  have linked := (Topology.mem_linksFrom_iff.1 crosses.linked).1
  rw [fabric] at linked
  obtain ⟨c, listed, name, i, interface, target⟩ := Topology.exists_target linked
  have found : d.fabric.configurations.get? l.target.node = some c := by
    rw [fabric, target]
    exact get_hostname listed
  have here : c.interfaces.get? l.target.interface = some i := by
    rw [target]
    exact SortedMap.mem_toList_iff.1 interface
  rintro (missing | ⟨found', missing⟩)
  · rw [found] at missing
    cases missing
  · rw [found] at found'
    cases found'
    rw [here] at missing
    cases missing

/-- A flow that goes on comes to a router of the network. -/
theorem exists_router_of_advances (advances : d.Advances f j j') :
    ∃ r, d.router? j'.node j'.vrf = .ok r := by
  obtain ⟨_, _, fabric, -⟩ := compiled_of_compute done
  obtain ⟨-, -, ⟨c, i, found, interface, -, rfl⟩⟩ := advances
  rw [fabric] at found
  refine exists_router_of_compute done found (SortedSet.mem_ofList.2 (List.mem_append_right _ ?_))
  exact List.mem_map.2 ⟨i, List.mem_map.2 ⟨_, SortedMap.mem_toList_iff.2 interface, rfl⟩, rfl⟩

theorem exists_router_of_comes (start : ∃ r, d.router? f.ingressNode f.ingressVrf = .ok r)
    (comes : d.Comes f j) : ∃ r, d.router? j.node j.vrf = .ok r := by
  rcases comes.cases_tail with rfl | ⟨before, -, last⟩
  · exact start
  · exact exists_router_of_advances done last

/-- On its way a flow lacks nothing but links. -/
theorem missingLinks_of_fails (plain : n.SetsNoInterface)
    (here : ∃ r, d.router? j.node j.vrf = .ok r) (fails : d.Fails f j error) :
    ∃ i, error = .missingLinks i := by
  rcases fails with missing | ⟨chosen, fails⟩ | ⟨-, crosses, lacks⟩
  · obtain ⟨r, found⟩ := here
    rw [found] at missing
    cases missing
  · obtain ⟨⟨found, -⟩, ⟨p, entries⟩, longest, member⟩ := chosen
    rcases fails with ⟨forwarded, missing⟩ | ⟨-⟩ | ⟨-⟩
    · rename_i r e
      have entry : e ∈ r.forwarding.entriesAt p := by
        rw [ForwardingTable.entriesAt, ForwardingTable.get?,
          SortedMap.mem_toList_iff.1 longest.listed]
        exact member
      rcases leavesWell_of_compute plain done (router_mem_of_compute found) entry with
        drops | ⟨i, usable, -⟩
      · rw [ForwardingEntry.isDiscard, drops] at forwarded
        simp at forwarded
      · rw [usable] at missing
        cases missing
    · exact ⟨_, rfl⟩
    · exact ⟨_, rfl⟩
  · exact absurd lacks (not_lacksEnd done crosses)

end Ways

/-- If no policy sets an interface as a next hop, then every entry of a final forwarding table drops
packets or leaves through an active interface of the device, in the VRF of the router. A flow that
enters at a VRF of a device can then be traced, unless it comes back to a node or to an interface that
should have links. -/
theorem forwarding_leaves_well (n : Network) (d : DataPlane) (plain : n.SetsNoInterface)
    (done : n.compute = .ok d) :
    (∀ r ∈ d.routers, ∀ p, ∀ e ∈ r.forwarding.entriesAt p, LeavesWell r e) ∧
    ∀ f : Flow, (∃ c, n.configurations.get? f.ingressNode = some c ∧ f.ingressVrf ∈ c.vrfNames) →
      ∀ error, d.trace f = .error error →
        (∃ path, error = .forwardingLoop path) ∨ ∃ i, error = .missingLinks i := by
  refine ⟨fun r member p e => leavesWell_of_compute plain done member, ?_⟩
  rintro f ⟨c, found, name⟩ error failed
  obtain ⟨last, ways, -, ⟨-, looped⟩ | fails⟩ := DataPlane.spoiled_of_trace failed
  · exact .inl ⟨_, looped⟩
  · have start := exists_router_of_compute done found name
    have here := exists_router_of_comes done start ways
    exact .inr (missingLinks_of_fails done plain here fails)

/-- A router forwards to the network that it has learned over a session through its own interface. -/
theorem screened_leaves_well : screened.SetsNoInterface ∧
    ∃ d, screened.compute = .ok d ∧
      (∃ r ∈ d.routers, ∃ b ∈ r.forwarding.entries.toList, ∃ e ∈ b.2.toList,
        e.route.isBgpKind = true ∧ e.interface = "eth0") ∧
      (∀ r ∈ d.routers, ∀ p, ∀ e ∈ r.forwarding.entriesAt p, LeavesWell r e) := by
  obtain ⟨d, done, learned⟩ := of_any (x := screened.compute)
    (p := fun d => d.routers.any fun r => r.forwarding.entries.toList.any fun b =>
      b.2.toList.any fun e => e.route.isBgpKind && e.interface == "eth0")
    (by decide +kernel)
  have plain : screened.SetsNoInterface := by decide +kernel
  refine ⟨plain, d, done, ?_, (forwarding_leaves_well screened d plain done).1⟩
  simpa only [List.any_eq_true, Bool.and_eq_true, beq_iff_eq] using learned

end Network

end RoutePlane
