import RoutePlane.Proofs.Router.Sources
import RoutePlane.Proofs.Router.Transit

/-! The interfaces that routes name. A router makes routes through its own interfaces only, and only
through active ones of its VRF. It may bring such a route into BGP, but what it sends has an address as
the next hop. So if no policy writes an interface into a route, then no router holds a route through
an interface that it cannot use. -/
namespace RoutePlane

open Fallible

namespace RouteDraft

@[simp] theorem nextHop_modifyBgp (d : RouteDraft) (edit : BgpData → BgpData) :
    (d.modifyBgp edit).nextHop = d.nextHop := by
  rw [modifyBgp]
  split <;> rfl

@[simp] theorem nextHop_modifyAttributes (d : RouteDraft) (edit : BgpAttributes → BgpAttributes) :
    (d.modifyAttributes edit).nextHop = d.nextHop :=
  nextHop_modifyBgp d _

end RouteDraft

namespace Router

variable {f : Fabric} {announcements : List Announcement} {routers : List Router} {r sender : Router}
  {known : Set String} {x route : Route} {s : Session} {process : BgpProcess} {neighbor : Neighbor}
  {external : Bool} {name : String}

def usableNames (device : Configuration × String) : Set String :=
  {name | ∃ i, device.1.interfaces.get? name = some i ∧ i.active = true ∧ i.vrf = device.2}

/-- Routes that leave through usable interfaces, if through any; those that others have sent leave
through none. -/
def usableRoutes (device : Configuration × String) : Set Route :=
  {x | x.nextHop.Within (usableNames device) ∧ (x.isLocal = false → x.nextHop.Within ∅)}

def SetsNoInterface (c : Configuration) : Prop := ∀ a ∈ c.actions, a.names = []

instance (c : Configuration) : Decidable (SetsNoInterface c) :=
  inferInstanceAs (Decidable (∀ a ∈ c.actions, a.names = []))

theorem SetsNoInterface.policyNames (plain : SetsNoInterface r.configuration) :
    ∀ n ∈ r.policyNames, n ∈ known := by
  intro n member
  obtain ⟨a, action, name⟩ := List.mem_flatMap.1 member
  rw [plain a action] at name
  cases name

theorem within_mono {more : Set String} (subset : known ⊆ more) {hop : NextHop}
    (within : hop.Within known) : hop.Within more :=
  fun n name => subset (within n name)

theorem usable_of_hopless {device : Configuration × String} (hopless : x.nextHop.Within ∅) :
    x ∈ usableRoutes device :=
  ⟨within_mono (Set.empty_subset _) hopless, fun _ => hopless⟩

theorem usable_of_interface {address : Option Address} (own : x.isLocal = true)
    (hop : x.nextHop = .interface name address) (usable : name ∈ usableNames r.device) :
    x ∈ usableRoutes r.device := by
  refine ⟨?_, fun sent => ?_⟩
  · rw [hop]
    intro n named
    obtain rfl : n = name := by simpa [NextHop.names, NextHop.interface?] using named
    exact usable
  · rw [own] at sent
    cases sent

section Interfaces

theorem usable_of_listed {i : Interface} (listed : (name, i) ∈ r.interfaces)
    (active : i.active = true) : name ∈ usableNames r.device := by
  obtain ⟨bound, vrf⟩ := List.mem_filter.1 listed
  exact ⟨i, SortedMap.mem_toList_iff.1 bound, active, beq_iff_eq.1 vrf⟩

theorem usable_of_ospf {i : Interface} {o : OspfInterface} (runs : (name, i, o) ∈ r.ospfInterfaces) :
    name ∈ usableNames r.device := by
  obtain ⟨listed, running⟩ := mem_ospfInterfaces_iff.1 runs
  rw [Interface.runningOspf?] at running
  split at running
  next up =>
    rw [Bool.and_eq_true] at up
    exact usable_of_listed listed up.1
  next => cases running

theorem usable_of_adjacent {a : Adjacency} (adjacent : a ∈ r.adjacencies f routers) :
    a.interface ∈ usableNames r.device := by
  obtain ⟨-, i, o, l, own, -⟩ := mem_adjacencies_iff.1 adjacent
  exact usable_of_ospf own

theorem hasActiveInterface_iff : r.hasActiveInterface name = true ↔ name ∈ usableNames r.device := by
  rw [hasActiveInterface, usableNames]
  cases found : r.configuration.interfaces.get? name with
  | none => simp [device, found]
  | some i => simp [device, found]

end Interfaces

section Own

theorem connectedRoutes_usable : ∀ x ∈ r.connectedRoutes, x ∈ usableRoutes r.device := by
  intro x member
  obtain ⟨⟨name, i⟩, listed, found⟩ := List.mem_filterMap.1 member
  obtain ⟨network, -, rfl⟩ := Option.map_eq_some_iff.1 found
  obtain ⟨listed, active⟩ := List.mem_filter.1 listed
  exact usable_of_interface rfl rfl (usable_of_listed listed active)

theorem staticRoute_usable {static : StaticRoute} (usable : r.IsUsableStatic static) :
    staticRoute static ∈ usableRoutes r.device := by
  obtain ⟨-, independent | ⟨a, hop⟩⟩ := usable
  · rw [isIndependent] at independent
    cases hop : static.nextHop with
    | interface name address =>
      rw [hop] at independent
      exact usable_of_interface rfl hop (hasActiveInterface_iff.1 independent)
    | discard => exact usable_of_hopless (by simp [staticRoute, hop, NextHop.Within, NextHop.names,
        NextHop.interface?])
    | _ =>
      rw [hop] at independent
      cases independent
  · exact usable_of_hopless (by rw [staticRoute, hop]; exact address_within a)

theorem generatedRoute_usable (g : GeneratedRoute) : generatedRoute g ∈ usableRoutes r.device :=
  usable_of_hopless (by simp [generatedRoute, NextHop.Within, NextHop.names, NextHop.interface?])

theorem ospfBaseRoutes_usable : ∀ x ∈ r.ospfBaseRoutes, x ∈ usableRoutes r.device := by
  intro x member
  obtain ⟨-, name, i, o, network, cost, own, -, -, rfl⟩ := mem_ospfBaseRoutes_iff.1 member
  exact usable_of_interface rfl rfl (usable_of_ospf own)

theorem Learns.usable {type : Protocol} (learns : r.Learns f routers type x) :
    x ∈ usableRoutes r.device := by
  obtain ⟨a, adjacent, hop⟩ := learns.nextHop
  exact usable_of_interface learns.isLocal hop (usable_of_adjacent adjacent)

end Own

section Bgp

variable (plain : SetsNoInterface r.configuration)
include plain

theorem IsAnnounced.usable (announced : r.IsAnnounced announcements external x) :
    x ∈ usableRoutes r.device := by
  obtain ⟨process, -, a, -, -, -, imported⟩ := announced
  obtain ⟨neighbor, own, -, -, -, accepted⟩ := importAnnouncement_ok imported
  have allowed : (announcedRoute a neighbor external).kind.allows
      (announcedRoute a neighbor external).protocol = true := by
    cases external <;> rfl
  obtain ⟨-, -, -, within⟩ := accepted_some ∅ (policyNames_known plain.policyNames)
    (RouteDraft.build_ofRoute _ allowed) accepted
  exact usable_of_hopless (within (address_within _))

theorem Originates.within (main : ∀ y ∈ r.main.routes, y.nextHop.Within known)
    (originates : r.Originates x) : x.nextHop.Within known := by
  obtain ⟨process, -, brings⟩ := originates.brings
  cases brings with
  | network p source listed foreign built =>
    rw [RouteDraft.nextHop_of_build built rfl]
    exact main source listed
  | redistribution policy source named listed foreign accepted =>
    obtain ⟨-, -, -, within⟩ := accepted_some known (policyNames_known plain.policyNames) rfl accepted
    exact within (main source listed)
  | aggregate p built =>
    rw [RouteDraft.nextHop_of_build built rfl]
    exact fun _ never => absurd never List.not_mem_nil

theorem Originates.usable (main : r.main.HoldsOnly (usableRoutes r.device))
    (originates : r.Originates x) : x ∈ usableRoutes r.device := by
  refine ⟨originates.within plain fun y listed => (main y listed).1, fun sent => ?_⟩
  rw [isLocal_of_own originates.own] at sent
  cases sent

end Bgp

section Sessions

variable {draft : RouteDraft}

theorem nextHop_externalDraft :
    (externalDraft route s process draft).nextHop = some (.address s.senderAddress) := by
  rw [externalDraft]
  cases route.isLocal <;> rfl

theorem nextHop_internalDraft : (internalDraft route s process neighbor draft).nextHop =
    if neighbor.nextHopSelf || route.isLocal || route.nextHop.address?.isNone then
      some (.address s.senderAddress)
    else draft.nextHop := by
  simp only [internalDraft, RouteDraft.addCluster, RouteDraft.setOriginator]
  split <;> rw [RouteDraft.nextHop_modifyAttributes] <;> split <;> rfl

theorem nextHop_sentDraft : (sentDraft route s process neighbor).nextHop =
    some (if s.type.isExternal || (neighbor.nextHopSelf || route.isLocal ||
      route.nextHop.address?.isNone) then .address s.senderAddress else route.nextHop) := by
  have kept (d : RouteDraft) : (if neighbor.sendCommunity then d
      else d.setCommunities .empty).nextHop = d.nextHop := by
    split
    · rfl
    · exact RouteDraft.nextHop_modifyAttributes d _
  have start : (((RouteDraft.ofRoute route).setProtocol .bgp).setWeight 0).nextHop =
      some route.nextHop := RouteDraft.nextHop_modifyAttributes _ _
  rw [sentDraft, kept]
  cases s.type.isExternal with
  | true => exact nextHop_externalDraft
  | false =>
    simp only [Bool.false_eq_true, ↓reduceIte, nextHop_internalDraft, start, Bool.false_or]
    split <;> rfl

/-- No interface goes over a session: the next hop of an own route is replaced, and another one names
none. -/
theorem Conveys.hopless (plain : SetsNoInterface r.configuration)
    (all : ∀ o ∈ routers, SetsNoInterface o.configuration)
    (held : ∀ o ∈ routers, o.bgp.combined.HoldsOnly (usableRoutes o.device))
    (conveys : Conveys routers r process s x) : x.nextHop.Within ∅ := by
  obtain ⟨sender, senderProcess, senderNeighbor, neighbor, route, draft, found, -, member, sent,
    received⟩ := conveys
  obtain ⟨listed, -⟩ := of_senderOf found
  obtain ⟨a, attributes, -, applied⟩ := send_ok sent
  have bgp := Route.isBgpKind_of_attributes attributes
  have drafted : ((RouteDraft.ofRoute route).setProtocol .bgp).EditedTo ∅
      (sentDraft route s senderProcess senderNeighbor) := sentDraft_edited
  obtain ⟨b, built, -, -, rank, -⟩ := drafted.build (build_underBgp bgp)
  have hop : b.nextHop.Within ∅ := by
    obtain ⟨-, -, leads, -⟩ := RouteDraft.build_eq_ok built
    rw [nextHop_sentDraft] at leads
    rw [← Option.some.inj leads]
    split
    · exact address_within _
    next kept =>
      refine (held sender listed route member).2 ?_
      simp only [Bool.or_eq_true, not_or, Bool.not_eq_true] at kept
      exact kept.2.1.2
  have edits : (sentDraft route s senderProcess senderNeighbor).EditedTo ∅ draft :=
    .apply (policyNames_known (all sender listed).policyNames) applied
  obtain ⟨c, again, -, -, rank', hop'⟩ := edits.build built
  have still : c.isBgpKind = true :=
    Route.isBgpKind_iff.2 (rank'.trans (rank.trans (Route.isBgpKind_iff.1 bgp)))
  exact (receive_some plain.policyNames again still received).2.2 (hop' hop)

end Sessions

end Router

def Network.SetsNoInterface (n : Network) : Prop :=
  ∀ c ∈ n.configurations.values, Router.SetsNoInterface c

instance (n : Network) : Decidable n.SetsNoInterface :=
  inferInstanceAs (Decidable (∀ c ∈ n.configurations.values, Router.SetsNoInterface c))

/-- In no state of a run does a router hold a route through an interface that it cannot use. -/
theorem Network.Reaches.usable {n : Network} {routers : List Router} (plain : n.SetsNoInterface)
    (reached : n.Reaches routers) : ∀ r ∈ routers, r.HoldsOnly (Router.usableRoutes r.device) := by
  refine Reaches.holdsOnly (fun routers devices holds r member => ?_) reached
  have all (o : Router) (listed : o ∈ routers) : Router.SetsNoInterface o.configuration :=
    plain _ (devices.listed listed)
  exact {
    connected := Router.connectedRoutes_usable
    static := fun _ => Router.staticRoute_usable
    generated := Router.generatedRoute_usable
    base := fun _ => Router.ospfBaseRoutes_usable
    learned := fun _ _ => Router.Learns.usable
    announced := fun _ _ => Router.IsAnnounced.usable (all r member)
    originated := fun _ => Router.Originates.usable (all r member) (holds r member).main
    heard := by
      rintro external x ⟨process, -, s, -, -, conveys⟩
      exact Router.usable_of_hopless
        (conveys.hopless (all r member) all fun o listed => (holds o listed).bgp) }

end RoutePlane
