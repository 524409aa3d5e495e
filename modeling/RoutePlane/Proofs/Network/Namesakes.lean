import RoutePlane.Proofs.Network.Neighborhood
import RoutePlane.Proofs.Router.Namesakes

/-! How far networks get where all of OSPF is one area. When the OSPF loop has ended, a router has a route
for a network only if a chain of adjacencies leads to a router with it, past no other router of the same
name. So a VRF does not learn what only other VRFs of its device have, and does not tell others. -/
namespace RoutePlane

open Schedule Fallible

-- Tables are compared by what is merged into them, never by their entries.
attribute [local irreducible] Rib.mergeAll

namespace Router

variable {f : Fabric} {routers : List Router} {r o : Router} {a : Adjacency} {x : Route}
  {network : Prefix} {area : Area}

def Holds (r : Router) (network : Prefix) : Prop := ∃ x, x ∈ r.ospf.intra.held network

instance : Decidable (r.Holds network) :=
  decidable_of_iff (¬(r.ospf.intra.held network).isEmpty = true) (by
    rw [SortedSet.isEmpty_iff]
    exact SortedSet.exists_mem_iff.symm)

def HoldsOwn (r : Router) : Prop :=
  ∀ x ∈ r.ospf.intra.routes, ∀ data ∈ x.ospf?, data.advertiser = r.hostname

/-- The router has routes for its networks and those of its neighbors of other names. -/
def KnowsNear (f : Fabric) (routers : List Router) (r : Router) : Prop :=
  ∀ network, r.IsNear f routers network → r.Holds network

/-- The router has routes for its own networks, and all that it has inside an area was carried. -/
structure IsCarrier (f : Fabric) (routers : List Router) (r : Router) : Prop where
  own : ∀ x ∈ r.ospfBaseRoutes, r.Holds x.network
  intra : r.ospf.intra.DrawsFrom .ospfIntra (carried f routers r)
  staged : r.staging.intra.DrawsFrom .ospfIntra (carried f routers r)

structure IsConfined (area : Area) (r : Router) : Prop where
  costs : r.HasCosts
  inside : r.ospfProcess?.isSome = true → ∀ b ∈ r.ospfInterfaces, b.2.2.area = area

theorem IsConfined.of_bare (confined : o.IsConfined area) (same : r.bare = o.bare) :
    r.IsConfined area where
  costs := (iff_of_eq (seen_of_bare HasCosts (fun _ => rfl) same)).2 confined.costs
  inside := by
    rw [seen_of_bare ospfProcess? (fun _ => rfl) same, seen_of_bare ospfInterfaces (fun _ => rfl) same]
    exact confined.inside

theorem IsCarrier.holds_served (carrier : r.IsCarrier f routers) (costs : r.HasCosts)
    (serves : r.Serves network) : r.Holds network := by
  obtain ⟨runs, ⟨name, i, o⟩, running, place⟩ := serves
  obtain ⟨cost, known⟩ := costs runs name i o running
  have holds := carrier.own _ (mem_ospfBaseRoutes_iff.2
    ⟨runs, name, i, o, network, cost, running, place, known, rfl⟩)
  exact holds

section Steps

variable (all : ∀ r ∈ routers, r.IsCarrier f routers)
include all

theorem intraArrivals_carried : ∀ x ∈ r.intraArrivals f routers, x ∈ carried f routers r := by
  intro x member
  obtain ⟨a, adjacent, candidate⟩ := mem_intraArrivals_iff.1 member
  exact carried_candidate adjacent (fun x => (all _ (mem_adjacencies adjacent).2).intra.mem) candidate

/-- Where all of OSPF is one area, what a neighbor has arrives, unless it was brought up under the name of
the router. -/
theorem arrives_of_held (confined : ∀ r ∈ routers, r.IsConfined area) (member : r ∈ routers)
    (adjacent : a ∈ r.adjacencies f routers) (held : x ∈ a.neighbor.ospf.intra.held network)
    (other : ∀ data ∈ x.ospf?, data.advertiser ≠ r.hostname) :
    ∃ y ∈ r.intraArrivals f routers, y.network = network := by
  have neighbor := (mem_adjacencies adjacent).2
  have place := (all _ neighbor).intra.network_eq held
  obtain ⟨data, known, ⟨b, own, inside⟩, -⟩ := (all _ neighbor).intra.mem_of_held held
  obtain ⟨c, mine, outward⟩ := area_of_adjacent adjacent
  have same : data.area = a.area := by
    rw [← inside, ← outward, (confined _ neighbor).inside (process_of_adjacent adjacent) b own,
      (confined r member).inside (mem_adjacencies_iff.1 adjacent).1 c mine]
  have offer := mem_ospfOffers_iff.2 ⟨Rib.mem_routes_iff.2 ⟨_, held⟩, known, other data known⟩
  have candidate := mem_intraCandidates_iff.2 ⟨x, data, offer, same, rfl⟩
  exact ⟨_, mem_intraArrivals_iff.2 ⟨a, adjacent, candidate⟩, place⟩

variable (carrier : r.IsCarrier f routers)
include carrier

/-- After a step a router has a route for what it had one for, and for what has arrived. -/
theorem IsCarrier.holds_move
    (offer : r.Holds network ∨ ∃ x ∈ r.intraArrivals f routers, x.network = network) :
    (r.moveInternal f routers).Holds network := by
  have kept {x : Route} := carrier.intra.exists_held_staged (x := x) (p := network) carrier.staged
    (intraArrivals_carried (f := f) all) (by decide)
  rcases offer with ⟨x, held⟩ | ⟨x, arrived, place⟩
  · exact kept (.inl held)
  · exact kept (.inr ⟨arrived, place⟩)

theorem IsCarrier.move :
    (r.moveInternal f routers).IsCarrier f (routers.map (moveInternal f routers)) := by
  have wider {t : Rib} (draws : t.DrawsFrom .ospfIntra (carried f routers r)) :
      t.DrawsFrom .ospfIntra
        (carried f (routers.map (moveInternal f routers)) (r.moveInternal f routers)) :=
    draws.restrict (fun _ _ never => by cases never) fun x member =>
      carried_map bare_moveInternal (draws.mem member)
  have staged := carrier.staged.mergeAll (intraArrivals_carried (f := f) all)
  exact {
    own := fun x base => carrier.holds_move all (.inl (carrier.own x base))
    intra := wider (carrier.intra.absorb staged)
    staged := wider staged }

/-- After an idle step the routers have routes for all that still arrives. -/
theorem IsCarrier.supplied
    (idle : ∀ r ∈ routers, (r.gatherOspfInternal f routers).1.commitOspfInternal.2 = false) :
    ∀ x ∈ (r.moveInternal f routers).intraArrivals f (routers.map (moveInternal f routers)),
      (r.moveInternal f routers).Holds x.network := by
  rw [intraArrivals_moveInternal fun o member => (all o member).intra.routes_of_still (by decide)
    (Bool.or_eq_false_iff.1 (idle o member)).1]
  exact fun x arrived => carrier.holds_move all (.inr ⟨x, arrived, rfl⟩)

omit carrier in
/-- After the first step the routers know the networks near to them, and they do not forget them: what the
neighbors have at the start they have brought up themselves. -/
theorem knowsNear_move (confined : ∀ r ∈ routers, r.IsConfined area) (member : r ∈ routers)
    (early : (∀ r ∈ routers, r.HoldsOwn) ∨ r.KnowsNear f routers) :
    (r.moveInternal f routers).KnowsNear f (routers.map (moveInternal f routers)) := by
  intro network near
  have before := near.of_map bare_moveInternal
  refine (all r member).holds_move all ?_
  rcases early with own | knows
  · rcases before with serves | ⟨a, adjacent, serves, other⟩
    · exact .inl ((all r member).holds_served (confined r member).costs serves)
    · have neighbor := (mem_adjacencies adjacent).2
      obtain ⟨x, held⟩ := (all _ neighbor).holds_served (confined _ neighbor).costs serves
      refine .inr (arrives_of_held all confined member adjacent held fun data known => ?_)
      rwa [own _ neighbor x (Rib.mem_routes_iff.2 ⟨_, held⟩) data known]
  · exact .inl (knows network before)

end Steps

structure IsSpreading (f : Fabric) (routers : List Router) (area : Area) : Prop where
  confined : ∀ r ∈ routers, r.IsConfined area
  carriers : ∀ r ∈ routers, r.IsCarrier f routers
  early : (∀ r ∈ routers, r.HoldsOwn) ∨ ∀ r ∈ routers, r.KnowsNear f routers

theorem IsSpreading.near_move (spreading : IsSpreading f routers area) :
    ∀ r ∈ routers.map (moveInternal f routers), r.KnowsNear f (routers.map (moveInternal f routers)) := by
  intro r member
  obtain ⟨r, before, rfl⟩ := List.mem_map.1 member
  exact knowsNear_move spreading.carriers spreading.confined before
    (spreading.early.imp_right fun knows => knows r before)

theorem IsSpreading.move (spreading : IsSpreading f routers area) :
    IsSpreading f (routers.map (moveInternal f routers)) area where
  confined := by
    intro r member
    obtain ⟨r, before, rfl⟩ := List.mem_map.1 member
    exact (spreading.confined r before).of_bare (bare_moveInternal r)
  carriers := by
    intro r member
    obtain ⟨r, before, rfl⟩ := List.mem_map.1 member
    exact (spreading.carriers r before).move spreading.carriers
  early := .inr spreading.near_move

structure HasSpread (f : Fabric) (routers : List Router) (area : Area) : Prop where
  confined : ∀ r ∈ routers, r.IsConfined area
  carriers : ∀ r ∈ routers, r.IsCarrier f routers
  near : ∀ r ∈ routers, r.KnowsNear f routers
  supplied : ∀ r ∈ routers, ∀ x ∈ r.intraArrivals f routers, r.Holds x.network

namespace HasSpread

variable (spread : HasSpread f routers area) (member : r ∈ routers)
include spread member

/-- A route has come past no other router of the name under which it was brought up. -/
theorem leads_of_held (held : x ∈ r.ospf.intra.held network) : ∃ data, x.ospf? = some data ∧
    ∃ o, LeadsTo f routers (·.Serves network) {o.hostname} r o ∧ o.hostname = data.advertiser := by
  have place := (spread.carriers r member).intra.network_eq held
  obtain ⟨data, known, -, o, leads, name⟩ := (spread.carriers r member).intra.mem_of_held held
  rw [place, ← name] at leads
  exact ⟨data, known, o, leads, name⟩

theorem leads_of_holds (holds : r.Holds network) :
    ∃ o, LeadsTo f routers (·.Serves network) {o.hostname} r o := by
  obtain ⟨x, held⟩ := holds
  obtain ⟨-, -, o, leads, -⟩ := spread.leads_of_held member held
  exact ⟨o, leads⟩

/-- Past routers of other names than those with the network, a chain always carries a route. The induction
is on the chain. -/
theorem holds_of_leads {m : Router} (leads : LeadsTo f routers (IsNear f routers network)
    (servers routers network) r m) : r.Holds network := by
  induction leads with
  | here near => exact spread.near _ member network near
  | @across r m a adjacent other _ ih =>
    have next := (mem_adjacencies adjacent).2
    obtain ⟨x, held⟩ := ih next
    obtain ⟨data, known, o, leads, name⟩ := spread.leads_of_held next held
    have strange : ∀ data ∈ x.ospf?, data.advertiser ≠ r.hostname := by
      intro data' known' named
      obtain rfl := Option.some.inj (known.symm.trans known')
      exact other ⟨o, leads.end_mem next, leads.there, name.trans named⟩
    obtain ⟨y, arrives, place⟩ :=
      arrives_of_held spread.carriers spread.confined member adjacent held strange
    exact place ▸ spread.supplied r member y arrives

omit member in
/-- If the routers of a name with the network that find it are near to it, then all that find it have a
route. -/
theorem all_hold (stops : ∀ r ∈ routers, r.hostname ∈ servers routers network →
      r.Finds f routers network → r.IsNear f routers network) :
    ∀ r ∈ routers, r.Finds f routers network → r.Holds network := by
  rintro r member ⟨o, leads⟩
  obtain ⟨m, leads⟩ := leads.stop member (fun _ => .inl) stops
  exact spread.holds_of_leads member leads

section Sole

variable {name : String} (sole : servers routers network = {name})
include sole

theorem holds_iff : r.Holds network ↔ ∃ o, LeadsTo f routers (·.Serves network) {name} r o := by
  constructor
  · intro holds
    obtain ⟨o, leads⟩ := spread.leads_of_holds member holds
    have named : o.hostname ∈ servers routers network := ⟨o, leads.end_mem member, leads.there, rfl⟩
    rw [sole, Set.mem_singleton_iff] at named
    exact ⟨o, named ▸ leads⟩
  · rintro ⟨o, leads⟩
    exact spread.holds_of_leads member (leads.mono (fun _ => .inl) sole.subset)

omit member in
theorem all_hold_iff : (∀ r ∈ routers, r.Finds f routers network → r.Holds network) ↔
    ∀ r ∈ routers, r.hostname = name → r.Finds f routers network → r.Serves network := by
  constructor
  · intro all r member named finds
    obtain ⟨o, leads⟩ := (spread.holds_iff member sole).1 (all r member finds)
    rw [leads.eq_of_named named]
    exact leads.there
  · intro serve
    refine spread.all_hold fun r member named finds => .inl (serve r member ?_ finds)
    rwa [sole] at named

end Sole

end HasSpread

end Router

namespace Network

open Router

variable {n : Network} {area : Area} {network : Prefix} {prepared converged : List Router}
  {limit steps : Nat}

def IsSingleArea (n : Network) (area : Area) : Prop :=
  ∀ c ∈ n.configurations.values, ∀ b ∈ c.interfaces.toList,
    (c.ospfProcess? b.2.vrf).isSome = true → ∀ o ∈ b.2.runningOspf?, o.area = area

instance (n : Network) (area : Area) : Decidable (n.IsSingleArea area) :=
  inferInstanceAs (Decidable (∀ c ∈ n.configurations.values, ∀ b ∈ c.interfaces.toList, _ → _))

theorem prepared_carriers (single : n.IsSingleArea area)
    (first : n.fabric.freshRouters.mapM (prepare n.announcements) = .ok prepared) :
    ∀ r ∈ prepared, r.IsConfined area ∧ r.IsCarrier n.fabric prepared ∧ r.HoldsOwn := by
  intro r member
  obtain ⟨listed, outcome⟩ := prepared_source first member
  obtain ⟨bare, staging, -⟩ := Router.prepare_internal outcome
  have weighs := prepared_weighs first member
  refine ⟨⟨hasCosts_of_bare bare, ?_⟩, ⟨fun x base => ?_, ?_, ?_⟩, ?_⟩
  · rintro runs ⟨name, i, o⟩ running
    obtain ⟨mine, found⟩ := mem_ospfInterfaces_iff.1 running
    obtain ⟨interface, vrf⟩ := List.mem_filter.1 mine
    rw [Router.ospfProcess?, ← beq_iff_eq.1 vrf] at runs
    exact single r.configuration listed _ interface runs o found
  · exact weighs.exists_held ⟨base, RibKind.admits_of_ne (by decide), rfl⟩
  · exact weighs.drawsFrom (fun _ _ never => by cases never) fun x base => carried_base base
  · rw [staging]
    exact .empty fun _ _ never => by cases never
  · intro x listed data known
    obtain ⟨-, _, _, _, _, _, -, -, -, rfl⟩ := mem_ospfBaseRoutes_iff.1 (weighs.mem_of_routes listed)
    cases known
    rfl

/-- When the OSPF loop ends, all networks have spread as far as they get. -/
theorem converged_hasSpread (single : n.IsSingleArea area)
    (first : n.fabric.freshRouters.mapM (prepare n.announcements) = .ok prepared)
    (ended : repeatUntilStable .ospfInternal limit (ospfInternalStep n.fabric) prepared =
      .ok (converged, steps)) : HasSpread n.fabric converged area := by
  have all := prepared_carriers single first
  have start : IsSpreading n.fabric prepared area :=
    ⟨fun r member => (all r member).1, fun r member => (all r member).2.1,
      .inl fun r member => (all r member).2.2⟩
  obtain ⟨last, spreading, rfl, idle⟩ := exists_idle_ospfInternal
    (P := fun routers => IsSpreading n.fabric routers area) start (fun _ => IsSpreading.move) ended
  refine ⟨spreading.move.confined, spreading.move.carriers, spreading.near_move, fun r member => ?_⟩
  obtain ⟨r, before, rfl⟩ := List.mem_map.1 member
  exact (spreading.carriers r before).supplied spreading.carriers idle

/-- Where all of OSPF is one area, a router ends the OSPF loop with a route for a network only if a chain
leads to a router that has it, past no other router of that one's name, and always if a chain leads near
to it, past no router of any name with the network. So all routers that find a network have a route for
it if those of the names with the network are near to it. Where only one name has the network, the chains
decide for each router, and all that find it have a route exactly if those of the name have it themselves. -/
theorem found_networks_held_iff (n : Network) (area : Area) (single : n.IsSingleArea area)
    (first : n.fabric.freshRouters.mapM (prepare n.announcements) = .ok prepared)
    (ended : repeatUntilStable .ospfInternal limit (ospfInternalStep n.fabric) prepared =
      .ok (converged, steps)) (network : Prefix) :
    (∀ r ∈ converged,
      (r.Holds network → ∃ o, LeadsTo n.fabric converged (·.Serves network) {o.hostname} r o) ∧
      ((∃ m, LeadsTo n.fabric converged (IsNear n.fabric converged network)
        (servers converged network) r m) → r.Holds network)) ∧
    ((∀ r ∈ converged, r.hostname ∈ servers converged network → r.Finds n.fabric converged network →
        r.IsNear n.fabric converged network) →
      ∀ r ∈ converged, r.Finds n.fabric converged network → r.Holds network) ∧
    ∀ name, servers converged network = {name} →
      (∀ r ∈ converged, r.Holds network ↔
        ∃ o, LeadsTo n.fabric converged (·.Serves network) {name} r o) ∧
      ((∀ r ∈ converged, r.Finds n.fabric converged network → r.Holds network) ↔
        ∀ r ∈ converged, r.hostname = name → r.Finds n.fabric converged network →
          r.Serves network) := by
  have spread := converged_hasSpread single first ended
  refine ⟨fun r member => ⟨spread.leads_of_holds member, ?_⟩, spread.all_hold, fun name sole =>
    ⟨fun r member => spread.holds_iff member sole, spread.all_hold_iff sole⟩⟩
  rintro ⟨m, leads⟩
  exact spread.holds_of_leads member leads

/-- A device with two VRFs, each on a link to another device. The second one has a network behind it. -/
def forked : Network :=
  let process : Vrf := { ospf := some { routerId := .ofOctets 1 1 1 1 } }
  let running (i : Interface) : Interface := i.withOspf .backbone (some 1)
  let split := ({ hostname := "split", vrfs := .ofList [("left", process), ("right", process)] } :
      Configuration)
    |>.withInterface "eth0" (running { Interface.ofAddress (.ofOctets 10 0 0 1 30) with vrf := "left" })
    |>.withInterface "eth1" (running { Interface.ofAddress (.ofOctets 10 0 1 1 30) with vrf := "right" })
    |>.withInterface "lo" (running { Interface.ofLoopback (.ofOctets 9 9 9 9 32) with vrf := "right" })
  let between := ({ hostname := "between", vrfs := .ofList [(defaultVrf, process)] } : Configuration)
    |>.withInterface "eth0" (running (.ofAddress (.ofOctets 10 0 0 2 30)))
    |>.withInterface "eth1" (running (.ofAddress (.ofOctets 10 0 1 2 30)))
  ofConfigurations [split, between]

theorem forked_single : forked.IsSingleArea .backbone := by decide +kernel

/-- Only routers of the name have the network, and one of them has no route for it, other than a neighbor
of another name. -/
def CutsOff (f : Fabric) (routers : List Router) (network : Prefix) (name : String) : Prop :=
  (∀ o ∈ routers, o.Serves network → o.hostname = name) ∧ (∃ o ∈ routers, o.Serves network) ∧
    ∃ r ∈ routers, r.hostname = name ∧ ¬r.Holds network ∧
      ∃ a ∈ r.adjacencies f routers, a.neighbor.hostname ≠ name ∧ a.neighbor.Holds network

instance {f : Fabric} {routers : List Router} {name : String} :
    Decidable (CutsOff f routers network name) :=
  inferInstanceAs (Decidable (_ ∧ _ ∧ ∃ r ∈ routers, _))

/-- The first VRF finds the network behind the second one, but has no route for it, other than the router
between them. -/
theorem forked_outcome : ∃ prepared converged steps,
    forked.fabric.freshRouters.mapM (prepare forked.announcements) = .ok prepared ∧
    repeatUntilStable .ospfInternal 10 (ospfInternalStep forked.fabric) prepared =
      .ok (converged, steps) ∧
    servers converged (InterfaceAddress.ofOctets 9 9 9 9 32).network = {"split"} ∧
    ∃ r ∈ converged, r.hostname = "split" ∧
      r.Finds forked.fabric converged (InterfaceAddress.ofOctets 9 9 9 9 32).network ∧
      ¬r.Holds (InterfaceAddress.ofOctets 9 9 9 9 32).network ∧
      ∃ o ∈ converged, o.hostname ≠ "split" ∧
        o.Holds (InterfaceAddress.ofOctets 9 9 9 9 32).network := by
  obtain ⟨prepared, first, passed⟩ :=
    of_any (x := forked.fabric.freshRouters.mapM (prepare forked.announcements))
      (p := fun prepared => (repeatUntilStable .ospfInternal 10 (ospfInternalStep forked.fabric)
        prepared).toOption.any fun ended => decide (CutsOff forked.fabric ended.1
          (InterfaceAddress.ofOctets 9 9 9 9 32).network "split")) (by decide +kernel)
  obtain ⟨⟨converged, steps⟩, ended, passed⟩ := of_any passed
  obtain ⟨only, ⟨o, source, serves⟩, r, member, name, none, a, adjacent, other, holds⟩ :=
    of_decide_eq_true passed
  have sole : servers converged (InterfaceAddress.ofOctets 9 9 9 9 32).network = {"split"} := by
    ext name
    constructor
    · rintro ⟨o, listed, serves, rfl⟩
      exact only o listed serves
    · rintro rfl
      exact ⟨o, source, serves, only o source serves⟩
  have next := (mem_adjacencies adjacent).2
  obtain ⟨m, leads⟩ := (converged_hasSpread forked_single first ended).leads_of_holds next holds
  have onward := leads.mono (fun _ there => there) (Set.empty_subset _)
  exact ⟨prepared, converged, steps, first, ended, sole, r, member, name,
    ⟨m, .across adjacent (Set.notMem_empty _) onward⟩, none, a.neighbor, next, other, holds⟩

/-- A VRF does not learn a network that it finds, for another VRF of its device has it. -/
theorem vrf_is_cut_off : ¬∀ (n : Network) (area : Area) (limit steps : Nat)
    (prepared converged : List Router), n.IsSingleArea area →
    n.fabric.freshRouters.mapM (prepare n.announcements) = .ok prepared →
    repeatUntilStable .ospfInternal limit (ospfInternalStep n.fabric) prepared =
      .ok (converged, steps) →
    ∀ (network : Prefix), ∀ r ∈ converged, r.Finds n.fabric converged network → r.Holds network := by
  intro all
  obtain ⟨prepared, converged, steps, first, ended, -, r, member, -, finds, none, -⟩ := forked_outcome
  exact none
    (all forked .backbone 10 steps prepared converged forked_single first ended _ r member finds)

/-- The chain of the router between leads past no VRF of the device, and that of the first VRF starts at
one. -/
theorem forked_spreads : forked.IsSingleArea .backbone ∧ ∃ prepared converged steps,
    forked.fabric.freshRouters.mapM (prepare forked.announcements) = .ok prepared ∧
    repeatUntilStable .ospfInternal 10 (ospfInternalStep forked.fabric) prepared =
      .ok (converged, steps) ∧
    servers converged (InterfaceAddress.ofOctets 9 9 9 9 32).network = {"split"} ∧
    (∃ r ∈ converged, ∃ o, LeadsTo forked.fabric converged
      (·.Serves (InterfaceAddress.ofOctets 9 9 9 9 32).network) {"split"} r o ∧ r.hostname ≠ "split") ∧
    ∃ r ∈ converged, r.hostname = "split" ∧
      r.Finds forked.fabric converged (InterfaceAddress.ofOctets 9 9 9 9 32).network ∧
      ¬r.Serves (InterfaceAddress.ofOctets 9 9 9 9 32).network := by
  obtain ⟨prepared, converged, steps, first, ended, sole, r, member, name, finds, none, o, other, strange,
    holds⟩ := forked_outcome
  obtain ⟨decided, -⟩ :=
    (found_networks_held_iff forked .backbone forked_single first ended _).2.2 _ sole
  obtain ⟨m, leads⟩ := (decided o other).1 holds
  refine ⟨forked_single, prepared, converged, steps, first, ended, sole, ⟨o, other, m, leads, strange⟩,
    r, member, name, finds, fun serves => none ((decided r member).2 ⟨r, .here serves⟩)⟩

end Network

end RoutePlane
