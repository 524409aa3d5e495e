import RoutePlane.Proofs.Network.Devices
import RoutePlane.Proofs.Network.Entries
import RoutePlane.Proofs.Network.Phases
import RoutePlane.Proofs.Router.Previous
import RoutePlane.Proofs.Router.ShortestWays

/-! The OSPF loop finds the shortest paths inside an area. Every route that a router is offered while the
loop runs stands for a way to a router that has the network. When a step changes nothing, then all
that the neighbors hold has been offered, so the routes held are those of the cheapest ways. -/
namespace RoutePlane

open Fallible

namespace Router

variable {f : Fabric} {routers : List Router} {r : Router} {a : Adjacency} {x : Route} {area : Area}
  {network : Prefix} {offered : Set Route} {announcements : List Announcement}

-- Tables are compared by what is merged into them, never by their entries.
attribute [local irreducible] Rib.mergeAll

def moveInternal (f : Fabric) (routers : List Router) (r : Router) : Router :=
  (r.gatherOspfInternal f routers).1.commitOspfInternal.1

theorem bare_moveInternal (r : Router) : (r.moveInternal f routers).bare = r.bare := rfl

theorem intraArrivals_moveInternal
    (still : ∀ o ∈ routers, (o.moveInternal f routers).ospf.intra.routes = o.ospf.intra.routes) :
    (r.moveInternal f routers).intraArrivals f (routers.map (moveInternal f routers)) =
      r.intraArrivals f routers := by
  rw [intraArrivals, adjacencies_map bare_moveInternal, List.flatMap_map, intraArrivals]
  refine List.flatMap_congr fun a adjacent => ?_
  have offers : (r.moveInternal f routers).ospfOffers (a.neighbor.moveInternal f routers).ospf.intra =
      r.ospfOffers a.neighbor.ospf.intra := by
    rw [ospfOffers, still _ (mem_adjacencies adjacent).2]
    rfl
  exact congrArg (List.filterMap _) offers

/-- The routes for the network that stand for something, and all routes for others. -/
def standing (f : Fabric) (routers : List Router) (area : Area) (network : Prefix) (r : Router) :
    Set Route :=
  {x | x.network = network → Stands f routers area network r x}

structure IsInformed (f : Fabric) (routers : List Router) (area : Area) (network : Prefix) (r : Router)
    (offered : Set Route) : Prop where
  weighs : r.ospf.intra.Weighs .ospfIntra offered
  sound : offered ⊆ standing f routers area network r
  own : ∀ x ∈ r.ospfBaseRoutes, x ∈ offered
  staged : r.staging.intra.DrawsFrom .ospfIntra (standing f routers area network r)

theorem standing_moveInternal : standing f routers area network r ⊆ standing f
    (routers.map (moveInternal f routers)) area network (r.moveInternal f routers) :=
  fun _ stands place => (stands place).map bare_moveInternal

/-- What a neighbor holds stands for a way, and so does what arrives over the adjacency. -/
theorem intraArrivals_standing
    (all : ∀ r ∈ routers, ∃ offered, r.IsInformed f routers area network offered) :
    ∀ x ∈ r.intraArrivals f routers, x ∈ standing f routers area network r := by
  intro x member place
  obtain ⟨a, adjacent, candidate⟩ := mem_intraArrivals_iff.1 member
  obtain ⟨route, data, offer, inside, rfl⟩ := mem_intraCandidates_iff.1 candidate
  obtain ⟨held, known, other⟩ := mem_ospfOffers_iff.1 offer
  obtain ⟨offered, informed⟩ := all _ (mem_adjacencies adjacent).2
  obtain ⟨o, total, reaches, same⟩ :=
    (informed.sound (informed.weighs.mem_of_routes held) place).reaches
  have metric : route.metric = Ospf.saturate total := congrArg Route.metric same
  have there : route.network = network := place
  have origin : some (OspfData.mk area 0 o.hostname) = some data := by
    rw [← known, same]
    rfl
  cases origin
  rw [there, metric, Ospf.addCost_saturate, ← inside]
  exact .way adjacent inside.symm reaches other

section Steps

variable (all : ∀ r ∈ routers, ∃ offered, r.IsInformed f routers area network offered)
  (informed : r.IsInformed f routers area network offered)
include all informed

/-- After a step all that has arrived has been offered too. -/
theorem IsInformed.move : ∃ offered', (∀ x ∈ r.intraArrivals f routers, x ∈ offered') ∧
    (r.moveInternal f routers).IsInformed f (routers.map (moveInternal f routers)) area network
      offered' := by
  obtain ⟨kind, suits, more, within, selects⟩ := informed.staged
  have arrivals := intraArrivals_standing (r := r) all
  have staged : (r.moveInternal f routers).staging.intra.Weighs .ospfIntra _ :=
    Rib.Weighs.mergeAll ⟨kind, selects⟩ fun x member => suits x (arrivals x member)
  have sound : more ∪ {x | x ∈ r.intraArrivals f routers} ⊆ standing f routers area network r :=
    Set.union_subset within arrivals
  refine ⟨_, fun x member => .inr (.inr member), informed.weighs.absorb staged, ?_, ?_, ?_⟩
  · exact (Set.union_subset informed.sound sound).trans standing_moveInternal
  · exact fun x base => .inl (informed.own x base)
  · exact staged.drawsFrom (fun _ _ never => by cases never) (sound.trans standing_moveInternal)

omit all in
theorem IsInformed.routes_moveInternal
    (idle : (r.gatherOspfInternal f routers).1.commitOspfInternal.2 = false) :
    (r.moveInternal f routers).ospf.intra.routes = r.ospf.intra.routes := by
  refine informed.weighs.selects.routes_of_still (fun _ _ never => ?_) (Bool.or_eq_false_iff.1 idle).1
  rw [informed.weighs.kind] at never
  cases never

theorem IsInformed.settled (idle : ∀ r ∈ routers,
      (r.gatherOspfInternal f routers).1.commitOspfInternal.2 = false) :
    ∃ offered', (r.moveInternal f routers).IsSettled f (routers.map (moveInternal f routers)) area
      network offered' := by
  obtain ⟨offered', arrived, next⟩ := informed.move all
  refine ⟨offered', next.weighs, next.sound, next.own, fun a adjacent x candidate => arrived x ?_⟩
  rw [← intraArrivals_moveInternal fun o member => by
    obtain ⟨_, others⟩ := all o member
    exact others.routes_moveInternal (idle o member)]
  exact mem_intraArrivals_iff.2 ⟨a, adjacent, candidate⟩

end Steps

theorem bare_initOspfCosts {o : Router} (same : r.bare = o.bare) :
    r.initOspfCosts.bare = o.initOspfCosts.bare := by
  refine seen_of_bare (fun r => r.initOspfCosts.bare) (fun r => ?_) same
  rw [initOspfCosts, initOspfCosts, show r.bare.ospfProcess? = r.ospfProcess? from rfl]
  split <;> rfl

/-- A prepared router has the costs of its interfaces and its own OSPF routes. -/
theorem prepare_internal {r' : Router} (done : Schedule.prepare announcements r = .ok r') :
    r'.bare = r.initOspfCosts.bare ∧ r'.staging = r.staging ∧
      r'.ospf.intra = (r.ospf.intra.mergeAll r'.ospfBaseRoutes).1 ∧
      r'.ospf.inter = r.ospf.inter ∧ r'.ospf.combined = r.ospf.combined := by
  obtain ⟨external, internal, -, -, rfl⟩ := initBgp_effect done
  have bare : r.initConnected.initStatic.initOspfCosts.bare = r.initOspfCosts.bare :=
    bare_initOspfCosts rfl
  rw [← bare]
  obtain ⟨costs, effect⟩ := r.initConnected.initStatic.initOspfCosts_effect
  rw [effect]
  exact ⟨rfl, rfl, rfl, rfl, rfl⟩

end Router

namespace Network

open Schedule

def HasPlainOspf (n : Network) : Prop :=
  ∀ c ∈ n.configurations.values, ∀ v ∈ c.vrfs.toList, ∀ w ∈ c.vrfs.toList,
    v.2.ospf.isSome = true → w.2.ospf.isSome = true → v.1 = w.1

instance (n : Network) : Decidable n.HasPlainOspf :=
  inferInstanceAs (Decidable (∀ c ∈ n.configurations.values, ∀ v ∈ c.vrfs.toList,
    ∀ w ∈ c.vrfs.toList, v.2.ospf.isSome = true → w.2.ospf.isSome = true → v.1 = w.1))

/-- All interfaces of OSPF routers with the prefix that run OSPF are in the area. -/
def IsOnlyIn (n : Network) (network : Prefix) (area : Area) : Prop :=
  ∀ c ∈ n.configurations.values, ∀ b ∈ c.interfaces.toList,
    (c.ospfProcess? b.2.vrf).isSome = true → b.2.network? = some network →
      ∀ o ∈ b.2.runningOspf?, o.area = area

variable {n : Network} {network : Prefix} {area : Area} {prepared converged : List Router}
  {limit steps : Nat}

theorem HasPlainOspf.eq_of_process (plain : n.HasPlainOspf) {c : Configuration}
    (listed : c ∈ n.configurations.values) {vrf vrf' : String}
    (runs : (c.ospfProcess? vrf).isSome = true) (runs' : (c.ospfProcess? vrf').isSome = true) :
    vrf = vrf' := by
  have bound {vrf : String} (runs : (c.ospfProcess? vrf).isSome = true) :
      ∃ v, (vrf, v) ∈ c.vrfs.toList ∧ v.ospf.isSome = true := by
    obtain ⟨process, found⟩ := Option.isSome_iff_exists.1 runs
    obtain ⟨v, known, own⟩ := Option.bind_eq_some_iff.1 found
    exact ⟨v, SortedMap.mem_toList_iff.2 known, Option.isSome_iff_exists.2 ⟨process, own⟩⟩
  obtain ⟨v, first, own⟩ := bound runs
  obtain ⟨w, second, own'⟩ := bound runs'
  exact plain c listed _ first _ second own own'

theorem prepared_source (done : n.fabric.freshRouters.mapM (prepare n.announcements) = .ok prepared)
    {r : Router} (member : r ∈ prepared) : r.configuration ∈ n.configurations.values ∧
      prepare n.announcements { configuration := r.configuration, vrf := r.vrf } = .ok r := by
  obtain ⟨c, listed, vrf, outcome⟩ := device_of_prepared done member
  obtain ⟨configuration, name⟩ := Prod.mk.inj (Router.device_prepare outcome)
  change r.configuration = c at configuration
  change r.vrf = vrf at name
  rw [configuration, name]
  exact ⟨listed, outcome⟩

/-- Two OSPF routers of one name are the same device in the same VRF. -/
theorem HasPlainOspf.alike (plain : n.HasPlainOspf)
    (done : n.fabric.freshRouters.mapM (prepare n.announcements) = .ok prepared) :
    ∀ r ∈ prepared, ∀ o ∈ prepared, r.hostname = o.hostname → r.ospfProcess?.isSome = true →
      o.ospfProcess?.isSome = true → r.bare = o.bare := by
  intro r member o other same runs runs'
  obtain ⟨listed, first⟩ := prepared_source done member
  obtain ⟨listed', second⟩ := prepared_source done other
  have configuration : r.configuration = o.configuration :=
    eq_of_hostname listed listed' same
  have vrf : r.vrf = o.vrf := by
    rw [Router.ospfProcess?, ← configuration] at runs'
    exact plain.eq_of_process listed runs runs'
  rw [(Router.prepare_internal first).1, (Router.prepare_internal second).1, configuration, vrf]

theorem prepared_weighs (done : n.fabric.freshRouters.mapM (prepare n.announcements) = .ok prepared)
    {r : Router} (member : r ∈ prepared) :
    r.ospf.intra.Weighs .ospfIntra {x | x ∈ r.ospfBaseRoutes} := by
  obtain ⟨-, -, intra, -⟩ := Router.prepare_internal (prepared_source done member).2
  rw [intra]
  exact .of_empty fun _ _ never => by cases never

theorem prepared_informed (only : n.IsOnlyIn network area)
    (done : n.fabric.freshRouters.mapM (prepare n.announcements) = .ok prepared) :
    ∀ r ∈ prepared, ∃ offered, r.IsInformed n.fabric prepared area network offered := by
  intro r member
  obtain ⟨listed, outcome⟩ := prepared_source done member
  obtain ⟨-, staging, -⟩ := Router.prepare_internal outcome
  refine ⟨_, prepared_weighs done member, ?_, fun x base => base, ?_⟩
  · intro x base place
    obtain ⟨runs, name, i, o, own, cost, running, there, known, rfl⟩ :=
      Router.mem_ospfBaseRoutes_iff.1 base
    obtain rfl : own = network := place
    obtain ⟨mine, found⟩ := Router.mem_ospfInterfaces_iff.1 running
    obtain ⟨interface, vrf⟩ := List.mem_filter.1 mine
    rw [Router.ospfProcess?, ← beq_iff_eq.1 vrf] at runs
    rw [only r.configuration listed _ interface runs there _ found]
    exact .own ⟨by rwa [Router.ospfProcess?, ← beq_iff_eq.1 vrf], known, i, o, running, there⟩
  · rw [staging]
    exact .empty fun _ _ never => by cases never

/-- The last step of the OSPF loop finds what all steps keep, and no router has anything to commit in it. -/
theorem exists_idle_ospfInternal {f : Fabric} {P : List Router → Prop} (start : P prepared)
    (keeps : ∀ routers, P routers → P (routers.map (Router.moveInternal f routers)))
    (ended : repeatUntilStable .ospfInternal limit (ospfInternalStep f) prepared =
      .ok (converged, steps)) : ∃ last, P last ∧ converged = last.map (Router.moveInternal f last) ∧
      ∀ r ∈ last, (r.gatherOspfInternal f last).1.commitOspfInternal.2 = false := by
  obtain ⟨last, good, idle⟩ := exists_idle_step (fun routers moved changed good step => by
    rw [ospfInternalStep, exchange_total] at step
    cases step
    exact keeps routers good) start ended
  rw [ospfInternalStep, exchange_total] at idle
  injection idle with idle
  obtain ⟨rfl, quiet⟩ := Prod.mk.inj idle
  refine ⟨last, good, rfl, fun r member => ?_⟩
  exact (Bool.or_eq_false_iff.1 (Bool.eq_false_iff.2 (List.any_eq_false.1 quiet r member))).2

/-- The OSPF loop changes nothing but tables. -/
theorem bare_of_converged (ended : repeatUntilStable .ospfInternal limit (ospfInternalStep n.fabric)
    prepared = .ok (converged, steps)) : ∀ r ∈ converged, ∃ o ∈ prepared, r.bare = o.bare := by
  have keeps (routers : List Router) (before : ∀ r ∈ routers, ∃ o ∈ prepared, r.bare = o.bare) :
      ∀ r ∈ routers.map (Router.moveInternal n.fabric routers), ∃ o ∈ prepared, r.bare = o.bare := by
    intro r member
    obtain ⟨r, listed, rfl⟩ := List.mem_map.1 member
    exact before r listed
  obtain ⟨last, before, rfl, -⟩ :=
    exists_idle_ospfInternal (fun r member => ⟨r, member, rfl⟩) keeps ended
  exact keeps last before

theorem all_settled (plain : n.HasPlainOspf) (only : n.IsOnlyIn network area)
    (first : n.fabric.freshRouters.mapM (prepare n.announcements) = .ok prepared)
    (ended : repeatUntilStable .ospfInternal limit (ospfInternalStep n.fabric) prepared =
      .ok (converged, steps)) : Router.AllSettled n.fabric area network converged where
  settled := by
    have keeps (routers : List Router)
        (all : ∀ r ∈ routers, ∃ offered, r.IsInformed n.fabric routers area network offered) :
        ∀ r ∈ routers.map (Router.moveInternal n.fabric routers), ∃ offered, r.IsInformed n.fabric
          (routers.map (Router.moveInternal n.fabric routers)) area network offered := by
      intro r member
      obtain ⟨r, before, rfl⟩ := List.mem_map.1 member
      obtain ⟨offered, informed⟩ := all r before
      obtain ⟨offered', -, next⟩ := informed.move all
      exact ⟨offered', next⟩
    obtain ⟨last, all, rfl, idle⟩ :=
      exists_idle_ospfInternal (prepared_informed only first) keeps ended
    intro r member
    obtain ⟨r, before, rfl⟩ := List.mem_map.1 member
    obtain ⟨offered, informed⟩ := all r before
    exact informed.settled all idle
  alike := by
    intro r member o other same runs runs'
    obtain ⟨r', member', bare⟩ := bare_of_converged ended r member
    obtain ⟨o', other', bare'⟩ := bare_of_converged ended o other
    have name := Router.seen_of_bare Router.hostname (fun _ => rfl) bare
    have name' := Router.seen_of_bare Router.hostname (fun _ => rfl) bare'
    have process := Router.seen_of_bare Router.ospfProcess? (fun _ => rfl) bare
    have process' := Router.seen_of_bare Router.ospfProcess? (fun _ => rfl) bare'
    rw [bare, bare']
    exact plain.alike first r' member' o' other' (name.symm.trans (same.trans name'))
      (process ▸ runs) (process' ▸ runs')

/-- When the OSPF loop ends, a router has routes inside an area for a network that is only there exactly
if it has the network itself or a way to it. Their metric is the cost of the cheapest ways. Below the
limit of metrics the next hops are those of the own interfaces of that cost, and those of the adjacencies
that cheapest ways to other routers begin with. Where links cost something, no cheapest way comes back
to its start. -/
theorem intra_routes_shortest (plain : n.HasPlainOspf) (only : n.IsOnlyIn network area)
    (first : n.fabric.freshRouters.mapM (prepare n.announcements) = .ok prepared)
    (ended : repeatUntilStable .ospfInternal limit (ospfInternalStep n.fabric) prepared =
      .ok (converged, steps)) : ∀ r ∈ converged,
    ((∃ x, x ∈ r.ospf.intra.held network) ↔
      ∃ o total, Router.Reaches n.fabric converged area network r o total) ∧
    ∀ least, Router.IsCheapest n.fabric converged area network r least →
      (∀ x ∈ r.ospf.intra.held network, x.metric.toNat = min least Ospf.costLimit) ∧
      (least < Ospf.costLimit → ∀ hop, (∃ x ∈ r.ospf.intra.held network, x.nextHop = hop) ↔
        (∃ name cost, r.Attaches network name cost ∧ cost.toNat = least ∧
          hop = .interface name none) ∨
        ∃ a ∈ r.adjacencies n.fabric converged, a.area = area ∧ hop = a.nextHop ∧ ∃ o total,
          Router.Reaches n.fabric converged area network a.neighbor o total ∧
            o.hostname ≠ r.hostname ∧ a.cost.toNat + total = least) ∧
      ∀ a ∈ r.adjacencies n.fabric converged, 0 < a.cost.toNat → ∀ o total,
        Router.Reaches n.fabric converged area network a.neighbor o total →
          a.cost.toNat + total = least → o.hostname ≠ r.hostname := by
  intro r member
  have all := all_settled plain only first ended
  refine ⟨⟨?_, ?_⟩, fun least cheapest => ⟨?_, all.nextHop_iff member cheapest, ?_⟩⟩
  · rintro ⟨x, held⟩
    obtain ⟨offered, settled⟩ := all.settled r member
    obtain ⟨o, total, reaches, -⟩ := (settled.stands held).reaches
    exact ⟨o, total, reaches⟩
  · rintro ⟨o, total, reaches⟩
    obtain ⟨x, held, -⟩ := all.exists_held_of_reaches member reaches
    exact ⟨x, held⟩
  · exact fun x => all.metric_eq member cheapest
  · rintro a adjacent positive o total onward rfl
    exact all.other_of_pos member adjacent cheapest onward positive

/-- Two routers on a link; the second has a network behind it. -/
def pair : Network :=
  let process : SortedMap String Vrf := .ofList [(defaultVrf, { ospf := some { routerId := .ofOctets 1 1 1 1 } })]
  let first := ({ hostname := "first", vrfs := process } : Configuration)
    |>.withInterface "eth0" ((Interface.ofAddress (.ofOctets 10 0 0 1 30)).withOspf .backbone (some 10))
  let second := ({ hostname := "second", vrfs := process } : Configuration)
    |>.withInterface "eth0" ((Interface.ofAddress (.ofOctets 10 0 0 2 30)).withOspf .backbone (some 10))
    |>.withInterface "lo" ((Interface.ofLoopback (.ofOctets 9 9 9 9 32)).withOspf .backbone (some 1))
  ofConfigurations [first, second]

/-- The first router of the pair has the way to the network of the second. -/
theorem pair_reaches : pair.HasPlainOspf ∧
    pair.IsOnlyIn (InterfaceAddress.ofOctets 9 9 9 9 32).network .backbone ∧
    ∃ prepared converged steps,
      pair.fabric.freshRouters.mapM (prepare pair.announcements) = .ok prepared ∧
      repeatUntilStable .ospfInternal 10 (ospfInternalStep pair.fabric) prepared =
        .ok (converged, steps) ∧
      ∃ r ∈ converged, r.hostname = "first" ∧ ∃ o total, Router.Reaches pair.fabric converged
        .backbone (InterfaceAddress.ofOctets 9 9 9 9 32).network r o total := by
  have plain : pair.HasPlainOspf := by decide +kernel
  have only : pair.IsOnlyIn (InterfaceAddress.ofOctets 9 9 9 9 32).network .backbone := by
    unfold IsOnlyIn
    decide +kernel
  have held : (independent pair.fabric 10 pair.announcements).toOption.any (fun done =>
      done.1.any fun r => r.hostname == "first" &&
        (r.ospf.intra.held (InterfaceAddress.ofOctets 9 9 9 9 32).network).toList.any
          fun _ => true) = true := by
    decide +kernel
  cases done : independent pair.fabric 10 pair.announcements with
  | error =>
    rw [done] at held
    cases held
  | ok outcome =>
    obtain ⟨routers, steps⟩ := outcome
    rw [done] at held
    obtain ⟨prepared, converged, first, ended, rfl⟩ := independent_ok.1 done
    obtain ⟨_, imported, named⟩ := List.any_eq_true.1 held
    obtain ⟨r, member, rfl⟩ := List.mem_map.1 imported
    obtain ⟨name, some⟩ := Bool.and_eq_true_iff.1 named
    obtain ⟨x, holds, -⟩ := List.any_eq_true.1 some
    exact ⟨plain, only, prepared, converged, _, first, ended, r, member, beq_iff_eq.1 name,
      (intra_routes_shortest plain only first ended r member).1.1 ⟨x, holds⟩⟩

end Network

end RoutePlane
