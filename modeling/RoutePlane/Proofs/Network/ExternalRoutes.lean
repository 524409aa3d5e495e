import RoutePlane.Proofs.Network.ShortestPaths
import RoutePlane.Proofs.Router.ExternalWays

/-! The loop of external OSPF routes finds the best announcements. In every round the routers announce
routes of their own, and every route that is learned while the loop runs stands for a way to a router
that announces it. When a step changes nothing, then all that the neighbors offer has been weighed. -/
namespace RoutePlane

open Fallible

namespace Router

variable {f : Fabric} {routers : List Router} {r r' : Router} {x : Route} {network : Prefix}
  {type : MetricType} {process : OspfProcess} {policy : String} {routes : List Route}

-- Tables are compared by what is merged into them, never by their entries.
attribute [local irreducible] Rib.mergeAll

def stagedTable (type : MetricType) (r : Router) : Rib :=
  match type with
  | .type1 => r.staging.e1
  | .type2 => r.staging.e2

def moveExternal (f : Fabric) (routers : List Router) (r : Router) : Router :=
  (r.gatherOspfExternal f routers).1.commitOspfExternal.1

theorem bare_moveExternal (r : Router) : (r.moveExternal f routers).bare = r.bare := rfl

theorem stagedTable_moveExternal : (r.moveExternal f routers).stagedTable type =
    ((r.stagedTable type).mergeAll (r.externalArrivals f routers type.protocol)).1 := by
  cases type <;> rfl

theorem externalTable_moveExternal : (r.moveExternal f routers).externalTable type =
    ((r.externalTable type).absorb ((r.moveExternal f routers).stagedTable type)).1 := by
  cases type <;> rfl

def standingOutside (f : Fabric) (routers : List Router) (type : MetricType) (network : Prefix)
    (r : Router) : Set Route :=
  {x | x.protocol = type.protocol ∧ (x.network = network → IsFrom f routers type network r x)}

/-- The router announces routes of its own, and what it has learned stands for ways. -/
structure KnowsOutside (f : Fabric) (routers : List Router) (network : Prefix) (r : Router) : Prop where
  exports : r.ospf.exports.DrawsFrom .ospf r.exportedRoutes
  tables : ∀ type, (r.externalTable type).DrawsFrom type.kind (standingOutside f routers type network r)
  staged : ∀ type, (r.stagedTable type).DrawsFrom type.kind (standingOutside f routers type network r)

theorem standingOutside_moveExternal : standingOutside f routers type network r ⊆
    standingOutside f (routers.map (moveExternal f routers)) type network
      (r.moveExternal f routers) :=
  fun _ stands => ⟨stands.1, fun place => (stands.2 place).map bare_moveExternal fun _ => rfl⟩

/-- What a neighbor announces or has learned stands for a way, and so does what arrives over the
adjacency. -/
theorem externalArrivals_standing (all : ∀ r ∈ routers, r.KnowsOutside f routers network) :
    ∀ x ∈ r.externalArrivals f routers type.protocol,
      x ∈ standingOutside f routers type network r := by
  intro x member
  obtain ⟨a, adjacent, candidate⟩ := mem_externalArrivals_iff.1 member
  obtain ⟨route, data, offer, isType, rfl⟩ := mem_externalCandidates_iff.1 candidate
  have neighbor := all _ (mem_adjacencies adjacent).2
  have learned (other : MetricType) (offer : (route, data) ∈
        r.ospfOffers (a.neighbor.externalTable other)) (place : route.network = network) :
      route.ospf? = some data ∧ IsFrom f routers type network a.neighbor route := by
    obtain ⟨held, found, -⟩ := mem_ospfOffers_iff.1 offer
    have stands := (neighbor.tables other).mem held
    obtain rfl : other = type := MetricType.protocol_injective (stands.1.symm.trans isType)
    exact ⟨found, stands.2 place⟩
  refine ⟨isType, fun place => ?_⟩
  have source : route.ospf? = some data ∧ IsFrom f routers type network a.neighbor route := by
    rcases offer with offer | offer | offer
    · obtain ⟨held, found, -⟩ := mem_ospfOffers_iff.1 offer
      obtain ⟨p, held⟩ := Rib.mem_routes_iff.1 held
      obtain rfl : p = network := (neighbor.exports.network_eq held).symm.trans place
      exact ⟨found, isFrom_of_announced (neighbor.exports.mem_of_held held) held isType⟩
    · exact learned .type1 offer place
    · exact learned .type2 offer place
  exact source.2.across adjacent isType source.1

section Steps

variable (all : ∀ r ∈ routers, r.KnowsOutside f routers network)
  (knows : r.KnowsOutside f routers network)
include all knows

theorem KnowsOutside.move : (r.moveExternal f routers).KnowsOutside f
    (routers.map (moveExternal f routers)) network := by
  have suits (type : MetricType) : ∀ x ∈ standingOutside f
      (routers.map (moveExternal f routers)) type network (r.moveExternal f routers),
      type.kind.Suits x := fun x _ => type.suits x
  have staged (type : MetricType) : ((r.stagedTable type).mergeAll
        (r.externalArrivals f routers type.protocol)).1.DrawsFrom type.kind
      (standingOutside f routers type network r) :=
    (knows.staged type).mergeAll (externalArrivals_standing all)
  refine ⟨knows.exports, fun type => ?_, fun type => ?_⟩
  · have table := (knows.tables type).absorb (staged type)
    rw [externalTable_moveExternal, stagedTable_moveExternal]
    exact table.restrict (suits type) fun x held => standingOutside_moveExternal (table.mem held)
  · rw [stagedTable_moveExternal]
    exact (staged type).restrict (suits type) fun x held =>
      standingOutside_moveExternal ((staged type).mem held)

omit all in
theorem KnowsOutside.routes_moveExternal
    (idle : (r.gatherOspfExternal f routers).1.commitOspfExternal.2 = false) (type : MetricType) :
    ((r.moveExternal f routers).externalTable type).routes = (r.externalTable type).routes := by
  have still : ((r.externalTable type).absorb ((r.moveExternal f routers).stagedTable type)).2 =
      false := by
    obtain ⟨first, second⟩ := Bool.or_eq_false_iff.1 idle
    cases type with
    | type1 => exact first
    | type2 => exact second
  rw [externalTable_moveExternal]
  obtain ⟨offered, -, selects⟩ := (knows.tables type).selects
  refine selects.routes_of_still (fun x _ => ?_) still
  rw [(knows.tables type).kind]
  exact type.suits x

theorem KnowsOutside.settled (idle : ∀ r ∈ routers,
      (r.gatherOspfExternal f routers).1.commitOspfExternal.2 = false) (type : MetricType) :
    ∃ offered, (r.moveExternal f routers).IsSettledOutside f
      (routers.map (moveExternal f routers)) type network offered := by
  obtain ⟨kind, -, before, within, selects⟩ := knows.tables type
  obtain ⟨kind', -, more, within', selects'⟩ := knows.staged type
  have arrivals : {x | x ∈ r.externalArrivals f routers type.protocol} ⊆
      standingOutside f routers type network r := externalArrivals_standing all
  have staged : ((r.moveExternal f routers).stagedTable type).Weighs type.kind _ :=
    stagedTable_moveExternal ▸ Rib.Weighs.mergeAll ⟨kind', selects'⟩ fun x _ => type.suits x
  have table : ((r.moveExternal f routers).externalTable type).Weighs type.kind _ :=
    externalTable_moveExternal ▸ Rib.Weighs.absorb ⟨kind, selects⟩ staged
  have sound : ∀ x ∈ before ∪ (more ∪ {x | x ∈ r.externalArrivals f routers type.protocol}),
      x ∈ standingOutside f (routers.map (moveExternal f routers)) type network
        (r.moveExternal f routers) :=
    (Set.union_subset within (Set.union_subset within' arrivals)).trans standingOutside_moveExternal
  refine ⟨_, table, fun x offer => (sound x offer).1, fun x offer => (sound x offer).2, ?_⟩
  intro a adjacent x candidate
  rw [adjacencies_map bare_moveExternal] at adjacent
  obtain ⟨a, before, rfl⟩ := List.mem_map.1 adjacent
  have neighbor := (mem_adjacencies before).2
  have same := (all _ neighbor).routes_moveExternal (idle _ neighbor)
  have first : (a.neighbor.moveExternal f routers).ospf.e1.routes = a.neighbor.ospf.e1.routes :=
    same .type1
  have second : (a.neighbor.moveExternal f routers).ospf.e2.routes = a.neighbor.ospf.e2.routes :=
    same .type2
  refine .inr (.inr (List.mem_flatMap.2 ⟨a, before, ?_⟩))
  simp only [mem_externalCandidates_iff, mem_ospfOffers_iff] at candidate ⊢
  rw [← first, ← second]
  exact candidate

end Steps

/-- What the router lets out it announces under its own name. -/
theorem LetsOut.exported (out : r.LetsOut x) : x ∈ r.exportedRoutes := by
  obtain ⟨process, policy, routes, own, exported, member⟩ := out
  obtain ⟨source, -, accepted⟩ := (mem_filterMapM exported).1 member
  obtain ⟨edited, built, same⟩ := accepted_core accepted
  obtain ⟨-, -, -, kind, -⟩ := RouteDraft.build_eq_ok built
  have kinds : edited.kind.core = _ := congrArg RouteDraft.kind same
  refine ⟨by rw [own]; rfl, ?_⟩
  rw [Route.ospf?, ← kind, ← RouteKind.ospf?_core, kinds]
  rfl

def ExportsOwn (r : Router) : Prop := r.ospf.exports.DrawsFrom .ospf r.exportedRoutes

theorem ExportsOwn.startRound (r : Router) : r.startRound.ExportsOwn :=
  .empty fun _ _ never => by cases never

theorem ExportsOwn.activateStatic (own : r.ExportsOwn) : r.activateStatic.1.ExportsOwn := by
  obtain ⟨ready, effect⟩ := activateStatic_effect r
  rw [effect]
  exact own

theorem ExportsOwn.activateGenerated (own : r.ExportsOwn) : r.activateGenerated.1.ExportsOwn := by
  obtain ⟨ready, effect⟩ := activateGenerated_effect r
  rw [effect]
  exact own

theorem ExportsOwn.initOspfExports (own : r.ExportsOwn) (done : r.initOspfExports = .ok r') :
    r'.ExportsOwn := by
  obtain ⟨l, out, rfl⟩ := initOspfExports_effect done
  exact Rib.DrawsFrom.mergeAll own fun x member => (out x member).exported

end Router

namespace Network

open Schedule

variable {n : Network} {network : Prefix} {before exported converged : List Router}
  {limit most steps : Nat}

theorem exported_knowsOutside (start : n.RoundStart before)
    (entered : beforeOspf limit before = .ok exported) :
    ∀ r ∈ exported, r.KnowsOutside n.fabric exported network := by
  intro r member
  have own : r.ExportsOwn := beforeOspf_keeps (fun r _ => Router.ExportsOwn.startRound r)
    (fun _ => .activateStatic) (fun _ => .activateGenerated) (fun _ _ => .initOspfExports) entered
    r member
  obtain ⟨-, e1, e2, staging⟩ := beforeOspf_entry start.bases entered r member
  have nothing {t : Rib} (type : MetricType) (empty : t = .empty type.kind) (pool : Set Route) :
      t.DrawsFrom type.kind pool := empty ▸ .empty fun x _ => type.suits x
  refine ⟨own, fun type => nothing type ?_ _, fun type => nothing type ?_ _⟩
  · cases type with
    | type1 => exact e1
    | type2 => exact e2
  · cases type with
    | type1 => exact congrArg Staging.e1 staging
    | type2 => exact congrArg Staging.e2 staging

theorem all_settledOutside (plain : n.HasPlainOspf) (start : n.RoundStart before)
    (entered : beforeOspf limit before = .ok exported)
    (ended : repeatUntilStable .ospfExternal most (ospfExternalStep n.fabric) exported =
      .ok (converged, steps)) (type : MetricType) :
    Router.AllSettledOutside n.fabric type network converged := by
  let Good (routers : List Router) : Prop := n.HasDevices routers ∧
    ∀ r ∈ routers, r.KnowsOutside n.fabric routers network
  have first : Good exported :=
    ⟨(beforeOspf_device entered).trans start.map_device, exported_knowsOutside start entered⟩
  have keeps (routers moved : List Router) (changed : Bool) (good : Good routers)
      (step : ospfExternalStep n.fabric routers = .ok (moved, changed)) : Good moved := by
    rw [ospfExternalStep, exchange_total] at step
    cases step
    refine ⟨?_, fun r member => ?_⟩
    · rw [HasDevices, ← good.1, List.map_map]
      rfl
    · obtain ⟨r, source, rfl⟩ := List.mem_map.1 member
      exact (good.2 r source).move good.2
  obtain ⟨last, good, idle⟩ := exists_idle_step keeps first ended
  obtain ⟨devices, knows⟩ := keeps _ _ _ good idle
  rw [ospfExternalStep, exchange_total] at idle
  injection idle with idle
  obtain ⟨rfl, quiet⟩ := Prod.mk.inj idle
  refine ⟨fun r member => ?_, fun r member => (knows r member).exports, ?_⟩
  · obtain ⟨r, source, rfl⟩ := List.mem_map.1 member
    refine (good.2 r source).settled good.2 (fun r member => ?_) type
    exact (Bool.or_eq_false_iff.1 (Bool.eq_false_iff.2 (List.any_eq_false.1 quiet r member))).2
  · intro r member o other same runs runs'
    have configuration : r.configuration = o.configuration :=
      eq_of_hostname (devices.listed member) (devices.listed other) same
    refine devices.eq_of_names member other same ?_
    rw [Router.ospfProcess?, ← configuration] at runs'
    exact plain.eq_of_process (devices.listed member) runs runs'

/-- When the loop ends in any round, a router that announces nothing for a network has type 1 routes
for it exactly if it has a way to a router that announces it with type 1, and their metric is the least
sum of an announced metric and the distance to its router; and it has type 2 routes exactly if it has a
way to a router that announces it with type 2, and their metric and cost are the least announced metric
and with it the least distance to its router. Sums stay below the limit. -/
theorem external_routes_best (plain : n.HasPlainOspf) (start : n.RoundStart before)
    (entered : beforeOspf limit before = .ok exported)
    (ended : repeatUntilStable .ospfExternal most (ospfExternalStep n.fabric) exported =
      .ok (converged, steps)) :
    ∀ r ∈ converged, (∀ x, x ∉ r.ospf.exports.held network) →
      ((∃ x, x ∈ r.ospf.e1.held network) ↔ ∃ o metric total,
        Router.Crosses n.fabric converged r o total ∧ o.Exports .type1 network metric) ∧
      (∀ x ∈ r.ospf.e1.held network, IsLeast {sum | ∃ o metric d,
        o.Exports .type1 network metric ∧ Router.IsDistance n.fabric converged r o d ∧
          sum = min (metric.toNat + d) Ospf.costLimit} x.metric.toNat) ∧
      ((∃ x, x ∈ r.ospf.e2.held network) ↔ ∃ o metric total,
        Router.Crosses n.fabric converged r o total ∧ o.Exports .type2 network metric) ∧
      ∀ x ∈ r.ospf.e2.held network, IsLeast {w : ℕ ×ₗ ℕ | ∃ o metric d,
        o.Exports .type2 network metric ∧ Router.IsDistance n.fabric converged r o d ∧
          w = toLex (metric.toNat, min d Ospf.costLimit)}
        (toLex (x.metric.toNat, (RibKind.costToAdvertiser x).toNat)) := by
  intro r member none
  have silent (type : MetricType) (metric : UInt32) : ¬r.Exports type network metric := by
    rintro ⟨x, held, -⟩
    exact none x held
  have all (type : MetricType) : Router.AllSettledOutside n.fabric type network converged :=
    all_settledOutside plain start entered ended type
  refine ⟨(all .type1).exists_held_iff member (silent .type1), fun x held => ?_,
    (all .type2).exists_held_iff member (silent .type2),
    fun x => (all .type2).worth_isLeast member (silent .type2)⟩
  obtain ⟨⟨o, metric, d, exports, distance, same⟩, below⟩ :=
    (all .type1).worth_isLeast member (silent .type1) held
  refine ⟨⟨o, metric, d, exports, distance, congrArg (fun w => (ofLex w).1) same⟩, ?_⟩
  rintro sum ⟨o, metric, d, exports, distance, rfl⟩
  rcases Prod.Lex.toLex_le_toLex.1 (below ⟨o, metric, d, exports, distance, rfl⟩) with less | same
  · exact less.le
  · exact same.1.le

def behind : Prefix := (InterfaceAddress.ofOctets 20 0 0 0 8).network

/-- Two routers on a link; the second announces its static route. -/
def stub : Network :=
  let link (host : Nat) :=
    Interface.withOspf (.ofAddress (.ofOctets 10 0 0 host 30)) .backbone (some 10)
  let first := ({ hostname := "first", vrfs := .ofList [(defaultVrf, {
      ospf := some { routerId := .ofOctets 1 1 1 1 } })] } : Configuration)
    |>.withInterface "eth0" (link 1)
  let second := ({
      hostname := "second"
      vrfs := .ofList [(defaultVrf, {
        staticRoutes := [{ network := behind, nextHop := .discard }]
        ospf := some { routerId := .ofOctets 2 2 2 2, exportPolicy := some "all" } })]
      routeMaps := .ofList [("all", .ofEntries "all" [{
        sequence := 10, action := .accept, conditions := [], actions := [], next := .exit }])] } :
      Configuration)
    |>.withInterface "eth0" (link 2)
  ofConfigurations [first, second]

/-- The first router of the stub has the way to the announcement of the second. -/
theorem stub_crosses : stub.HasPlainOspf ∧ ∃ before exported converged steps,
    stub.RoundStart before ∧ beforeOspf 10 before = .ok exported ∧
    repeatUntilStable .ospfExternal 10 (ospfExternalStep stub.fabric) exported =
      .ok (converged, steps) ∧
    ∃ r ∈ converged, r.hostname = "first" ∧
      (∀ x, x ∉ r.ospf.exports.held behind) ∧ ∃ o metric total,
        Router.Crosses stub.fabric converged r o total ∧
          o.Exports .type2 behind metric := by
  have plain : stub.HasPlainOspf := by decide +kernel
  have held : (independent stub.fabric 10 stub.announcements >>= fun done =>
      beforeBgp stub.fabric 10 done.1).toOption.any (fun entry => entry.any fun r =>
        r.hostname == "first" && ((r.ospf.exports.held behind).isEmpty &&
          (r.ospf.e2.held behind).toList.any fun _ => true)) = true := by
    decide +kernel
  obtain ⟨entry, phases, held⟩ := of_any held
  obtain ⟨⟨before, _⟩, done, entered⟩ := bind_eq_ok.1 phases
  obtain ⟨exported, converged, steps, first, ended, rfl⟩ := beforeBgp_ok.1 entered
  obtain ⟨_, imported, named⟩ := List.any_eq_true.1 held
  obtain ⟨r, member, rfl⟩ := List.mem_map.1 imported
  obtain ⟨name, rest⟩ := Bool.and_eq_true_iff.1 named
  obtain ⟨none, some⟩ := Bool.and_eq_true_iff.1 rest
  obtain ⟨x, holds, -⟩ := List.any_eq_true.1 some
  have silent : ∀ x, x ∉ r.ospf.exports.held behind := fun x announced =>
    SortedSet.not_mem_empty x (SortedSet.isEmpty_iff.1 none ▸ announced)
  have best := external_routes_best plain (.first done) first ended r member silent
  exact ⟨plain, before, exported, converged, steps, .first done, first, ended, r, member,
    beq_iff_eq.1 name, silent, best.2.2.1.1 ⟨x, holds⟩⟩

end Network

end RoutePlane
