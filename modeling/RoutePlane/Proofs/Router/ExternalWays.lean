import Mathlib.Data.Prod.Lex
import RoutePlane.Proofs.Router.Ways

/-! External OSPF routes and the ways that they stand for. A way leads over adjacencies of any area to
a router that announces the network from outside. What a route is worth is settled by the metric of
that router and by what the way costs, for each type of metric in its own way. When nothing new arrives
any more, a router without an announcement of its own holds routes of the least worth, whoever else
announces the network in between. -/
namespace RoutePlane

namespace MetricType

variable {type : MetricType} {offered : Set Route} {p : Prefix} {x : Route} {a : Router.Adjacency}
  {data : OspfData} {m m' : UInt32} {d d' : ℕ}

def kind : MetricType → RibKind
  | type1 => .ospfE1
  | type2 => .ospfE2

theorem protocol_injective {type type' : MetricType} (same : type.protocol = type'.protocol) :
    type = type' := by
  cases type <;> cases type' <;> first | rfl | cases same

theorem suits (type : MetricType) (x : Route) : type.kind.Suits x := by
  cases type <;> exact fun never => by cases never

/-- What tables of the type compare. Less is preferred. -/
def worth : MetricType → Route → ℕ ×ₗ ℕ
  | type1, x => toLex (x.metric.toNat, 0)
  | type2, x => toLex (x.metric.toNat, (RibKind.costToAdvertiser x).toNat)

def worthAt : MetricType → UInt32 → ℕ → ℕ ×ₗ ℕ
  | type1, m, d => toLex (min (m.toNat + d) Ospf.costLimit, 0)
  | type2, m, d => toLex (m.toNat, min d Ospf.costLimit)

theorem rank_le_iff {x y : Route} : type.kind.rank x ≤ type.kind.rank y ↔
    type.worth x ≤ type.worth y := by
  have keys (a b c d : ℕ) : Rank.ofKeys a b 0 0 0 0 0 0 0 0 ≤ Rank.ofKeys c d 0 0 0 0 0 0 0 0 ↔
      toLex (a, b) ≤ toLex (c, d) := by
    simp [Rank.ofKeys, Prod.Lex.toLex_le_toLex, Nat.le_iff_lt_or_eq]
  cases type with
  | type1 => exact keys _ _ _ _
  | type2 => exact keys _ _ _ _

theorem mem_best_iff : x ∈ type.kind.best offered p ↔ (x ∈ offered ∧ x.network = p) ∧
    ∀ y ∈ offered, y.network = p → type.worth x ≤ type.worth y := by
  have candidate (y : Route) : y ∈ type.kind.candidates offered p ↔ y ∈ offered ∧ y.network = p := by
    cases type <;> simp [RibKind.mem_candidates, RibKind.Admits, kind]
  rw [RibKind.mem_best_iff fun x _ => type.suits x]
  simp only [candidate, rank_le_iff, and_imp]

/-- A longer way is worth no less. -/
theorem worthAt_mono (le : d ≤ d') : type.worthAt m d ≤ type.worthAt m d' := by
  cases type with
  | type1 => exact Prod.Lex.toLex_mono ⟨by dsimp only; omega, le_rfl⟩
  | type2 => exact Prod.Lex.toLex_mono ⟨le_rfl, by dsimp only; omega⟩

theorem worthAt_add (le : type.worthAt m d ≤ type.worthAt m' d') (c : ℕ) :
    type.worthAt m (c + d) ≤ type.worthAt m' (c + d') := by
  cases type with
  | type1 =>
    simp only [worthAt, Prod.Lex.toLex_le_toLex, le_refl, and_true, ← le_iff_lt_or_eq] at le ⊢
    omega
  | type2 =>
    simp only [worthAt, Prod.Lex.toLex_le_toLex] at le ⊢
    omega

theorem worth_of_announced (found : x.ospf? = some data) (near : data.costToAdvertiser = 0) :
    type.worth x = type.worthAt x.metric 0 := by
  have fits := Ospf.le_costLimit x.metric
  cases type with
  | type1 => rw [worth, worthAt, Nat.add_zero, Nat.min_eq_left fits]
  | type2 =>
    rw [worth, worthAt, RibKind.costToAdvertiser, found, Option.map_some, Option.getD_some, near,
      Nat.zero_min]
    rfl

/-- A route that arrives over an adjacency has come as much farther as the adjacency costs. -/
theorem worth_externalRoute (isType : x.protocol = type.protocol) (found : x.ospf? = some data)
    (same : type.worth x = type.worthAt m d) :
    type.worth (Router.externalRoute a x data) = type.worthAt m (a.cost.toNat + d) := by
  cases type with
  | type1 =>
    have metric : x.metric = Ospf.saturate (m.toNat + d) := by
      rw [← UInt32.toNat_inj, Ospf.toNat_saturate]
      exact congrArg (fun w => (ofLex w).1) same
    have sum : (Router.externalRoute a x data).metric =
        Ospf.saturate (a.cost.toNat + (m.toNat + d)) := by
      rw [← Ospf.addCost_saturate, ← metric]
      exact if_pos isType
    rw [worth, sum, Ospf.toNat_saturate, worthAt, Nat.add_left_comm]
  | type2 =>
    have metric : x.metric.toNat = m.toNat := congrArg (fun w => (ofLex w).1) same
    have cost : data.costToAdvertiser = Ospf.saturate d := by
      rw [← UInt32.toNat_inj, Ospf.toNat_saturate]
      have second := congrArg (fun w => (ofLex w).2) same
      simpa [worth, worthAt, RibKind.costToAdvertiser, found] using second
    have kept : (Router.externalRoute a x data).metric = x.metric := by
      rw [Router.externalRoute, isType]
      rfl
    have sum : RibKind.costToAdvertiser (Router.externalRoute a x data) =
        Ospf.saturate (a.cost.toNat + d) := by
      rw [← Ospf.addCost_saturate, ← cost]
      exact if_pos isType
    rw [worth, kept, metric, sum, Ospf.toNat_saturate, worthAt]

end MetricType

namespace Router

variable {f : Fabric} {routers : List Router} {r o : Router} {a : Adjacency} {x y : Route}
  {network : Prefix} {type : MetricType} {metric : UInt32} {total : ℕ} {data : OspfData}
  {look : Router → Router} {offered : Set Route}

def externalTable (type : MetricType) (r : Router) : Rib :=
  match type with
  | .type1 => r.ospf.e1
  | .type2 => r.ospf.e2

/-- Ways over the adjacencies of all areas, with their ends and what they cost. -/
inductive Crosses (f : Fabric) (routers : List Router) : Router → Router → ℕ → Prop
  | here (r : Router) : Crosses f routers r r 0
  | across {r o : Router} {a : Adjacency} {total : ℕ} (adjacent : a ∈ r.adjacencies f routers)
    (onward : Crosses f routers a.neighbor o total) : Crosses f routers r o (a.cost.toNat + total)

def IsDistance (f : Fabric) (routers : List Router) (r o : Router) (d : ℕ) : Prop :=
  IsLeast {total | Crosses f routers r o total} d

def Exports (r : Router) (type : MetricType) (network : Prefix) (metric : UInt32) : Prop :=
  ∃ x ∈ r.ospf.exports.held network, x.protocol = type.protocol ∧ x.metric = metric

def exportedRoutes (r : Router) : Set Route :=
  {x | r.ospfProcess?.isSome = true ∧
    x.ospf? = some { area := .backbone, advertiser := r.hostname }}

/-- The route stands for a way to a router that announces the network. -/
def IsFrom (f : Fabric) (routers : List Router) (type : MetricType) (network : Prefix) (r : Router)
    (x : Route) : Prop :=
  ∃ o metric total, Crosses f routers r o total ∧ o.Exports type network metric ∧
    (∃ data, x.ospf? = some data ∧ data.advertiser = o.hostname) ∧
    type.worth x = type.worthAt metric total

theorem Crosses.end_mem (member : r ∈ routers) (crosses : Crosses f routers r o total) :
    o ∈ routers := by
  induction crosses with
  | here => exact member
  | across adjacent _ ih => exact ih (mem_adjacencies adjacent).2

theorem Crosses.exists_distance (crosses : Crosses f routers r o total) :
    ∃ d ≤ total, IsDistance f routers r o d := by
  obtain ⟨d, least, below⟩ := WellFounded.has_min wellFounded_lt
    {total | Crosses f routers r o total} ⟨total, crosses⟩
  exact ⟨d, not_lt.1 (below total crosses), least, fun t way => not_lt.1 (below t way)⟩

section Looks

variable (keeps : ∀ r, (look r).bare = r.bare)
include keeps

theorem Crosses.map (crosses : Crosses f routers r o total) :
    Crosses f (routers.map look) (look r) (look o) total := by
  induction crosses with
  | here r => exact .here (look r)
  | @across r o a total adjacent _ ih =>
    have seen : a.map look ∈ (look r).adjacencies f (routers.map look) := by
      rw [adjacencies_map keeps]
      exact List.mem_map_of_mem adjacent
    exact .across (a := a.map look) seen ih

theorem IsFrom.map (exports : ∀ r, (look r).ospf.exports = r.ospf.exports)
    (stands : IsFrom f routers type network r x) :
    IsFrom f (routers.map look) type network (look r) x := by
  obtain ⟨o, metric, total, crosses, announced, ⟨data, found, advertiser⟩, same⟩ := stands
  have name := seen_of_keeps keeps hostname (fun _ => rfl) o
  refine ⟨look o, metric, total, crosses.map keeps, ?_, ⟨data, found, advertiser.trans name.symm⟩,
    same⟩
  rwa [Exports, exports]

end Looks

theorem isFrom_of_announced (announced : x ∈ r.exportedRoutes)
    (held : x ∈ r.ospf.exports.held network) (isType : x.protocol = type.protocol) :
    IsFrom f routers type network r x :=
  ⟨r, x.metric, 0, .here r, ⟨x, held, isType, rfl⟩, ⟨_, announced.2, rfl⟩,
    MetricType.worth_of_announced announced.2 rfl⟩

/-- What a neighbor holds stands for a way that is longer by the adjacency. -/
theorem IsFrom.across (stands : IsFrom f routers type network a.neighbor x)
    (adjacent : a ∈ r.adjacencies f routers) (isType : x.protocol = type.protocol)
    (found : x.ospf? = some data) :
    IsFrom f routers type network r (externalRoute a x data) := by
  obtain ⟨o, metric, total, crosses, announced, ⟨data', found', advertiser⟩, same⟩ := stands
  obtain rfl : data = data' := Option.some.inj (found.symm.trans found')
  exact ⟨o, metric, _, .across adjacent crosses, announced, ⟨_, rfl, advertiser⟩,
    MetricType.worth_externalRoute isType found same⟩

/-- The table has been offered all that the neighbors hold, and for the network only routes that stand
for a way. -/
structure IsSettledOutside (f : Fabric) (routers : List Router) (type : MetricType) (network : Prefix)
    (r : Router) (offered : Set Route) : Prop where
  weighs : (r.externalTable type).Weighs type.kind offered
  isType : ∀ x ∈ offered, x.protocol = type.protocol
  sound : ∀ x ∈ offered, x.network = network → IsFrom f routers type network r x
  arrived : ∀ a ∈ r.adjacencies f routers, ∀ x ∈ r.externalCandidates type.protocol a, x ∈ offered

def Offers (type : MetricType) (network : Prefix) (r : Router) (x : Route) : Prop :=
  x.protocol = type.protocol ∧
    (x ∈ r.ospf.exports.held network ∨ x ∈ (r.externalTable type).held network)

namespace IsSettledOutside

variable (settled : r.IsSettledOutside f routers type network offered)
include settled

theorem mem_held_iff : x ∈ (r.externalTable type).held network ↔
    (x ∈ offered ∧ x.network = network) ∧
      ∀ y ∈ offered, y.network = network → type.worth x ≤ type.worth y := by
  rw [settled.weighs.mem_iff, MetricType.mem_best_iff]

theorem isFrom (held : x ∈ (r.externalTable type).held network) :
    IsFrom f routers type network r x := by
  obtain ⟨⟨offer, place⟩, -⟩ := settled.mem_held_iff.1 held
  exact settled.sound x offer place

/-- Something as good as any offer is held. -/
theorem exists_held (offer : x ∈ offered) (place : x.network = network) :
    ∃ y, Offers type network r y ∧ type.worth y ≤ type.worth x ∧ IsFrom f routers type network r y := by
  have candidate : x ∈ type.kind.candidates offered network := by
    refine ⟨offer, ?_, place⟩
    cases type <;> simp [RibKind.Admits, MetricType.kind]
  obtain ⟨y, held⟩ := settled.weighs.exists_held candidate
  obtain ⟨⟨other, -⟩, least⟩ := settled.mem_held_iff.1 held
  exact ⟨y, ⟨settled.isType y other, .inr held⟩, least x offer place, settled.isFrom held⟩

/-- What a neighbor offers arrives, if another router has brought it up. -/
theorem arrives (adjacent : a ∈ r.adjacencies f routers) (offers : Offers type network a.neighbor x)
    (found : x.ospf? = some data) (other : data.advertiser ≠ r.hostname) :
    externalRoute a x data ∈ offered := by
  obtain ⟨isType, held⟩ := offers
  have listed {t : Rib} (held : x ∈ t.held network) : (x, data) ∈ r.ospfOffers t :=
    mem_ospfOffers_iff.2 ⟨Rib.mem_routes_iff.2 ⟨network, held⟩, found, other⟩
  refine settled.arrived a adjacent _ (mem_externalCandidates_iff.2 ⟨x, data, ?_, isType, rfl⟩)
  cases type with
  | type1 => exact held.imp listed fun learned => .inl (listed learned)
  | type2 => exact held.imp listed fun learned => .inr (listed learned)

end IsSettledOutside

/-- Every router is settled, and there is only one OSPF router of each name. -/
structure AllSettledOutside (f : Fabric) (type : MetricType) (network : Prefix)
    (routers : List Router) : Prop where
  settled : ∀ r ∈ routers, ∃ offered, r.IsSettledOutside f routers type network offered
  exports : ∀ r ∈ routers, r.ospf.exports.DrawsFrom .ospf r.exportedRoutes
  unique : ∀ r ∈ routers, ∀ o ∈ routers, r.hostname = o.hostname → r.ospfProcess?.isSome = true →
    o.ospfProcess?.isSome = true → r = o

namespace AllSettledOutside

variable (all : AllSettledOutside f type network routers) (member : r ∈ routers)
include all member

theorem exists_offer_of_exports (exports : r.Exports type network metric) :
    ∃ y, Offers type network r y ∧ type.worth y = type.worthAt metric 0 ∧
      IsFrom f routers type network r y := by
  obtain ⟨y, held, isType, rfl⟩ := exports
  have announced := (all.exports r member).mem_of_held held
  exact ⟨y, ⟨isType, .inl held⟩, MetricType.worth_of_announced announced.2 rfl,
    isFrom_of_announced announced held isType⟩

/-- Along a way to a router that announces the network every router offers something as good. The
induction is on the way. What a neighbor offers does not arrive only if it has come from the router
itself, which then announces the network itself, and that is no worse. -/
theorem exists_offer (crosses : Crosses f routers r o total)
    (exports : o.Exports type network metric) :
    ∃ y, Offers type network r y ∧ type.worth y ≤ type.worthAt metric total ∧
      IsFrom f routers type network r y := by
  induction crosses with
  | here r =>
    obtain ⟨y, offers, same, stands⟩ := all.exists_offer_of_exports member exports
    exact ⟨y, offers, same.le, stands⟩
  | @across r o a total adjacent onward ih =>
    have next := (mem_adjacencies adjacent).2
    obtain ⟨y, offers, le, stands⟩ := ih next exports
    obtain ⟨o', metric', total', crosses', exports', ⟨data, found, advertiser⟩, same⟩ := stands
    rw [same] at le
    have farther := MetricType.worthAt_add le a.cost.toNat
    by_cases back : o'.hostname = r.hostname
    · have ends := crosses'.end_mem next
      have runs : o'.ospfProcess?.isSome = true := by
        obtain ⟨x, held, -⟩ := exports'
        exact ((all.exports o' ends).mem_of_held held).1
      obtain rfl : o' = r := all.unique o' ends r member back runs (ospf_of_adjacent adjacent)
      obtain ⟨z, own, here, stands⟩ := all.exists_offer_of_exports member exports'
      have shorter : type.worthAt metric' 0 ≤ type.worthAt metric' (a.cost.toNat + total') :=
        MetricType.worthAt_mono (Nat.zero_le _)
      exact ⟨z, own, here.le.trans (shorter.trans farther), stands⟩
    · obtain ⟨offered, settled⟩ := all.settled r member
      have offer := settled.arrives adjacent offers found (advertiser ▸ back)
      have place : y.network = network := by
        rcases offers.2 with held | held
        · exact (all.exports _ next).network_eq held
        · obtain ⟨_, others⟩ := all.settled _ next
          exact (others.mem_held_iff.1 held).1.2
      obtain ⟨z, held, better, stands⟩ := settled.exists_held offer place
      rw [MetricType.worth_externalRoute offers.1 found same] at better
      exact ⟨z, held, better.trans farther, stands⟩

section Learned

variable (none : ∀ metric, ¬r.Exports type network metric)
include none

/-- A router that does not announce the network has learned something as good as any way. -/
theorem exists_held (crosses : Crosses f routers r o total)
    (exports : o.Exports type network metric) :
    ∃ x ∈ (r.externalTable type).held network, type.worth x ≤ type.worthAt metric total := by
  obtain ⟨y, ⟨isType, own | held⟩, le, -⟩ := all.exists_offer member crosses exports
  · exact absurd ⟨y, own, isType, rfl⟩ (none y.metric)
  · exact ⟨y, held, le⟩

theorem exists_held_iff : (∃ x, x ∈ (r.externalTable type).held network) ↔
    ∃ o metric total, Crosses f routers r o total ∧ o.Exports type network metric := by
  constructor
  · rintro ⟨x, held⟩
    obtain ⟨offered, settled⟩ := all.settled r member
    obtain ⟨o, metric, total, crosses, exports, -⟩ := settled.isFrom held
    exact ⟨o, metric, total, crosses, exports⟩
  · rintro ⟨o, metric, total, crosses, exports⟩
    obtain ⟨x, held, -⟩ := all.exists_held member none crosses exports
    exact ⟨x, held⟩

/-- What is held is worth what the best announcement is worth over its distance. -/
theorem worth_isLeast (held : x ∈ (r.externalTable type).held network) :
    IsLeast {w | ∃ o metric d, o.Exports type network metric ∧ IsDistance f routers r o d ∧
      w = type.worthAt metric d} (type.worth x) := by
  obtain ⟨offered, settled⟩ := all.settled r member
  have best {o : Router} {metric : UInt32} {total : ℕ} (crosses : Crosses f routers r o total)
      (exports : o.Exports type network metric) : type.worth x ≤ type.worthAt metric total := by
    obtain ⟨y, other, le⟩ := all.exists_held member none crosses exports
    obtain ⟨⟨offer, place⟩, -⟩ := settled.mem_held_iff.1 other
    exact ((settled.mem_held_iff.1 held).2 y offer place).trans le
  constructor
  · obtain ⟨o, metric, total, crosses, exports, -, same⟩ := settled.isFrom held
    obtain ⟨d, le, distance⟩ := crosses.exists_distance
    refine ⟨o, metric, d, exports, distance, le_antisymm (best distance.1 exports) ?_⟩
    rw [same]
    exact MetricType.worthAt_mono le
  · rintro _ ⟨o, metric, d, exports, distance, rfl⟩
    exact best distance.1 exports

end Learned

end AllSettledOutside

end Router

end RoutePlane
