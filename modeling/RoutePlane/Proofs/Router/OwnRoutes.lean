import RoutePlane.Proofs.Rib.Rank
import RoutePlane.Proofs.Router.Hearing
import RoutePlane.Proofs.Router.Origination
import RoutePlane.Proofs.Router.Transit

/-! The routes that a router brings into BGP, against those that it is offered. The decision process looks
at the distance first and at the weight next. Own routes and those from inside the system are equally
distant, and only own routes have a weight. But routes from other systems are less distant, so no weight
helps against them. -/
namespace RoutePlane

open Fallible

def RouteMap.Action.weight? : RouteMap.Action → Option UInt32
  | weight w => some w
  | _ => none

/-- What the decision process looks at first. -/
structure Route.Stands (x : Route) (distance weight : UInt32) : Prop where
  distance : x.distance = distance
  weight : x.attributes?.map (·.weight) = some weight

def RouteDraft.standing (d : RouteDraft) : Option UInt32 × Option UInt32 :=
  (d.distance, d.attributes?.map (·.weight))

theorem RouteDraft.stands_of_build {d : RouteDraft} {x : Route} {distance weight : UInt32}
    (standing : d.standing = (some distance, some weight)) (built : d.build = .ok x) :
    x.Stands distance weight := by
  obtain ⟨known, weighed⟩ := Prod.mk.inj standing
  rw [build] at built
  split at built <;> try cases built
  split at built <;> cases built
  exact ⟨by rw [known]; rfl, weighed⟩

theorem Route.Stands.standing {x : Route} {distance weight : UInt32} (stands : x.Stands distance weight) :
    (RouteDraft.ofRoute x).standing = (some distance, some weight) :=
  Prod.ext (congrArg some stands.distance) stands.weight

/-- The first key decides, and the second one where it is equal. -/
theorem Rank.first_keys {a a' b b' c c' d d' e e' f f' g g' h h' i i' j j' : ℕ}
    (le : Rank.ofKeys a b c d e f g h i j ≤ .ofKeys a' b' c' d' e' f' g' h' i' j') :
    a ≤ a' ∧ (a = a' → b ≤ b') := by
  rw [Rank.ofKeys, Rank.ofKeys, Prod.Lex.toLex_le_toLex] at le
  rcases le with less | ⟨same, others⟩
  · exact ⟨less.le, fun equal => absurd equal less.ne⟩
  · refine ⟨same.le, fun _ => ?_⟩
    rcases Prod.Lex.toLex_le_toLex.1 others with less | ⟨equal, -⟩
    · exact less.le
    · exact equal.le

/-- A preferred route is not more distant, and of equally distant ones it is not of less weight. -/
theorem Route.Stands.of_rank_le {x y : Route} {d e v w : UInt32} (hx : x.Stands d v) (hy : y.Stands e w)
    (le : RibKind.bgp.rank x ≤ RibKind.bgp.rank y) : d ≤ e ∧ (d = e → w ≤ v) := by
  obtain ⟨a, attributes, rfl⟩ := Option.map_eq_some_iff.1 hx.weight
  obtain ⟨b, attributes', rfl⟩ := Option.map_eq_some_iff.1 hy.weight
  have keys : RibKind.decisionRank x a ≤ RibKind.decisionRank y b := by
    simpa only [RibKind.rank, attributes, attributes', Option.getD_some] using le
  obtain ⟨distance, weight⟩ := Rank.first_keys keys
  rw [hx.distance, hy.distance] at distance weight
  refine ⟨UInt32.le_iff_toNat_le.2 distance, fun same => UInt32.le_iff_toNat_le.2 ?_⟩
  have counted := weight (congrArg UInt32.toNat same)
  have bound := a.weight.toNat_lt_size
  have bound' := b.weight.toNat_lt_size
  rw [countDown, countDown] at counted
  omega

namespace Router

def SetsNoWeight (c : Configuration) : Prop := ∀ a ∈ c.actions, a.weight? = none

instance (c : Configuration) : Decidable (SetsNoWeight c) :=
  inferInstanceAs (Decidable (∀ a ∈ c.actions, a.weight? = none))

variable {r : Router} {x source : Route} {draft : RouteDraft} {context : PolicyContext}
  {policy : Option String} {distance weight : UInt32} {announcements : List Announcement}
  {f : Fabric} {routers : List Router} {process : BgpProcess} {s : Session} {external : Bool}

abbrev sessionDistance (external : Bool) : UInt32 :=
  (if external then Protocol.bgp else Protocol.ibgp).defaultDistance

theorem stands_of_accepted (plain : SetsNoWeight context.configuration)
    (standing : draft.standing = (some distance, some weight))
    (accepted : accepted? context policy source draft = .ok (some x)) : x.Stands distance weight := by
  have blind : ∀ a ∈ context.configuration.actions, ∀ d : RouteDraft,
      (a.apply d).standing = d.standing := by
    rintro a own ⟨_, _, _, _, _, _, _, _, kind⟩
    have writes := plain a own
    cases a with
    | weight w => cases writes
    | _ => cases kind <;> rfl
  obtain ⟨edited, built, same⟩ := accepted_view RouteDraft.standing blind (fun _ _ => rfl) accepted
  exact RouteDraft.stands_of_build (same.trans standing) built

theorem IsAnnounced.stands (plain : SetsNoWeight r.configuration)
    (announced : r.IsAnnounced announcements external x) : x.Stands (sessionDistance external) 0 := by
  obtain ⟨process, -, a, -, -, -, imported⟩ := announced
  obtain ⟨neighbor, own, -, -, -, accepted⟩ := importAnnouncement_ok imported
  exact stands_of_accepted plain rfl accepted

theorem Originates.stands (plain : SetsNoWeight r.configuration) (originates : r.Originates x) :
    x.Stands localBgpDistance localWeight := by
  obtain ⟨process, -, brings⟩ := originates.brings
  cases brings with
  | network p source listed foreign built => exact RouteDraft.stands_of_build rfl built
  | redistribution policy source named listed foreign accepted => exact stands_of_accepted plain rfl accepted
  | aggregate p built => exact RouteDraft.stands_of_build rfl built

/-- What arrives is of the distance of its session, and has lost its weight. -/
theorem stands_of_arriving {neighbor : Neighbor} {a : BgpAttributes} (bgp : x.attributes? = some a)
    (built : (arrivingDraft s neighbor draft).build = .ok x) :
    x.Stands (sessionDistance s.type.isExternal) 0 := by
  refine RouteDraft.stands_of_build ?_ built
  have kind := (RouteDraft.build_eq_ok built).2.2.2.1
  rw [Route.attributes?, Route.bgp?, ← kind] at bgp
  obtain ⟨_, _, _, _, _, _, _, _, k⟩ := draft
  cases k with
  | bgp data => rfl
  | _ => cases bgp

theorem Conveys.stands (plain : SetsNoWeight r.configuration)
    (conveys : Conveys routers r process s x) : x.Stands (sessionDistance s.type.isExternal) 0 := by
  obtain ⟨sender, senderProcess, senderNeighbor, neighbor, route, draft, -, -, -, -, received⟩ := conveys
  obtain ⟨c, a, built, -, attributes, -, accepted⟩ := receive_ok received
  exact stands_of_accepted plain (stands_of_arriving attributes built).standing accepted

theorem Hears.stands (plain : SetsNoWeight r.configuration) (hears : r.Hears f routers external x) :
    x.Stands (sessionDistance external) 0 := by
  obtain ⟨process, -, s, -, rfl, conveys⟩ := hears
  exact conveys.stands plain

/-- What a router is offered from outside its system: announcements, and what it has heard. -/
def rivals (announcements : List Announcement) (r : Router) (heard : Bool → Set Route) : Set Route :=
  {y | r.IsAnnounced announcements true y} ∪ heard true

variable {e : Router} {heard : Bool → Set Route} {p : Prefix} {y z : Route}

/-- What a router has weighed stands as its source says: own routes alone have a weight, and rivals alone
are near. -/
theorem stands_of_weighed (plain : SetsNoWeight e.configuration)
    (stand : ∀ external, ∀ y ∈ heard external, y.Stands (sessionDistance external) 0)
    (offered : y ∈ e.offers announcements true ∪ heard true ∪
      (e.offers announcements false ∪ heard false)) :
    (e.Originates y ∧ y.Stands localBgpDistance localWeight) ∨
    (y ∈ e.rivals announcements heard ∧ y.Stands (sessionDistance true) 0) ∨
    y.Stands (sessionDistance false) 0 := by
  rcases offered with ((announced | ⟨-, originates⟩) | hears) | ((announced | ⟨never, -⟩) | hears)
  · exact .inr (.inl ⟨.inl announced, announced.stands plain⟩)
  · exact .inl ⟨originates, originates.stands plain⟩
  · exact .inr (.inl ⟨.inr hears, stand true y hears⟩)
  · exact .inr (.inr (announced.stands plain))
  · cases never
  · exact .inr (.inr (stand false y hears))

section Contest

variable (weighed : r.HasWeighed (e.offers announcements) heard) (plain : SetsNoWeight e.configuration)
  (stand : ∀ external, ∀ y ∈ heard external, y.Stands (sessionDistance external) 0)
include weighed plain stand

/-- Any rival is nearer than all that a router has by itself or from inside its system. -/
theorem HasWeighed.rival_of_rival (rival : z ∈ e.rivals announcements heard) (here : z.network = p)
    (held : y ∈ r.bgp.combined.held p) : y ∈ e.rivals announcements heard ∧ ¬e.Originates y := by
  have offered : z ∈ e.offers announcements true ∪ heard true ∪
      (e.offers announcements false ∪ heard false) := by
    rcases rival with announced | hears
    · exact .inl (.inl (.inl announced))
    · exact .inl (.inr hears)
  have near : z.Stands (sessionDistance true) 0 := by
    rcases rival with announced | hears
    · exact IsAnnounced.stands plain announced
    · exact stand true z hears
  have le := weighed.combined.rank_le held ⟨offered, RibKind.admits_of_ne (by decide), here⟩
  have source := weighed.combined.mem_of_routes (Rib.mem_routes_iff.2 ⟨p, held⟩)
  rcases stands_of_weighed plain stand source with ⟨-, stands⟩ | ⟨rival, stands⟩ | stands
  · exact absurd (stands.of_rank_le near le).1 (by decide)
  · refine ⟨rival, fun originates => ?_⟩
    have both := stands.distance.symm.trans (originates.stands plain).distance
    exact absurd both (by decide)
  · exact absurd (stands.of_rank_le near le).1 (by decide)

theorem HasWeighed.own_of_no_rival (originates : e.Originates x) (here : x.network = p)
    (none : ∀ z ∈ e.rivals announcements heard, z.network ≠ p)
    (held : y ∈ r.bgp.combined.held p) : e.Originates y := by
  have offered : x ∈ e.offers announcements true ∪ heard true ∪
      (e.offers announcements false ∪ heard false) := .inl (.inl (.inr ⟨rfl, originates⟩))
  have le := weighed.combined.rank_le held ⟨offered, RibKind.admits_of_ne (by decide), here⟩
  have source := weighed.combined.mem_of_routes (Rib.mem_routes_iff.2 ⟨p, held⟩)
  rcases stands_of_weighed plain stand source with ⟨own, -⟩ | ⟨rival, -⟩ | stands
  · exact own
  · have place := (weighed.combined.mem_iff.1 held).1.2.2
    exact absurd place (none y rival)
  · have weight := (stands.of_rank_le (originates.stands plain) le).2 rfl
    exact absurd weight (by decide)

end Contest

end Router

end RoutePlane
