import RoutePlane.Proofs.Network.Entries

/-! What the BGP tables of a router choose from. During a phase every table holds the best of what the
router has by itself and of all that it has heard so far. What it has heard is never taken back, be it
still sent or not. -/
namespace RoutePlane.Router

open Fallible

variable {announcements : List Announcement} {f : Fabric} {routers : List Router} {r e : Router}
  {x : Route} {external : Bool} {own heard now : Bool → Set Route} {arrived : List Route × List Route}

-- Tables are compared by what is merged into them, never by their entries.
attribute [local irreducible] Rib.mergeAll installAll bestRoutes

/-- What a router has without its neighbours inside the network: announcements from outside, and what
it brings into BGP itself. -/
def offers (announcements : List Announcement) (r : Router) (external : Bool) : Set Route :=
  {x | r.IsAnnounced announcements external x ∨ external = true ∧ r.Originates x}

/-- The tables hold the best of what the router has by itself and of what it has heard. -/
structure HasWeighed (r : Router) (own heard : Bool → Set Route) : Prop where
  stagedExternal : r.staging.external.Weighs .bgp (heard true)
  stagedInternal : r.staging.internal.Weighs .bgp (heard false)
  external : r.bgp.external.Weighs .bgp (own true ∪ heard true)
  internal : r.bgp.internal.Weighs .bgp (own false ∪ heard false)
  combined : r.bgp.combined.Weighs .bgp (own true ∪ heard true ∪ (own false ∪ heard false))

structure IsFresh (r : Router) : Prop where
  external : r.bgp.external = r.bgp.baseExternal
  internal : r.bgp.internal = r.bgp.baseInternal
  combined : r.bgp.combined = .empty .bgp
  stagedExternal : r.staging.external = .empty .bgp
  stagedInternal : r.staging.internal = .empty .bgp

theorem hears_congr (same : r.device = e.device) : r.Hears f routers = e.Hears f routers := by
  obtain ⟨configuration, vrf⟩ := Prod.mk.inj same
  funext external x
  simp only [Hears, Conveys, receive?, sessionContext, bgpProcess?, hostname, configuration, vrf]

theorem offers_false : offers announcements r false = {x | r.IsAnnounced announcements false x} := by
  ext x
  simp [offers]

theorem offers_eq_empty (none : r.bgpProcess? = none) (external : Bool) :
    offers announcements r external = ∅ := by
  ext x
  simp [offers, IsAnnounced, Originates, none]

theorem HasWeighed.originate (bases : e.HasBases announcements) (fresh : e.IsFresh)
    (done : e.originateBgp = .ok r) : r.HasWeighed (e.offers announcements) fun _ => ∅ := by
  have nothing (t : Rib) (empty : t = .empty .bgp) : t.Weighs .bgp ∅ := empty ▸ .empty .bgp
  have internal : e.bgp.internal.Weighs .bgp (e.offers announcements false ∪ ∅) := by
    rw [fresh.internal, offers_false, Set.union_empty]
    exact bases.internal
  have announced : e.bgp.external.Weighs .bgp {x | e.IsAnnounced announcements true x} := by
    rw [fresh.external]
    exact bases.external
  rcases originateBgp_effect done with ⟨rfl, none⟩ | ⟨l, originates, rfl⟩
  · refine ⟨nothing _ fresh.stagedExternal, nothing _ fresh.stagedInternal, ?_, internal, ?_⟩
    · have same : {x | r.IsAnnounced announcements true x} = ∅ := by simp [IsAnnounced, none]
      rwa [offers_eq_empty none, Set.union_empty, ← same]
    · rw [offers_eq_empty none, offers_eq_empty none, Set.union_empty, Set.union_empty]
      exact nothing _ fresh.combined
  · have external : (e.bgp.external.mergeAll l).1.Weighs .bgp (e.offers announcements true ∪ ∅) := by
      have merged := announced.mergeAll fun x (member : x ∈ l) =>
        bgpRoutes_suits x (isBgpKind_of_own ((originates x).1 member).own)
      have all : {x | e.IsAnnounced announcements true x} ∪ {x | x ∈ l} =
          e.offers announcements true := by
        ext x
        simp [offers, originates]
      rwa [Set.union_empty, ← all]
    have combined := ((nothing _ fresh.combined).absorb external).absorb internal
    rw [Set.empty_union] at combined
    exact ⟨nothing _ fresh.stagedExternal, nothing _ fresh.stagedInternal, external, internal, combined⟩

/-- What is heard in a step is added to what has been heard before. -/
theorem HasWeighed.step (weighed : r.HasWeighed own heard)
    (external : ∀ x, x ∈ arrived.1 ↔ x ∈ now true) (internal : ∀ x, x ∈ arrived.2 ↔ x ∈ now false)
    (bgp : ∀ external, ∀ x ∈ now external, x.isBgpKind = true) :
    (r.stageBgp arrived).1.commitStagedBgp.1.HasWeighed own
      fun external => heard external ∪ now external := by
  have staged {t : Rib} {l : List Route} {external : Bool} (before : t.Weighs .bgp (heard external))
      (all : ∀ x, x ∈ l ↔ x ∈ now external) :
      (t.mergeAll l).1.Weighs .bgp (heard external ∪ now external) := by
    have same : {x | x ∈ l} = now external := Set.ext all
    exact same ▸ before.mergeAll fun x member => bgpRoutes_suits x (bgp external x ((all x).1 member))
  have stagedExternal := staged weighed.stagedExternal external
  have stagedInternal := staged weighed.stagedInternal internal
  have again (o h n : Set Route) : o ∪ h ∪ (h ∪ n) = o ∪ (h ∪ n) := by
    rw [Set.union_assoc, ← Set.union_assoc h h, Set.union_self]
  have committedExternal := weighed.external.absorb stagedExternal
  have committedInternal := weighed.internal.absorb stagedInternal
  rw [again] at committedExternal committedInternal
  have combined := (weighed.combined.absorb committedExternal).absorb committedInternal
  have more (external : Bool) : own external ∪ heard external ⊆
      own external ∪ (heard external ∪ now external) :=
    Set.union_subset_union_right _ Set.subset_union_left
  rw [Set.union_assoc, Set.union_eq_self_of_subset_left
    (Set.union_subset_union (more true) (more false))] at combined
  exact ⟨stagedExternal, stagedInternal, committedExternal, committedInternal, combined⟩

end RoutePlane.Router
