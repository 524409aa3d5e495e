import RoutePlane.Proofs.Network.Exchange
import RoutePlane.Proofs.Router.Effects
import RoutePlane.Proofs.Router.Installation

/-! The BGP loop of a network settles, also where real BGP would oscillate for ever: what is staged is
never cleared, so no router goes back to a route that it has once improved on. AS paths may grow, but
not among routes of one rank. -/
namespace RoutePlane

open Filter Fallible

namespace Router

variable {f : Fabric} {routers : List Router} {r : Router} {x : Route} {known : Set String}
  {pool : Set Route} {g : Router × Bool} {arrived : List Route × List Route}

-- Tables are compared by what is merged into them, never by their entries.
attribute [local irreducible] Rib.mergeAll installAll bestRoutes

structure HoldsBgp (pool : Set Route) (r : Router) : Prop where
  external : r.bgp.external.DrawsFrom .bgp pool
  internal : r.bgp.internal.DrawsFrom .bgp pool
  combined : r.bgp.combined.DrawsFrom .bgp pool
  stagedExternal : r.staging.external.DrawsFrom .bgp pool
  stagedInternal : r.staging.internal.DrawsFrom .bgp pool
  main : r.main.DrawsFrom .main anyRoute

structure KnowsBgp (known : Set String) (r : Router) : Prop where
  policies : ∀ n ∈ r.policyNames, n ∈ known
  tables : r.HoldsBgp (bgpPool known)

theorem gatherBgp_ok (gathered : r.gatherBgp f routers = .ok g) :
    ∃ arrived, g = r.stageBgp arrived ∧ (∀ x, x ∈ arrived.1 ↔ r.Hears f routers true x) ∧
      ∀ x, x ∈ arrived.2 ↔ r.Hears f routers false x := by
  rw [gatherBgp] at gathered
  split at gathered
  next none =>
    cases gathered
    exact ⟨([], []), by simp [stageBgp], by simp [Hears, none], by simp [Hears, none]⟩
  next process own =>
    obtain ⟨arrived, found, rfl⟩ := map_eq_ok.1 gathered
    refine ⟨arrived, rfl, fun x => ?_, fun x => ?_⟩
    · simpa [Hears, own] using (mem_bgpArrivals found).1
    · simpa [Hears, own] using (mem_bgpArrivals found).2

/-- What a router stages is drawn from the pool of all routers. -/
theorem gatherBgp_pool (all : ∀ r ∈ routers, r.KnowsBgp known) (knows : r.KnowsBgp known)
    (gathered : r.gatherBgp f routers = .ok g) :
    ∃ arrived, g = r.stageBgp arrived ∧ (∀ x ∈ arrived.1, x ∈ bgpPool known) ∧
      ∀ x ∈ arrived.2, x ∈ bgpPool known := by
  have policies := fun r member => (all r member).policies
  have held := fun r member x => (all r member).tables.combined.mem (x := x)
  obtain ⟨arrived, staged, external, internal⟩ := gatherBgp_ok gathered
  refine ⟨arrived, staged, fun x member => ?_, fun x member => ?_⟩
  · obtain ⟨_, -, _, -, -, conveys⟩ := (external x).1 member
    exact conveys.mem_bgpPool policies knows.policies held
  · obtain ⟨_, -, _, -, -, conveys⟩ := (internal x).1 member
    exact conveys.mem_bgpPool policies knows.policies held

theorem HoldsBgp.stage (holds : r.HoldsBgp pool) (external : ∀ x ∈ arrived.1, x ∈ pool)
    (internal : ∀ x ∈ arrived.2, x ∈ pool) : (r.stageBgp arrived).1.HoldsBgp pool :=
  { holds with
    stagedExternal := holds.stagedExternal.mergeAll external
    stagedInternal := holds.stagedInternal.mergeAll internal }

theorem HoldsBgp.commit (holds : r.HoldsBgp pool) : r.commitBgp.1.HoldsBgp pool :=
  { holds with
    combined := (holds.combined.absorb holds.external).absorb holds.internal
    main := installAll_draws holds.main _ }

theorem HoldsBgp.takeStaged (holds : r.HoldsBgp pool) : r.takeStaged.HoldsBgp pool :=
  { holds with
    external := holds.external.absorb holds.stagedExternal
    internal := holds.internal.absorb holds.stagedInternal }

theorem HoldsBgp.bringIn (holds : r.HoldsBgp pool) {l : List Route} (drawn : ∀ x ∈ l, x ∈ pool) :
    (r.bringIn l).HoldsBgp pool :=
  { holds with external := holds.external.mergeAll drawn }

theorem HoldsBgp.commitStaged (holds : r.HoldsBgp pool) : r.commitStagedBgp.1.HoldsBgp pool := by
  rw [commitStagedBgp_eq]
  exact holds.takeStaged.commit

theorem KnowsBgp.step (knows : r.KnowsBgp known) (external : ∀ x ∈ arrived.1, x ∈ bgpPool known)
    (internal : ∀ x ∈ arrived.2, x ∈ bgpPool known) :
    (r.stageBgp arrived).1.commitStagedBgp.1.KnowsBgp known where
  policies := knows.policies
  tables := (knows.tables.stage external internal).commitStaged

/-- A router that goes on staging and committing routes of the pool gets quiet. -/
theorem bgp_settles {ρ : Nat → Router} {arrived : Nat → List Route × List Route}
    (finite : known.Finite) (holds : ∀ n, (ρ n).HoldsBgp (bgpPool known))
    (external : ∀ n, ∀ x ∈ (arrived n).1, x ∈ bgpPool known)
    (internal : ∀ n, ∀ x ∈ (arrived n).2, x ∈ bgpPool known)
    (step : ∀ n, ρ (n + 1) = ((ρ n).stageBgp (arrived n)).1.commitStagedBgp.1) :
    ∀ᶠ n in atTop, ((ρ n).stageBgp (arrived n)).2 = false ∧
      ((ρ n).stageBgp (arrived n)).1.commitStagedBgp.2 = false := by
  have ties := finite_bgpPool_ties finite
  have ext := (holds 0).stagedExternal.staged_settles
    (S := fun n => (ρ n).staging.external) (T := fun n => (ρ n).bgp.external)
    (l := fun n => (arrived n).1) (holds 0).external (fun n => by rw [step]; rfl)
    (fun n => by rw [step]; rfl) external ties
  have int := (holds 0).stagedInternal.staged_settles
    (S := fun n => (ρ n).staging.internal) (T := fun n => (ρ n).bgp.internal)
    (l := fun n => (arrived n).2) (holds 0).internal (fun n => by rw [step]; rfl)
    (fun n => by rw [step]; rfl) internal ties
  obtain ⟨first, both⟩ := (holds 0).combined.settles (T := fun n => (ρ n).bgp.combined)
    (l := fun n => (ρ (n + 1)).bgp.external.routes ++ (ρ (n + 1)).bgp.internal.routes)
    (fun n => by rw [Rib.mergeAll_append, step]; rfl)
    (fun n x member => by
      rcases List.mem_append.1 member with member | member
      · exact (holds (n + 1)).external.mem member
      · exact (holds (n + 1)).internal.mem member) ties
  obtain ⟨second, main⟩ := main_settles (fun n => (ρ n).main)
    (fun n => (ρ n).bgp.combined) (fun n => (holds n).main)
    (fun n => (holds n).combined) (fun n le => (both n le).1) (fun n => by rw [step]; rfl)
  filter_upwards [ext, int, eventually_ge_atTop first, eventually_ge_atTop second] with n quietExt
    quietInt late later
  obtain ⟨stagedExternal, committedExternal⟩ := quietExt
  obtain ⟨stagedInternal, committedInternal⟩ := quietInt
  have combined := (both n late).2
  have installed := main n later
  rw [Rib.mergeAll_append] at combined
  rw [step] at committedExternal committedInternal combined installed
  exact ⟨Bool.or_eq_false_iff.2 ⟨stagedExternal, stagedInternal⟩,
    Bool.or_eq_false_iff.2 ⟨Bool.or_eq_false_iff.2 ⟨committedExternal, committedInternal⟩,
      Bool.or_eq_false_iff.2 ⟨combined, installed⟩⟩⟩

end Router

namespace Schedule

variable {f : Fabric} {routers : List Router} {known : Set String}

theorem bgp_stops (finite : known.Finite) (start : ∀ r ∈ routers, r.KnowsBgp known) :
    Stops (bgpStep f) routers := by
  refine exchange_stops start ?_ ?_
  · intro routers all r member g gathered
    obtain ⟨arrived, rfl, external, internal⟩ := Router.gatherBgp_pool all (all r member) gathered
    exact (all r member).step external internal
  · intro R ρ γ all member gathered next
    choose arrived staged external internal using
      fun n => Router.gatherBgp_pool (all n) (all n _ (member n)) (gathered n)
    have step (n : Nat) : ρ (n + 1) = ((ρ n).stageBgp (arrived n)).1.commitStagedBgp.1 := by
      rw [next, staged]
    have quiet := Router.bgp_settles finite (fun n => (all n _ (member n)).tables) external internal
      step
    filter_upwards [quiet] with n still
    rwa [staged]

end Schedule

end RoutePlane
