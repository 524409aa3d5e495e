import RoutePlane.Proofs.Network.LastRound
import RoutePlane.Proofs.Router.Hearing

/-! The history of a BGP phase. After every number of steps each router holds the best of what it has
by itself and of what its sessions have conveyed in all states before. -/
namespace RoutePlane

open Fallible

namespace Schedule

variable {f : Fabric} {limit : Nat} {routers entry moved : List Router}
  {announcements : List Announcement} {flag : Bool}

-- Tables are compared by what is merged into them, never by their entries.
attribute [local irreducible] Rib.mergeAll Router.installAll Router.bestRoutes

theorem exchange_forall₂ {α : Type} {l : List α} {P Q : α → Router → Prop}
    {gather : List Router → Router → Except NetworkError (Router × Bool)}
    {commit : Router → Router × Bool}
    (keeps : ∀ a r g, P a r → gather routers r = .ok g → Q a (commit g.1).1)
    (all : List.Forall₂ P l routers)
    (done : exchange gather commit routers = .ok (moved, flag)) : List.Forall₂ Q l moved := by
  obtain ⟨gathered, outcomes, rfl, -⟩ := exchange_ok.1 done
  clear done
  rw [List.forall₂_map_right_iff]
  generalize gather routers = gatherOne at keeps outcomes
  induction all generalizing gathered with
  | nil =>
    cases outcomes
    exact .nil
  | cons first rest ih =>
    obtain - | ⟨outcome, others⟩ := outcomes
    exact .cons (keeps _ _ _ first outcome) (ih _ others)

theorem beforeBgp_fresh (done : beforeBgp f limit routers = .ok entry) :
    ∀ e ∈ entry, e.IsFresh := by
  intro e member
  have source : setAside e ∈ (routers.map Router.startRound).map setAside := by
    rw [← beforeBgp_map done]
    exact List.mem_map_of_mem member
  rw [List.map_map] at source
  obtain ⟨b, -, same⟩ := List.mem_map.1 source
  have tables : b.startRound.bgp = e.bgp := congrArg (fun k => k.2.1) same
  have external : b.startRound.staging.external = e.staging.external :=
    congrArg (fun k => k.2.2.1) same
  have internal : b.startRound.staging.internal = e.staging.internal :=
    congrArg (fun k => k.2.2.2) same
  constructor
  · rw [← tables]
    rfl
  · rw [← tables]
    rfl
  · rw [← tables]
    rfl
  · rw [← external]
    rfl
  · rw [← internal]
    rfl

namespace BgpRun

variable (run : BgpRun f entry)

theorem sound (sound : ∀ e ∈ entry, e.IsSound announcements) {k : Nat} (le : k ≤ run.moves + 1) :
    ∀ r ∈ run.states k, r.IsSound announcements := by
  refine run.keeps (P := fun routers => ∀ r ∈ routers, r.IsSound announcements)
    (originated_entry sound run.originated) ?_ le
  intro routers moved changed all step
  exact exchange_keeps (fun r member g gathered => (all r member).bgp all gathered) step

def heardBefore (e : Router) (k : Nat) (external : Bool) : Set Route :=
  {x | ∃ j < k, e.Hears f (run.states j) external x}

theorem heardBefore_succ (e : Router) (k : Nat) : run.heardBefore e (k + 1) = fun external =>
    run.heardBefore e k external ∪ {x | e.Hears f (run.states k) external x} := by
  funext external
  ext x
  simp only [heardBefore, Set.mem_union, Set.mem_ofPred_eq, Nat.lt_succ_iff_lt_or_eq,
    or_and_right, exists_or, exists_eq_left]

theorem heardBefore_zero (e : Router) : run.heardBefore e 0 = fun _ => ∅ := by
  funext external
  simp [heardBefore]

/-- Each router has weighed what it has heard up to each state. -/
theorem weighed (sound : ∀ e ∈ entry, e.IsSound announcements) (fresh : ∀ e ∈ entry, e.IsFresh)
    {k : Nat} (le : k ≤ run.moves + 1) :
    List.Forall₂ (fun e r => r.device = e.device ∧
      r.HasWeighed (e.offers announcements) (run.heardBefore e k)) entry (run.states k) := by
  induction k with
  | zero =>
    have all := (List.forall₂_and_left _ _).2
      ⟨fun e member => And.intro (sound e member) (fresh e member), mapM_eq_ok.1 run.originated⟩
    refine all.imp fun e r start => ?_
    obtain ⟨⟨sound, fresh⟩, originated⟩ := start
    rw [heardBefore_zero]
    have device : r.fixed.device = e.fixed.device :=
      congrArg (fun k => k.1.device) (outsideBgp_originateBgp originated)
    exact ⟨device, Router.HasWeighed.originate sound.bases fresh originated⟩
  | succ k ih =>
    obtain ⟨changed, step⟩ := run.step (Nat.le_of_succ_le_succ le)
    refine exchange_forall₂ (fun e r g before gathered => ?_) (ih (by omega)) step
    obtain ⟨same, weighed⟩ := before
    obtain ⟨arrived, rfl, external, internal⟩ := Router.gatherBgp_ok gathered
    rw [Router.hears_congr same] at external internal
    refine ⟨same, ?_⟩
    rw [heardBefore_succ]
    exact weighed.step external internal fun external x hears =>
      hears.isBgpKind (run.sound sound (by omega))

end BgpRun

end Schedule

end RoutePlane
