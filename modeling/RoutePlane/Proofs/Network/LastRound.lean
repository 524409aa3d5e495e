import RoutePlane.Proofs.Network.Convergence
import RoutePlane.Proofs.Router.Previous

/-! The last round of a computation, with the states of its BGP phase. A round leaves alone what rounds
start from; what comes before BGP leaves also the BGP tables alone, and BGP leaves the OSPF tables. -/
namespace RoutePlane

open Fallible

namespace Schedule

variable {f : Fabric} {limit steps : Nat} {routers entry moved last : List Router}

/-- A BGP phase that ends: its states after every number of steps, and an idle step at last. -/
structure BgpRun (f : Fabric) (entry : List Router) where
  states : Nat → List Router
  moves : Nat
  originated : entry.mapM Router.originateBgp = .ok (states 0)
  moving : ∀ k < moves, bgpStep f (states k) = .ok (states (k + 1), true)
  idle : bgpStep f (states moves) = .ok (states (moves + 1), false)

namespace BgpRun

def final (run : BgpRun f entry) : List Router := run.states (run.moves + 1)

variable (run : BgpRun f entry)

theorem step {k : Nat} (le : k ≤ run.moves) :
    ∃ changed, bgpStep f (run.states k) = .ok (run.states (k + 1), changed) := by
  rcases Nat.lt_or_eq_of_le le with lt | rfl
  · exact ⟨true, run.moving k lt⟩
  · exact ⟨false, run.idle⟩

theorem stateAfter_eq {k : Nat} (le : k ≤ run.moves) :
    stateAfter (bgpStep f) (run.states 0) k = run.states k := by
  induction k with
  | zero => rfl
  | succ k ih =>
    have moved := run.moving k le
    rw [← ih (by omega)] at moved
    exact stateAfter_succ moved

/-- The phase ends with the run, if the limit admits it. -/
theorem phase (enough : run.moves < limit) :
    bgpPhase f limit entry = .ok (run.final, run.moves + 1) := by
  refine bind_eq_ok.2 ⟨run.states 0, run.originated, repeatUntilStable_ok ?_ ?_ enough⟩
  · intro k lt
    rw [run.stateAfter_eq (by omega), run.stateAfter_eq (by omega)]
    exact run.moving k lt
  · rw [run.stateAfter_eq le_rfl]
    exact run.idle

theorem of_phase (ended : bgpPhase f limit entry = .ok (last, steps)) :
    ∃ run : BgpRun f entry, run.final = last ∧ run.moves < limit := by
  obtain ⟨start, originated, rest⟩ := bind_eq_ok.1 ended
  rcases of_repeatFrom rest with ⟨-, never⟩ | ⟨n, bound, moving, ⟨t, idle, same⟩ | ⟨e, -, never⟩⟩
  · cases never
  · cases same
    exact ⟨⟨stateAfter (bgpStep f) start, n, originated, moving,
      by rw [stateAfter_succ idle, idle]⟩, stateAfter_succ idle, bound⟩
  · cases never

theorem keeps {P : List Router → Prop} (start : P (run.states 0))
    (next : ∀ routers moved changed, P routers → bgpStep f routers = .ok (moved, changed) → P moved)
    {k : Nat} (le : k ≤ run.moves + 1) : P (run.states k) := by
  induction k with
  | zero => exact start
  | succ k ih =>
    obtain ⟨changed, moved⟩ := run.step (Nat.le_of_succ_le_succ le)
    exact next _ _ _ (ih (by omega)) moved

end BgpRun

section Frames

-- Tables are compared by what is merged into them, never by their entries.
attribute [local irreducible] Rib.mergeAll Router.installAll Router.bestRoutes

def setAside (r : Router) : Router × BgpTables × Rib × Rib :=
  (r.fixed, r.bgp, r.staging.external, r.staging.internal)

def outsideBgp (r : Router) : Router × OspfTables := (r.fixed, r.ospf)

theorem beforeOspf_map (done : beforeOspf limit routers = .ok entry) :
    entry.map setAside = (routers.map Router.startRound).map setAside := by
  obtain ⟨statics, generated, _, _, first, second, third⟩ := beforeOspf_ok.1 done
  have afterStatic : statics.map setAside = (routers.map Router.startRound).map setAside := by
    refine repeatUntilStable_map (fun _ _ _ => everyRouter_map fun r m moved => ?_) first
    cases moved
    obtain ⟨ready, effect⟩ := r.activateStatic_effect
    rw [effect]
    rfl
  have afterGenerated : generated.map setAside = statics.map setAside := by
    refine repeatUntilStable_map (fun _ _ _ => everyRouter_map fun r m moved => ?_) second
    obtain ⟨_, -, rfl⟩ := map_eq_ok.1 moved
    obtain ⟨ready, effect⟩ := r.activateGenerated_effect
    dsimp only
    rw [effect]
    rfl
  refine (mapM_map (fun r m exported => ?_) third).trans (afterGenerated.trans afterStatic)
  obtain ⟨l, -, rfl⟩ := Router.initOspfExports_effect exported
  rfl

theorem beforeBgp_map (done : beforeBgp f limit routers = .ok entry) :
    entry.map setAside = (routers.map Router.startRound).map setAside := by
  obtain ⟨exported, converged, _, first, second, rfl⟩ := beforeBgp_ok.1 done
  have kept : converged.map setAside = exported.map setAside := by
    refine repeatUntilStable_map (fun routers _ _ => exchange_map fun r g gathered => ?_) second
    cases gathered
    have staged : setAside (r.gatherOspfExternal f routers).1 = setAside r := rfl
    rw [← staged]
    rfl
  rw [List.map_map]
  exact kept.trans (beforeOspf_map first)

theorem outsideBgp_gatherBgp {r : Router} {g : Router × Bool}
    (gathered : r.gatherBgp f routers = .ok g) : outsideBgp g.1.commitStagedBgp.1 = outsideBgp r := by
  obtain ⟨arrived, rfl, -⟩ := Router.gatherBgp_ok gathered
  obtain ⟨_, _, staged⟩ := r.stageBgp_effect arrived
  obtain ⟨_, _, _, _, committed⟩ := (r.stageBgp arrived).1.commitStagedBgp_effect
  rw [committed, staged]
  rfl

theorem bgpStep_map {changed : Bool} (done : bgpStep f routers = .ok (moved, changed)) :
    moved.map outsideBgp = routers.map outsideBgp :=
  exchange_map (fun _ _ => outsideBgp_gatherBgp) done

theorem outsideBgp_originateBgp {r m : Router} (done : r.originateBgp = .ok m) :
    outsideBgp m = outsideBgp r := by
  rcases Router.originateBgp_effect done with ⟨rfl, -⟩ | ⟨l, -, rfl⟩ <;> rfl

theorem BgpRun.map_outsideBgp (run : BgpRun f entry) {k : Nat} (le : k ≤ run.moves + 1) :
    (run.states k).map outsideBgp = entry.map outsideBgp := by
  refine run.keeps (P := fun l => l.map outsideBgp = _) ?_ ?_ le
  · exact mapM_map (fun r m originated => outsideBgp_originateBgp originated) run.originated
  · intro routers moved changed same step
    exact (bgpStep_map step).trans same

theorem BgpRun.map_device (run : BgpRun f entry) {k : Nat} (le : k ≤ run.moves + 1) :
    (run.states k).map Router.device = entry.map Router.device := by
  have devices := congrArg (List.map fun o => o.1.device) (run.map_outsideBgp le)
  rwa [List.map_map, List.map_map] at devices

/-- A round leaves what it has started from. -/
theorem round_map_fixed (done : round f limit routers = .ok (moved, steps)) :
    moved.map Router.fixed = routers.map Router.startRound := by
  obtain ⟨entry, entered, ended⟩ := bind_eq_ok.1 done
  obtain ⟨run, rfl, -⟩ := BgpRun.of_phase ended
  have bgp := congrArg (List.map Prod.fst) (run.map_outsideBgp le_rfl)
  have others := congrArg (List.map Prod.fst) (beforeBgp_map entered)
  rw [List.map_map, List.map_map] at bgp others
  rw [List.map_map] at others
  exact bgp.trans others

end Frames

theorem last_of_rounds {left : Nat} {done rounds : List (Nat × Nat)} {Start : List Router → Prop}
    (start : Start routers)
    (next : ∀ routers moved steps, Start routers → round f limit routers = .ok (moved, steps) →
      Start moved)
    (ended : roundsFrom f limit left done routers = .ok (last, rounds)) :
    ∃ before steps, Start before ∧ round f limit before = .ok (last, steps) ∧
      ∀ r ∈ last, r.hasMoved = false := by
  induction left generalizing done routers with
  | zero => cases ended
  | succ left ih =>
    obtain ⟨⟨moved, steps⟩, once, rest⟩ := bind_eq_ok.1 ended
    dsimp only at rest
    split at rest
    next => exact ih (next _ _ _ start once) rest
    next still =>
      cases rest
      refine ⟨routers, steps, start, once, fun r member => Bool.eq_false_iff.2 fun moves => ?_⟩
      exact still (List.any_eq_true.2 ⟨r, member, moves⟩)

end Schedule

namespace Network

open Schedule

variable {n : Network} {d : DataPlane}

/-- The round in which a computation has stopped. -/
structure LastRound (n : Network) (d : DataPlane) where
  before : List Router
  entry : List Router
  bgp : BgpRun n.fabric entry
  reached : n.RoundStart before
  entered : beforeBgp n.fabric n.settings.maxInner before = .ok entry
  within : bgp.moves < n.settings.maxInner
  still : ∀ r ∈ bgp.final, r.hasMoved = false
  result : d.routers = bgp.final.map (Router.compileForwarding n.fabric.owners)

theorem exists_lastRound (done : n.compute = .ok d) : Nonempty (n.LastRound d) := by
  obtain ⟨⟨routers, _⟩, first, rest⟩ := bind_eq_ok.1 done
  obtain ⟨⟨final, _⟩, second, same⟩ := bind_eq_ok.1 rest
  cases same
  obtain ⟨before, steps, reached, last, still⟩ :=
    last_of_rounds (RoundStart.first first) (fun _ _ _ => RoundStart.next) second
  obtain ⟨entry, entered, ended⟩ := bind_eq_ok.1 last
  obtain ⟨run, rfl, within⟩ := BgpRun.of_phase ended
  exact ⟨⟨before, entry, run, reached, entered, within, still, rfl⟩⟩

namespace LastRound

variable (last : n.LastRound d)

abbrev final : List Router := last.bgp.final

theorem round_eq : round n.fabric n.settings.maxInner last.before =
    .ok (last.final, last.bgp.moves + 1) :=
  bind_eq_ok.2 ⟨last.entry, last.entered, last.bgp.phase last.within⟩

theorem final_reached : n.RoundStart last.final := last.reached.next last.round_eq

theorem map_fixed : last.final.map Router.fixed = last.before.map Router.startRound :=
  round_map_fixed last.round_eq

/-- The last round has found the main tables that it leaves. -/
theorem main_held {r : Router} (member : r ∈ last.final) : r.main.held = r.previous.main.held := by
  have still := last.still r member
  simp only [Router.hasMoved, Bool.not_eq_false', Bool.and_eq_true] at still
  exact Rib.sameRoutes_iff.1 still.1.1

end LastRound

end Network

end RoutePlane
