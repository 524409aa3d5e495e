import RoutePlane.Proofs.Network.Likeness
import RoutePlane.Proofs.Router.BgpSettling
import RoutePlane.Proofs.Router.Effects
import RoutePlane.Proofs.Router.Gathering

/-! How a round depends on the one before. Of the tables of the round before, generated routes and OSPF
exports see which routes the main table held, and BGP aggregates see the BGP table; nothing else sees
any of them. What a round starts from is not changed by the round. -/
namespace RoutePlane

open Fallible

namespace Rib

variable {t u : Rib}

theorem moreSpecific_congr (same : t.bindings = u.bindings) (p : Prefix) :
    t.moreSpecific p = u.moreSpecific p := by
  have listed (t : Rib) : t.moreSpecific p =
      (t.bindings.filter fun b => p.strictlyContains b.1).flatMap (·.2.toList) := by
    rw [moreSpecific, flatMap_nonempty, bindings, List.filter_filter, List.filter_filter]
    simp only [Bool.and_comm]
  rw [listed, listed, same]

end Rib

namespace Router

def setPrevious (r : Router) (p : Previous) : Router := { r with previous := p }

def forget (r : Router) : Router := r.setPrevious {}

/-- What generated routes and OSPF exports see. -/
def look (r : Router) : Router × List (Prefix × RouteSet) := (r.forget, r.previous.main.bindings)

def bgpLook (r : Router) : Router × (BgpProcess → List RouteDraft) := (r.forget, r.aggregateDrafts)

/-- What a round starts from, and the tables of the round before. -/
def fixed (r : Router) : Router := r.startRound.setPrevious r.previous

variable {r r' m : Router} {f : Fabric} {routers routers' : List Router} {process : BgpProcess}
  {p : Previous}

theorem forget_eq_iff : r.forget = r'.forget ↔ ∃ p, r' = r.setPrevious p := by
  constructor
  · intro same
    refine ⟨r'.previous, ?_⟩
    cases r; cases r'
    simpa [forget, setPrevious, eq_comm] using same
  · rintro ⟨p, rfl⟩
    rfl

theorem look_eq_iff : r.look = r'.look ↔
    ∃ p, r' = r.setPrevious p ∧ r.previous.main.bindings = p.main.bindings := by
  rw [look, look, Prod.mk.injEq, forget_eq_iff]
  constructor
  · rintro ⟨⟨p, rfl⟩, same⟩
    exact ⟨p, rfl, same⟩
  · rintro ⟨p, rfl, same⟩
    exact ⟨⟨p, rfl⟩, same⟩

theorem forget_bare (r : Router) : r.forget.bare = r.bare := rfl

section BeforeBgp

theorem activateStaticFrom_look (same : r.look = r'.look) (rounds : Nat)
    (waiting : List StaticRoute) :
    (activateStaticFrom rounds waiting r).1.look = (activateStaticFrom rounds waiting r').1.look ∧
      (activateStaticFrom rounds waiting r).2 = (activateStaticFrom rounds waiting r').2 := by
  induction rounds generalizing waiting r r' with
  | zero => exact ⟨same, rfl⟩
  | succ rounds ih =>
    have main : r.main = r'.main := congrArg (fun k => k.1.main) same
    rw [activateStaticFrom, activateStaticFrom, main]
    generalize waiting.partition (fun s => isResolvable r'.main s.network s.nextHop) = parts
    obtain ⟨ready, later⟩ := parts
    dsimp only
    split
    · exact ⟨same, rfl⟩
    · have installed : (r.installStatic ready).1.look = (r'.installStatic ready).1.look ∧
          (r.installStatic ready).2 = (r'.installStatic ready).2 := by
        obtain ⟨p, rfl, prior⟩ := look_eq_iff.1 same
        exact ⟨look_eq_iff.2 ⟨p, rfl, prior⟩, rfl⟩
      obtain ⟨others, more⟩ := ih installed.1 later
      exact ⟨others, by rw [more, installed.2]⟩

theorem activateStatic_look (same : r.look = r'.look) :
    r.activateStatic.1.look = r'.activateStatic.1.look ∧
      r.activateStatic.2 = r'.activateStatic.2 := by
  have waiting : r.dependentStatic = r'.dependentStatic :=
    congrArg (fun k => k.1.dependentStatic) same
  rw [activateStatic, activateStatic, waiting]
  exact activateStaticFrom_look same _ _

theorem judge_look (same : r.look = r'.look) (waiting : List GeneratedRoute) :
    r.judge waiting = r'.judge waiting := by
  obtain ⟨p, rfl, prior⟩ := look_eq_iff.1 same
  have contributed (g : GeneratedRoute) : r.isContributed g = (r.setPrevious p).isContributed g := by
    rw [isContributed, isContributed, Rib.moreSpecific_congr prior]
    rfl
  simp only [judge, contributed]

theorem activateGeneratedFrom_look (same : r.look = r'.look) (rounds : Nat)
    (waiting : List GeneratedRoute) :
    (activateGeneratedFrom rounds waiting r).1.look =
        (activateGeneratedFrom rounds waiting r').1.look ∧
      (activateGeneratedFrom rounds waiting r).2 = (activateGeneratedFrom rounds waiting r').2 := by
  induction rounds generalizing waiting r r' with
  | zero => exact ⟨same, rfl⟩
  | succ rounds ih =>
    rw [activateGeneratedFrom, activateGeneratedFrom, judge_look same]
    cases r'.judge waiting with
    | error e => exact ⟨same, rfl⟩
    | ok judged =>
      dsimp only
      split
      · exact ⟨same, rfl⟩
      · have installed (ready : List GeneratedRoute) :
            (r.installGenerated ready).1.look = (r'.installGenerated ready).1.look ∧
              (r.installGenerated ready).2 = (r'.installGenerated ready).2 := by
          obtain ⟨p, rfl, prior⟩ := look_eq_iff.1 same
          exact ⟨look_eq_iff.2 ⟨p, rfl, prior⟩, rfl⟩
        obtain ⟨looks, flags⟩ := installed ((judged.filter (·.2)).map (·.1))
        obtain ⟨others, more⟩ := ih looks ((judged.filter (!·.2)).map (·.1))
        exact ⟨others, by rw [more, flags]⟩

theorem activateGenerated_look (same : r.look = r'.look) :
    r.activateGenerated.1.look = r'.activateGenerated.1.look ∧
      r.activateGenerated.2 = r'.activateGenerated.2 := by
  have settings : r.settings? = r'.settings? := congrArg (fun k => k.1.settings?) same
  rw [activateGenerated, activateGenerated, settings]
  exact activateGeneratedFrom_look same _ _

theorem initOspfExports_look (same : r.look = r'.look) (done : r.initOspfExports = .ok m) :
    ∃ m', r'.initOspfExports = .ok m' ∧ m.look = m'.look := by
  obtain ⟨p, rfl, prior⟩ := look_eq_iff.1 same
  have own : (r.setPrevious p).ospfProcess? = r.ospfProcess? := rfl
  rw [initOspfExports] at done ⊢
  rw [own]
  split at done
  · cases done
    exact ⟨_, rfl, same⟩
  · next process _ =>
    dsimp only
    split at done
    · cases done
      exact ⟨_, rfl, same⟩
    · next policy _ =>
      obtain ⟨l, exported, rest⟩ := bind_eq_ok.1 done
      cases rest
      have again : (r.setPrevious p).ospfExports process policy = .ok l := by
        rw [← exported, ospfExports, ospfExports, Rib.routes_congr prior]
        rfl
      exact ⟨_, bind_eq_ok.2 ⟨l, again, rfl⟩, look_eq_iff.2 ⟨p, rfl, prior⟩⟩

theorem externalArrivals_forget (type : Protocol) :
    r.forget.externalArrivals f (routers.map forget) type = r.externalArrivals f routers type :=
  (LeavesOspf.of_bare forget_bare).externalArrivals (.refl f) (fun _ => rfl) (fun _ => rfl)
    (fun _ => rfl) type

theorem gatherOspfExternal_look (all : routers.map look = routers'.map look)
    (same : r.look = r'.look) :
    (r.gatherOspfExternal f routers).1.look = (r'.gatherOspfExternal f routers').1.look ∧
      (r.gatherOspfExternal f routers).2 = (r'.gatherOspfExternal f routers').2 := by
  have forgotten : routers.map forget = routers'.map forget := by
    have first := congrArg (List.map Prod.fst) all
    rwa [List.map_map, List.map_map] at first
  obtain ⟨p, rfl, prior⟩ := look_eq_iff.1 same
  have arrivals (type : Protocol) :
      r.externalArrivals f routers type = (r.setPrevious p).externalArrivals f routers' type := by
    rw [← externalArrivals_forget, forgotten, ← externalArrivals_forget (r := r.setPrevious p)]
    rfl
  rw [gatherOspfExternal, gatherOspfExternal, ← arrivals, ← arrivals]
  exact ⟨look_eq_iff.2 ⟨p, rfl, prior⟩, rfl⟩

theorem commitOspfExternal_look (same : r.look = r'.look) :
    r.commitOspfExternal.1.look = r'.commitOspfExternal.1.look ∧
      r.commitOspfExternal.2 = r'.commitOspfExternal.2 := by
  obtain ⟨p, rfl, prior⟩ := look_eq_iff.1 same
  exact ⟨look_eq_iff.2 ⟨p, rfl, prior⟩, rfl⟩

theorem importOspfExternal_look (same : r.look = r'.look) :
    r.importOspfExternal.look = r'.importOspfExternal.look := by
  obtain ⟨p, rfl, prior⟩ := look_eq_iff.1 same
  exact look_eq_iff.2 ⟨p, rfl, prior⟩

end BeforeBgp

section BgpPhase

theorem originateBgp_look (same : r.bgpLook = r'.bgpLook) (done : r.originateBgp = .ok m) :
    ∃ m', r'.originateBgp = .ok m' ∧ m.forget = m'.forget := by
  rw [bgpLook, bgpLook, Prod.mk.injEq, forget_eq_iff] at same
  obtain ⟨⟨p, rfl⟩, drafts⟩ := same
  have own : (r.setPrevious p).bgpProcess? = r.bgpProcess? := rfl
  rw [originateBgp] at done ⊢
  rw [own]
  split at done
  · cases done
    exact ⟨_, rfl, rfl⟩
  · next process _ =>
    obtain ⟨l, originated, rest⟩ := bind_eq_ok.1 done
    cases rest
    have again : (r.setPrevious p).originated process = .ok l := by
      rw [← originated, Router.originated, Router.originated, ← drafts]
      rfl
    exact ⟨_, bind_eq_ok.2 ⟨l, again, rfl⟩, rfl⟩

theorem gatherBgp_forget : r.forget.gatherBgp f (routers.map forget) =
    (r.gatherBgp f routers).map fun g => (g.1.forget, g.2) := by
  rw [gatherBgp, gatherBgp, show r.forget.bgpProcess? = r.bgpProcess? from rfl]
  split
  · rfl
  · next process _ =>
    have arrived : r.forget.bgpArrivals f (routers.map forget) process =
        r.bgpArrivals f routers process :=
      (LeavesBgp.of_bare forget_bare).bgpArrivals fun _ => rfl
    rw [arrived]
    cases r.bgpArrivals f routers process <;> rfl

theorem gatherBgp_look {g : Router × Bool} (all : routers.map forget = routers'.map forget)
    (same : r.forget = r'.forget) (gathered : r.gatherBgp f routers = .ok g) :
    ∃ g', r'.gatherBgp f routers' = .ok g' ∧ g.1.forget = g'.1.forget ∧ g.2 = g'.2 := by
  have forgotten : (r.gatherBgp f routers).map (fun g => (g.1.forget, g.2)) =
      (r'.gatherBgp f routers').map fun g => (g.1.forget, g.2) := by
    rw [← gatherBgp_forget, ← gatherBgp_forget, all, same]
  rw [gathered] at forgotten
  obtain ⟨g', gathered', same'⟩ := map_eq_ok.1 forgotten.symm
  rw [Prod.mk.injEq] at same'
  exact ⟨g', gathered', same'.1.symm, same'.2.symm⟩

theorem commitStagedBgp_look (same : r.forget = r'.forget) :
    r.commitStagedBgp.1.forget = r'.commitStagedBgp.1.forget ∧
      r.commitStagedBgp.2 = r'.commitStagedBgp.2 := by
  obtain ⟨p, rfl⟩ := forget_eq_iff.1 same
  exact ⟨rfl, rfl⟩

end BgpPhase

end Router

end RoutePlane
