import RoutePlane.Proofs.Router.Contributors

/-! Generated routes and the final main tables. A computation stops when the main tables are what they were
after the round before, so what contributed to a generated route in the last round does so in the end. -/
namespace RoutePlane

open Fallible

namespace Schedule

variable {f : Fabric} {limit : Nat} {routers entry moved : List Router} {flag : Bool}

theorem generatedStep_generates (start : ∀ r ∈ routers, r.IsSupported)
    (done : generatedStep routers = .ok (moved, flag)) : ∀ r ∈ moved, r.HasGenerated := by
  refine everyRouter_keeps (fun r member m outcome => ?_) done
  obtain ⟨active, activated, rfl⟩ := map_eq_ok.1 outcome
  have supported := start r member
  exact ⟨supported.activateGenerated, Router.reinstates_activateGenerated supported.kind activated⟩

theorem beforeOspf_generated (done : beforeOspf limit routers = .ok entry) :
    ∀ r ∈ entry, r.HasGenerated := by
  obtain ⟨statics, generated, _, _, first, second, third⟩ := beforeOspf_ok.1 done
  have started : ∀ r ∈ routers.map Router.startRound, r.IsSupported := by
    intro r member
    obtain ⟨r, -, rfl⟩ := List.mem_map.1 member
    exact .startRound r
  have afterStatic := repeated_moves_keep started (fun r m supported moved => by
    cases moved
    exact supported.activateStatic) first
  -- each step puts back what the round before contributes to, so the last one is enough
  obtain ⟨before, supported, idle⟩ := exists_idle_step
    (P := fun routers => ∀ r ∈ routers, r.IsSupported)
    (fun _ _ _ all step r member => (generatedStep_generates all step r member).supported)
    afterStatic second
  intro r member
  obtain ⟨r, source, exported⟩ := source_of_mem (mapM_eq_ok.1 third) member
  exact (generatedStep_generates supported idle r source).initOspfExports exported

theorem beforeBgp_generated (done : beforeBgp f limit routers = .ok entry) :
    ∀ r ∈ entry, r.HasGenerated := by
  obtain ⟨exported, converged, _, first, second, rfl⟩ := beforeBgp_ok.1 done
  have afterExternal : ∀ r ∈ converged, r.HasGenerated :=
    repeated_total_exchanges_keep (beforeOspf_generated first)
      (fun _ all r member => (all r member).ospfExternal) second
  intro r member
  obtain ⟨r, source, rfl⟩ := List.mem_map.1 member
  exact (afterExternal r source).importOspfExternal

theorem BgpRun.stays (run : BgpRun f entry)
    (silent : ∀ e ∈ entry, e.bgpProcess? = none → e.IsSilent) :
    ∀ r ∈ run.final, r.bgpProcess? = none → r ∈ entry := by
  have alone {r m : Router} (same : outsideBgp m = outsideBgp r) (without : m.bgpProcess? = none) :
      r.bgpProcess? = none := (congrArg (fun o => o.1.bgpProcess?) same).symm.trans without
  have stays : ∀ r ∈ run.final, r.bgpProcess? = none → r ∈ entry ∧ r.IsSilent := by
    refine run.keeps
      (P := fun routers => ∀ r ∈ routers, r.bgpProcess? = none → r ∈ entry ∧ r.IsSilent) ?_ ?_ le_rfl
    · intro r member without
      obtain ⟨e, source, originated⟩ := source_of_mem (mapM_eq_ok.1 run.originated) member
      have without := alone (outsideBgp_originateBgp originated) without
      rw [Router.originateBgp, without] at originated
      cases originated
      exact ⟨source, silent _ source without⟩
    · intro routers moved changed all step
      refine exchange_keeps (fun r member g gathered without => ?_) step
      have without := alone (outsideBgp_gatherBgp gathered) without
      obtain ⟨source, silent⟩ := all r member without
      rw [silent.bgp without gathered]
      exact ⟨source, silent⟩
  exact fun r member without => (stays r member without).1

end Schedule

namespace Network

open Schedule

variable {n : Network} {d : DataPlane}

/-- After a computation, the generated table of a router without BGP has a route for a network that is to be
generated without a policy exactly if the main table holds a route for a network inside of it. -/
theorem generated_held_iff (done : n.compute = .ok d) : ∀ r ∈ d.routers, r.bgpProcess? = none →
    ∀ v, r.settings? = some v → ∀ g ∈ v.generatedRoutes, g.policy = none →
      ((∃ x, x ∈ r.generated.held g.network) ↔ r.main.HoldsInside g.network) := by
  obtain ⟨last⟩ := exists_lastRound done
  have sound := beforeBgp_entry last.reached.bases last.entered
  have fresh := beforeBgp_fresh last.entered
  rw [last.result]
  intro r member without v own g listed free
  obtain ⟨r, final, rfl⟩ := List.mem_map.1 member
  have entered := last.bgp.stays (fun e source => (fresh e source).isSilent (sound e source).bases)
    r final without
  exact (beforeBgp_generated last.entered r entered).exists_held_iff (last.main_held final) own
    listed free

/-- Two routers on a link. The second one announces a static route, and the first one is to generate routes
to a network around that of the static route, to one around both, and to another one. -/
def summarized : Network :=
  let running (i : Interface) : Interface := i.withOspf .backbone (some 1)
  let network (a length : Nat) : Prefix := (InterfaceAddress.ofOctets a 0 0 0 length).network
  let inner := ({
      hostname := "inner"
      vrfs := .ofList [(defaultVrf, {
        generatedRoutes := [{ network := network 16 4 }, { network := network 20 8 },
          { network := network 40 8 }]
        ospf := some { routerId := .ofOctets 1 1 1 1 } })] } : Configuration)
    |>.withInterface "eth0" (running (.ofAddress (.ofOctets 10 0 0 1 30)))
  let outer := ({
      hostname := "outer"
      vrfs := .ofList [(defaultVrf, {
        staticRoutes := [{ network := network 20 16, nextHop := .discard }]
        ospf := some { routerId := .ofOctets 2 2 2 2, exportPolicy := some "static" } })]
      routeMaps := .ofList [("static", .ofEntries "static" [{
        sequence := 10, action := .accept, conditions := [.protocol .static], actions := []
        next := .exit }])] } : Configuration)
    |>.withInterface "eth0" (running (.ofAddress (.ofOctets 10 0 0 2 30)))
  ofConfigurations [inner, outer]

/-- The announced route contributes from the second round on, so the first router generates two of the
routes, and not the one that nothing lies inside of. -/
theorem summarized_generates : ∃ d, summarized.compute = .ok d ∧ ∃ r ∈ d.routers,
    r.bgpProcess? = none ∧ ∃ v, r.settings? = some v ∧
      (∃ g ∈ v.generatedRoutes, g.policy = none ∧ (∃ x, x ∈ r.generated.held g.network) ∧
        r.main.HoldsInside g.network) ∧
      ∃ g ∈ v.generatedRoutes, g.policy = none ∧ (¬∃ x, x ∈ r.generated.held g.network) ∧
        ¬r.main.HoldsInside g.network := by
  obtain ⟨d, done, passed⟩ := of_any (x := summarized.compute)
    (p := fun d => decide (∃ r ∈ d.routers, r.bgpProcess? = none ∧ ∃ v ∈ r.settings?,
      (∃ g ∈ v.generatedRoutes, g.policy = none ∧ r.generated.held g.network ≠ .empty) ∧
        ∃ g ∈ v.generatedRoutes, g.policy = none ∧ r.generated.held g.network = .empty))
    (by decide +kernel)
  obtain ⟨r, member, without, v, own, ⟨g, listed, free, some⟩, g', listed', free', nothing⟩ :=
    of_decide_eq_true passed
  have decided := generated_held_iff done r member without v own
  have active := SortedSet.exists_mem_iff.2 some
  have idle : ¬∃ x, x ∈ r.generated.held g'.network := fun held => SortedSet.exists_mem_iff.1 held nothing
  exact ⟨d, done, r, member, without, v, own,
    ⟨g, listed, free, active, (decided g listed free).1 active⟩,
    g', listed', free', idle, mt (decided g' listed' free').2 idle⟩

end Network

end RoutePlane
