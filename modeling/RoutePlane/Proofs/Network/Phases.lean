import RoutePlane.Proofs.Network.Exchange

/-! The phases of a computation, in each of which all routers move, once or until nothing changes. What
the moves of a phase keep, the routers have after it. -/
namespace RoutePlane.Schedule

open Fallible

variable {f : Fabric} {announcements : List Announcement} {routers entry : List Router}
  {limit steps : Nat} {Inv After : Router → Prop} {r : Router}

theorem independent_ok : independent f limit announcements = .ok (routers, steps) ↔
    ∃ prepared converged, f.freshRouters.mapM (prepare announcements) = .ok prepared ∧
      repeatUntilStable .ospfInternal limit (ospfInternalStep f) prepared = .ok (converged, steps) ∧
      routers = converged.map Router.importOspfInternal := by
  constructor
  · intro done
    obtain ⟨prepared, first, rest⟩ := bind_eq_ok.1 done
    obtain ⟨⟨converged, steps'⟩, second, same⟩ := bind_eq_ok.1 rest
    cases same
    exact ⟨prepared, converged, first, second, rfl⟩
  · rintro ⟨prepared, converged, first, second, rfl⟩
    exact bind_eq_ok.2 ⟨prepared, first, bind_eq_ok.2 ⟨_, second, rfl⟩⟩

theorem beforeOspf_ok : beforeOspf limit routers = .ok entry ↔ ∃ statics generated staticSteps
      generatedSteps,
    repeatUntilStable .staticRoutes limit staticStep (routers.map Router.startRound) =
      .ok (statics, staticSteps) ∧
    repeatUntilStable .generatedRoutes limit generatedStep statics =
      .ok (generated, generatedSteps) ∧
    generated.mapM Router.initOspfExports = .ok entry := by
  constructor
  · intro done
    obtain ⟨⟨statics, staticSteps⟩, first, rest⟩ := bind_eq_ok.1 done
    obtain ⟨⟨generated, generatedSteps⟩, second, third⟩ := bind_eq_ok.1 rest
    exact ⟨statics, generated, staticSteps, generatedSteps, first, second, third⟩
  · rintro ⟨statics, generated, staticSteps, generatedSteps, first, second, third⟩
    exact bind_eq_ok.2 ⟨_, first, bind_eq_ok.2 ⟨_, second, third⟩⟩

theorem beforeBgp_ok : beforeBgp f limit routers = .ok entry ↔ ∃ exported converged steps,
    beforeOspf limit routers = .ok exported ∧
    repeatUntilStable .ospfExternal limit (ospfExternalStep f) exported = .ok (converged, steps) ∧
    entry = converged.map Router.importOspfExternal := by
  constructor
  · intro done
    obtain ⟨exported, first, rest⟩ := bind_eq_ok.1 done
    obtain ⟨⟨converged, steps⟩, second, same⟩ := bind_eq_ok.1 rest
    cases same
    exact ⟨exported, converged, steps, first, second, rfl⟩
  · rintro ⟨exported, converged, steps, first, second, rfl⟩
    exact bind_eq_ok.2 ⟨exported, first, bind_eq_ok.2 ⟨_, second, rfl⟩⟩

theorem device_of_prepared (done : f.freshRouters.mapM (prepare announcements) = .ok routers)
    (member : r ∈ routers) : ∃ c ∈ f.configurations.values, ∃ vrf,
      prepare announcements { configuration := c, vrf := vrf } = .ok r := by
  obtain ⟨fresh, source, outcome⟩ := source_of_mem (mapM_eq_ok.1 done) member
  obtain ⟨c, listed, source⟩ := List.mem_flatMap.1 source
  obtain ⟨vrf, -, rfl⟩ := List.mem_map.1 source
  exact ⟨c, listed, vrf, outcome⟩

theorem independent_keeps
    (prepares : ∀ c vrf r, prepare announcements { configuration := c, vrf := vrf } = .ok r → Inv r)
    (exchanges : ∀ routers : List Router, (∀ r ∈ routers, Inv r) →
      ∀ r ∈ routers, Inv (r.gatherOspfInternal f routers).1.commitOspfInternal.1)
    (imports : ∀ r, Inv r → Inv r.importOspfInternal)
    (done : independent f limit announcements = .ok (routers, steps)) : ∀ r ∈ routers, Inv r := by
  obtain ⟨prepared, converged, first, second, rfl⟩ := independent_ok.1 done
  have start : ∀ r ∈ prepared, Inv r := by
    intro r member
    obtain ⟨c, -, vrf, outcome⟩ := device_of_prepared first member
    exact prepares c vrf r outcome
  intro r member
  obtain ⟨r, source, rfl⟩ := List.mem_map.1 member
  exact imports r (repeated_total_exchanges_keep start exchanges second r source)

theorem beforeOspf_exported (start : ∀ r ∈ routers, Inv r.startRound)
    (statics : ∀ r, Inv r → Inv r.activateStatic.1)
    (generates : ∀ r, Inv r → Inv r.activateGenerated.1)
    (exports : ∀ r m, Inv r → r.initOspfExports = .ok m → After m)
    (done : beforeOspf limit routers = .ok entry) : ∀ r ∈ entry, After r := by
  obtain ⟨_, _, _, _, first, second, third⟩ := beforeOspf_ok.1 done
  have started : ∀ r ∈ routers.map Router.startRound, Inv r := by
    intro r member
    obtain ⟨r, source, rfl⟩ := List.mem_map.1 member
    exact start r source
  have afterStatic := repeated_moves_keep started (fun r m before moved => by
    cases moved
    exact statics r before) first
  have afterGenerated := repeated_moves_keep afterStatic (fun r m before moved => by
    obtain ⟨_, -, rfl⟩ := map_eq_ok.1 moved
    exact generates r before) second
  intro r member
  obtain ⟨r, source, outcome⟩ := source_of_mem (mapM_eq_ok.1 third) member
  exact exports _ _ (afterGenerated r source) outcome

theorem beforeOspf_keeps (start : ∀ r ∈ routers, Inv r.startRound)
    (statics : ∀ r, Inv r → Inv r.activateStatic.1)
    (generates : ∀ r, Inv r → Inv r.activateGenerated.1)
    (exports : ∀ r m, Inv r → r.initOspfExports = .ok m → Inv m)
    (done : beforeOspf limit routers = .ok entry) : ∀ r ∈ entry, Inv r :=
  beforeOspf_exported start statics generates exports done

end RoutePlane.Schedule
