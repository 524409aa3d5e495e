import RoutePlane.Proofs.Network.Entries
import RoutePlane.Proofs.Network.Phases

/-! The inner loops of every round converge: those of OSPF always, and that of BGP unless a policy
fails. So there is a limit from which on none of the three is ever reported not to have converged. The
limit depends on the network, and rounds themselves may go on changing tables. -/
namespace RoutePlane

open Fallible

/-- From some limit on the loop ends, or a policy fails. -/
def Converges {σ : Type} (phase : Phase) (step : σ → Except NetworkError (σ × Bool)) (s : σ) : Prop :=
  ∃ enough, ∀ limit ≥ enough, (∃ t steps, repeatUntilStable phase limit step s = .ok (t, steps)) ∨
    ∃ p, repeatUntilStable phase limit step s = .error (.policy p)

theorem Stops.converges {σ : Type} {phase : Phase} {step : σ → Except NetworkError (σ × Bool)} {s : σ}
    (stops : Stops step s) (policies : ∀ t e, step t = .error e → ∃ p, e = .policy p) :
    Converges phase step s := by
  obtain ⟨enough, ⟨t, steps, ends⟩ | ⟨n, e, failed, ends⟩⟩ := stops.outcome phase
  · exact ⟨enough, fun limit le => .inl ⟨t, steps, ends limit le⟩⟩
  · obtain ⟨p, rfl⟩ := policies _ _ failed
    exact ⟨enough, fun limit le => .inr ⟨p, ends limit le⟩⟩

def Phase.isInner : Phase → Bool
  | ospfInternal | ospfExternal | bgp => true
  | _ => false

def IsFine {α : Type} (x : Except NetworkError α) : Prop :=
  ∀ e, x = .error e → ∀ phase, e.phase? = some phase → phase.isInner = false

/-- A computation with a limit: a greater limit does not take a result away, and from some limit on no
inner loop is reported. -/
structure Settled {α : Type} (F : Nat → Except NetworkError α) : Prop where
  mono : ∀ limit a, F limit = .ok a → ∀ more ≥ limit, F more = .ok a
  fine : ∃ enough, ∀ limit ≥ enough, IsFine (F limit)

namespace Settled

variable {α β : Type} {F : Nat → Except NetworkError α} {G : α → Nat → Except NetworkError β}

theorem const {x : Except NetworkError α} (fine : IsFine x) : Settled fun _ => x :=
  ⟨fun _ _ done _ _ => done, 0, fun _ _ => fine⟩

theorem of_phase {x : Except NetworkError α} (none : ∀ e, x = .error e → e.phase? = none) :
    Settled fun _ => x :=
  const fun e failed phase some => by
    rw [none e failed] at some
    cases some

theorem bind (first : Settled F) (rest : ∀ limit a, F limit = .ok a → Settled (G a)) :
    Settled fun limit => F limit >>= fun a => G a limit where
  mono := by
    intro limit b done more le
    obtain ⟨a, started, done⟩ := bind_eq_ok.1 done
    exact bind_eq_ok.2 ⟨a, first.mono limit a started more le,
      (rest limit a started).mono limit b done more le⟩
  fine := by
    obtain ⟨enough, fine⟩ := first.fine
    by_cases ever : ∃ limit a, F limit = .ok a
    · obtain ⟨since, a, started⟩ := ever
      obtain ⟨later, others⟩ := (rest since a started).fine
      refine ⟨max since later, fun limit le e failed => ?_⟩
      have again := first.mono since a started limit (le_of_max_le_left le)
      rcases bind_eq_error.1 failed with failed | ⟨a', same, failed⟩
      · rw [again] at failed
        cases failed
      · rw [again] at same
        cases same
        exact others limit (le_of_max_le_right le) e failed
    · refine ⟨enough, fun limit le e failed => ?_⟩
      rcases bind_eq_error.1 failed with failed | ⟨a, started, -⟩
      · exact fine limit le e failed
      · exact absurd ⟨limit, a, started⟩ ever

variable {σ : Type} {phase : Phase} {step : σ → Except NetworkError (σ × Bool)} {s : σ}

theorem repeatUntilStable (errors : ∀ t e, step t = .error e → e.phase? = none)
    (settles : phase.isInner = true → Converges phase step s) :
    Settled fun limit => repeatUntilStable phase limit step s where
  mono := fun limit (t, steps) ended more le => repeatUntilStable_mono ended le
  fine := by
    cases inner : phase.isInner with
    | true =>
      obtain ⟨enough, ends⟩ := settles inner
      refine ⟨enough, fun limit le e failed phase reported => ?_⟩
      rcases ends limit le with ⟨t, steps, ended⟩ | ⟨p, ended⟩ <;> rw [ended] at failed
        <;> cases failed
      cases reported
    | false =>
      refine ⟨0, fun limit _ e failed other reported => ?_⟩
      rcases of_repeatFrom failed with ⟨-, same⟩ | ⟨n, -, -, ⟨t, -, never⟩ | ⟨e', stepped, same⟩⟩
      · cases same
        cases reported
        exact inner
      · cases never
      · cases same
        rw [errors _ _ stepped] at reported
        cases reported

end Settled

namespace Router

def bgpRibs (r : Router) : List Rib :=
  [r.bgp.external, r.bgp.internal, r.bgp.combined, r.staging.external, r.staging.internal]

def bgpNames (r : Router) : List String :=
  r.policyNames ++ r.bgpRibs.flatMap fun t => t.routes.flatMap Route.names

end Router

namespace Schedule

variable {f : Fabric} {routers entry : List Router} {announcements : List Announcement} {limit : Nat}
  {e : NetworkError}

section Errors

theorem staticStep_total (routers : List Router) : staticStep routers ≠ .error e := by
  rw [staticStep, everyRouter_total]
  exact fun never => by cases never

theorem phase_of_generatedStep (failed : generatedStep routers = .error e) : e.phase? = none := by
  obtain ⟨r, -, failed⟩ := error_of_everyRouter failed
  exact Router.phase_of_activateGeneratedFrom (map_eq_error.1 failed)

theorem ospfInternalStep_total (routers : List Router) : ospfInternalStep f routers ≠ .error e := by
  intro failed
  obtain ⟨r, -, never⟩ := error_of_exchange failed
  cases never

theorem ospfExternalStep_total (routers : List Router) : ospfExternalStep f routers ≠ .error e := by
  intro failed
  obtain ⟨r, -, never⟩ := error_of_exchange failed
  cases never

theorem error_of_bgpStep (failed : bgpStep f routers = .error e) : ∃ p, e = .policy p := by
  obtain ⟨r, -, failed⟩ := error_of_exchange failed
  exact Router.error_of_gatherBgp failed

theorem phase_of_bgpStep (failed : bgpStep f routers = .error e) : e.phase? = none := by
  obtain ⟨p, rfl⟩ := error_of_bgpStep failed
  rfl

end Errors

section Entries

theorem prepared (done : f.freshRouters.mapM (prepare announcements) = .ok routers) :
    ∀ r ∈ routers, r.HasBases announcements ∧
      ∀ known : Set String, (∀ s ∈ r.ownNames, s ∈ known) → r.KnowsInternal known := by
  intro r member
  obtain ⟨c, -, vrf, outcome⟩ := device_of_prepared done member
  exact Router.prepare_ok outcome

theorem independent_bases {steps : Nat}
    (done : independent f limit announcements = .ok (routers, steps)) :
    ∀ r ∈ routers, r.HasBases announcements :=
  independent_keeps (fun _ _ _ prepared => (Router.prepare_ok prepared).1)
    (fun _ all r member => (all r member).congr rfl rfl rfl)
    (fun _ bases => bases.congr rfl rfl rfl) done

theorem beforeOspf_entry (bases : ∀ r ∈ routers, r.HasBases announcements)
    (done : beforeOspf limit routers = .ok entry) : ∀ r ∈ entry, r.IsBeforeOspf announcements :=
  beforeOspf_keeps (fun r member => (bases r member).startRound) (fun _ => .activateStatic)
    (fun _ => .activateGenerated) (fun _ _ => .initOspfExports) done

theorem beforeBgp_entry (bases : ∀ r ∈ routers, r.HasBases announcements)
    (done : beforeBgp f limit routers = .ok entry) : ∀ r ∈ entry, r.IsSound announcements := by
  obtain ⟨exported, converged, _, first, second, rfl⟩ := beforeBgp_ok.1 done
  have kept : ∀ r ∈ converged, r.IsSound announcements :=
    repeated_total_exchanges_keep (fun r member => (beforeOspf_entry bases first r member).sound)
      (fun _ all r member => (all r member).ospfExternal) second
  intro r member
  obtain ⟨r, source, rfl⟩ := List.mem_map.1 member
  exact (kept r source).importOspfExternal

theorem originated_entry (sound : ∀ r ∈ routers, r.IsSound announcements)
    (done : routers.mapM Router.originateBgp = .ok entry) :
    ∀ r ∈ entry, r.IsSound announcements := by
  intro r member
  obtain ⟨r, source, outcome⟩ := source_of_mem (mapM_eq_ok.1 done) member
  exact (sound r source).originateBgp outcome

theorem round_bases {steps : Nat} (bases : ∀ r ∈ routers, r.HasBases announcements)
    (done : round f limit routers = .ok (entry, steps)) : ∀ r ∈ entry, r.HasBases announcements := by
  obtain ⟨before, first, rest⟩ := bind_eq_ok.1 done
  obtain ⟨originated, second, third⟩ := bind_eq_ok.1 rest
  have start : ∀ r ∈ originated, r.IsSound announcements :=
    originated_entry (beforeBgp_entry bases first) second
  have sound : ∀ r ∈ entry, r.IsSound announcements :=
    repeated_exchanges_keep start (fun _ all r member _ => (all r member).bgp all) third
  exact fun r member => (sound r member).bases

end Entries

section Loops

theorem ospfInternal_converges
    (done : f.freshRouters.mapM (prepare announcements) = .ok routers) :
    Converges .ospfInternal (ospfInternalStep f) routers := by
  refine Stops.converges (ospfInternal_stops
    (List.finite_toSet (routers.flatMap Router.ownNames)) fun r member => ?_)
    fun t e failed => absurd failed (ospfInternalStep_total t)
  exact (prepared done r member).2 _ fun s own => List.mem_flatMap.2 ⟨r, member, own⟩

theorem ospfExternal_converges (before : ∀ r ∈ routers, r.IsBeforeOspf announcements) :
    Converges .ospfExternal (ospfExternalStep f) routers := by
  refine Stops.converges (ospfExternal_stops (List.finite_toSet (routers.flatMap fun r =>
    r.ownNames ++ r.ospf.exports.routes.flatMap Route.names)) fun r member => ?_)
    fun t e failed => absurd failed (ospfExternalStep_total t)
  have listed {s : String} (own : s ∈ r.ownNames ++ r.ospf.exports.routes.flatMap Route.names) :
      s ∈ routers.flatMap fun r => r.ownNames ++ r.ospf.exports.routes.flatMap Route.names :=
    List.mem_flatMap.2 ⟨r, member, own⟩
  have any {k : RibKind} (ne : k ≠ .bgp) (pool : Set Route) : ∀ x ∈ pool, k.Suits x :=
    fun _ _ same => absurd same ne
  obtain ⟨-, e1, e2, staging⟩ := before r member
  refine ⟨fun s own => listed (List.mem_append_left _ own), fun x held d found => ?_, ?_, ?_, ?_, ?_⟩
  · refine listed (List.mem_append_right _ (List.mem_flatMap.2 ⟨x, held, ?_⟩))
    simp [Route.names, found]
  · rw [e1]
    exact .empty (any (by decide) _)
  · rw [e2]
    exact .empty (any (by decide) _)
  · rw [staging]
    exact .empty (any (by decide) _)
  · rw [staging]
    exact .empty (any (by decide) _)

theorem bgp_converges (sound : ∀ r ∈ routers, r.IsSound announcements) :
    Converges .bgp (bgpStep f) routers := by
  refine Stops.converges (bgp_stops (List.finite_toSet (routers.flatMap Router.bgpNames))
    fun r member => ?_) fun t e => error_of_bgpStep
  obtain ⟨-, holds⟩ := sound r member
  have listed {s : String} (own : s ∈ r.bgpNames) : s ∈ routers.flatMap Router.bgpNames :=
    List.mem_flatMap.2 ⟨r, member, own⟩
  have known {t : Rib} (table : t ∈ r.bgpRibs) (draws : t.DrawsFrom .bgp bgpRoutes) :
      t.DrawsFrom .bgp (bgpPool {s | s ∈ routers.flatMap Router.bgpNames}) :=
    draws.restrict bgpPool_suits fun x held => ⟨draws.mem held, fun s name =>
      listed (List.mem_append_right _ (List.mem_flatMap.2 ⟨t, table, List.mem_flatMap.2
        ⟨x, held, List.mem_append_left _ name⟩⟩))⟩
  exact ⟨fun s own => listed (List.mem_append_left _ own), {
    external := known (by simp [Router.bgpRibs]) holds.external
    internal := known (by simp [Router.bgpRibs]) holds.internal
    combined := known (by simp [Router.bgpRibs]) holds.combined
    stagedExternal := known (by simp [Router.bgpRibs]) holds.stagedExternal
    stagedInternal := known (by simp [Router.bgpRibs]) holds.stagedInternal
    main := holds.main }⟩

end Loops

section Limits

theorem settled_mapM {move : Router → Except NetworkError Router}
    (errors : ∀ r e, move r = .error e → e.phase? = none) (routers : List Router) :
    Settled fun _ => routers.mapM move :=
  .of_phase fun e failed => by
    obtain ⟨r, -, failed⟩ := error_of_mapM failed
    exact errors r e failed

theorem settled_independent (f : Fabric) (announcements : List Announcement) :
    Settled fun limit => independent f limit announcements := by
  refine (settled_mapM (fun r e => Router.phase_of_initBgp) _).bind fun _ routers done => ?_
  refine Settled.bind (.repeatUntilStable (fun t e failed => absurd failed (ospfInternalStep_total t))
    fun _ => ospfInternal_converges done) fun _ a _ => ?_
  exact .of_phase fun e never => by cases never

theorem settled_beforeOspf (routers : List Router) :
    Settled fun limit => beforeOspf limit routers := by
  refine Settled.bind (.repeatUntilStable (fun t e failed => absurd failed (staticStep_total t))
    fun never => by cases never) fun _ statics _ => ?_
  refine Settled.bind (.repeatUntilStable (fun t e => phase_of_generatedStep)
    fun never => by cases never) fun _ generated _ => ?_
  exact settled_mapM (fun r e => Router.phase_of_initOspfExports) _

theorem settled_beforeBgp (bases : ∀ r ∈ routers, r.HasBases announcements) :
    Settled fun limit => beforeBgp f limit routers := by
  refine (settled_beforeOspf routers).bind fun limit exported started => ?_
  refine Settled.bind (.repeatUntilStable
    (fun t e failed => absurd failed (ospfExternalStep_total t))
    fun _ => ospfExternal_converges (beforeOspf_entry bases started)) fun _ a _ => ?_
  exact .of_phase fun e never => by cases never

theorem settled_bgpPhase (sound : ∀ r ∈ routers, r.IsSound announcements) :
    Settled fun limit => bgpPhase f limit routers := by
  refine (settled_mapM (fun r e => Router.phase_of_originateBgp) routers).bind
    fun _ originated done => ?_
  exact .repeatUntilStable (fun t e => phase_of_bgpStep)
    fun _ => bgp_converges (originated_entry sound done)

theorem settled_round (bases : ∀ r ∈ routers, r.HasBases announcements) :
    Settled fun limit => round f limit routers :=
  (settled_beforeBgp bases).bind fun _ _ started => settled_bgpPhase (beforeBgp_entry bases started)

theorem settled_rounds (left : Nat) (done : List (Nat × Nat))
    (bases : ∀ r ∈ routers, r.HasBases announcements) :
    Settled fun limit => roundsFrom f limit left done routers := by
  induction left generalizing done routers with
  | zero =>
    refine .const fun e failed phase reported => ?_
    cases failed
    cases reported
    rfl
  | succ left ih =>
    refine (settled_round (f := f) bases).bind fun limit ended once => ?_
    obtain ⟨moved, steps⟩ := ended
    dsimp only
    split
    · exact ih _ (round_bases bases once)
    · exact .of_phase fun e never => by cases never

end Limits

end Schedule

namespace Network

open Schedule

/-- Where the rounds of a run start, whatever the limits. -/
inductive RoundStart (n : Network) : List Router → Prop where
  | first {limit steps : Nat} {routers : List Router}
      (done : independent n.fabric limit n.announcements = .ok (routers, steps)) :
      RoundStart n routers
  | next {limit steps : Nat} {routers more : List Router} (earlier : RoundStart n routers)
      (done : round n.fabric limit routers = .ok (more, steps)) : RoundStart n more

theorem RoundStart.bases {n : Network} {routers : List Router} (start : n.RoundStart routers) :
    ∀ r ∈ routers, r.HasBases n.announcements := by
  induction start with
  | first done => exact independent_bases done
  | next _ done ih => exact round_bases ih done

def withInnerLimit (n : Network) (limit : Nat) : Network :=
  { n with settings := { n.settings with maxInner := limit } }

theorem settled_compute (n : Network) : Settled fun limit => (n.withInnerLimit limit).compute := by
  refine (settled_independent n.fabric n.announcements).bind fun limit first done => ?_
  obtain ⟨routers, steps⟩ := first
  refine Settled.bind (F := fun limit => roundsFrom n.fabric limit n.settings.maxOuter [] routers)
    (settled_rounds n.settings.maxOuter [] (independent_bases done)) fun _ a _ => ?_
  exact ⟨fun _ _ ended _ _ => ended, 0, fun _ _ _ never => by cases never⟩

/-- The OSPF loop before all rounds, and in every round that is ever reached the loop of external OSPF
routes and the BGP loop, come to a step that changes nothing, unless a policy fails. So from some limit
on the computation reports none of the three. -/
theorem inner_loops_converge (n : Network) :
    (∀ routers, n.fabric.freshRouters.mapM (prepare n.announcements) = .ok routers →
      Converges .ospfInternal (ospfInternalStep n.fabric) routers) ∧
    (∀ start, n.RoundStart start → ∀ limit entry, beforeOspf limit start = .ok entry →
      Converges .ospfExternal (ospfExternalStep n.fabric) entry) ∧
    (∀ start, n.RoundStart start → ∀ limit before entry,
      beforeBgp n.fabric limit start = .ok before → before.mapM Router.originateBgp = .ok entry →
      Converges .bgp (bgpStep n.fabric) entry) ∧
    ∃ cap, ∀ limit ≥ cap, ∀ phase ∈ [Phase.ospfInternal, .ospfExternal, .bgp], ∀ iterations,
      (n.withInnerLimit limit).compute ≠ .error (.noConvergence phase iterations) := by
  refine ⟨fun routers => ospfInternal_converges, ?_, ?_, ?_⟩
  · intro start reached limit entry done
    exact ospfExternal_converges (beforeOspf_entry reached.bases done)
  · intro start reached limit before entry first done
    exact bgp_converges (originated_entry (beforeBgp_entry reached.bases first) done)
  · obtain ⟨cap, fine⟩ := n.settled_compute.fine
    refine ⟨cap, fun limit le phase inner iterations failed => ?_⟩
    have outer := fine limit le _ failed phase rfl
    obtain rfl | rfl | rfl : phase = .ospfInternal ∨ phase = .ospfExternal ∨ phase = .bgp := by
      simpa using inner
    all_goals cases outer

end Network

end RoutePlane
