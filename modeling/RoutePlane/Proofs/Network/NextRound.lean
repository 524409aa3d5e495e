import RoutePlane.Proofs.Network.BgpHistory

/-! One round more than a computation does. Up to the BGP phase it repeats the last round, because what
it sees of the tables of the round before has not moved. The BGP phase sees in addition the BGP table of
the round before, which nothing has compared: so aggregates can come and go. -/
namespace RoutePlane

open Fallible

namespace Router

variable {r m : Router} {process : BgpProcess} {network : Prefix} {p : Previous}

def bgpPhaseTables (r : Router) : List (Prefix × RouteSet) × List (Prefix × RouteSet) :=
  (r.main.bindings, r.bgp.combined.bindings)

def dependentTables (r : Router) :=
  ((r.ospf.e1.bindings, r.ospf.e2.bindings), r.bgpPhaseTables)

/-- The BGP table supports an aggregate, and holds no route for it. -/
def lacksAggregate (r : Router) : Bool :=
  r.bgpProcess?.any fun process => process.aggregates.toList.any fun network =>
    (r.bgp.combined.moreSpecific network).any (·.protocol != .aggregate) &&
      (r.bgp.combined.held network).isEmpty

theorem exists_of_lacksAggregate (lacks : r.lacksAggregate = true) :
    ∃ process network, r.bgpProcess? = some process ∧ network ∈ process.aggregates.toList ∧
      (r.bgp.combined.moreSpecific network).any (·.protocol != .aggregate) = true ∧
      r.bgp.combined.held network = .empty := by
  obtain ⟨process, own, lacks⟩ := (Option.any_eq_true _ _).1 lacks
  obtain ⟨network, listed, lacks⟩ := List.any_eq_true.1 lacks
  obtain ⟨supported, nothing⟩ := Bool.and_eq_true_iff.1 lacks
  exact ⟨process, network, own, listed, supported, SortedSet.isEmpty_iff.1 nothing⟩

/-- An aggregate that the BGP table of the round before supports is brought into BGP. -/
theorem originates_aggregate (own : r.bgpProcess? = some process)
    (listed : network ∈ process.aggregates.toList)
    (supported : (r.previous.bgp.moreSpecific network).any (·.protocol != .aggregate) = true)
    (done : r.originateBgp = .ok m) : ∃ x, r.Originates x ∧ x.network = network := by
  rw [originateBgp, own] at done
  obtain ⟨routes, originated, -⟩ := bind_eq_ok.1 done
  obtain ⟨networks, -, rest⟩ := bind_eq_ok.1 originated
  obtain ⟨redistributed, -, rest⟩ := bind_eq_ok.1 rest
  obtain ⟨aggregates, built, same⟩ := bind_eq_ok.1 rest
  have draft : (originatedDraft process network .generated .igp 0 .discard).setProtocol .aggregate ∈
      r.aggregateDrafts process := by
    refine List.mem_filterMap.2 ⟨network, listed, if_pos ?_⟩
    rw [List.any_append, List.any_append, supported]
    rfl
  have drafts := List.Forall₂.flip (mapM_eq_ok.1 built)
  obtain ⟨x, member, outcome⟩ := source_of_mem drafts draft
  obtain ⟨place, -⟩ := RouteDraft.build_eq_ok (liftRoute_eq_ok.1 outcome)
  refine ⟨x, ⟨process, routes, own, originated, ?_⟩, (Option.some.inj place).symm⟩
  rw [← pure_eq_ok.1 same]
  exact List.mem_append_right _ member

end Router

namespace Schedule

variable {f : Fabric} {limit steps : Nat} {routers routers' entry moved : List Router}

theorem staticStep_alike {flag : Bool} (same : routers.map Router.look = routers'.map Router.look)
    (done : staticStep routers = .ok (moved, flag)) :
    ∃ moved', staticStep routers' = .ok (moved', flag) ∧
      moved.map Router.look = moved'.map Router.look := by
  refine everyRouter_alike (fun r r' m same moved => ?_) same done
  cases moved
  exact ⟨_, rfl, Router.activateStatic_look same⟩

theorem generatedStep_alike {flag : Bool} (same : routers.map Router.look = routers'.map Router.look)
    (done : generatedStep routers = .ok (moved, flag)) :
    ∃ moved', generatedStep routers' = .ok (moved', flag) ∧
      moved.map Router.look = moved'.map Router.look := by
  refine everyRouter_alike (fun r r' m same moved => ?_) same done
  obtain ⟨changed, outcome, rfl⟩ := map_eq_ok.1 moved
  obtain ⟨looks, outcomes⟩ := Router.activateGenerated_look same
  exact ⟨(r'.activateGenerated.1, changed), map_eq_ok.2 ⟨changed, outcomes ▸ outcome, rfl⟩, looks, rfl⟩

theorem ospfExternalStep_alike {flag : Bool}
    (same : routers.map Router.look = routers'.map Router.look)
    (done : ospfExternalStep f routers = .ok (moved, flag)) :
    ∃ moved', ospfExternalStep f routers' = .ok (moved', flag) ∧
      moved.map Router.look = moved'.map Router.look := by
  refine exchange_alike (fun all r r' m same gathered => ?_)
    (fun r r' same => Router.commitOspfExternal_look same) same done
  cases gathered
  exact ⟨_, rfl, Router.gatherOspfExternal_look all same⟩

/-- What comes before BGP sees only the main table of the round before. -/
theorem beforeBgp_alike (same : (routers.map Router.startRound).map Router.look =
      (routers'.map Router.startRound).map Router.look)
    (done : beforeBgp f limit routers = .ok entry) :
    ∃ entry', beforeBgp f limit routers' = .ok entry' ∧
      entry.map Router.look = entry'.map Router.look := by
  obtain ⟨exported, converged, _, before, fourth, rfl⟩ := beforeBgp_ok.1 done
  obtain ⟨statics, generated, _, _, first, second, third⟩ := beforeOspf_ok.1 before
  obtain ⟨statics', first', same⟩ := repeatUntilStable_alike staticStep_alike same first
  obtain ⟨generated', second', same⟩ := repeatUntilStable_alike generatedStep_alike same second
  obtain ⟨exported', third', same⟩ :=
    mapM_alike (fun r r' m same done => Router.initOspfExports_look same done) same third
  obtain ⟨converged', fourth', same⟩ := repeatUntilStable_alike ospfExternalStep_alike same fourth
  have before' : beforeOspf limit routers' = .ok exported' :=
    beforeOspf_ok.2 ⟨_, _, _, _, first', second', third'⟩
  refine ⟨converged'.map Router.importOspfExternal,
    beforeBgp_ok.2 ⟨_, _, _, before', fourth', rfl⟩, ?_⟩
  rw [List.map_map, List.map_map, map_eq_iff_forall₂]
  exact (map_eq_iff_forall₂.1 same).imp fun r r' same => Router.importOspfExternal_look same

/-- The BGP phase sees of the round before only which aggregates its BGP table supports. -/
theorem bgpPhase_alike (same : routers.map Router.bgpLook = routers'.map Router.bgpLook)
    (done : bgpPhase f limit routers = .ok (moved, steps)) :
    ∃ moved', bgpPhase f limit routers' = .ok (moved', steps) ∧
      moved.map Router.forget = moved'.map Router.forget := by
  obtain ⟨originated, first, second⟩ := bind_eq_ok.1 done
  obtain ⟨originated', first', same⟩ :=
    mapM_alike (fun r r' m same done => Router.originateBgp_look same done) same first
  have step {routers routers' moved : List Router} {flag : Bool}
      (same : routers.map Router.forget = routers'.map Router.forget)
      (done : bgpStep f routers = .ok (moved, flag)) :
      ∃ moved', bgpStep f routers' = .ok (moved', flag) ∧
        moved.map Router.forget = moved'.map Router.forget :=
    exchange_alike (fun all r r' m same gathered => Router.gatherBgp_look all same gathered)
      (fun r r' same => Router.commitStagedBgp_look same) same done
  obtain ⟨moved', second', same⟩ := repeatUntilStable_alike step same second
  exact ⟨moved', bind_eq_ok.2 ⟨_, first', second'⟩, same⟩

/-- What a round has put together before BGP, with later tables for the ones of the round before. -/
def withTables (entry final : List Router) : List Router :=
  entry.zipWith (fun e r => e.setPrevious r.tables) final

theorem eq_withTables {entry entry' final : List Router}
    (same : entry.map Router.forget = entry'.map Router.forget)
    (tables : entry'.map Router.previous = final.map Router.tables) :
    entry' = withTables entry final := by
  induction entry' generalizing entry final with
  | nil =>
    obtain rfl : entry = [] := by simpa using same
    rfl
  | cons e' entry' ih =>
    cases entry with
    | nil => simp at same
    | cons e entry =>
      cases final with
      | nil => simp at tables
      | cons r final =>
        rw [List.map_cons, List.map_cons, List.cons.injEq] at same tables
        obtain ⟨p, rfl⟩ := Router.forget_eq_iff.1 same.1
        have first : e.setPrevious p = e.setPrevious r.tables := congrArg e.setPrevious tables.1
        rw [first, ih same.2 tables.2]
        rfl

/-- With every sufficient limit the computation ends, and the routers look as these do. -/
def Leaves {κ : Type} (look : Router → κ) (routers : List Router)
    (F : Nat → Except NetworkError (List Router × Nat)) : Prop :=
  ∃ enough, ∀ limit ≥ enough, ∃ again steps, F limit = .ok (again, steps) ∧
    again.map look = routers.map look

end Schedule

namespace Network

open Schedule

variable {n : Network} {d : DataPlane} {limit : Nat}

namespace LastRound

variable (last : n.LastRound d)

/-- The next round starts as the last one did. -/
theorem start_alike : (last.before.map Router.startRound).map Router.look =
    (last.final.map Router.startRound).map Router.look := by
  rw [← last.map_fixed, List.map_map, List.map_map]
  refine List.map_congr_left fun r member => ?_
  have still := last.still r member
  rw [Router.hasMoved, Bool.not_eq_false', Bool.and_eq_true, Bool.and_eq_true] at still
  have main : r.main.bindings = r.previous.main.bindings := beq_iff_eq.1 still.1.1
  exact Prod.ext rfl main.symm

/-- Up to the BGP phase the next round repeats the last one. -/
theorem next_entry_alike :
    beforeBgp n.fabric n.settings.maxInner last.final = .ok (withTables last.entry last.final) ∧
      last.entry.map Router.forget = (withTables last.entry last.final).map Router.forget := by
  obtain ⟨entry', entered, same⟩ := beforeBgp_alike last.start_alike last.entered
  have forgotten : last.entry.map Router.forget = entry'.map Router.forget := by
    have first := congrArg (List.map Prod.fst) same
    rwa [List.map_map, List.map_map] at first
  have tables : entry'.map Router.previous = last.final.map Router.tables := by
    have kept := congrArg (List.map fun k => k.1.previous) (beforeBgp_map entered)
    rwa [List.map_map, List.map_map, List.map_map] at kept
  rw [← eq_withTables forgotten tables]
  exact ⟨entered, forgotten⟩

theorem next_round (le : n.settings.maxInner ≤ limit) : round n.fabric limit last.final =
    bgpPhase n.fabric limit (withTables last.entry last.final) := by
  have entered := (settled_beforeBgp last.final_reached.bases).mono _ _ last.next_entry_alike.1 _ le
  rw [Schedule.round, entered]
  rfl

/-- The external OSPF tables are left alone by any BGP phase of the next round. -/
theorem map_ospf {again : List Router} {steps : Nat}
    (ended : bgpPhase n.fabric limit (withTables last.entry last.final) = .ok (again, steps)) :
    again.map Router.ospf = last.final.map Router.ospf := by
  obtain ⟨run, rfl, -⟩ := BgpRun.of_phase ended
  have later := congrArg (List.map Prod.snd) (run.map_outsideBgp le_rfl)
  have here := congrArg (List.map Prod.snd) (last.bgp.map_outsideBgp le_rfl)
  have between := congrArg (List.map Router.ospf) last.next_entry_alike.2
  rw [List.map_map, List.map_map] at later here between
  exact later.trans (between.symm.trans here.symm)

/-- The next round reproduces the tables if its BGP phase does. -/
theorem leaves_iff : Leaves Router.dependentTables last.final (round n.fabric · last.final) ↔
    Leaves Router.bgpPhaseTables last.final
      (bgpPhase n.fabric · (withTables last.entry last.final)) := by
  have same {limit : Nat} {again : List Router} {steps : Nat}
      (ended : bgpPhase n.fabric limit (withTables last.entry last.final) = .ok (again, steps)) :
      again.map Router.dependentTables = last.final.map Router.dependentTables ↔
        again.map Router.bgpPhaseTables = last.final.map Router.bgpPhaseTables := by
    have ospf := congrArg (List.map fun t => (t.e1.bindings, t.e2.bindings)) (last.map_ospf ended)
    rw [List.map_map, List.map_map] at ospf
    exact map_pair_eq_iff.trans (and_iff_right ospf)
  constructor
  · rintro ⟨enough, ends⟩
    refine ⟨max enough n.settings.maxInner, fun limit le => ?_⟩
    obtain ⟨again, steps, ended, tables⟩ := ends limit (le_of_max_le_left le)
    have phase := (last.next_round (le_of_max_le_right le)).symm.trans ended
    exact ⟨again, steps, phase, (same phase).1 tables⟩
  · rintro ⟨enough, ends⟩
    refine ⟨max enough n.settings.maxInner, fun limit le => ?_⟩
    obtain ⟨again, steps, ended, tables⟩ := ends limit (le_of_max_le_left le)
    have next := (last.next_round (le_of_max_le_right le)).trans ended
    exact ⟨again, steps, next, (same ended).2 tables⟩

/-- With the same aggregates the BGP phase goes the same way. -/
theorem leaves_of_aggregates (same : last.entry.map Router.aggregateDrafts =
    (withTables last.entry last.final).map Router.aggregateDrafts) :
    Leaves Router.dependentTables last.final (round n.fabric · last.final) := by
  refine ⟨n.settings.maxInner, fun limit le => ?_⟩
  have ended := last.bgp.phase (Nat.lt_of_lt_of_le last.within le)
  obtain ⟨again, ended', forgotten⟩ :=
    bgpPhase_alike (map_pair_eq_iff.2 ⟨last.next_entry_alike.2, same⟩) ended
  rw [← last.next_round le] at ended'
  have tables := congrArg (List.map Router.dependentTables) forgotten
  rw [List.map_map, List.map_map] at tables
  exact ⟨again, _, ended', tables.symm⟩

/-- An aggregate that is supported at last, but not held, comes with the next round. -/
theorem not_leaves_of_lacksAggregate (lacks : d.routers.any Router.lacksAggregate = true) :
    ¬Leaves Router.dependentTables last.final (round n.fabric · last.final) := by
  rw [last.leaves_iff]
  rintro ⟨enough, ends⟩
  obtain ⟨again, steps, ended, tables⟩ := ends enough le_rfl
  obtain ⟨run, rfl, -⟩ := BgpRun.of_phase ended
  obtain ⟨entered, -⟩ := last.next_entry_alike
  have weighed := run.weighed (beforeBgp_entry last.final_reached.bases entered)
    (beforeBgp_fresh entered) le_rfl
  have starts := beforeBgp_map entered
  rw [List.map_map, map_eq_iff_forall₂] at starts
  rw [last.result, List.any_map] at lacks
  obtain ⟨r, member, lacks⟩ := List.any_eq_true.1 lacks
  change r.lacksAggregate = true at lacks
  obtain ⟨e, source, r', start, ⟨-, weighs⟩, alike⟩ :=
    partners_of_mem starts weighed tables member
  obtain ⟨process, network, own, listed, supported, nothing⟩ :=
    Router.exists_of_lacksAggregate lacks
  have fixed : e.fixed = r.startRound := congrArg Prod.fst start
  have own' : e.bgpProcess? = some process := (congrArg Router.bgpProcess? fixed).trans own
  have previous : e.previous = r.tables := congrArg Router.previous fixed
  obtain ⟨m, -, originated⟩ := source_of_mem (List.Forall₂.flip (mapM_eq_ok.1 run.originated)) source
  have table : e.previous.bgp = r.bgp.combined := congrArg Previous.bgp previous
  rw [← table] at supported
  obtain ⟨x, originates, place⟩ := Router.originates_aggregate own' listed supported originated
  obtain ⟨y, held⟩ := weighs.combined.exists_held
    ⟨.inl (.inl (.inr ⟨rfl, originates⟩)), fun ⟨main, _⟩ => (by cases main), place⟩
  have same : r'.bgp.combined.held = r.bgp.combined.held :=
    Rib.bindings_eq_iff.1 (congrArg Prod.snd alike)
  rw [same, nothing] at held
  exact SortedSet.not_mem_empty y held

end LastRound

/-- One round more from the end of a computation leaves the main table, the external OSPF tables and
the BGP table of every router, exactly if its BGP phase does, which differs from the last one only in
that aggregates are judged by the final BGP table. It does if that makes no difference to any router;
it does not if a router lacks an aggregate that its BGP table supports. -/
theorem next_round_reproduces_iff (done : n.compute = .ok d) :
    Nonempty (n.LastRound d) ∧ ∀ last : n.LastRound d,
      (Leaves Router.dependentTables last.final (round n.fabric · last.final) ↔
        Leaves Router.bgpPhaseTables last.final
          (bgpPhase n.fabric · (withTables last.entry last.final))) ∧
      (last.entry.map Router.aggregateDrafts =
          (withTables last.entry last.final).map Router.aggregateDrafts →
        Leaves Router.dependentTables last.final (round n.fabric · last.final)) ∧
      (d.routers.any Router.lacksAggregate = true →
        ¬Leaves Router.dependentTables last.final (round n.fabric · last.final)) :=
  ⟨exists_lastRound done, fun last => ⟨last.leaves_iff, last.leaves_of_aggregates,
    last.not_leaves_of_lacksAggregate⟩⟩

/-- A single router that brings its own address into BGP, and an aggregate around it. -/
def lone : Network :=
  let own := InterfaceAddress.ofOctets 2 2 2 2 32
  let process : BgpProcess := {
    routerId := .ofOctets 2 2 2 2
    localAs := 65001
    networks := .singleton own.network
    aggregates := .singleton (InterfaceAddress.ofOctets 2 0 0 0 8).network }
  let configuration : Configuration :=
    { hostname := "lone", vrfs := .ofList [(defaultVrf, { bgp := some process })] }
  ofConfigurations [configuration.withInterface "lo" (.ofLoopback own)]

theorem lone_lacksAggregate :
    ∃ d, lone.compute = .ok d ∧ d.routers.any Router.lacksAggregate = true := by
  have lacks : lone.compute.toOption.any (·.routers.any Router.lacksAggregate) = true := by
    decide +kernel
  cases done : lone.compute with
  | error e =>
    rw [done] at lacks
    cases lacks
  | ok d =>
    rw [done] at lacks
    exact ⟨d, rfl, lacks⟩

/-- The aggregate of the lone router comes only with a round more. -/
theorem aggregate_comes_late : ¬∀ (n : Network) (d : DataPlane), n.compute = .ok d →
    ∀ last : n.LastRound d,
      Leaves Router.dependentTables last.final (round n.fabric · last.final) := by
  intro reproduces
  obtain ⟨d, done, lacks⟩ := lone_lacksAggregate
  obtain ⟨last⟩ := exists_lastRound done
  exact last.not_leaves_of_lacksAggregate lacks (reproduces lone d done last)

/-- The BGP phase of the lone router is not reproduced. -/
theorem lone_bgpPhase_changes : ∃ d, lone.compute = .ok d ∧ ∃ last : lone.LastRound d,
    ¬Leaves Router.bgpPhaseTables last.final
      (bgpPhase lone.fabric · (withTables last.entry last.final)) := by
  obtain ⟨d, done, lacks⟩ := lone_lacksAggregate
  obtain ⟨⟨last⟩, all⟩ := next_round_reproduces_iff done
  obtain ⟨phase, -, late⟩ := all last
  exact ⟨d, done, last, mt phase.2 (late lacks)⟩

end Network

end RoutePlane
