import RoutePlane.Proofs.Network.Counterparts
import RoutePlane.Proofs.Network.Likeness
import RoutePlane.Proofs.Network.TypedRuns

/-! A computation on rearranged devices. Routers with rearranged configurations make the same moves, so all
loops take the same steps, and the tables at their ends are the same. In which order devices,
announcements, static and generated routes and neighbors are listed makes no difference. -/
namespace RoutePlane

open Fallible

-- Tables are compared by what is merged into them, never by their entries.
attribute [local irreducible] Rib.mergeAll Router.installAll Router.bestRoutes

/-- A router without what it has been told: its name and its VRF, and all its tables. -/
def Router.results (r : Router) : Router := { r with configuration := { hostname := r.hostname } }

namespace Network

open Schedule

variable {n n' : Network} (same : n.Rearranges n') {routers moved : List Router} {flag : Bool}
  {limit steps : Nat}

def recast (n : Network) (routers : List Router) : List Router :=
  routers.map (Router.rearrange n.counterpart)

theorem map_recast (move : Router → Router)
    (moves : ∀ r, move (r.rearrange n.counterpart) = (move r).rearrange n.counterpart) :
    (n.recast routers).map move = n.recast (routers.map move) := by
  rw [recast, recast, List.map_map, List.map_map]
  exact List.map_congr_left fun r _ => moves r

namespace Rearranges

section Steps

variable (reached : n.Reaches routers)
include reached

theorem repeatUntilStable_recast {phase : Phase}
    {step step' : List Router → Except NetworkError (List Router × Bool)}
    (reaches : ∀ routers moved flag, n.Reaches routers → step routers = .ok (moved, flag) →
      n.Reaches moved)
    (simulates : ∀ routers moved flag, n.Reaches routers → step routers = .ok (moved, flag) →
      step' (n'.recast routers) = .ok (n'.recast moved, flag))
    (ended : repeatUntilStable phase limit step routers = .ok (moved, steps)) :
    n.Reaches moved ∧
      repeatUntilStable phase limit step' (n'.recast routers) = .ok (n'.recast moved, steps) := by
  have related (s s' t : List Router) (flag : Bool) (alike : n.Reaches s ∧ s' = n'.recast s)
      (moved : step s = .ok (t, flag)) :
      ∃ t', step' s' = .ok (t', flag) ∧ n.Reaches t ∧ t' = n'.recast t := by
    obtain ⟨reached, rfl⟩ := alike
    exact ⟨n'.recast t, simulates s t flag reached moved, reaches s t flag reached moved, rfl⟩
  obtain ⟨moved', ended', reached', rfl⟩ :=
    repeatUntilStable_simulates related ⟨reached, rfl⟩ ended
  exact ⟨reached', ended'⟩

include same

theorem staticStep (done : staticStep routers = .ok (moved, flag)) :
    Schedule.staticStep (n'.recast routers) = .ok (n'.recast moved, flag) := by
  refine everyRouter_simulates (fun r member m outcome => ?_) done
  cases outcome
  exact congrArg Except.ok
    (Router.activateStatic_rearrange same.like_counterpart (reached.typed r member))

theorem generatedStep (done : generatedStep routers = .ok (moved, flag)) :
    Schedule.generatedStep (n'.recast routers) = .ok (n'.recast moved, flag) := by
  refine everyRouter_simulates (fun r member m outcome => ?_) done
  obtain ⟨flag, activated, rfl⟩ := map_eq_ok.1 outcome
  dsimp only
  rw [Router.activateGenerated_rearrange same.like_counterpart (reached.typed r member) activated]
  rfl

omit reached in
theorem ospfInternalStep (done : ospfInternalStep n.fabric routers = .ok (moved, flag)) :
    Schedule.ospfInternalStep n'.fabric (n'.recast routers) = .ok (n'.recast moved, flag) := by
  refine exchange_simulates (fun r _ g outcome => ?_) (fun _ => rfl) done
  cases outcome
  exact congrArg Except.ok (Router.gatherOspfInternal_rearrange same.like_counterpart same.links r)

omit reached in
theorem ospfExternalStep (done : ospfExternalStep n.fabric routers = .ok (moved, flag)) :
    Schedule.ospfExternalStep n'.fabric (n'.recast routers) = .ok (n'.recast moved, flag) := by
  refine exchange_simulates (fun r _ g outcome => ?_) (fun _ => rfl) done
  cases outcome
  exact congrArg Except.ok (Router.gatherOspfExternal_rearrange same.like_counterpart same.links r)

theorem bgpStep (done : bgpStep n.fabric routers = .ok (moved, flag)) :
    Schedule.bgpStep n'.fabric (n'.recast routers) = .ok (n'.recast moved, flag) := by
  refine exchange_simulates (fun r member g outcome => ?_) (fun _ => rfl) done
  exact Router.gatherBgp_rearrange same.like_counterpart same.mem_incoming_iff
    (reached.typed r member) outcome

theorem beforeOspf (done : beforeOspf limit routers = .ok moved) :
    Schedule.beforeOspf limit (n'.recast routers) = .ok (n'.recast moved) := by
  obtain ⟨statics, generated, _, _, first, second, third⟩ := beforeOspf_ok.1 done
  have started := reached.map fun r => .startRound r
  obtain ⟨afterStatic, first'⟩ := repeatUntilStable_recast started (fun _ _ _ => Reaches.staticStep)
    (fun _ _ _ => same.staticStep) first
  obtain ⟨-, second'⟩ := repeatUntilStable_recast afterStatic (fun _ _ _ => Reaches.generatedStep)
    (fun _ _ _ => same.generatedStep) second
  have exported : (n'.recast generated).mapM Router.initOspfExports = .ok (n'.recast moved) :=
    mapM_simulates
      (fun _ _ _ exported => Router.initOspfExports_rearrange same.like_counterpart exported) third
  rw [← map_recast Router.startRound fun _ => rfl] at first'
  exact beforeOspf_ok.2 ⟨_, _, _, _, first', second', exported⟩

theorem beforeBgp (done : beforeBgp n.fabric limit routers = .ok moved) :
    Schedule.beforeBgp n'.fabric limit (n'.recast routers) = .ok (n'.recast moved) := by
  obtain ⟨exported, converged, _, first, second, rfl⟩ := beforeBgp_ok.1 done
  obtain ⟨-, second'⟩ := repeatUntilStable_recast (reached.beforeOspf first)
    (fun _ _ _ => Reaches.ospfExternalStep) (fun _ _ _ _ => same.ospfExternalStep) second
  exact beforeBgp_ok.2 ⟨_, _, _, same.beforeOspf reached first, second',
    (map_recast Router.importOspfExternal fun _ => rfl).symm⟩

theorem round (done : round n.fabric limit routers = .ok (moved, steps)) :
    Schedule.round n'.fabric limit (n'.recast routers) = .ok (n'.recast moved, steps) := by
  obtain ⟨before, first, rest⟩ := bind_eq_ok.1 done
  obtain ⟨originated, second, third⟩ := bind_eq_ok.1 rest
  have entered := (reached.beforeBgp first).mapM (fun _ _ => .originateBgp) second
  obtain ⟨-, third'⟩ := repeatUntilStable_recast entered (fun _ _ _ => Reaches.bgpStep)
    (fun _ _ _ => same.bgpStep) third
  have originates : (n'.recast before).mapM Router.originateBgp = .ok (n'.recast originated) :=
    mapM_simulates
      (fun _ _ _ originated => Router.originateBgp_rearrange same.like_counterpart originated) second
  exact bind_eq_ok.2 ⟨_, same.beforeBgp reached first, bind_eq_ok.2 ⟨_, originates, third'⟩⟩

theorem roundsFrom {left : Nat} {done rounds : List (Nat × Nat)}
    (ended : roundsFrom n.fabric limit left done routers = .ok (moved, rounds)) :
    Schedule.roundsFrom n'.fabric limit left done (n'.recast routers) =
      .ok (n'.recast moved, rounds) := by
  induction left generalizing done routers with
  | zero => cases ended
  | succ left ih =>
    obtain ⟨⟨next, steps⟩, once, rest⟩ := bind_eq_ok.1 ended
    refine bind_eq_ok.2 ⟨_, same.round reached once, ?_⟩
    have moves : (n'.recast next).any Router.hasMoved = next.any Router.hasMoved := by
      rw [recast, List.any_map]
      rfl
    dsimp only at rest ⊢
    rw [moves]
    split at rest
    next more =>
      rw [if_pos more]
      exact ih (reached.round once) rest
    next still =>
      rw [if_neg still]
      cases rest
      rfl

end Steps

include same

theorem independent (done : independent n.fabric limit n.announcements = .ok (routers, steps)) :
    Schedule.independent n'.fabric limit n'.announcements = .ok (n'.recast routers, steps) := by
  obtain ⟨prepared, converged, first, second, rfl⟩ := independent_ok.1 done
  have start : n.Reaches n.fabric.freshRouters := ⟨[], .start⟩
  obtain ⟨-, second'⟩ := repeatUntilStable_recast (start.mapM (fun _ _ => .prepare) first)
    (fun _ _ _ => Reaches.ospfInternalStep) (fun _ _ _ _ => same.ospfInternalStep) second
  have prepares : n'.fabric.freshRouters.mapM (prepare n'.announcements) =
      .ok (n'.recast prepared) := by
    rw [same.freshRouters]
    exact mapM_simulates (fun r member _ prepared => Router.prepare_rearrange same.like_counterpart
      (start.typed r member) same.announcements prepared) first
  exact independent_ok.2 ⟨_, _, prepares, second', (map_recast Router.importOspfInternal fun _ => rfl).symm⟩

theorem map_results (routers : List Router) :
    (n'.recast routers).map Router.results = routers.map Router.results := by
  rw [recast, List.map_map]
  refine List.map_congr_left fun r _ => ?_
  show (r.rearrange n'.counterpart).results = r.results
  rw [Router.results, Router.results, Router.hostname_rearrange same.like_counterpart]
  rfl

/-- A computation takes the same steps, with the same tables at their end. -/
theorem compute {d : DataPlane} (done : n.compute = .ok d) : ∃ d', n'.compute = .ok d' ∧
    d'.statistics = d.statistics ∧ d'.routers.map Router.results = d.routers.map Router.results := by
  obtain ⟨⟨routers, _⟩, first, rest⟩ := bind_eq_ok.1 done
  obtain ⟨⟨final, rounds⟩, second, last⟩ := bind_eq_ok.1 rest
  cases last
  have first' := same.independent first
  have second' := same.roundsFrom (reaches_independent first) second
  rw [← same.settings] at first' second'
  have tables : (n'.recast final).map (Router.compileForwarding n'.fabric.owners) =
      n'.recast (final.map (Router.compileForwarding n.fabric.owners)) := by
    rw [same.owners]
    exact map_recast _ fun _ => rfl
  have sizes (routers : List Router) : (n'.recast routers).foldl (· + ·.main.size) 0 =
      routers.foldl (· + ·.main.size) 0 := by
    rw [recast, List.foldl_map]
    rfl
  refine ⟨_, bind_eq_ok.2 ⟨_, first', bind_eq_ok.2 ⟨_, second', rfl⟩⟩, ?_, ?_⟩
  · dsimp only
    rw [tables, sizes]
  · dsimp only
    rw [tables, same.map_results]

end Rearranges

def ofLists (configurations : List Configuration) (announcements : List Announcement)
    (settings : ComputeSettings) : Network :=
  { ofConfigurations configurations with announcements := announcements, settings := settings }

section Lists

variable {l l' : List Configuration} {a a' : List Announcement}

theorem hostnames_eq (l : List Configuration) :
    l.map (·.hostname) = (l.map Configuration.contents).map (·.device.hostname) := by
  rw [List.map_map]
  rfl

theorem mem_contents_ofConfigurations_iff (named : (l.map (·.hostname)).Nodup)
    {b : String × Configuration.Contents} :
    b ∈ (ofConfigurations l).configurations.toList.map (fun b => (b.1, b.2.contents)) ↔
      b.2 ∈ l.map Configuration.contents ∧ b.2.device.hostname = b.1 := by
  rw [List.mem_map]
  constructor
  · rintro ⟨⟨name, c⟩, bound, rfl⟩
    obtain ⟨member, own⟩ := (mem_ofConfigurations_iff named).1 bound
    exact ⟨List.mem_map_of_mem member, own⟩
  · rintro ⟨member, own⟩
    obtain ⟨c, member, contents⟩ := List.mem_map.1 member
    have name : c.hostname = b.1 := by
      rw [← own, ← contents]
      rfl
    exact ⟨(b.1, c), (mem_ofConfigurations_iff named).2 ⟨member, name⟩, Prod.ext rfl contents⟩

/-- Lists of the same devices and announcements make rearranged networks. -/
theorem rearranges_of_perm (settings : ComputeSettings) (named : (l.map (·.hostname)).Nodup)
    (peers : ∀ c ∈ l, c.HasDistinctPeers)
    (same : (l.map Configuration.contents).Perm (l'.map Configuration.contents))
    (announced : a.Perm a') : (ofLists l a settings).Rearranges (ofLists l' a' settings) where
  distinct := by
    intro c listed
    obtain ⟨⟨name, c⟩, bound, rfl⟩ := List.mem_map.1 listed
    exact peers c ((mem_ofConfigurations_iff named).1 bound).1
  contents := by
    have named' : (l'.map (·.hostname)).Nodup := by
      rw [hostnames_eq] at named ⊢
      exact (same.map _).nodup_iff.1 named
    refine eq_of_increasing Prod.fst (List.pairwise_map.2 (SortedMap.increasing _))
      (List.pairwise_map.2 (SortedMap.increasing _)) fun b => ?_
    exact (mem_contents_ofConfigurations_iff named').trans
      ((and_congr_left fun _ => same.mem_iff.symm).trans
        (mem_contents_ofConfigurations_iff named).symm)
  announcements := announced
  settings := rfl

/-- In which order devices, announcements, the static and generated routes of a VRF and the neighbors of
a process are listed decides neither whether a computation succeeds, nor how many steps it takes, nor what
any table holds at its end. -/
theorem computed_in_any_order (settings : ComputeSettings) (named : (l.map (·.hostname)).Nodup)
    (peers : ∀ c ∈ l, c.HasDistinctPeers)
    (same : (l.map Configuration.contents).Perm (l'.map Configuration.contents))
    (announced : a.Perm a') :
    ((∃ d, (ofLists l a settings).compute = .ok d) ↔
        ∃ d', (ofLists l' a' settings).compute = .ok d') ∧
      ∀ d d', (ofLists l a settings).compute = .ok d → (ofLists l' a' settings).compute = .ok d' →
        d'.statistics = d.statistics ∧
          d'.routers.map Router.results = d.routers.map Router.results := by
  have rearranged := rearranges_of_perm settings named peers same announced
  refine ⟨⟨?_, ?_⟩, fun d d' done done' => ?_⟩
  · rintro ⟨d, done⟩
    obtain ⟨d', done', -⟩ := rearranged.compute done
    exact ⟨d', done'⟩
  · rintro ⟨d', done'⟩
    obtain ⟨d, done, -⟩ := rearranged.symm.compute done'
    exact ⟨d, done⟩
  · obtain ⟨d'', done'', agree⟩ := rearranged.compute done
    cases done'.symm.trans done''
    exact agree

end Lists

/-- A device with a neighbor outside, and with a static route that depends on another one. -/
def edge (order : (α : Type) → List α → List α) : Configuration where
  hostname := "edge"
  interfaces := .ofList [
    ("eth0", .ofAddress (.ofOctets 10 0 0 1 30)), ("eth1", .ofAddress (.ofOctets 192 0 2 1 30))]
  vrfs := ⟨[(defaultVrf, {
    staticRoutes := order _ [
      { network := (InterfaceAddress.ofOctets 30 0 0 0 8).network
        nextHop := .address (.ofOctets 20 0 0 1) },
      { network := (InterfaceAddress.ofOctets 20 0 0 0 8).network
        nextHop := .address (.ofOctets 10 0 0 2) }]
    bgp := some {
      routerId := .ofOctets 1 1 1 1
      localAs := 65001
      neighbors := order _ [
        { peer := .ofOctets 10 0 0 2, remoteAs := 65002 },
        { peer := .ofOctets 192 0 2 2, remoteAs := 65100 }] } })], List.pairwise_singleton _ _⟩

theorem edge_contents (order : (α : Type) → List α → List α)
    (permutes : ∀ (α : Type) (l : List α), (order α l).Perm l) :
    (edge order).contents = (edge fun _ l => l).contents := by
  have lists {α : Type} (l : List α) : (order α l : Multiset α) = l :=
    Multiset.coe_eq_coe.2 (permutes α l)
  simp only [edge, Configuration.contents, Vrf.contents, BgpProcess.contents, List.map_cons,
    List.map_nil, Option.map_some, lists]

def edgeDevices (order : (α : Type) → List α → List α) : List Configuration :=
  let core := speaker "core" (.ofOctets 2 2 2 2) 65002 .empty
    [{ peer := .ofOctets 10 0 0 1, remoteAs := 65001 }]
  order _ [edge order, core.withInterface "eth0" (.ofAddress (.ofOctets 10 0 0 2 30))]

/-- Two ways to a network outside, one of them longer. -/
def edgeAnnouncements (order : (α : Type) → List α → List α) : List Announcement :=
  let announcement (path : List AsNumber) : Announcement := {
    node := "edge"
    peer := .ofOctets 192 0 2 2
    network := (InterfaceAddress.ofOctets 40 0 0 0 8).network
    asPath := path }
  order _ [announcement [65100, 65200], announcement [65100]]

/-- With all lists the other way round the devices get the same tables. -/
theorem reversed_edge_agrees : ∃ d d',
    (ofLists (edgeDevices fun _ l => l) (edgeAnnouncements fun _ l => l) {}).compute = .ok d ∧
    (ofLists (edgeDevices fun _ => List.reverse) (edgeAnnouncements fun _ => List.reverse) {}).compute =
      .ok d' ∧
    d.statistics.totalRoutes = 7 ∧ d'.statistics = d.statistics ∧
    d'.routers.map Router.results = d.routers.map Router.results := by
  have contents : ((edgeDevices fun _ l => l).map Configuration.contents).Perm
      ((edgeDevices fun _ => List.reverse).map Configuration.contents) := by
    have edges := edge_contents (fun _ => List.reverse) fun _ => List.reverse_perm
    rw [edgeDevices, edgeDevices, List.map_reverse]
    simp only [List.map_cons, edges]
    exact (List.reverse_perm _).symm
  obtain ⟨⟨computed, -⟩, agree⟩ := computed_in_any_order {} (by decide +kernel) (by decide +kernel)
    contents (List.reverse_perm _).symm
  obtain ⟨d, done, total⟩ := of_any
    (x := (ofLists (edgeDevices fun _ l => l) (edgeAnnouncements fun _ l => l) {}).compute)
    (p := fun d => d.statistics.totalRoutes == 7) (by decide +kernel)
  obtain ⟨d', done'⟩ := computed ⟨d, done⟩
  exact ⟨d, d', done, done', beq_iff_eq.1 total, agree d d' done done'⟩

end Network

end RoutePlane
