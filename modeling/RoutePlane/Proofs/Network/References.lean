import RoutePlane.Proofs.Network.History
import RoutePlane.Proofs.Network.Phases
import RoutePlane.Proofs.Network.Support
import RoutePlane.Proofs.Router.References

/-! Computations on a well-referenced network. A router keeps its configuration in every state of a run, so
no operation of the schedule fails in any of them, and a computation that ends without a result has
exhausted the limit of one of its loops. -/
namespace RoutePlane

open Fallible

def Network.IsWellReferenced (n : Network) : Prop :=
  ∀ c ∈ n.configurations.values, c.IsWellReferenced

namespace Router

variable {r : Router} {e : NetworkError}

theorem prepare_total (referenced : r.configuration.IsWellReferenced)
    (announcements : List Announcement) : Schedule.prepare announcements r ≠ .error e := by
  obtain ⟨costs, effect⟩ := r.initConnected.initStatic.initOspfCosts_effect
  rw [Schedule.prepare, effect]
  exact initBgp_total (r := initOspf { r.initConnected.initStatic with
    ospf := { r.initConnected.initStatic.ospf with costs := costs } }) referenced announcements

end Router

namespace Network

open Schedule

variable {n : Network} {routers : List Router}

def limit (n : Network) : Phase → Nat
  | .dependentRoutes => n.settings.maxOuter
  | _ => n.settings.maxInner

/-- All that can go wrong is that a loop has run as often as it may and still changes something. -/
def OnlyRunsOut {α : Type} (n : Network) (x : Except NetworkError α) : Prop :=
  ∀ e, x = .error e → ∃ phase, e = .noConvergence phase (n.limit phase)

namespace OnlyRunsOut

variable {α β : Type} {x : Except NetworkError α}

theorem of_total (total : ∀ e, x ≠ .error e) : n.OnlyRunsOut x :=
  fun e failed => absurd failed (total e)

theorem bind {next : α → Except NetworkError β} (first : n.OnlyRunsOut x)
    (rest : ∀ a, x = .ok a → n.OnlyRunsOut (next a)) : n.OnlyRunsOut (x >>= next) := by
  intro e failed
  rcases bind_eq_error.1 failed with failed | ⟨a, done, failed⟩
  · exact first e failed
  · exact rest a done e failed

theorem mapM {operation : Router → Except NetworkError Router}
    (total : ∀ r ∈ routers, ∀ e, operation r ≠ .error e) :
    n.OnlyRunsOut (routers.mapM operation) :=
  of_total fun e failed => by
    obtain ⟨r, member, failed⟩ := error_of_mapM failed
    exact total r member e failed

theorem repeatUntilStable {σ : Type} {phase : Phase} {limit : Nat}
    {step : σ → Except NetworkError (σ × Bool)} {P : σ → Prop} {s : σ} (limited : n.limit phase = limit)
    (start : P s) (keeps : ∀ s t changed, P s → step s = .ok (t, changed) → P t)
    (total : ∀ t, P t → ∀ e, step t ≠ .error e) :
    n.OnlyRunsOut (repeatUntilStable phase limit step s) := by
  intro e failed
  rcases of_repeatFrom failed with ⟨-, same⟩ | ⟨k, -, moving, ⟨_, -, never⟩ | ⟨e', stepped, -⟩⟩
  · cases same
    exact ⟨phase, by rw [limited, Nat.zero_add]⟩
  · cases never
  · exact absurd stepped (total _ (KeepsMoving.keeps moving keeps start) e')

end OnlyRunsOut

section Phases

variable (referenced : n.IsWellReferenced)
include referenced

theorem Reaches.wellReferenced (reached : n.Reaches routers) :
    ∀ r ∈ routers, r.configuration.IsWellReferenced := by
  obtain ⟨earlier, history⟩ := reached
  exact fun r member => referenced _ ((history.hasDevices _ List.mem_cons_self).listed member)

theorem independent_onlyRunsOut :
    n.OnlyRunsOut (independent n.fabric n.settings.maxInner n.announcements) := by
  have start : n.Reaches n.fabric.freshRouters := ⟨[], .start⟩
  refine OnlyRunsOut.bind (.mapM fun r member e =>
    Router.prepare_total (start.wellReferenced referenced r member) _) fun prepared done => ?_
  refine OnlyRunsOut.bind (.repeatUntilStable (P := n.Reaches) rfl
    (start.mapM (fun _ _ => .prepare) done) (fun _ _ _ => Reaches.ospfInternalStep)
    fun _ _ _ => ospfInternalStep_total _) fun converged _ => ?_
  exact .of_total fun e => pure_ne_error

theorem beforeOspf_onlyRunsOut (reached : n.Reaches routers) :
    n.OnlyRunsOut (beforeOspf n.settings.maxInner routers) := by
  have started := reached.map fun r => .startRound r
  refine OnlyRunsOut.bind (.repeatUntilStable (P := n.Reaches) rfl started
    (fun _ _ _ => Reaches.staticStep) fun _ _ _ => staticStep_total _) fun statics first => ?_
  have afterStatic := repeatUntilStable_keeps (fun _ _ _ => Reaches.staticStep) started first
  refine OnlyRunsOut.bind (.repeatUntilStable (P := n.Reaches) rfl afterStatic
    (fun _ _ _ => Reaches.generatedStep) fun routers reached e failed => ?_) fun generated second => ?_
  · obtain ⟨r, member, failed⟩ := error_of_everyRouter failed
    exact Router.activateGenerated_total (reached.wellReferenced referenced r member)
      (map_eq_error.1 failed)
  have afterGenerated := repeatUntilStable_keeps (fun _ _ _ => Reaches.generatedStep) afterStatic
    second
  exact .mapM fun r member e =>
    Router.initOspfExports_total (afterGenerated.wellReferenced referenced r member)

theorem beforeBgp_onlyRunsOut (reached : n.Reaches routers) :
    n.OnlyRunsOut (beforeBgp n.fabric n.settings.maxInner routers) := by
  refine (beforeOspf_onlyRunsOut referenced reached).bind fun exported first => ?_
  refine OnlyRunsOut.bind (.repeatUntilStable (P := n.Reaches) rfl (reached.beforeOspf first)
    (fun _ _ _ => Reaches.ospfExternalStep) fun _ _ _ => ospfExternalStep_total _) fun _ _ => ?_
  exact .of_total fun e => pure_ne_error

theorem bgpPhase_onlyRunsOut (reached : n.Reaches routers) :
    n.OnlyRunsOut (bgpPhase n.fabric n.settings.maxInner routers) := by
  refine OnlyRunsOut.bind (.mapM fun r member e =>
    Router.originateBgp_total (reached.wellReferenced referenced r member)) fun originated done => ?_
  refine .repeatUntilStable (P := n.Reaches) rfl (reached.mapM (fun _ _ => .originateBgp) done)
    (fun _ _ _ => Reaches.bgpStep) fun routers reached e failed => ?_
  obtain ⟨r, member, failed⟩ := error_of_exchange failed
  exact Router.gatherBgp_total (reached.wellReferenced referenced r member)
    (reached.wellReferenced referenced) failed

theorem round_onlyRunsOut (reached : n.Reaches routers) :
    n.OnlyRunsOut (round n.fabric n.settings.maxInner routers) :=
  (beforeBgp_onlyRunsOut referenced reached).bind fun _ done =>
    bgpPhase_onlyRunsOut referenced (reached.beforeBgp done)

theorem rounds_onlyRunsOut {left : Nat} (done : List (Nat × Nat))
    (limited : done.length + left = n.settings.maxOuter) (reached : n.Reaches routers) :
    n.OnlyRunsOut (roundsFrom n.fabric n.settings.maxInner left done routers) := by
  induction left generalizing done routers with
  | zero =>
    rintro e ⟨⟩
    exact ⟨.dependentRoutes, by rw [limit, ← limited, Nat.add_zero]⟩
  | succ left ih =>
    refine (round_onlyRunsOut referenced reached).bind fun (moved, steps) once => ?_
    dsimp only
    split
    · refine ih _ ?_ (reached.round once)
      rw [List.length_append, List.length_singleton, ← limited]
      omega
    · exact .of_total fun e => pure_ne_error

end Phases

/-- If every policy that is named is defined on its device, and none asks itself, then a computation has a
result, or one of its loops has run as often as it may: no route is ever incomplete, and no policy is
without a verdict. -/
theorem compute_fails_by_limits_only (n : Network) (referenced : n.IsWellReferenced) :
    (∃ d, n.compute = .ok d) ∨ ∃ phase, n.compute = .error (.noConvergence phase (n.limit phase)) := by
  have ends : n.OnlyRunsOut n.compute := by
    refine (independent_onlyRunsOut referenced).bind fun (routers, steps) first => ?_
    refine (rounds_onlyRunsOut referenced [] (Nat.zero_add _)
      (reaches_independent first)).bind fun _ _ => ?_
    exact .of_total fun e => pure_ne_error
  cases outcome : n.compute with
  | ok d => exact .inl ⟨d, rfl⟩
  | error e =>
    obtain ⟨phase, rfl⟩ := ends e outcome
    exact .inr ⟨phase, rfl⟩

/-- The first router asks its policies what it takes from the second one, and one of them asks the
other. -/
def screened : Network :=
  let owned := InterfaceAddress.ofOctets 9 9 9 9 32
  let policies : SortedMap String RouteMap := .ofList [
    ("welcome", .ofEntries "welcome" [{
      sequence := 10, action := .accept, conditions := [.policy "foreign"]
      actions := [.tag (some 7)], next := .exit }]),
    ("foreign", .ofEntries "foreign" [{
      sequence := 10, action := .accept, conditions := [.protocol .bgp], actions := []
      next := .exit }])]
  let first := ({ speaker "first" (.ofOctets 1 1 1 1) 65001 .empty [{
      peer := .ofOctets 10 0 0 2, remoteAs := 65002
      importPolicy := some "welcome" }] with routeMaps := policies } : Configuration)
    |>.withInterface "eth0" (.ofAddress (.ofOctets 10 0 0 1 30))
  let second := (speaker "second" (.ofOctets 2 2 2 2) 65002 (.singleton owned.network) [{
      peer := .ofOctets 10 0 0 1, remoteAs := 65001 }])
    |>.withInterface "eth0" (.ofAddress (.ofOctets 10 0 0 2 30))
    |>.withInterface "lo" (.ofLoopback owned)
  ofConfigurations [first, second]

/-- Both policies of the first router have a verdict, and a route that they accept is installed. -/
theorem screened_fails_by_limits_only : screened.IsWellReferenced ∧
    ((∃ d, screened.compute = .ok d) ∨
      ∃ phase, screened.compute = .error (.noConvergence phase (screened.limit phase))) ∧
    ∃ d, screened.compute = .ok d ∧
      (d.routers.any fun r => r.main.routes.any (·.tag == some 7)) = true := by
  have sound : ∀ c ∈ screened.configurations.values, c.HasSoundPolicies := fun c listed =>
    .of_rank (fun name => if name = "welcome" then 1 else 0) (by
      revert c
      decide +kernel)
  have named : ∀ c ∈ screened.configurations.values, ∀ v ∈ c.vrfs.values,
      ∀ name ∈ v.namedPolicies, c.Defines name := by decide +kernel
  have referenced : screened.IsWellReferenced := fun c listed => ⟨sound c listed, named c listed⟩
  exact ⟨referenced, compute_fails_by_limits_only screened referenced, of_any (by decide +kernel)⟩

end Network

end RoutePlane
