import RoutePlane.Proofs.Router.Origination
import RoutePlane.Router.Ospf

/-! What the operations of a router change, each said once: the tables into which they merge, and of
what kind the merged routes are. None of them fails for want of convergence. -/
namespace RoutePlane

open Fallible

/-- The loop that has reached its limit, if that is the error. -/
def NetworkError.phase? : NetworkError → Option Phase
  | noConvergence phase _ => some phase
  | _ => none

namespace Router

variable {r r' : Router} {x : Route} {process : BgpProcess} {e : NetworkError} {l : List Route}
  {routes : List Route}

section Errors

theorem phase_of_liftPolicy {α : Type} {x : Except PolicyError α} (failed : liftPolicy x = .error e) :
    e.phase? = none := by
  obtain ⟨p, rfl⟩ := error_of_liftPolicy failed
  rfl

theorem phase_of_liftRoute {α : Type} {x : Except RouteError α} (failed : liftRoute x = .error e) :
    e.phase? = none := by
  cases x <;> cases failed
  rfl

theorem phase_of_accepted {context : PolicyContext} {policy : Option String} {draft : RouteDraft}
    (failed : accepted? context policy x draft = .error e) : e.phase? = none := by
  rcases bind_eq_error.1 failed with unlifted | ⟨⟨accepted, edited⟩, -, failed⟩
  · exact phase_of_liftPolicy unlifted
  · cases accepted with
    | false => cases failed
    | true => exact phase_of_liftRoute (map_eq_error.1 failed)

theorem phase_of_anyAccepted {context : PolicyContext} {policy : Option String}
    (failed : anyAccepted context policy routes = .error e) : e.phase? = none := by
  induction routes with
  | nil => cases failed
  | cons first rest ih =>
    rw [anyAccepted] at failed
    rcases bind_eq_error.1 failed with unlifted | ⟨⟨accepted, edited⟩, -, failed⟩
    · exact phase_of_liftPolicy unlifted
    · cases accepted with
      | false => exact ih failed
      | true => cases failed

theorem phase_of_judge {waiting : List GeneratedRoute} (failed : r.judge waiting = .error e) :
    e.phase? = none := by
  obtain ⟨g, -, failed⟩ := error_of_mapM failed
  rcases bind_eq_error.1 failed with unjudged | ⟨_, -, never⟩
  · exact phase_of_anyAccepted unjudged
  · cases never

theorem phase_of_activateGeneratedFrom {rounds : Nat} {waiting : List GeneratedRoute}
    (failed : (activateGeneratedFrom rounds waiting r).2 = .error e) : e.phase? = none := by
  induction rounds generalizing waiting r with
  | zero => cases failed
  | succ rounds ih =>
    rw [activateGeneratedFrom] at failed
    cases judgement : r.judge waiting with
    | error e' =>
      rw [judgement] at failed
      cases failed
      exact phase_of_judge judgement
    | ok judged =>
      rw [judgement] at failed
      dsimp only at failed
      split at failed
      · cases failed
      · exact ih (map_eq_error.1 failed)

theorem phase_of_initOspfExports (failed : r.initOspfExports = .error e) : e.phase? = none := by
  rw [initOspfExports] at failed
  split at failed
  · cases failed
  · split at failed
    · cases failed
    · rcases bind_eq_error.1 failed with failed | ⟨_, -, never⟩
      · obtain ⟨route, -, failed⟩ := error_of_filterMapM failed
        exact phase_of_accepted failed
      · cases never

theorem phase_of_builds {drafts : List RouteDraft}
    (failed : drafts.mapM (fun d => liftRoute d.build) = .error e) : e.phase? = none := by
  obtain ⟨d, -, failed⟩ := error_of_mapM failed
  exact phase_of_liftRoute failed

theorem phase_of_originateBgp (failed : r.originateBgp = .error e) : e.phase? = none := by
  rw [originateBgp] at failed
  split at failed
  next => cases failed
  next process own =>
    rcases bind_eq_error.1 failed with failed | ⟨_, -, never⟩
    · rcases bind_eq_error.1 failed with failed | ⟨_, -, failed⟩
      · exact phase_of_builds failed
      · rcases bind_eq_error.1 failed with failed | ⟨_, -, failed⟩
        · rw [redistributed] at failed
          split at failed
          · cases failed
          · obtain ⟨route, -, failed⟩ := error_of_filterMapM failed
            exact phase_of_accepted failed
        · rcases bind_eq_error.1 failed with failed | ⟨_, -, never⟩
          · exact phase_of_builds failed
          · cases never
    · cases never

theorem phase_of_initBgp {announcements : List Announcement}
    (failed : r.initBgp announcements = .error e) : e.phase? = none := by
  rw [initBgp] at failed
  split at failed
  next => cases failed
  next process own =>
    rcases bind_eq_error.1 failed with failed | ⟨_, -, never⟩
    · obtain ⟨a, -, failed⟩ := error_of_filterMapM failed
      rw [importAnnouncement] at failed
      split at failed
      · cases failed
      · dsimp only at failed
        split at failed
        · cases failed
        · rcases bind_eq_error.1 failed with failed | ⟨_, -, never⟩
          · exact phase_of_accepted failed
          · cases never
    · cases never

end Errors

theorem activateStaticFrom_effect (rounds : Nat) (waiting : List StaticRoute) (r : Router) :
    ∃ ready : List StaticRoute, (activateStaticFrom rounds waiting r).1 =
      { r with
        static := (r.static.mergeAll (ready.map staticRoute)).1
        main := (r.main.mergeAll (ready.map staticRoute)).1 } := by
  induction rounds generalizing waiting r with
  | zero => exact ⟨[], rfl⟩
  | succ rounds ih =>
    rw [activateStaticFrom]
    split
    next ready later parted =>
      split
      · exact ⟨[], rfl⟩
      · obtain ⟨more, others⟩ := ih later (r.installStatic ready).1
        refine ⟨ready ++ more, ?_⟩
        dsimp only
        rw [others, List.map_append, Rib.mergeAll_append, Rib.mergeAll_append]
        rfl

/-- Static routes go to their own and to the main table. -/
theorem activateStatic_effect (r : Router) : ∃ ready : List StaticRoute, r.activateStatic.1 =
    { r with
      static := (r.static.mergeAll (ready.map staticRoute)).1
      main := (r.main.mergeAll (ready.map staticRoute)).1 } :=
  activateStaticFrom_effect _ _ r

theorem activateGeneratedFrom_effect (rounds : Nat) (waiting : List GeneratedRoute) (r : Router) :
    ∃ ready : List GeneratedRoute, (activateGeneratedFrom rounds waiting r).1 =
      { r with
        generated := (r.generated.mergeAll (ready.map generatedRoute)).1
        main := (r.main.mergeAll (ready.map generatedRoute)).1 } := by
  induction rounds generalizing waiting r with
  | zero => exact ⟨[], rfl⟩
  | succ rounds ih =>
    rw [activateGeneratedFrom]
    cases r.judge waiting with
    | error e => exact ⟨[], rfl⟩
    | ok judged =>
      dsimp only
      split
      · exact ⟨[], rfl⟩
      · obtain ⟨more, others⟩ := ih ((judged.filter (!·.2)).map (·.1))
          (r.installGenerated ((judged.filter (·.2)).map (·.1))).1
        refine ⟨(judged.filter (·.2)).map (·.1) ++ more, ?_⟩
        rw [others, List.map_append, Rib.mergeAll_append, Rib.mergeAll_append]
        rfl

theorem activateGenerated_effect (r : Router) :
    ∃ ready : List GeneratedRoute, r.activateGenerated.1 =
      { r with
        generated := (r.generated.mergeAll (ready.map generatedRoute)).1
        main := (r.main.mergeAll (ready.map generatedRoute)).1 } :=
  activateGeneratedFrom_effect _ _ r

theorem exportDraft_complete (r : Router) (process : OspfProcess) (route : Route) :
    (r.exportDraft process route).build = .ok {
      network := route.network
      protocol := process.exportMetricType.protocol
      distance := process.exportMetricType.protocol.defaultDistance
      metric := process.exportMetric
      nextHop := .self
      tag := route.tag
      kind := .ospf { area := .backbone, advertiser := r.hostname } } := by
  have ospf : process.exportMetricType.protocol.isOspf = true := by
    cases process.exportMetricType <;> rfl
  exact if_pos ospf

def LetsOut (r : Router) (x : Route) : Prop :=
  ∃ process policy routes, r.ospfProcess? = some process ∧
    r.ospfExports process policy = .ok routes ∧ x ∈ routes

theorem initOspfExports_effect (exported : r.initOspfExports = .ok r') :
    ∃ l, (∀ x ∈ l, r.LetsOut x) ∧
      r' = { r with ospf := { r.ospf with exports := (r.ospf.exports.mergeAll l).1 } } := by
  rw [initOspfExports] at exported
  split at exported
  · cases exported
    exact ⟨[], fun x never => absurd never List.not_mem_nil, rfl⟩
  next process own =>
    split at exported
    · cases exported
      exact ⟨[], fun x never => absurd never List.not_mem_nil, rfl⟩
    next policy _ =>
      obtain ⟨l, routes, same⟩ := bind_eq_ok.1 exported
      cases same
      exact ⟨l, fun x member => ⟨process, policy, l, own, routes, member⟩, rfl⟩

/-- The routes that a router brings into BGP are built of own drafts. Some of them have passed a policy,
which does not matter to what its actions do not change. -/
theorem originated_view {κ : Type} (view : RouteDraft → κ)
    (blind : ∀ a ∈ r.configuration.actions, ∀ d, view (a.apply d) = view d)
    (hopless : ∀ d hop, view { d with nextHop := hop } = view d)
    (originated : r.originated process = .ok routes) (member : x ∈ routes) :
    ∃ d edited : RouteDraft, d.IsOwn ∧ edited.build = .ok x ∧ view edited = view d := by
  have drafted (network : Prefix) (mechanism : OriginMechanism) (origin : OriginType)
      (metric : UInt32) (hop : NextHop) :
      (originatedDraft process network mechanism origin metric hop).IsOwn :=
    ⟨rfl, .inl rfl, _, rfl, rfl, rfl, rfl⟩
  cases brings_of_originated originated member with
  | network p source listed foreign built => exact ⟨_, _, drafted .., built, rfl⟩
  | redistribution policy source named listed foreign accepted =>
    obtain ⟨edited, built, same⟩ := accepted_view view blind hopless accepted
    exact ⟨_, edited, ⟨rfl, .inl rfl, _, rfl, rfl, rfl, rfl⟩, built, same⟩
  | aggregate p built => exact ⟨_, _, ⟨rfl, .inr rfl, _, rfl, rfl, rfl, rfl⟩, built, rfl⟩

theorem isBgpKind_of_own (own : x.kind.IsOwn) : x.isBgpKind = true := by
  obtain ⟨data, kind, -⟩ := own
  rw [Route.isBgpKind, Route.bgp?, kind]
  rfl

theorem isLocal_of_own (own : x.kind.IsOwn) : x.isLocal = true := by
  obtain ⟨data, kind, unsent⟩ := own
  rw [Route.isLocal, Route.receivedFrom, Route.bgp?, kind]
  exact beq_iff_eq.2 unsent

def Originates (r : Router) (x : Route) : Prop :=
  ∃ process routes, r.bgpProcess? = some process ∧ r.originated process = .ok routes ∧ x ∈ routes

theorem Originates.brings (originates : r.Originates x) :
    ∃ process, r.bgpProcess? = some process ∧ r.Brings process x := by
  obtain ⟨process, routes, own, originated, member⟩ := originates
  exact ⟨process, own, brings_of_originated originated member⟩

theorem Originates.core (originates : r.Originates x) :
    ∃ d edited : RouteDraft, d.IsOwn ∧ edited.build = .ok x ∧ edited.core = d.core := by
  obtain ⟨process, routes, -, originated, member⟩ := originates
  exact originated_view RouteDraft.core (fun a _ d => d.core_action a) (fun _ _ => rfl) originated
    member

/-- The routes that a router brings into BGP are BGP routes that nobody has sent. -/
theorem Originates.own (originates : r.Originates x) : x.kind.IsOwn := by
  obtain ⟨d, edited, draft, built, same⟩ := originates.core
  obtain ⟨-, -, -, kind, -⟩ := RouteDraft.build_eq_ok built
  obtain ⟨data, own, unsent, -⟩ := draft.kind
  have kinds : edited.kind.core = d.kind.core := congrArg RouteDraft.kind same
  rw [← kind, ← RouteKind.isOwn_core, kinds, RouteKind.isOwn_core]
  exact ⟨data, own, unsent⟩

theorem Originates.routing (originates : r.Originates x) : x.nonRouting = false := by
  obtain ⟨d, edited, draft, built, same⟩ := originates.core
  rw [RouteDraft.nonRouting_of_build built]
  exact (congrArg RouteDraft.nonRouting same).trans draft.routing

/-- What is brought into BGP goes to the external table, before a commit. -/
def bringIn (r : Router) (l : List Route) : Router :=
  { r with bgp := { r.bgp with external := (r.bgp.external.mergeAll l).1 } }

/-- What a router brings into BGP is committed. Without a BGP process there is none, and nothing
happens. -/
theorem originateBgp_effect (done : r.originateBgp = .ok r') :
    (r' = r ∧ r.bgpProcess? = none) ∨ ∃ l, (∀ x, x ∈ l ↔ r.Originates x) ∧
      r' = (r.bringIn l).commitBgp.1 := by
  rw [originateBgp] at done
  split at done
  next none =>
    cases done
    exact .inl ⟨rfl, none⟩
  next process own =>
    obtain ⟨l, originated, same⟩ := bind_eq_ok.1 done
    cases same
    exact .inr ⟨l, fun x => by simp [Originates, own, originated], rfl⟩

theorem importAnnouncement_ok {a : Announcement} {isExternal : Bool}
    (imported : r.importAnnouncement process a = .ok (some (isExternal, x))) :
    ∃ neighbor own, process.neighbor? a.peer = some neighbor ∧
      isExternal = (neighbor.remoteAs != process.sessionAs neighbor) ∧
      (isExternal = true → process.sessionAs neighbor ∉ a.asPath) ∧
      accepted? (r.sessionContext .incoming own a.peer) neighbor.importPolicy
        (announcedRoute a neighbor isExternal) (.ofRoute (announcedRoute a neighbor isExternal)) =
          .ok (some x) := by
  rw [importAnnouncement] at imported
  split at imported
  · cases imported
  next neighbor found =>
    dsimp only at imported
    split at imported
    · cases imported
    next fresh =>
      obtain ⟨kept, accepted, same⟩ := bind_eq_ok.1 imported
      obtain ⟨route, rfl, same⟩ := Option.map_eq_some_iff.1 (pure_eq_ok.1 same)
      cases same
      refine ⟨neighbor, _, found, rfl, fun external member => fresh ?_, accepted⟩
      rw [external, List.contains_eq_mem, decide_eq_true member]
      rfl

theorem importAnnouncement_some {a : Announcement} {isExternal : Bool}
    (imported : r.importAnnouncement process a = .ok (some (isExternal, x))) :
    x.network = a.network ∧ x.isBgpKind = true := by
  obtain ⟨neighbor, own, -, -, -, accepted⟩ := importAnnouncement_ok imported
  have allowed (external : Bool) : (announcedRoute a neighbor external).kind.allows
      (announcedRoute a neighbor external).protocol = true := by
    cases external <;> rfl
  obtain ⟨network, -, rank, -⟩ := accepted_some Set.univ (fun _ _ _ _ => trivial)
    (RouteDraft.build_ofRoute _ (allowed _)) accepted
  exact ⟨network, Route.isBgpKind_iff.2 rank⟩

def device (r : Router) : Configuration × String := (r.configuration, r.vrf)

/-- What the router makes of an announcement to it; whether that came over an external session. -/
def IsAnnounced (announcements : List Announcement) (r : Router) (external : Bool) (x : Route) :
    Prop :=
  ∃ process, r.bgpProcess? = some process ∧ ∃ a ∈ announcements, a.node = r.hostname ∧
    a.vrf = r.vrf ∧ r.importAnnouncement process a = .ok (some (external, x))

theorem isAnnounced_congr {announcements : List Announcement} (same : r'.device = r.device) :
    r'.IsAnnounced announcements = r.IsAnnounced announcements := by
  obtain ⟨configuration, vrf⟩ := Prod.mk.inj same
  funext external x
  simp only [IsAnnounced, importAnnouncement, sessionContext, bgpProcess?, hostname, configuration,
    vrf]

theorem IsAnnounced.isBgpKind {announcements : List Announcement} {external : Bool}
    (announced : r.IsAnnounced announcements external x) : x.isBgpKind = true := by
  obtain ⟨_, -, _, -, -, -, imported⟩ := announced
  exact (importAnnouncement_some imported).2

/-- Announcements from outside go to the base tables. -/
theorem initBgp_effect {announcements : List Announcement}
    (done : r.initBgp announcements = .ok r') : ∃ external internal,
    (∀ x, x ∈ external ↔ r.IsAnnounced announcements true x) ∧
    (∀ x, x ∈ internal ↔ r.IsAnnounced announcements false x) ∧
    r' = { r with bgp := { r.bgp with
      baseExternal := (r.bgp.baseExternal.mergeAll external).1
      baseInternal := (r.bgp.baseInternal.mergeAll internal).1 } } := by
  rw [initBgp] at done
  split at done
  next none =>
    cases done
    exact ⟨[], [], by simp [IsAnnounced, none], by simp [IsAnnounced, none], rfl⟩
  next process own =>
    obtain ⟨kept, imported, same⟩ := bind_eq_ok.1 done
    cases same
    have source (external : Bool) (x : Route) :
        (external, x) ∈ kept ↔ r.IsAnnounced announcements external x := by
      rw [mem_filterMapM imported]
      simp [IsAnnounced, own, and_assoc]
    exact ⟨_, _, fun x => by simp [← source], fun x => by simp [← source], rfl⟩

theorem stageBgp_effect (r : Router) (arrived : List Route × List Route) : ∃ external internal,
    (r.stageBgp arrived).1 =
      { r with staging := { r.staging with external := external, internal := internal } } :=
  ⟨_, _, rfl⟩

theorem commitBgp_effect (r : Router) : ∃ combined main,
    r.commitBgp.1 = { r with bgp := { r.bgp with combined := combined }, main := main } :=
  ⟨_, _, rfl⟩

/-- What is staged goes to the tables of the two sides, before they are combined. -/
def takeStaged (r : Router) : Router :=
  { r with bgp := { r.bgp with
    external := (r.bgp.external.absorb r.staging.external).1
    internal := (r.bgp.internal.absorb r.staging.internal).1 } }

theorem commitStagedBgp_eq (r : Router) : r.commitStagedBgp.1 = r.takeStaged.commitBgp.1 := rfl

/-- Committing BGP routes changes the main table and the BGP tables that are no base tables. -/
theorem commitStagedBgp_effect (r : Router) : ∃ external internal combined main,
    r.commitStagedBgp.1 = { r with
      bgp := { r.bgp with external := external, internal := internal, combined := combined }
      main := main } := by
  obtain ⟨combined, main, effect⟩ := commitBgp_effect r.takeStaged
  exact ⟨_, _, combined, main, effect⟩

end Router

end RoutePlane
