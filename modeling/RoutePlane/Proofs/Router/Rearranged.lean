import RoutePlane.Proofs.Configuration.Contents
import RoutePlane.Proofs.Rib.AnyOrder
import RoutePlane.Proofs.Router.TypedTables

/-! Routers whose configurations list the same in another order. Most operations never see the lists; the
others merge what they make of them into tables, where order is lost again. So an operation makes the same
of a router and of the rearranged one, and it fails for both or for none of them. -/
namespace RoutePlane.Router

open Fallible

def rearrange (κ : Configuration → Configuration) (r : Router) : Router :=
  { r with configuration := κ r.configuration }

variable {κ : Configuration → Configuration} {f f' : Fabric} {routers : List Router}
  {r m : Router} {announcements announcements' : List Announcement} {process process' : BgpProcess}

-- Tables are compared by what is merged into them, never by their entries.
attribute [local irreducible] Rib.mergeAll installAll bestRoutes

variable (like : ∀ c : Configuration, c.Like (κ c))
include like

section Unlisted

theorem hostname_rearrange (r : Router) : (r.rearrange κ).hostname = r.hostname :=
  Configuration.hostname_of_contents (like _).contents

theorem interfaces_rearrange (r : Router) : (r.rearrange κ).interfaces = r.interfaces := by
  rw [interfaces, interfaces, Configuration.interfacesOf, Configuration.interfacesOf]
  exact congrArg (fun i : SortedMap String Interface => i.toList.filter _)
    (Configuration.interfaces_of_contents (like _).contents)

theorem ospfProcess_rearrange (r : Router) : (r.rearrange κ).ospfProcess? = r.ospfProcess? :=
  Configuration.ospfProcess_of_contents (like _).contents r.vrf

theorem ospfInterfaces_rearrange (r : Router) : (r.rearrange κ).ospfInterfaces = r.ospfInterfaces := by
  rw [ospfInterfaces, ospfInterfaces, interfaces_rearrange like]

theorem initConnected_rearrange (r : Router) :
    (r.rearrange κ).initConnected = r.initConnected.rearrange κ := by
  have routes : (r.rearrange κ).connectedRoutes = r.connectedRoutes := by
    rw [connectedRoutes, connectedRoutes, interfaces_rearrange like]
  rw [initConnected, initConnected, routes]
  rfl

theorem initOspfCosts_rearrange (r : Router) :
    (r.rearrange κ).initOspfCosts = r.initOspfCosts.rearrange κ := by
  rw [initOspfCosts, initOspfCosts, ospfProcess_rearrange like, ospfInterfaces_rearrange like]
  split <;> rfl

theorem initOspf_rearrange (r : Router) : (r.rearrange κ).initOspf = r.initOspf.rearrange κ := by
  have routes : (r.rearrange κ).ospfBaseRoutes = r.ospfBaseRoutes := by
    rw [ospfBaseRoutes, ospfBaseRoutes, ospfProcess_rearrange like, ospfInterfaces_rearrange like,
      hostname_rearrange like]
    rfl
  rw [initOspf, initOspf, routes]
  rfl

theorem leavesOspf_rearrange : LeavesOspf (rearrange κ) where
  hostname := hostname_rearrange like
  vrf := fun _ => rfl
  process := ospfProcess_rearrange like
  interfaces := ospfInterfaces_rearrange like
  costs := fun _ => rfl

theorem gatherOspfInternal_rearrange (links : f.LinksLike f') (r : Router) :
    (r.rearrange κ).gatherOspfInternal f' (routers.map (rearrange κ)) =
      ((r.gatherOspfInternal f routers).1.rearrange κ, (r.gatherOspfInternal f routers).2) := by
  rw [gatherOspfInternal, gatherOspfInternal,
    (leavesOspf_rearrange like).intraArrivals links fun _ => rfl,
    (leavesOspf_rearrange like).interArrivals links (fun _ => rfl) fun _ => rfl]
  rfl

theorem gatherOspfExternal_rearrange (links : f.LinksLike f') (r : Router) :
    (r.rearrange κ).gatherOspfExternal f' (routers.map (rearrange κ)) =
      ((r.gatherOspfExternal f routers).1.rearrange κ, (r.gatherOspfExternal f routers).2) := by
  rw [gatherOspfExternal, gatherOspfExternal]
  simp only [(leavesOspf_rearrange like).externalArrivals links (fun _ => rfl) (fun _ => rfl)
    fun _ => rfl]
  rfl

theorem policy_rearrange (r : Router) : (r.rearrange κ).policyContext.apply = r.policyContext.apply :=
  PolicyContext.apply_of_contents (like _).contents rfl rfl

theorem sessionPolicy_rearrange (r : Router) (direction : Direction) (own peer : Address) :
    ((r.rearrange κ).sessionContext direction own peer).apply =
      (r.sessionContext direction own peer).apply :=
  PolicyContext.apply_of_contents (like _).contents rfl rfl

theorem isContributed_rearrange (r : Router) (g : GeneratedRoute) :
    (r.rearrange κ).isContributed g = r.isContributed g := by
  have asks (routes : List Route) : anyAccepted (r.rearrange κ).policyContext g.policy routes =
      anyAccepted r.policyContext g.policy routes := by
    induction routes with
    | nil => rfl
    | cons contributor rest ih => rw [anyAccepted, anyAccepted, policy_rearrange like, ih]
  rw [isContributed, isContributed, asks]
  rfl

theorem ospfExports_rearrange (process : OspfProcess) (policy : String) (r : Router) :
    (r.rearrange κ).ospfExports process policy = r.ospfExports process policy := by
  have drafts (route : Route) :
      (r.rearrange κ).exportDraft process route = r.exportDraft process route := by
    rw [exportDraft, exportDraft, hostname_rearrange like]
  rw [ospfExports, ospfExports]
  simp only [accepted?, policy_rearrange like, drafts]
  rfl

theorem initOspfExports_rearrange (done : r.initOspfExports = .ok m) :
    (r.rearrange κ).initOspfExports = .ok (m.rearrange κ) := by
  rw [initOspfExports] at done
  rw [initOspfExports, ospfProcess_rearrange like]
  cases own : r.ospfProcess? with
  | none =>
    rw [own] at done
    cases done
    rfl
  | some process =>
    rw [own] at done
    dsimp only at done ⊢
    cases named : process.exportPolicy with
    | none =>
      rw [named] at done
      cases done
      rfl
    | some policy =>
      rw [named] at done
      obtain ⟨routes, exported, same⟩ := bind_eq_ok.1 done
      cases same
      have again := (ospfExports_rearrange like process policy r).trans exported
      exact bind_eq_ok.2 ⟨routes, again, rfl⟩

theorem originated_rearrange (face : process'.face = process.face) (r : Router) :
    (r.rearrange κ).originated process' = r.originated process := by
  -- The entries of a process play no part in what it originates.
  have entryless (r : Router) (process : BgpProcess) :
      r.originated process = r.originated process.face.1 := rfl
  have redistributed : (r.rearrange κ).redistributed process.face.1 =
      r.redistributed process.face.1 := by
    rw [Router.redistributed, Router.redistributed]
    simp only [accepted?, policy_rearrange like]
    rfl
  rw [entryless, face, entryless r, originated, originated, redistributed]
  rfl

theorem originateBgp_rearrange (done : r.originateBgp = .ok m) :
    (r.rearrange κ).originateBgp = .ok (m.rearrange κ) := by
  rw [originateBgp] at done ⊢
  cases own : r.bgpProcess? with
  | none =>
    rw [own] at done
    cases done
    rw [show (r.rearrange κ).bgpProcess? = none from (like _).no_process own]
  | some process =>
    rw [own] at done
    obtain ⟨routes, originated, same⟩ := bind_eq_ok.1 done
    cases same
    obtain ⟨process', own', face, -⟩ := (like _).process own
    rw [show (r.rearrange κ).bgpProcess? = some process' from own']
    exact bind_eq_ok.2 ⟨routes, (originated_rearrange like face r).trans originated, rfl⟩

theorem leavesBgp_rearrange : LeavesBgp (rearrange κ) where
  hostname := hostname_rearrange like
  vrf := fun _ => rfl
  process := fun r => (like _).faces r.vrf
  send := by
    intro r
    funext route s neighbor process
    rw [send?, send?]
    simp only [sessionPolicy_rearrange like]
  receive := by
    intro r
    funext draft s neighbor process
    rw [receive?, receive?]
    simp only [accepted?, sessionPolicy_rearrange like]

theorem importAnnouncement_rearrange (face : process'.face = process.face) (r : Router)
    (a : Announcement) :
    (r.rearrange κ).importAnnouncement process' a = r.importAnnouncement process a := by
  have entries : process'.neighbor? = process.neighbor? := congrArg Prod.snd face
  have number := BgpProcess.sessionAs_of_face face
  have address (neighbor : Neighbor) :
      (r.rearrange κ).configuration.sessionAddress? r.vrf neighbor =
        r.configuration.sessionAddress? r.vrf neighbor :=
    Configuration.sessionAddress_of_contents (like _).contents r.vrf neighbor
  rw [importAnnouncement, importAnnouncement, entries, number]
  simp only [accepted?, sessionPolicy_rearrange like]
  cases process.neighbor? a.peer with
  | none => rfl
  | some neighbor =>
    dsimp only
    rw [show (r.rearrange κ).vrf = r.vrf from rfl, address]

end Unlisted

section Statics

variable {waiting waiting' ready ready' : List StaticRoute}

theorem staticRoutes_rearrange (r : Router) : r.staticRoutes.Perm (r.rearrange κ).staticRoutes :=
  Configuration.staticRoutes_of_contents (like r.configuration).contents r.vrf

theorem initStatic_rearrange (typed : r.IsTyped) :
    (r.rearrange κ).initStatic = r.initStatic.rearrange κ := by
  have independent : (r.rearrange κ).isIndependent = r.isIndependent := by
    funext s
    rw [isIndependent, isIndependent]
    cases s.nextHop <;> try rfl
    exact congrArg (fun i : SortedMap String Interface => (i.get? _).any _)
      (Configuration.interfaces_of_contents (like r.configuration).contents)
  have merged : (r.rearrange κ).interfaceStatic.mergeAll
      (((r.rearrange κ).staticRoutes.filter (r.rearrange κ).isIndependent).map staticRoute) =
      r.interfaceStatic.mergeAll ((r.staticRoutes.filter r.isIndependent).map staticRoute) := by
    rw [independent]
    refine (typed.interfaceStatic.mergeAll_congr (staticRoutes_typed _) fun x => ?_).symm
    exact (((staticRoutes_rearrange like r).filter _).map _).mem_iff
  rw [initStatic, initStatic, merged]
  rfl

omit like in
theorem installStatic_rearrange (typed : r.IsTyped) (same : ready.Perm ready') :
    (r.rearrange κ).installStatic ready' =
      ((r.installStatic ready).1.rearrange κ, (r.installStatic ready).2) := by
  have listed (x : Route) : x ∈ ready.map staticRoute ↔ x ∈ ready'.map staticRoute :=
    (same.map _).mem_iff
  have static := typed.static.mergeAll_congr (staticRoutes_typed ready) listed
  have main := typed.main.mergeAll_congr
    (fun x member => routesOf_lawful (staticRoutes_typed ready x member)) listed
  rw [installStatic, installStatic]
  dsimp only
  rw [static, main]
  rfl

omit like in
theorem IsTyped.installStatic (typed : r.IsTyped) (ready : List StaticRoute) :
    (r.installStatic ready).1.IsTyped :=
  { typed with
    static := typed.static.mergeAll (staticRoutes_typed ready)
    main := typed.main.mergeAll fun x member => routesOf_lawful (staticRoutes_typed ready x member) }

omit like in
theorem activateStaticFrom_rearrange (typed : r.IsTyped) (rounds : Nat)
    (same : waiting.Perm waiting') :
    activateStaticFrom rounds waiting' (r.rearrange κ) =
      ((activateStaticFrom rounds waiting r).1.rearrange κ, (activateStaticFrom rounds waiting r).2) := by
  induction rounds generalizing waiting waiting' r with
  | zero => rfl
  | succ rounds ih =>
    rw [activateStaticFrom, activateStaticFrom, List.partition_eq_filter_filter,
      List.partition_eq_filter_filter]
    dsimp only
    have main : (r.rearrange κ).main = r.main := rfl
    have ready := same.filter fun s => isResolvable r.main s.network s.nextHop
    have later := same.filter (not ∘ fun s => isResolvable r.main s.network s.nextHop)
    rw [main, ready.isEmpty_eq, installStatic_rearrange typed ready]
    split
    · rfl
    · rw [ih (typed.installStatic _) later]

theorem activateStatic_rearrange (typed : r.IsTyped) :
    (r.rearrange κ).activateStatic = (r.activateStatic.1.rearrange κ, r.activateStatic.2) := by
  have waiting : r.dependentStatic.Perm (r.rearrange κ).dependentStatic :=
    (staticRoutes_rearrange like r).filter _
  rw [activateStatic, activateStatic, ← waiting.length_eq]
  exact activateStaticFrom_rearrange typed _ waiting

end Statics

section Generated

variable {waiting waiting' ready ready' : List GeneratedRoute} {flag : Bool}

omit like in
theorem installGenerated_rearrange (typed : r.IsTyped) (same : ready.Perm ready') :
    (r.rearrange κ).installGenerated ready' =
      ((r.installGenerated ready).1.rearrange κ, (r.installGenerated ready).2) := by
  have listed (x : Route) : x ∈ ready.map generatedRoute ↔ x ∈ ready'.map generatedRoute :=
    (same.map _).mem_iff
  have generated := typed.generated.mergeAll_congr (generatedRoutes_typed ready) listed
  have main := typed.main.mergeAll_congr
    (fun x member => routesOf_lawful (generatedRoutes_typed ready x member)) listed
  rw [installGenerated, installGenerated]
  dsimp only
  rw [generated, main]
  rfl

omit like in
theorem IsTyped.installGenerated (typed : r.IsTyped) (ready : List GeneratedRoute) :
    (r.installGenerated ready).1.IsTyped :=
  { typed with
    generated := typed.generated.mergeAll (generatedRoutes_typed ready)
    main := typed.main.mergeAll fun x member =>
      routesOf_lawful (generatedRoutes_typed ready x member) }

theorem judge_rearrange (same : waiting.Perm waiting') {judged : List (GeneratedRoute × Bool)}
    (done : r.judge waiting = .ok judged) :
    ∃ judged', (r.rearrange κ).judge waiting' = .ok judged' ∧ judged.Perm judged' := by
  rw [judge] at done ⊢
  simp only [isContributed_rearrange like]
  exact mapM_perm same done

/-- Whether a round fails does not depend on the order in which its routes are judged. -/
theorem activateGeneratedFrom_rearrange (typed : r.IsTyped) (rounds : Nat)
    (same : waiting.Perm waiting') (done : (activateGeneratedFrom rounds waiting r).2 = .ok flag) :
    activateGeneratedFrom rounds waiting' (r.rearrange κ) =
      ((activateGeneratedFrom rounds waiting r).1.rearrange κ, .ok flag) := by
  induction rounds generalizing waiting waiting' r flag with
  | zero =>
    cases done
    rfl
  | succ rounds ih =>
    rw [activateGeneratedFrom] at done ⊢
    rw [activateGeneratedFrom]
    cases judgement : r.judge waiting with
    | error e =>
      rw [judgement] at done
      cases done
    | ok judged =>
      obtain ⟨judged', judgement', order⟩ := judge_rearrange like same judgement
      rw [judgement] at done
      rw [judgement']
      dsimp only at done ⊢
      have ready := (order.filter (·.2)).map (·.1)
      have later := (order.filter (!·.2)).map (·.1)
      rw [← ready.isEmpty_eq]
      split at done
      next none =>
        cases done
        rw [if_pos none, if_pos none]
      next some =>
        obtain ⟨others, again, flags⟩ := map_eq_ok.1 done
        rw [if_neg some, if_neg some, installGenerated_rearrange typed ready,
          ih (typed.installGenerated _) later again]
        exact Prod.ext rfl (congrArg Except.ok flags)

theorem activateGenerated_rearrange (typed : r.IsTyped) (done : r.activateGenerated.2 = .ok flag) :
    (r.rearrange κ).activateGenerated = (r.activateGenerated.1.rearrange κ, .ok flag) := by
  have waiting : ((r.settings?.map (·.generatedRoutes)).getD []).Perm
      (((r.rearrange κ).settings?.map (·.generatedRoutes)).getD []) :=
    Configuration.generatedRoutes_of_contents (like r.configuration).contents r.vrf
  rw [activateGenerated] at done ⊢
  rw [activateGenerated, ← waiting.length_eq]
  exact activateGeneratedFrom_rearrange like typed _ waiting done

end Generated

section Bgp

omit like in
theorem learned_typed {external : Bool} {x : Route} {kept : List (Bool × Route)}
    (own : r.bgpProcess? = some process)
    (imported : (announcements.filter fun a => a.node == r.hostname && a.vrf == r.vrf).filterMapM
      (r.importAnnouncement process) = .ok kept) (listed : (external, x) ∈ kept) :
    x ∈ sideRoutes external := by
  obtain ⟨a, member, outcome⟩ := (mem_filterMapM imported).1 listed
  obtain ⟨announced, names⟩ := List.mem_filter.1 member
  rw [Bool.and_eq_true, beq_iff_eq, beq_iff_eq] at names
  exact IsAnnounced.typed ⟨process, own, a, announced, names.1, names.2, outcome⟩

theorem initBgp_rearrange (typed : r.IsTyped) (announced : announcements.Perm announcements')
    (done : r.initBgp announcements = .ok m) :
    (r.rearrange κ).initBgp announcements' = .ok (m.rearrange κ) := by
  rw [initBgp] at done ⊢
  cases own : r.bgpProcess? with
  | none =>
    rw [own] at done
    cases done
    rw [show (r.rearrange κ).bgpProcess? = none from (like _).no_process own]
  | some process =>
    rw [own] at done
    obtain ⟨kept, imported, same⟩ := bind_eq_ok.1 done
    cases same
    obtain ⟨process', own', face, -⟩ := (like _).process own
    rw [show (r.rearrange κ).bgpProcess? = some process' from own', hostname_rearrange like]
    have heard := announced.filter fun a => a.node == r.hostname && a.vrf == r.vrf
    obtain ⟨kept', imported', order⟩ := filterMapM_perm heard imported
    have again : (announcements'.filter fun a => a.node == r.hostname && a.vrf == r.vrf).filterMapM
        ((r.rearrange κ).importAnnouncement process') = .ok kept' := by
      rw [← imported']
      exact congrArg (fun imports => List.filterMapM imports _)
        (funext (importAnnouncement_rearrange like face r))
    have external := typed.baseExternal.mergeAll_congr
      (l := (kept.filter (·.1)).map (·.2)) (m := (kept'.filter (·.1)).map (·.2))
      (fun x member => learned_typed own imported (by simpa using member))
      fun x => ((order.filter _).map _).mem_iff
    have internal := typed.baseInternal.mergeAll_congr
      (l := (kept.filter (!·.1)).map (·.2)) (m := (kept'.filter (!·.1)).map (·.2))
      (fun x member => learned_typed own imported (by simpa using member))
      fun x => ((order.filter _).map _).mem_iff
    refine bind_eq_ok.2 ⟨kept', again, ?_⟩
    rw [external, internal]
    rfl

theorem prepare_rearrange (typed : r.IsTyped) (announced : announcements.Perm announcements')
    (done : Schedule.prepare announcements r = .ok m) :
    Schedule.prepare announcements' (r.rearrange κ) = .ok (m.rearrange κ) := by
  have before : r.initConnected.initStatic.initOspfCosts.initOspf.IsTyped :=
    typed.initConnected.initStatic.initOspf
  rw [Schedule.prepare, initConnected_rearrange like, initStatic_rearrange like typed.initConnected,
    initOspfCosts_rearrange like, initOspf_rearrange like]
  exact initBgp_rearrange like before announced done

theorem arrivals_rearrange (face : process'.face = process.face) (r : Router) (s : Session) :
    (r.rearrange κ).arrivals (routers.map (rearrange κ)) process' s = r.arrivals routers process s :=
  (leavesBgp_rearrange like).arrivals (fun _ => rfl) face s

theorem conveys_rearrange {s : Session} {l : List Route} (face : process'.face = process.face)
    (arrivals : r.arrivals routers process s = .ok l) (x : Route) :
    Conveys (routers.map (rearrange κ)) (r.rearrange κ) process' s x ↔ Conveys routers r process s x := by
  rw [← mem_arrivals arrivals, ← mem_arrivals ((arrivals_rearrange like face r s).trans arrivals)]

variable (sessions : ∀ node vrf s,
  s ∈ f'.sessions.incoming node vrf ↔ s ∈ f.sessions.incoming node vrf)
include sessions

/-- Each session conveys the same, so it does not matter which one is asked first. -/
theorem bgpArrivals_rearrange (face : process'.face = process.face) {arrived : List Route × List Route}
    (done : r.bgpArrivals f routers process = .ok arrived) :
    ∃ arrived', (r.rearrange κ).bgpArrivals f' (routers.map (rearrange κ)) process' = .ok arrived' ∧
      (∀ x, x ∈ arrived.1 ↔ x ∈ arrived'.1) ∧ ∀ x, x ∈ arrived.2 ↔ x ∈ arrived'.2 := by
  obtain ⟨batches, all, -⟩ := bind_eq_ok.1 done
  have asked {s : Session} (member : s ∈ f.sessions.incoming r.hostname r.vrf) :
      ∃ l, r.arrivals routers process s = .ok l := by
    obtain ⟨_, -, outcome⟩ := outcome_of_mapM all member
    obtain ⟨l, arrivals, -⟩ := bind_eq_ok.1 outcome
    exact ⟨l, arrivals⟩
  have incoming (s : Session) : s ∈ f'.sessions.incoming (r.rearrange κ).hostname (r.rearrange κ).vrf ↔
      s ∈ f.sessions.incoming r.hostname r.vrf := by
    rw [hostname_rearrange like]
    exact sessions _ _ s
  obtain ⟨arrived', again⟩ : ∃ arrived',
      (r.rearrange κ).bgpArrivals f' (routers.map (rearrange κ)) process' = .ok arrived' := by
    obtain ⟨batches', all'⟩ := mapM_total (l := f'.sessions.incoming _ _)
      (f := fun s => do
        pure (s.type.isExternal, ← (r.rearrange κ).arrivals (routers.map (rearrange κ)) process' s))
      fun s member => by
        obtain ⟨l, arrivals⟩ := asked ((incoming s).1 member)
        exact ⟨_, bind_eq_ok.2 ⟨l, (arrivals_rearrange like face r s).trans arrivals, rfl⟩⟩
    exact ⟨_, bind_eq_ok.2 ⟨batches', all', rfl⟩⟩
  have side (x : Route) (external : Bool) :
      (∃ s ∈ f.sessions.incoming r.hostname r.vrf, s.type.isExternal = external ∧
        Conveys routers r process s x) ↔
      ∃ s ∈ f'.sessions.incoming (r.rearrange κ).hostname (r.rearrange κ).vrf,
        s.type.isExternal = external ∧
          Conveys (routers.map (rearrange κ)) (r.rearrange κ) process' s x := by
    refine exists_congr fun s => ?_
    rw [incoming]
    refine and_congr_right fun member => and_congr_right fun _ => ?_
    obtain ⟨l, arrivals⟩ := asked member
    exact (conveys_rearrange like face arrivals x).symm
  refine ⟨arrived', again, fun x => ?_, fun x => ?_⟩
  · rw [(mem_bgpArrivals done).1, (mem_bgpArrivals again).1, side]
  · rw [(mem_bgpArrivals done).2, (mem_bgpArrivals again).2, side]

theorem gatherBgp_rearrange (typed : r.IsTyped) {g : Router × Bool}
    (done : r.gatherBgp f routers = .ok g) :
    (r.rearrange κ).gatherBgp f' (routers.map (rearrange κ)) = .ok (g.1.rearrange κ, g.2) := by
  rw [gatherBgp] at done ⊢
  cases own : r.bgpProcess? with
  | none =>
    rw [own] at done
    cases done
    rw [show (r.rearrange κ).bgpProcess? = none from (like _).no_process own]
  | some process =>
    rw [own] at done
    obtain ⟨arrived, conveyed, rfl⟩ := map_eq_ok.1 done
    obtain ⟨process', own', face, -⟩ := (like _).process own
    rw [show (r.rearrange κ).bgpProcess? = some process' from own']
    obtain ⟨arrived', conveyed', first, second⟩ :=
      bgpArrivals_rearrange like sessions face conveyed
    have heard {external : Bool} {x : Route} (conveys : ∃ s ∈ f.sessions.incoming r.hostname r.vrf,
        s.type.isExternal = external ∧ Conveys routers r process s x) : x ∈ sideRoutes external :=
      Hears.typed ⟨process, own, conveys⟩
    have external := typed.stagedExternal.mergeAll_congr
      (fun x member => heard ((mem_bgpArrivals conveyed).1.1 member)) first
    have internal := typed.stagedInternal.mergeAll_congr
      (fun x member => heard ((mem_bgpArrivals conveyed).2.1 member)) second
    refine map_eq_ok.2 ⟨arrived', conveyed', ?_⟩
    rw [stageBgp, stageBgp]
    dsimp only
    rw [external, internal]
    rfl

end Bgp

end RoutePlane.Router
