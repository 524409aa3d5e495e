import RoutePlane.Proofs.RouteMap.References
import RoutePlane.Proofs.Router.Effects

/-! Operations on a router of a well-referenced device. Every draft that a router gives to a policy is
complete, and no policy takes away what makes it so; so where the policies that a VRF names are defined,
and those have a verdict on every route, nothing is left that can fail. -/
namespace RoutePlane

open Fallible

def Neighbor.namedPolicies (n : Neighbor) : List String :=
  n.importPolicy.toList ++ n.exportPolicy.toList

def BgpProcess.namedPolicies (p : BgpProcess) : List String :=
  p.redistributionPolicy.toList ++ p.neighbors.flatMap Neighbor.namedPolicies

def Vrf.namedPolicies (v : Vrf) : List String :=
  v.generatedRoutes.filterMap (·.policy) ++ (v.ospf.bind (·.exportPolicy)).toList
    ++ v.bgp.toList.flatMap BgpProcess.namedPolicies

/-- Every policy that is named on the device is defined there, and no policy asks itself. -/
structure Configuration.IsWellReferenced (c : Configuration) : Prop where
  policies : c.HasSoundPolicies
  named : ∀ v ∈ c.vrfs.values, ∀ name ∈ v.namedPolicies, c.Defines name

namespace Router

variable {r : Router} {routers : List Router} {f : Fabric} {s : Session} {process : BgpProcess}
  {neighbor : Neighbor} {policy : Option String} {x : Route} {draft : RouteDraft} {e : NetworkError}

section Names

variable {v : Vrf} {name : String}

theorem settings_of_process (own : r.bgpProcess? = some process) :
    ∃ v, r.settings? = some v ∧ v.bgp = some process :=
  Option.bind_eq_some_iff.1 own

theorem settings_of_ospfProcess {process : OspfProcess} (own : r.ospfProcess? = some process) :
    ∃ v, r.settings? = some v ∧ v.ospf = some process :=
  Option.bind_eq_some_iff.1 own

theorem mem_namedPolicies_of_neighbor (listed : neighbor ∈ process.neighbors)
    (named : name ∈ neighbor.namedPolicies) : name ∈ process.namedPolicies :=
  List.mem_append_right _ (List.mem_flatMap.2 ⟨neighbor, listed, named⟩)

theorem defined_of_process (referenced : r.configuration.IsWellReferenced)
    (own : r.bgpProcess? = some process) (named : name ∈ process.namedPolicies) :
    r.configuration.Defines name := by
  obtain ⟨v, found, bgp⟩ := settings_of_process own
  refine referenced.named v (List.mem_map.2 ⟨_, SortedMap.mem_toList_iff.2 found, rfl⟩) name ?_
  refine List.mem_append_right _ (List.mem_flatMap.2 ⟨process, ?_, named⟩)
  rw [bgp]
  exact List.mem_singleton_self process

theorem defined_of_neighbor {peer : Address} (referenced : r.configuration.IsWellReferenced)
    (own : r.bgpProcess? = some process) (found : process.neighbor? peer = some neighbor)
    (named : name ∈ neighbor.namedPolicies) : r.configuration.Defines name :=
  defined_of_process referenced own
    (mem_namedPolicies_of_neighbor (List.mem_of_find?_eq_some found) named)

theorem defined_of_ospf {process : OspfProcess} (referenced : r.configuration.IsWellReferenced)
    (own : r.ospfProcess? = some process) (named : process.exportPolicy = some name) :
    r.configuration.Defines name := by
  obtain ⟨v, found, ospf⟩ := settings_of_ospfProcess own
  refine referenced.named v (List.mem_map.2 ⟨_, SortedMap.mem_toList_iff.2 found, rfl⟩) name ?_
  refine List.mem_append_left _ (List.mem_append_right _ ?_)
  rw [ospf, Option.bind_some, named]
  exact List.mem_singleton_self name

theorem defined_of_generated {g : GeneratedRoute} (referenced : r.configuration.IsWellReferenced)
    (listed : g ∈ (r.settings?.map (·.generatedRoutes)).getD []) (named : g.policy = some name) :
    r.configuration.Defines name := by
  cases found : r.settings? with
  | none =>
    rw [found] at listed
    cases listed
  | some v =>
    rw [found] at listed
    refine referenced.named v (List.mem_map.2 ⟨_, SortedMap.mem_toList_iff.2 found, rfl⟩) name ?_
    exact List.mem_append_left _ (List.mem_append_left _ (List.mem_filterMap.2 ⟨g, listed, named⟩))

end Names

section Policies

variable (context : PolicyContext) (sound : context.configuration.HasSoundPolicies)
  (defined : ∀ name ∈ policy, context.configuration.Defines name)
include sound defined

theorem liftPolicy_total : liftPolicy (context.apply policy x draft) ≠ .error e := by
  obtain ⟨outcome, applied⟩ := context.apply_total (r := x) sound defined draft
  rw [applied]
  exact fun never => by cases never

/-- What a policy makes of a complete draft is complete. -/
theorem accepted_total {b : Route} (built : draft.build = .ok b) :
    accepted? context policy x draft ≠ .error e := by
  intro failed
  rcases bind_eq_error.1 failed with unlifted | ⟨⟨verdict, edited⟩, applied, outcome⟩
  · exact liftPolicy_total context sound defined unlifted
  · obtain ⟨p, rfl⟩ := error_of_accepted built failed
    cases verdict with
    | false => cases outcome
    | true =>
      have unbuilt := map_eq_error.1 outcome
      cases again : edited.build <;> rw [again] at unbuilt <;> cases unbuilt

theorem anyAccepted_total (contributors : List Route) :
    anyAccepted context policy contributors ≠ .error e := by
  induction contributors with
  | nil => exact fun never => by cases never
  | cons first rest ih =>
    intro failed
    rcases bind_eq_error.1 failed with unlifted | ⟨⟨verdict, edited⟩, -, failed⟩
    · exact liftPolicy_total context sound defined unlifted
    · cases verdict with
      | false => exact ih failed
      | true => cases failed

end Policies

section Local

variable (referenced : r.configuration.IsWellReferenced)
include referenced

theorem judge_total {waiting : List GeneratedRoute}
    (defined : ∀ g ∈ waiting, ∀ name ∈ g.policy, r.configuration.Defines name) :
    r.judge waiting ≠ .error e := by
  intro failed
  obtain ⟨g, member, failed⟩ := error_of_mapM failed
  rcases bind_eq_error.1 failed with unjudged | ⟨_, -, never⟩
  · exact anyAccepted_total r.policyContext referenced.policies (defined g member) _ unjudged
  · cases never

theorem activateGeneratedFrom_total {rounds : Nat} {waiting : List GeneratedRoute}
    (defined : ∀ g ∈ waiting, ∀ name ∈ g.policy, r.configuration.Defines name) :
    (activateGeneratedFrom rounds waiting r).2 ≠ .error e := by
  induction rounds generalizing waiting r with
  | zero => exact fun never => by cases never
  | succ rounds ih =>
    rw [activateGeneratedFrom]
    cases judgement : r.judge waiting with
    | error e' => exact absurd judgement (judge_total referenced defined)
    | ok judged =>
      dsimp only
      split
      · exact fun never => by cases never
      · -- What is looked at again has been waiting already.
        have later : ∀ g ∈ (judged.filter (!·.2)).map (·.1), g ∈ waiting := by
          intro g member
          obtain ⟨j, kept, rfl⟩ := List.mem_map.1 member
          obtain ⟨g, source, outcome⟩ :=
            source_of_mem (mapM_eq_ok.1 judgement) (List.mem_filter.1 kept).1
          obtain ⟨_, -, same⟩ := bind_eq_ok.1 outcome
          cases same
          exact source
        intro failed
        exact ih (r := (r.installGenerated _).1) referenced (fun g member => defined g (later g member))
          (map_eq_error.1 failed)

theorem activateGenerated_total : r.activateGenerated.2 ≠ .error e :=
  activateGeneratedFrom_total referenced fun _ listed _ named =>
    defined_of_generated referenced listed named

theorem initOspfExports_total : r.initOspfExports ≠ .error e := by
  rw [initOspfExports]
  split
  · exact fun never => by cases never
  next process own =>
    split
    · exact fun never => by cases never
    next policy named =>
      intro failed
      rcases bind_eq_error.1 failed with failed | ⟨_, -, never⟩
      · obtain ⟨route, -, failed⟩ := error_of_filterMapM failed
        have defined : ∀ name ∈ some policy, r.configuration.Defines name := by
          rintro _ ⟨⟩
          exact defined_of_ospf referenced own named
        exact accepted_total r.policyContext referenced.policies defined
          (exportDraft_complete r process route) failed
      · cases never

end Local

section Bgp

theorem builds_total {drafts : List RouteDraft} (complete : ∀ d ∈ drafts, ∃ b, d.build = .ok b) :
    drafts.mapM (fun d => liftRoute d.build) ≠ .error e := by
  intro failed
  obtain ⟨d, member, unbuilt⟩ := error_of_mapM failed
  obtain ⟨b, built⟩ := complete d member
  rw [built] at unbuilt
  cases unbuilt

variable (referenced : r.configuration.IsWellReferenced)
include referenced

theorem importAnnouncement_total (own : r.bgpProcess? = some process) (a : Announcement) :
    r.importAnnouncement process a ≠ .error e := by
  rw [importAnnouncement]
  split
  · exact fun never => by cases never
  next neighbor found =>
    dsimp only
    split
    · exact fun never => by cases never
    · intro failed
      have allowed (external : Bool) : (announcedRoute a neighbor external).kind.allows
          (announcedRoute a neighbor external).protocol = true := by
        cases external <;> rfl
      rcases bind_eq_error.1 failed with failed | ⟨_, -, never⟩
      · exact accepted_total (r.sessionContext .incoming _ a.peer) referenced.policies
          (fun name named => defined_of_neighbor referenced own found
            (List.mem_append_left _ (Option.mem_toList.2 named)))
          (RouteDraft.build_ofRoute _ (allowed _)) failed
      · cases never

theorem initBgp_total (announcements : List Announcement) : r.initBgp announcements ≠ .error e := by
  rw [initBgp]
  split
  · exact fun never => by cases never
  next process own =>
    intro failed
    rcases bind_eq_error.1 failed with failed | ⟨_, -, never⟩
    · obtain ⟨a, -, failed⟩ := error_of_filterMapM failed
      exact importAnnouncement_total referenced own a failed
    · cases never

theorem redistributed_total (own : r.bgpProcess? = some process) :
    r.redistributed process ≠ .error e := by
  rw [redistributed]
  split
  · exact fun never => by cases never
  next policy named =>
    intro failed
    obtain ⟨source, -, failed⟩ := error_of_filterMapM failed
    have defined : ∀ name ∈ some policy, r.configuration.Defines name := by
      rintro _ ⟨⟩
      exact defined_of_process referenced own
        (List.mem_append_left _ (Option.mem_toList.2 named))
    exact accepted_total r.policyContext referenced.policies defined rfl failed

theorem originated_total (own : r.bgpProcess? = some process) : r.originated process ≠ .error e := by
  intro failed
  rcases bind_eq_error.1 failed with failed | ⟨_, -, failed⟩
  · refine builds_total (fun d source => ?_) failed
    obtain ⟨network, -, found⟩ := List.mem_filterMap.1 source
    obtain ⟨_, -, found⟩ := Option.bind_eq_some_iff.1 found
    obtain ⟨_, -, same⟩ := Option.bind_eq_some_iff.1 found
    cases same
    exact ⟨_, rfl⟩
  · rcases bind_eq_error.1 failed with failed | ⟨_, -, failed⟩
    · exact redistributed_total referenced own failed
    · rcases bind_eq_error.1 failed with failed | ⟨_, -, never⟩
      · refine builds_total (fun d source => ?_) failed
        obtain ⟨network, -, found⟩ := List.mem_filterMap.1 source
        dsimp only at found
        split at found <;> cases found
        exact ⟨_, rfl⟩
      · cases never

theorem originateBgp_total : r.originateBgp ≠ .error e := by
  rw [originateBgp]
  split
  · exact fun never => by cases never
  next process own =>
    intro failed
    rcases bind_eq_error.1 failed with failed | ⟨_, -, never⟩
    · exact originated_total referenced own failed
    · cases never

theorem send_total (own : r.bgpProcess? = some process)
    (found : process.neighbor? s.sender.peer = some neighbor) :
    r.send? x s neighbor process ≠ .error e := by
  rw [send?]
  split
  · exact fun never => by cases never
  · split
    · intro failed
      rcases bind_eq_error.1 failed with unlifted | ⟨_, -, never⟩
      · exact liftPolicy_total (r.sessionContext .outgoing _ _) referenced.policies
          (fun name named => defined_of_neighbor referenced own found
            (List.mem_append_right _ (Option.mem_toList.2 named))) unlifted
      · cases never
    · exact fun never => by cases never

theorem receive_total {b : Route} {peer : Address} (own : r.bgpProcess? = some process)
    (found : process.neighbor? peer = some neighbor) (built : draft.build = .ok b)
    (bgp : b.isBgpKind = true) : r.receive? draft s neighbor process ≠ .error e := by
  intro failed
  obtain ⟨c, arrived, -, -, -, again⟩ := arriving_complete Set.univ built bgp s neighbor
  rcases bind_eq_error.1 failed with unbuilt | ⟨c', same, failed⟩
  · rw [arrived] at unbuilt
    cases unbuilt
  · rw [liftRoute_eq_ok, arrived] at same
    cases same
    split at failed
    · cases failed
    · split at failed
      · cases failed
      · exact accepted_total (r.sessionContext .incoming _ _) referenced.policies
          (fun name named => defined_of_neighbor referenced own found
            (List.mem_append_left _ (Option.mem_toList.2 named))) again failed

/-- A session does not fail if both of its ends are well-referenced. -/
theorem arrivals_total (others : ∀ o ∈ routers, o.configuration.IsWellReferenced)
    (own : r.bgpProcess? = some process) : r.arrivals routers process s ≠ .error e := by
  rw [arrivals]
  split
  next sender senderProcess senderNeighbor neighbor source found =>
    obtain ⟨member, -, -, theirs, entry⟩ := of_senderOf source
    intro failed
    obtain ⟨route, -, failed⟩ := error_of_filterMapM failed
    rcases bind_eq_error.1 failed with unsent | ⟨sent, first, failed⟩
    · exact send_total (others sender member) theirs entry unsent
    · cases sent with
      | none => cases failed
      | some draft =>
        obtain ⟨b, built, -, bgp, -⟩ := send_complete Set.univ (fun _ _ => trivial) first
        exact receive_total referenced own found built bgp failed
  next => exact fun never => by cases never

theorem gatherBgp_total (others : ∀ o ∈ routers, o.configuration.IsWellReferenced) :
    r.gatherBgp f routers ≠ .error e := by
  rw [gatherBgp]
  split
  · exact fun never => by cases never
  next process own =>
    intro failed
    rcases bind_eq_error.1 (map_eq_error.1 failed) with failed | ⟨_, -, never⟩
    · obtain ⟨s, -, failed⟩ := error_of_mapM failed
      rcases bind_eq_error.1 failed with failed | ⟨_, -, never⟩
      · exact arrivals_total referenced others own failed
      · cases never
    · cases never

end Bgp

end Router

end RoutePlane
