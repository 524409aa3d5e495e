import RoutePlane.Proofs.RouteMap.Effects
import RoutePlane.Router.Bgp

/-! What arrives over BGP sessions. Every arriving route is what the policies on both sides made of a
route that the sender holds in its combined table. It is a BGP route again, it names no interface but
those of that route and of the policies, and only a policy can fail on the way. -/
namespace RoutePlane

open Fallible

def bgpPool (known : Set String) : Set Route :=
  {r | r.isBgpKind = true ∧ r.nextHop.Within known}

theorem Route.isBgpKind_iff {r : Route} : r.isBgpKind = true ↔ r.kind.rank = 2 := by
  cases kind : r.kind <;> simp [isBgpKind, bgp?, RouteKind.bgp?, RouteKind.rank, kind]

theorem bgpPool_suits {known : Set String} : ∀ x ∈ bgpPool known, RibKind.bgp.Suits x :=
  fun _ member _ => member.1

theorem finite_bgpPool_ties {known : Set String} (finite : known.Finite) (rank : Rank) :
    {r | r ∈ bgpPool known ∧ RibKind.rank .bgp r = rank}.Finite := by
  refine (finite_bgp_ties finite rank).subset ?_
  rintro r ⟨⟨bgp, hop⟩, tied⟩
  refine ⟨Route.within_iff.2 ⟨hop, fun d ospf => ?_⟩, tied⟩
  rw [Route.isBgpKind, Route.bgp?] at bgp
  rw [Route.ospf?] at ospf
  cases kind : r.kind <;> rw [kind] at bgp ospf
  · cases ospf
  · cases bgp
  · cases ospf

namespace Router

variable {known : Set String} {routers : List Router} {r sender : Router} {route x : Route}
  {s : Session} {neighbor senderNeighbor : Neighbor} {process senderProcess : BgpProcess}
  {draft : RouteDraft} {e : NetworkError}

def policyNames (r : Router) : List String :=
  r.configuration.actions.flatMap RouteMap.Action.names

theorem policyNames_known (names : ∀ n ∈ r.policyNames, n ∈ known) :
    ∀ a ∈ r.configuration.actions, ∀ n ∈ a.names, n ∈ known :=
  fun a action n name => names n (List.mem_flatMap.2 ⟨a, action, name⟩)

section Drafts

open RouteDraft EditedTo

theorem address_within (a : Address) : (NextHop.address a).Within known := by
  simp [NextHop.Within, NextHop.names, NextHop.interface?]

theorem externalDraft_edited :
    draft.EditedTo known (externalDraft route s process draft) := by
  have drafted : draft.EditedTo known (draft.prependAs s.senderAs
      |>.setLocalPreference defaultLocalPreference |>.setClusterList .empty
      |>.setOriginator process.routerId |>.setNextHop (.address s.senderAddress)) :=
    (modifyBgp known _ _).trans ((modifyBgp known _ _).trans ((modifyBgp known _ _).trans
      ((modifyBgp known _ _).trans (setNextHop (address_within _)))))
  rw [externalDraft]
  split
  · exact drafted
  · exact drafted.trans ⟨rfl, rfl, rfl, fun h some => ⟨h, some, id⟩⟩

theorem internalDraft_edited :
    draft.EditedTo known (internalDraft route s process neighbor draft) := by
  have drafted : draft.EditedTo known
      (if neighbor.nextHopSelf || route.isLocal || route.nextHop.address?.isNone then
        draft.setNextHop (.address s.senderAddress)
      else draft) := by
    split
    · exact setNextHop (address_within _)
    · exact refl known draft
  rw [internalDraft]
  split
  · exact drafted.trans (modifyBgp known _ _)
  · exact drafted.trans (modifyBgp known _ _)

/-- Sending changes the protocol, and edits the rest. -/
theorem sentDraft_edited : ((ofRoute route).setProtocol .bgp).EditedTo known
    (sentDraft route s process neighbor) := by
  have weighed := modifyBgp known ((ofRoute route).setProtocol .bgp) fun data =>
    { data with attributes := { data.attributes with weight := 0 } }
  have drafted : ((ofRoute route).setProtocol .bgp).EditedTo known
      (if s.type.isExternal then
        externalDraft route s process (((ofRoute route).setProtocol .bgp).setWeight 0)
      else internalDraft route s process neighbor (((ofRoute route).setProtocol .bgp).setWeight 0)) := by
    split
    · exact weighed.trans externalDraft_edited
    · exact weighed.trans internalDraft_edited
  rw [sentDraft]
  split
  · exact drafted
  · exact drafted.trans (modifyBgp known _ _)

theorem arrivingDraft_edited (known : Set String) (s : Session) (neighbor : Neighbor)
    (draft : RouteDraft) :
    (draft.setProtocol (if s.type.isExternal then Protocol.bgp else Protocol.ibgp)).EditedTo known
      (arrivingDraft s neighbor draft) := by
  have distanced (d : RouteDraft) (distance : UInt32) : d.EditedTo known (d.setDistance distance) :=
    ⟨rfl, rfl, rfl, fun h some => ⟨h, some, id⟩⟩
  exact (distanced _ _).trans ((modifyBgp known _ _).trans ((modifyBgp known _ _).trans
    ((modifyBgp known _ _).trans (modifyBgp known _ _))))

theorem build_setProtocol {b : Route} {protocol : Protocol} (built : draft.build = .ok b)
    (bgp : b.isBgpKind = true) (allowed : protocol.isBgp = true) :
    ∃ c, (draft.setProtocol protocol).build = .ok c ∧ c.network = b.network ∧
      c.isBgpKind = true ∧ c.nextHop = b.nextHop := by
  obtain ⟨network, -, hop, kind, -⟩ := build_eq_ok built
  have allows : b.kind.allows protocol = true := by
    rw [Route.isBgpKind, Route.bgp?] at bgp
    cases same : b.kind <;> rw [same] at bgp <;> cases bgp
    simp [RouteKind.allows, allowed]
  simp [RouteDraft.build, setProtocol, network, hop, kind, allows]
  exact bgp

theorem build_underBgp (bgp : route.isBgpKind = true) :
    ((ofRoute route).setProtocol .bgp).build = .ok { route with protocol := .bgp } := by
  rw [Route.isBgpKind, Route.bgp?] at bgp
  cases kind : route.kind <;> rw [kind] at bgp <;> cases bgp
  simp [RouteDraft.build, setProtocol, ofRoute, kind, RouteKind.allows, Protocol.isBgp]

end Drafts

theorem send_complete (known : Set String) (names : ∀ n ∈ sender.policyNames, n ∈ known)
    (sent : sender.send? route s senderNeighbor senderProcess = .ok (some draft)) :
    ∃ b, draft.build = .ok b ∧ b.network = route.network ∧ b.isBgpKind = true ∧
      (route.nextHop.Within known → b.nextHop.Within known) := by
  rw [send?] at sent
  cases attributes : route.attributes? with
  | none =>
    rw [attributes] at sent
    cases sent
  | some a =>
    rw [attributes] at sent
    dsimp only at sent
    split at sent
    next =>
      obtain ⟨⟨accepted, edited⟩, applied, kept⟩ := bind_eq_ok.1 sent
      have same : edited = draft := by
        cases accepted <;> cases kept
        rfl
      subst same
      have bgp : route.isBgpKind = true := by
        rw [Route.attributes?, Option.map_eq_some_iff] at attributes
        obtain ⟨data, found, -⟩ := attributes
        rw [Route.isBgpKind, found]
        rfl
      have edits := sentDraft_edited.trans (RouteDraft.EditedTo.apply (policyNames_known names)
        (liftPolicy_eq_ok.1 applied))
      obtain ⟨b, built, network, -, rank, hop⟩ := edits.build (build_underBgp bgp)
      exact ⟨b, built, network, Route.isBgpKind_iff.2 (rank.trans (Route.isBgpKind_iff.1 bgp)), hop⟩
    next => cases sent

theorem error_of_send (failed : sender.send? route s senderNeighbor senderProcess = .error e) :
    ∃ p, e = .policy p := by
  rw [send?] at failed
  split at failed
  · cases failed
  · split at failed
    · rcases bind_eq_error.1 failed with unlifted | ⟨_, -, never⟩
      · exact error_of_liftPolicy unlifted
      · cases never
    · cases failed

/-- What is received of a complete draft, before the import policy. -/
theorem arriving_complete (known : Set String) {b : Route} (built : draft.build = .ok b)
    (bgp : b.isBgpKind = true)
    (s : Session) (neighbor : Neighbor) :
    ∃ c, (arrivingDraft s neighbor draft).build = .ok c ∧ c.network = b.network ∧
      c.isBgpKind = true ∧ (b.nextHop.Within known → c.nextHop.Within known) ∧
      (RouteDraft.ofRoute c).build = .ok c := by
  have allowed : (if s.type.isExternal then Protocol.bgp else Protocol.ibgp).isBgp = true := by
    split <;> rfl
  obtain ⟨c, again, network, still, hop⟩ := build_setProtocol built bgp allowed
  obtain ⟨d, arrived, network', -, rank, hop'⟩ :=
    (arrivingDraft_edited known s neighbor draft).build again
  refine ⟨d, arrived, network'.trans network,
    Route.isBgpKind_iff.2 (rank.trans (Route.isBgpKind_iff.1 still)), fun within => ?_,
    RouteDraft.build_ofRoute d (RouteDraft.build_eq_ok arrived).2.2.2.2⟩
  exact hop' (hop ▸ within)

theorem receive_some (names : ∀ n ∈ r.policyNames, n ∈ known) {b : Route}
    (built : draft.build = .ok b) (bgp : b.isBgpKind = true)
    (received : r.receive? draft s neighbor process = .ok (some x)) :
    x.network = b.network ∧ x.isBgpKind = true ∧
      (b.nextHop.Within known → x.nextHop.Within known) := by
  obtain ⟨c, arrived, network, still, hop, again⟩ :=
    arriving_complete known built bgp s neighbor
  obtain ⟨c', same, received⟩ := bind_eq_ok.1 received
  rw [liftRoute_eq_ok, arrived] at same
  cases same
  split at received
  · cases received
  · split at received
    · cases received
    · obtain ⟨network', -, rank, hop'⟩ := accepted_some known (policyNames_known names) again received
      exact ⟨network'.trans network,
        Route.isBgpKind_iff.2 (rank.trans (Route.isBgpKind_iff.1 still)), hop' ∘ hop⟩

theorem error_of_receive {b : Route} (built : draft.build = .ok b) (bgp : b.isBgpKind = true)
    (failed : r.receive? draft s neighbor process = .error e) : ∃ p, e = .policy p := by
  obtain ⟨c, arrived, -, -, -, again⟩ :=
    arriving_complete Set.univ built bgp s neighbor
  rcases bind_eq_error.1 failed with unbuilt | ⟨c', same, failed⟩
  · rw [arrived] at unbuilt
    cases unbuilt
  · rw [liftRoute_eq_ok, arrived] at same
    cases same
    split at failed
    · cases failed
    · split at failed
      · cases failed
      · exact error_of_accepted again failed

/-- The route is what arrives over the session of one that the sender holds. -/
def Conveys (routers : List Router) (r : Router) (process : BgpProcess) (s : Session)
    (x : Route) : Prop :=
  ∃ sender senderProcess senderNeighbor neighbor, ∃ route draft,
    senderOf? routers s = some (sender, senderProcess, senderNeighbor) ∧
    process.neighbor? s.receiver.peer = some neighbor ∧
    route ∈ sender.bgp.combined.routes ∧
    sender.send? route s senderNeighbor senderProcess = .ok (some draft) ∧
    r.receive? draft s neighbor process = .ok (some x)

/-- A session of the router conveys the route; whether it is an external one. -/
def Hears (f : Fabric) (routers : List Router) (r : Router) (external : Bool) (x : Route) : Prop :=
  ∃ process, r.bgpProcess? = some process ∧ ∃ s ∈ f.sessions.incoming r.hostname r.vrf,
    s.type.isExternal = external ∧ Conveys routers r process s x

theorem of_senderOf (found : senderOf? routers s = some (sender, senderProcess, senderNeighbor)) :
    sender ∈ routers ∧ sender.hostname = s.sender.node ∧ sender.vrf = s.sender.vrf ∧
      sender.bgpProcess? = some senderProcess ∧
      senderProcess.neighbor? s.sender.peer = some senderNeighbor := by
  obtain ⟨router, search, found⟩ := Option.bind_eq_some_iff.1 found
  obtain ⟨process, own, found⟩ := Option.bind_eq_some_iff.1 found
  obtain ⟨neighbor, entry, same⟩ := Option.bind_eq_some_iff.1 found
  cases same
  have fits := List.find?_some search
  rw [Bool.and_eq_true, beq_iff_eq, beq_iff_eq] at fits
  exact ⟨List.mem_of_find?_eq_some search, fits.1, fits.2, own, entry⟩

theorem mem_arrivals {l : List Route} (arrived : r.arrivals routers process s = .ok l) :
    x ∈ l ↔ Conveys routers r process s x := by
  rw [arrivals] at arrived
  constructor
  · intro member
    split at arrived
    next sender senderProcess senderNeighbor neighbor found own =>
      obtain ⟨route, held, outcome⟩ := (mem_filterMapM arrived).1 member
      obtain ⟨sent, first, outcome⟩ := bind_eq_ok.1 outcome
      cases sent with
      | none => cases outcome
      | some draft =>
        exact ⟨sender, senderProcess, senderNeighbor, neighbor, route, draft, found, own, held, first,
          outcome⟩
    next =>
      cases arrived
      exact absurd member List.not_mem_nil
  · rintro ⟨sender, senderProcess, senderNeighbor, neighbor, route, draft, found, own, held, first,
      second⟩
    rw [found, own] at arrived
    refine (mem_filterMapM arrived).2 ⟨route, held, bind_eq_ok.2 ⟨some draft, first, second⟩⟩

theorem error_of_arrivals (failed : r.arrivals routers process s = .error e) :
    ∃ p, e = .policy p := by
  rw [arrivals] at failed
  split at failed
  next sender senderProcess senderNeighbor neighbor found own =>
    obtain ⟨route, -, failed⟩ := error_of_filterMapM failed
    rcases bind_eq_error.1 failed with unsent | ⟨sent, first, failed⟩
    · exact error_of_send unsent
    · cases sent with
      | none => cases failed
      | some draft =>
        obtain ⟨b, built, -, bgp, -⟩ := send_complete Set.univ (fun _ _ => trivial) first
        exact error_of_receive built bgp failed
  next => cases failed

/-- What arrives names no unknown interface, if no policy and no held route does. -/
theorem Conveys.mem_bgpPool (names : ∀ r ∈ routers, ∀ n ∈ r.policyNames, n ∈ known)
    (own : ∀ n ∈ r.policyNames, n ∈ known)
    (held : ∀ r ∈ routers, ∀ x ∈ r.bgp.combined.routes, x ∈ bgpPool known)
    (conveys : Conveys routers r process s x) : x ∈ bgpPool known := by
  obtain ⟨sender, senderProcess, senderNeighbor, neighbor, route, draft, found, -, member, sent,
    received⟩ := conveys
  obtain ⟨source, -⟩ := of_senderOf found
  obtain ⟨b, built, -, bgp, hop⟩ := send_complete known (names sender source) sent
  obtain ⟨-, still, hop'⟩ := receive_some own built bgp received
  exact ⟨still, hop' (hop (held sender source route member).2)⟩

/-- What arrives over the sessions of a router, by their type. -/
theorem mem_bgpArrivals {f : Fabric} {external internal : List Route}
    (arrived : r.bgpArrivals f routers process = .ok (external, internal)) :
    (x ∈ external ↔ ∃ s ∈ f.sessions.incoming r.hostname r.vrf,
        s.type.isExternal = true ∧ Conveys routers r process s x) ∧
      (x ∈ internal ↔ ∃ s ∈ f.sessions.incoming r.hostname r.vrf,
        s.type.isExternal = false ∧ Conveys routers r process s x) := by
  obtain ⟨batches, all, same⟩ := bind_eq_ok.1 arrived
  cases same
  have batch (type : Bool) : (∃ b ∈ batches, b.1 = type ∧ x ∈ b.2) ↔
      ∃ s ∈ f.sessions.incoming r.hostname r.vrf, s.type.isExternal = type ∧
        Conveys routers r process s x := by
    rw [mapM_eq_ok] at all
    clear arrived
    generalize f.sessions.incoming r.hostname r.vrf = sessions at all ⊢
    induction all with
    | nil => simp
    | cons first rest ih =>
      obtain ⟨l, arrivals, same⟩ := bind_eq_ok.1 first
      cases same
      simp only [List.mem_cons, or_and_right, exists_or, exists_eq_left, ih, mem_arrivals arrivals]
  constructor
  · rw [← batch]
    simp [List.mem_flatMap, and_assoc]
  · rw [← batch]
    simp [List.mem_flatMap, and_assoc]

theorem error_of_gatherBgp {f : Fabric} (failed : r.gatherBgp f routers = .error e) :
    ∃ p, e = .policy p := by
  rw [gatherBgp] at failed
  split at failed
  · cases failed
  · rcases bind_eq_error.1 (map_eq_error.1 failed) with failed | ⟨_, -, never⟩
    · obtain ⟨s, -, failed⟩ := error_of_mapM failed
      rcases bind_eq_error.1 failed with failed | ⟨_, -, never⟩
      · exact error_of_arrivals failed
      · cases never
    · cases never

end Router

end RoutePlane
