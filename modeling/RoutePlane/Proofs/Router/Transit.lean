import RoutePlane.Proofs.Router.Arrivals

/-! What becomes of a route on its way over a session, attribute by attribute. The sender edits the
attributes, then its policy does; the receiver edits them again, looks for loops, and applies its own
policy. What no policy touches is settled by the two edits alone, and without policies so is the whole
route. -/
namespace RoutePlane

open Fallible

theorem Route.kind_of_attributes {r : Route} {a : BgpAttributes} (found : r.attributes? = some a) :
    ∃ data, r.kind = .bgp data ∧ data.attributes = a := by
  obtain ⟨data, bgp, same⟩ := Option.map_eq_some_iff.1 found
  cases kind : r.kind <;> rw [bgp?, kind] at bgp <;> cases bgp
  exact ⟨_, rfl, same⟩

theorem Route.isBgpKind_of_attributes {r : Route} {a : BgpAttributes} (found : r.attributes? = some a) :
    r.isBgpKind = true := by
  obtain ⟨data, kind, -⟩ := kind_of_attributes found
  rw [isBgpKind, bgp?, kind]
  rfl

namespace RouteDraft

@[simp] theorem attributes?_modifyAttributes (d : RouteDraft) (edit : BgpAttributes → BgpAttributes) :
    (d.modifyAttributes edit).attributes? = d.attributes?.map edit := by
  obtain ⟨_, _, _, _, _, _, _, _, kind⟩ := d
  cases kind <;> rfl

theorem attributes?_of_build {d : RouteDraft} {r : Route} (built : d.build = .ok r) :
    r.attributes? = d.attributes? := by
  obtain ⟨-, -, -, kind, -⟩ := build_eq_ok built
  rw [attributes?, kind]
  rfl

end RouteDraft

/-- No policy of the device changes what is seen of the attributes. -/
def Configuration.Spares {κ : Type} (c : Configuration) (see : BgpAttributes → κ) : Prop :=
  ∀ a ∈ c.actions, ∀ d : RouteDraft, (a.apply d).attributes?.map see = d.attributes?.map see

def RouteMap.Action.edit : RouteMap.Action → BgpAttributes → BgpAttributes
  | weight w => ({ · with weight := w })
  | localPreference p => ({ · with localPreference := p })
  | origin o => ({ · with originType := o })
  | addCommunity c => fun a => { a with communities := a.communities.insert c }
  | deleteCommunity c => fun a => { a with communities := a.communities.erase c }
  | prependAsPath sequence => fun a => { a with asPath := a.asPath.prependAll sequence }
  | nextHop _ | metric _ | tag _ => id

theorem RouteDraft.attributes?_apply (a : RouteMap.Action) (d : RouteDraft) :
    (a.apply d).attributes? = d.attributes?.map a.edit := by
  cases a with
  | nextHop | metric | tag => exact Option.map_id'.symm
  | _ => exact attributes?_modifyAttributes d _

theorem Configuration.spares_of_edits {κ : Type} {c : Configuration} {see : BgpAttributes → κ}
    (unseen : ∀ a ∈ c.actions, ∀ b, see (a.edit b) = see b) : c.Spares see := by
  intro a action d
  rw [RouteDraft.attributes?_apply, Option.map_map]
  exact congrArg (Option.map · _) (funext (unseen a action))

namespace Router

variable {κ : Type} {see : BgpAttributes → κ} {r sender : Router} {route x : Route} {s : Session}
  {neighbor senderNeighbor : Neighbor} {process senderProcess : BgpProcess} {draft : RouteDraft}
  {a : BgpAttributes} {data : BgpData} {context : PolicyContext} {policy : Option String}

def externalAttributes (s : Session) (process : BgpProcess) (a : BgpAttributes) : BgpAttributes :=
  { a with
    asPath := a.asPath.prepend s.senderAs
    localPreference := defaultLocalPreference
    clusterList := .empty
    originator := process.routerId }

def internalAttributes (route : Route) (process : BgpProcess) (a : BgpAttributes) : BgpAttributes :=
  if route.protocol = .ibgp then { a with clusterList := a.clusterList.insert process.cluster }
  else { a with originator := process.routerId }

def sentAttributes (route : Route) (s : Session) (process : BgpProcess) (neighbor : Neighbor) :
    BgpAttributes → BgpAttributes :=
  let edit := if s.type.isExternal then externalAttributes s process
    else internalAttributes route process
  if neighbor.sendCommunity then fun a => edit { a with weight := 0 }
  else fun a => { edit { a with weight := 0 } with communities := .empty }

def arrivedAttributes (neighbor : Neighbor) (a : BgpAttributes) : BgpAttributes :=
  { a with
    fromReflectorClient := neighbor.reflectorClient
    originMechanism := .learned
    weight := 0 }

theorem sentAttributes_external (external : s.type.isExternal = true) :
    (sentAttributes route s process neighbor a).asPath = a.asPath.prepend s.senderAs ∧
      (sentAttributes route s process neighbor a).localPreference = defaultLocalPreference ∧
      (sentAttributes route s process neighbor a).clusterList = .empty := by
  rw [sentAttributes, if_pos external]
  split <;> exact ⟨rfl, rfl, rfl⟩

/-- Inside a system only a reflector adds itself to a reflected route, and the router that has brought
in the route names itself. -/
theorem sentAttributes_internal (inside : s.type.isExternal = false) :
    (sentAttributes route s process neighbor a).asPath = a.asPath ∧
      (sentAttributes route s process neighbor a).clusterList =
        (if route.protocol = .ibgp then a.clusterList.insert process.cluster else a.clusterList) ∧
      (sentAttributes route s process neighbor a).originator =
        if route.protocol = .ibgp then a.originator else process.routerId := by
  rw [sentAttributes, if_neg (Bool.eq_false_iff.1 inside)]
  by_cases learned : route.protocol = .ibgp <;>
    simp only [internalAttributes, learned, if_true, if_false] <;> split <;> exact ⟨rfl, rfl, rfl⟩

theorem attributes_externalDraft : (externalDraft route s process draft).attributes? =
    draft.attributes?.map (externalAttributes s process) := by
  obtain ⟨_, _, _, _, _, _, _, _, kind⟩ := draft
  rw [externalDraft]
  split <;> cases kind <;> rfl

theorem attributes_internalDraft : (internalDraft route s process neighbor draft).attributes? =
    draft.attributes?.map (internalAttributes route process) := by
  have hopped : (if neighbor.nextHopSelf || route.isLocal || route.nextHop.address?.isNone then
      draft.setNextHop (.address s.senderAddress) else draft).attributes? = draft.attributes? := by
    split <;> rfl
  rw [internalDraft]
  by_cases learned : route.protocol = .ibgp
  · have edit : internalAttributes route process = fun a =>
        { a with clusterList := a.clusterList.insert process.cluster } :=
      funext fun a => if_pos learned
    rw [if_pos learned, edit, ← hopped]
    exact RouteDraft.attributes?_modifyAttributes _ _
  · have edit : internalAttributes route process = fun a =>
        { a with originator := process.routerId } :=
      funext fun a => if_neg learned
    rw [if_neg learned, edit, ← hopped]
    exact RouteDraft.attributes?_modifyAttributes _ _

theorem attributes_sentDraft : (sentDraft route s process neighbor).attributes? =
    route.attributes?.map (sentAttributes route s process neighbor) := by
  have weighed : (((RouteDraft.ofRoute route).setProtocol .bgp).setWeight 0).attributes? =
      route.attributes?.map fun a => { a with weight := 0 } :=
    RouteDraft.attributes?_modifyAttributes _ _
  have cleared (d : RouteDraft) : (d.setCommunities .empty).attributes? =
      d.attributes?.map ({ · with communities := .empty }) :=
    RouteDraft.attributes?_modifyAttributes _ _
  rw [sentDraft, sentAttributes]
  split <;> split
  · rw [attributes_externalDraft, weighed, Option.map_map]
    rfl
  · rw [attributes_internalDraft, weighed, Option.map_map]
    rfl
  · rw [cleared, attributes_externalDraft, weighed, Option.map_map, Option.map_map]
    rfl
  · rw [cleared, attributes_internalDraft, weighed, Option.map_map, Option.map_map]
    rfl

theorem attributes_arrivingDraft : (arrivingDraft s neighbor draft).attributes? =
    draft.attributes?.map (arrivedAttributes neighbor) := by
  obtain ⟨_, _, _, _, _, _, _, _, kind⟩ := draft
  cases kind <;> rfl

/-- A route is sent if it may be sent and the policy accepts it. -/
theorem send_ok (sent : sender.send? route s neighbor process = .ok (some draft)) :
    ∃ a, route.attributes? = some a ∧ maySend route a s neighbor = true ∧
      (sender.sessionContext .outgoing s.senderAddress s.receiverAddress).apply
        neighbor.exportPolicy route (sentDraft route s process neighbor) = .ok (true, draft) := by
  rw [send?] at sent
  split at sent
  next => cases sent
  next a found =>
    split at sent
    next may =>
      obtain ⟨⟨accepted, edited⟩, applied, kept⟩ := bind_eq_ok.1 sent
      cases accepted with
      | false => cases kept
      | true =>
        cases kept
        exact ⟨a, found, may, liftPolicy_eq_ok.1 applied⟩
    next => cases sent

/-- A route is received if it has not looped and the policy accepts it. -/
theorem receive_ok (received : r.receive? draft s neighbor process = .ok (some x)) :
    ∃ c a, (arrivingDraft s neighbor draft).build = .ok c ∧ draft.attributes? = some a ∧
      c.attributes? = some (arrivedAttributes neighbor a) ∧
      hasLooped s process (arrivedAttributes neighbor a) = false ∧
      accepted? (r.sessionContext .incoming s.receiverAddress s.senderAddress) neighbor.importPolicy c
        (.ofRoute c) = .ok (some x) := by
  obtain ⟨c, built, rest⟩ := bind_eq_ok.1 received
  rw [liftRoute_eq_ok] at built
  split at rest
  next => cases rest
  next b found =>
    split at rest
    next => cases rest
    next fresh =>
      have arrived : draft.attributes?.map (arrivedAttributes neighbor) = some b := by
        rw [← attributes_arrivingDraft, ← RouteDraft.attributes?_of_build built, found]
      obtain ⟨a, sent, rfl⟩ := Option.map_eq_some_iff.1 arrived
      exact ⟨c, a, built, sent, found, Bool.eq_false_iff.2 fresh, rest⟩

/-- What policies spare leaves the sender as the edit has made it. -/
theorem sent_see (spares : sender.configuration.Spares see) (found : route.attributes? = some a)
    {accepted : Bool}
    (applied : (sender.sessionContext .outgoing s.senderAddress s.receiverAddress).apply policy route
      (sentDraft route s process neighbor) = .ok (accepted, draft)) :
    draft.attributes?.map see = some (see (sentAttributes route s process neighbor a)) := by
  have same := PolicyContext.apply_view (fun d => d.attributes?.map see)
    (c := sender.sessionContext .outgoing s.senderAddress s.receiverAddress) spares (fun _ _ => rfl)
    applied
  rw [attributes_sentDraft, found] at same
  exact same

theorem accepted_see (spares : context.configuration.Spares see)
    (accepted : accepted? context policy route draft = .ok (some x)) :
    x.attributes?.map see = draft.attributes?.map see := by
  obtain ⟨edited, built, same⟩ :=
    accepted_view (fun d => d.attributes?.map see) spares (fun _ _ => rfl) accepted
  rw [RouteDraft.attributes?_of_build built, same]

section Unfiltered

/-- A route of another system as it arrives where no policy has a say. -/
def arrivedRoute (route : Route) (data : BgpData) (s : Session)
    (senderProcess : BgpProcess) (senderNeighbor neighbor : Neighbor) : Route where
  network := route.network
  protocol := .bgp
  distance := Protocol.defaultDistance .bgp
  metric := if route.isLocal then route.metric else 0
  nextHop := .address s.senderAddress
  tag := route.tag
  nonRouting := route.nonRouting
  nonForwarding := route.nonForwarding
  kind := .bgp {
    attributes := arrivedAttributes neighbor
      (sentAttributes route s senderProcess senderNeighbor data.attributes)
    pathId := data.pathId
    receivedFrom := s.senderAddress }

variable (external : s.type.isExternal = true)
include external

theorem receive_unfiltered (kind : route.kind = .bgp data) (own : neighbor.importPolicy = none) (c : PolicyContext) :
    r.receive? (c.resolveDraft (sentDraft route s senderProcess senderNeighbor)) s neighbor process =
      .ok (if hasLooped s process (arrivedAttributes neighbor
          (sentAttributes route s senderProcess senderNeighbor data.attributes)) then none
        else some (arrivedRoute route data s senderProcess senderNeighbor neighbor)) := by
  have arrives : (arrivingDraft s neighbor
      (c.resolveDraft (sentDraft route s senderProcess senderNeighbor))).build =
      .ok (arrivedRoute route data s senderProcess senderNeighbor neighbor) := by
    obtain ⟨_, _, _, _, _, _, _, _, _⟩ := route
    obtain rfl := kind
    rw [sentDraft, if_pos external, externalDraft, arrivedRoute, sentAttributes, if_pos external]
    split <;> split <;> rw [arrivingDraft, if_pos external] <;> rfl
  have again : (RouteDraft.ofRoute
      (arrivedRoute route data s senderProcess senderNeighbor neighbor)).build =
      .ok (arrivedRoute route data s senderProcess senderNeighbor neighbor) :=
    RouteDraft.build_ofRoute _ rfl
  rw [receive?, arrives, own]
  show (if _ then _ else _) = _
  split
  · rfl
  · show some <$> liftRoute (RouteDraft.ofRoute
      (arrivedRoute route data s senderProcess senderNeighbor neighbor)).build = _
    rw [again]
    rfl

/-- Where no policy has a say, a session conveys what may be sent and has not looped. -/
theorem conveys_unfiltered_iff {routers : List Router}
    (found : senderOf? routers s = some (sender, senderProcess, senderNeighbor))
    (listed : process.neighbor? s.receiver.peer = some neighbor)
    (outgoing : senderNeighbor.exportPolicy = none) (incoming : neighbor.importPolicy = none) :
    Conveys routers r process s x ↔ ∃ route ∈ sender.bgp.combined.routes, ∃ data,
      route.kind = .bgp data ∧ maySend route data.attributes s senderNeighbor = true ∧
      hasLooped s process (arrivedAttributes neighbor
        (sentAttributes route s senderProcess senderNeighbor data.attributes)) = false ∧
      x = arrivedRoute route data s senderProcess senderNeighbor neighbor := by
  constructor
  · rintro ⟨sender', senderProcess', senderNeighbor', neighbor', route, draft, found', listed', held,
      sent, received⟩
    cases found.symm.trans found'
    cases listed.symm.trans listed'
    obtain ⟨a, known, may, applied⟩ := send_ok sent
    rw [outgoing] at applied
    cases applied
    obtain ⟨data, kind, rfl⟩ := Route.kind_of_attributes known
    rw [receive_unfiltered external kind incoming] at received
    injection received with received
    split at received
    next => cases received
    next fresh =>
      exact ⟨route, held, data, kind, may, Bool.eq_false_iff.2 fresh, (Option.some.inj received).symm⟩
  · rintro ⟨route, held, data, kind, may, fresh, rfl⟩
    have known : route.attributes? = some data.attributes := by
      rw [Route.attributes?, Route.bgp?, kind]
      rfl
    have sent : sender.send? route s senderNeighbor senderProcess =
        .ok (some ((sender.sessionContext .outgoing s.senderAddress s.receiverAddress).resolveDraft
          (sentDraft route s senderProcess senderNeighbor))) := by
      rw [send?, known]
      dsimp only
      rw [if_pos may, outgoing]
      rfl
    refine ⟨sender, senderProcess, senderNeighbor, neighbor, route, _, found, listed, held, sent, ?_⟩
    rw [receive_unfiltered external kind incoming, fresh]
    rfl

end Unfiltered

end Router

end RoutePlane
