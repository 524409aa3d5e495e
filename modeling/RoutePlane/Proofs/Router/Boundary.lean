import RoutePlane.Proofs.RouteMap.LastWrites
import RoutePlane.Proofs.Router.Exposure

/-! What crosses the boundary between two systems. Before its policy the sender resets what matters inside
its own system, and after that policy the receiver resets the weight. Nobody resets the local preference
again, so the other system gets the one that the policy of the sender writes. -/
namespace RoutePlane

open Fallible

/-- What the attributes of a route that enters a system by a session say to this system alone. -/
structure BgpData.EntersBy (data : BgpData) (s : Session) (originator : Address)
    (preference : UInt32) : Prop where
  weight : data.attributes.weight = 0
  clusterList : data.attributes.clusterList = .empty
  originator : data.attributes.originator = originator
  receivedFrom : data.receivedFrom = s.senderAddress
  localPreference : data.attributes.localPreference = preference

namespace Router

variable {sender receiver : Router} {s : Session} {process senderProcess : BgpProcess}
  {neighbor senderNeighbor : Neighbor} {route : Route} {draft : RouteDraft}

theorem spares_origin (c : Configuration) : c.Spares fun a => (a.clusterList, a.originator) :=
  Configuration.spares_of_edits fun a _ b => by cases a <;> rfl

theorem send_reset (external : s.type.isExternal = true)
    (sent : sender.send? route s senderNeighbor senderProcess = .ok (some draft)) :
    ∃ a v, draft.attributes? = some a ∧
      (sender.sessionContext .outgoing s.senderAddress s.receiverAddress).verdict
        senderNeighbor.exportPolicy route = .ok v ∧
      a.clusterList = .empty ∧ a.originator = senderProcess.routerId ∧
      a.localPreference = v.preference?.getD defaultLocalPreference := by
  obtain ⟨b, found, -, applied⟩ := send_ok sent
  obtain ⟨a, attributes, same⟩ := Option.map_eq_some_iff.1
    (sent_see (spares_origin sender.configuration) found applied)
  obtain ⟨v, verdict, -, rfl⟩ := PolicyContext.apply_eq_ok.1 applied
  obtain ⟨clusters, originator⟩ := Prod.mk.inj same
  have reset : (sentDraft route s senderProcess senderNeighbor).preference? =
      some defaultLocalPreference := by
    rw [RouteDraft.preference?, attributes_sentDraft, found]
    exact congrArg some (sentAttributes_external external).2.1
  have written := v.preference_applyTo reset
  have kept : (v.applyTo (sentDraft route s senderProcess senderNeighbor)).attributes? = some a :=
    attributes
  rw [RouteDraft.preference?, kept] at written
  refine ⟨a, v, attributes, verdict, ?_, ?_, Option.some.inj written⟩
  · rw [clusters, (sentAttributes_external external).2.2]
  · rw [originator, sentAttributes, if_pos external]
    split <;> rfl

/-- Unless it has looped, the arriving route is handed to the import policy. -/
theorem receive_built {received : Route} {attributes : BgpAttributes}
    (built : (arrivingDraft s neighbor draft).build = .ok received)
    (found : received.attributes? = some attributes) : receiver.receive? draft s neighbor process =
      if hasLooped s process attributes then .ok none
      else accepted? (receiver.sessionContext .incoming s.receiverAddress s.senderAddress)
        neighbor.importPolicy received (.ofRoute received) := by
  rw [receive?, liftRoute_eq_ok.2 built]
  simp only [bind, Except.bind, found]
  rfl

/-- Over an external session the receiver hands to its import policy a route without weight and cluster
list, from the session address of the sender and originated by it. Its local preference is the last one
that the export policy writes, and the default one if it writes none. -/
theorem only_preference_crosses (sender : Router) (s : Session) (senderNeighbor neighbor : Neighbor)
    (senderProcess : BgpProcess) (route : Route) (draft : RouteDraft)
    (external : s.type.isExternal = true)
    (sent : sender.send? route s senderNeighbor senderProcess = .ok (some draft)) :
    ∃ (received : Route) (data : BgpData) (v : RouteMap.Verdict),
      received.kind = .bgp data ∧
      (sender.sessionContext .outgoing s.senderAddress s.receiverAddress).verdict
        senderNeighbor.exportPolicy route = .ok v ∧
      data.EntersBy s senderProcess.routerId (v.preference?.getD defaultLocalPreference) ∧
      (data.EntersBy s senderProcess.routerId defaultLocalPreference ↔
        ∀ p, v.preference? = some p → p = defaultLocalPreference) ∧
      ∀ (receiver : Router) (process : BgpProcess), receiver.receive? draft s neighbor process =
        if hasLooped s process data.attributes then .ok none
        else accepted? (receiver.sessionContext .incoming s.receiverAddress s.senderAddress)
          neighbor.importPolicy received (.ofRoute received) := by
  obtain ⟨a, v, attributes, verdict, clusters, originator, preference⟩ := send_reset external sent
  obtain ⟨b, complete, -, bgp, -⟩ := send_complete Set.univ (fun _ _ => trivial) sent
  obtain ⟨received, built, -⟩ := arriving_complete Set.univ complete bgp s neighbor
  obtain ⟨arrived, same, enters⟩ : ∃ arrived, (arrivingDraft s neighbor draft).kind = .bgp arrived ∧
      arrived.EntersBy s senderProcess.routerId (v.preference?.getD defaultLocalPreference) := by
    obtain ⟨_, _, _, _, _, _, _, _, k⟩ := draft
    cases k with
    | bgp data =>
      cases attributes
      exact ⟨_, rfl, rfl, clusters, originator, rfl, preference⟩
    | _ => cases attributes
  have here : received.kind = .bgp arrived := by
    rw [← same]
    exact (RouteDraft.build_eq_ok built).2.2.2.1.symm
  refine ⟨received, arrived, v, here, verdict, enters, ?_, fun receiver process => ?_⟩
  · have written := enters.localPreference
    constructor
    · intro reset p last
      rw [last, reset.localPreference] at written
      exact written.symm
    · intro default
      refine { enters with localPreference := ?_ }
      rw [written]
      cases last : v.preference? with
      | none => rfl
      | some p => exact default p last
  · have attributes : received.attributes? = some arrived.attributes := by
      rw [Route.attributes?, Route.bgp?, here]
      rfl
    exact receive_built built attributes

def persuader : Router :=
  policed "outlet" [⟨"out", [
    ⟨10, .accept, [], [.localPreference 300, .weight 9], .next⟩,
    ⟨20, .accept, [], [.localPreference 50], .exit⟩]⟩]

/-- The last of two local preferences arrives, and no weight. -/
theorem last_preference_crosses :
    let sending : Neighbor :=
      { peer := .ofOctets 10 0 0 2, remoteAs := 65002, exportPolicy := some "out" }
    let receiving : Neighbor := { peer := .ofOctets 10 0 0 1, remoteAs := 65001 }
    let process : BgpProcess := { routerId := .ofOctets 1 1 1 1, localAs := 65001 }
    let route := learnedWith 20 0 { clusterList := .ofList [1], weight := 5 }
    crossing.type.isExternal = true ∧
      ∃ draft, persuader.send? route crossing sending process = .ok (some draft) ∧
        ∃ received data, received.kind = .bgp data ∧
          data.EntersBy crossing (.ofOctets 1 1 1 1) 50 ∧
          ∀ (receiver : Router) (process : BgpProcess),
            receiver.receive? draft crossing receiving process =
              if hasLooped crossing process data.attributes then .ok none
              else accepted? (receiver.sessionContext .incoming (.ofOctets 10 0 0 2) (.ofOctets 10 0 0 1))
                none received (.ofRoute received) := by
  intro sending receiving process route
  have sent : ((persuader.send? route crossing sending process).toOption.any Option.isSome) = true := by
    decide +kernel
  obtain ⟨outcome, sent, accepted⟩ := of_any sent
  obtain ⟨draft, rfl⟩ := Option.isSome_iff_exists.1 accepted
  obtain ⟨received, data, v, kind, verdict, enters, -, handed⟩ :=
    only_preference_crosses persuader crossing sending receiving process route draft rfl sent
  have last : ((persuader.sessionContext .outgoing crossing.senderAddress
      crossing.receiverAddress).verdict sending.exportPolicy route).map (·.preference?) =
      .ok (some 50) := by
    decide +kernel
  rw [verdict] at last
  have fifty : v.preference? = some 50 := Except.ok.inj last
  rw [fifty] at enters
  exact ⟨rfl, draft, sent, received, data, kind, enters, handed⟩

/-- A local preference that the sender writes for a route of another system gets there. -/
theorem preference_crosses :
    let sending : Neighbor :=
      { peer := .ofOctets 10 0 0 2, remoteAs := 65002, exportPolicy := some "in" }
    let receiving : Neighbor := { peer := .ofOctets 10 0 0 1, remoteAs := 65001 }
    let process : BgpProcess := { routerId := .ofOctets 1 1 1 1, localAs := 65001 }
    ∃ draft received data,
      intake.send? (learnedWith 20 0 {}) crossing sending process = .ok (some draft) ∧
      (arrivingDraft crossing receiving draft).build = .ok received ∧ received.kind = .bgp data ∧
      ¬ data.EntersBy crossing process.routerId defaultLocalPreference := by
  intro sending receiving process
  have kept : ((intake.send? (learnedWith 20 0 {}) crossing sending process).toOption.any fun sent =>
      sent.any fun draft => (arrivingDraft crossing receiving draft).build.toOption.any fun received =>
        received.kind.bgp?.any fun data => data.attributes.localPreference == 200) = true := by
    decide +kernel
  obtain ⟨sent, done, kept⟩ := of_any kept
  obtain ⟨draft, rfl, kept⟩ := (Option.any_eq_true _ _).1 kept
  obtain ⟨received, built, kept⟩ := of_any kept
  cases kind : received.kind with
  | bgp data =>
    rw [kind] at kept
    refine ⟨draft, received, data, done, built, kind, fun enters => ?_⟩
    have both := enters.localPreference.symm.trans (beq_iff_eq.1 kept)
    exact absurd both (by decide)
  | _ =>
    rw [kind] at kept
    cases kept

end Router

end RoutePlane
