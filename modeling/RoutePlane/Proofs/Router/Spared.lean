import RoutePlane.Proofs.Router.Effects
import RoutePlane.Proofs.Router.Transit

/-! What gets into the BGP tables of a router, as far as no policy changes it: its own routes, what
neighbors outside the network announce, and what a session makes of a route at its other end. -/
namespace RoutePlane.Router

open Fallible

variable {κ : Type} {see : BgpAttributes → κ} {r sender : Router} {route x : Route} {s : Session}
  {neighbor senderNeighbor : Neighbor} {process senderProcess : BgpProcess} {draft : RouteDraft}
  {announcements : List Announcement} {external : Bool}

theorem accepted_seen {context : PolicyContext} {policy : Option String} {b : Route}
    (spares : context.configuration.Spares see) (allowed : b.kind.allows b.protocol = true)
    (accepted : accepted? context policy b (.ofRoute b) = .ok (some x)) :
    x.protocol = b.protocol ∧ x.attributes?.map see = b.attributes?.map see := by
  obtain ⟨-, protocol, -⟩ := accepted_some Set.univ (fun _ _ _ _ => trivial)
    (RouteDraft.build_ofRoute b allowed) accepted
  exact ⟨protocol, accepted_see spares accepted⟩

/-- The own routes of a router start with an empty path and no clusters. -/
theorem Originates.seen (spares : r.configuration.Spares see) (originates : r.Originates x) :
    (x.protocol = .bgp ∨ x.protocol = .aggregate) ∧ ∃ a b, x.attributes? = some b ∧ see b = see a ∧
      a.asPath = .empty ∧ a.clusterList = .empty := by
  obtain ⟨process, routes, -, originated, member⟩ := originates
  obtain ⟨d, edited, own, built, same⟩ := originated_view
    (fun d => (d.core, d.attributes?.map see)) (fun a action d => Prod.ext (d.core_action a)
      (spares a action d)) (fun _ _ => rfl) originated member
  obtain ⟨core, seen⟩ := Prod.mk.inj same
  obtain ⟨-, protocol, -⟩ := RouteDraft.build_eq_ok built
  have kept : edited.core.protocol = d.core.protocol := congrArg RouteDraft.protocol core
  obtain ⟨data, kind, -, path, clusters⟩ := own.kind
  have start : d.attributes? = some data.attributes := by
    rw [RouteDraft.attributes?, kind]
    rfl
  rw [start, ← RouteDraft.attributes?_of_build built] at seen
  obtain ⟨b, found, equal⟩ := Option.map_eq_some_iff.1 seen
  refine ⟨?_, data.attributes, b, found, equal, path, clusters⟩
  have outcome : some x.protocol = d.protocol := protocol.symm.trans kept
  exact own.protocol.imp (fun named => Option.some.inj (outcome.trans named))
    fun named => Option.some.inj (outcome.trans named)

theorem IsAnnounced.seen (spares : r.configuration.Spares see)
    (announced : r.IsAnnounced announcements external x) :
    ∃ process, r.bgpProcess? = some process ∧ ∃ a ∈ announcements, a.node = r.hostname ∧
      a.vrf = r.vrf ∧ ∃ neighbor, process.neighbor? a.peer = some neighbor ∧
        external = (neighbor.remoteAs != process.sessionAs neighbor) ∧
        (external = true → process.sessionAs neighbor ∉ a.asPath) ∧
        x.protocol = (if external then .bgp else .ibgp) ∧
        x.attributes?.map see = (announcedRoute a neighbor external).attributes?.map see := by
  obtain ⟨process, own, a, listed, node, vrf, imported⟩ := announced
  obtain ⟨neighbor, _, found, type, fresh, accepted⟩ := importAnnouncement_ok imported
  have allowed : (announcedRoute a neighbor external).kind.allows
      (announcedRoute a neighbor external).protocol = true := by
    cases external <;> rfl
  obtain ⟨protocol, seen⟩ := accepted_seen spares allowed accepted
  exact ⟨process, own, a, listed, node, vrf, neighbor, found, type, fresh, protocol, seen⟩

/-- What a session makes of a route: the edits of both sides, if it may be sent and has not looped. -/
theorem handed_over (spares : sender.configuration.Spares see) (spares' : r.configuration.Spares see)
    (sent : sender.send? route s senderNeighbor senderProcess = .ok (some draft))
    (received : r.receive? draft s neighbor process = .ok (some x)) :
    ∃ a a' b, route.attributes? = some a ∧ maySend route a s senderNeighbor = true ∧
      see a' = see (sentAttributes route s senderProcess senderNeighbor a) ∧
      hasLooped s process (arrivedAttributes neighbor a') = false ∧
      x.protocol = (if s.type.isExternal then .bgp else .ibgp) ∧
      x.attributes? = some b ∧ see b = see (arrivedAttributes neighbor a') := by
  obtain ⟨a, found, may, applied⟩ := send_ok sent
  obtain ⟨c, a', built, left, arrived, fresh, accepted⟩ := receive_ok received
  have departed := sent_see spares found applied
  rw [left] at departed
  obtain ⟨-, named, -, -, allowed⟩ := RouteDraft.build_eq_ok built
  rw [(arrivingDraft_edited ∅ s neighbor draft).protocol] at named
  obtain ⟨protocol, seen⟩ := accepted_seen spares' allowed accepted
  rw [arrived] at seen
  obtain ⟨b, known, same⟩ := Option.map_eq_some_iff.1 seen
  exact ⟨a, a', b, found, may, Option.some.inj departed, fresh,
    protocol.trans (Option.some.inj named).symm, known, same⟩

end RoutePlane.Router
