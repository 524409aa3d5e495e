import RoutePlane.Proofs.Network.Sessions
import RoutePlane.Proofs.Network.Support
import RoutePlane.Proofs.Router.Carriage

/-! Shortest paths of sessions. Where every BGP router is a system of its own and no session has a
policy, a route has come from its origin over a path of sessions, and it names their systems. No router
on a shortest path refuses a route, so the routes that are held at the end have come over shortest
paths. -/
namespace RoutePlane

open Fallible

def Endpoint.place (e : Endpoint) : String × String := (e.node, e.vrf)

def Router.place (r : Router) : String × String := (r.hostname, r.vrf)

theorem Router.place_congr {r r' : Router} (same : r.device = r'.device) : r.place = r'.place :=
  congrArg (fun d => (d.1.hostname, d.2)) same

/-- Sessions that lead from one place to another, the latest first. -/
inductive SessionPath (f : Fabric) (source : String × String) :
    List Session → String × String → Prop where
  | nil : SessionPath f source [] source
  | cons {s : Session} {l : List Session} (member : s ∈ f.sessions.toList)
      (path : SessionPath f source l s.sender.place) : SessionPath f source (s :: l) s.receiver.place

namespace SessionPath

variable {f : Fabric} {source place : String × String} {l : List Session} {s : Session}
  (path : SessionPath f source l place)
include path

theorem sessions : ∀ s ∈ l, s ∈ f.sessions.toList := by
  induction path with
  | nil => exact fun s never => absurd never List.not_mem_nil
  | cons member path ih => exact List.forall_mem_cons.2 ⟨member, ih⟩

theorem closer (member : s ∈ l) : ∃ l', SessionPath f source l' s.sender.place ∧
    l'.length < l.length := by
  induction path with
  | nil => exact absurd member List.not_mem_nil
  | @cons last l _ path ih =>
    rcases List.mem_cons.1 member with rfl | earlier
    · exact ⟨l, path, Nat.lt_succ_self _⟩
    · obtain ⟨l', shorter, less⟩ := ih earlier
      exact ⟨l', shorter, less.trans (Nat.lt_succ_self _)⟩

theorem exists_last (away : place ≠ source) : ∃ s l', l = s :: l' ∧ s ∈ f.sessions.toList := by
  cases path with
  | nil => exact absurd rfl away
  | cons member path => exact ⟨_, _, rfl, member⟩

theorem source_sends (away : place ≠ source) : ∃ s ∈ l, s.sender.place = source := by
  induction path with
  | nil => exact absurd rfl away
  | @cons s _ _ path ih =>
    by_cases here : s.sender.place = source
    · exact ⟨s, List.mem_cons_self, here⟩
    · obtain ⟨first, member, sends⟩ := ih here
      exact ⟨first, List.mem_cons_of_mem _ member, sends⟩

theorem exists_shortest : ∃ l, SessionPath f source l place ∧
    ∀ l', SessionPath f source l' place → l.length ≤ l'.length := by
  obtain ⟨least, path, minimal⟩ := (InvImage.wf List.length Nat.lt_wfRel.wf).has_min
    {l | SessionPath f source l place} ⟨l, path⟩
  exact ⟨least, path, fun l' other => not_lt.1 (minimal l' other)⟩

end SessionPath

namespace Network

open Schedule

variable {n : Network} {s t u : Session}

/-- Every BGP process is a system of its own, and its neighbours have distinct addresses, no other
system number for it and no policy. No session uses the unspecified address. -/
structure IsPlainEbgp (n : Network) : Prop where
  apart : ∀ a ∈ n.processes, ∀ b ∈ n.processes, a.2.localAs = b.2.localAs → a.1 = b.1
  peers : ∀ a ∈ n.processes, (a.2.neighbors.map (·.peer)).Nodup
  unfiltered : ∀ a ∈ n.processes, ∀ neighbor ∈ a.2.neighbors,
    neighbor.localAs = none ∧ neighbor.importPolicy = none ∧ neighbor.exportPolicy = none
  addressed : ∀ s ∈ n.fabric.sessions.toList,
    s.senderAddress ≠ .unspecified ∧ s.receiverAddress ≠ .unspecified

namespace Joined

variable (ends : n.Joined s)

theorem sender_place : (ends.sender.hostname, s.sender.vrf) = s.sender.place := by
  rw [ends.sender_name]
  rfl

theorem receiver_place : (ends.receiver.hostname, s.receiver.vrf) = s.receiver.place := by
  rw [ends.receiver_name]
  rfl

theorem place_of_sender {r : Router} (device : r.device = (ends.sender, s.sender.vrf)) :
    r.place = s.sender.place := by
  rw [← ends.sender_place]
  exact congrArg (fun d => (d.1.hostname, d.2)) device

theorem place_of_receiver {r : Router} (device : r.device = (ends.receiver, s.receiver.vrf)) :
    r.place = s.receiver.place := by
  rw [← ends.receiver_place]
  exact congrArg (fun d => (d.1.hostname, d.2)) device

end Joined

theorem eq_of_place {a b : (Configuration × String) × BgpProcess}
    (runs : a ∈ n.processes) (runs' : b ∈ n.processes)
    (same : (a.1.1.hostname, a.1.2) = (b.1.1.hostname, b.1.2)) : a = b := by
  obtain ⟨⟨c, vrf⟩, process⟩ := a
  obtain ⟨⟨c', vrf'⟩, process'⟩ := b
  obtain ⟨listed, own⟩ := mem_processes_iff.1 runs
  obtain ⟨listed', own'⟩ := mem_processes_iff.1 runs'
  obtain ⟨hostname, rfl⟩ := Prod.mk.inj same
  obtain rfl := eq_of_hostname listed listed' hostname
  cases own.symm.trans own'
  rfl

namespace IsPlainEbgp

variable (plain : n.IsPlainEbgp)
include plain

theorem oneNumber : n.HasOneNumber := fun a runs neighbor listed =>
  (plain.unfiltered a runs neighbor listed).1

theorem senderAs_eq_receiverAs_iff (member : u ∈ n.fabric.sessions.toList)
    (member' : s ∈ n.fabric.sessions.toList) :
    u.senderAs = s.receiverAs ↔ u.sender.place = s.receiver.place := by
  obtain ⟨sends⟩ := joined member
  obtain ⟨receives⟩ := joined member'
  rw [sends.senderAs_eq plain.oneNumber, receives.receiverAs_eq plain.oneNumber, ← sends.sender_place,
    ← receives.receiver_place]
  constructor
  · intro same
    obtain ⟨configuration, vrf⟩ := Prod.mk.inj
      (plain.apart _ sends.sends _ receives.receives same)
    rw [configuration, vrf]
  · intro same
    exact congrArg (fun a => a.2.localAs)
      (eq_of_place sends.sends receives.receives same)

theorem receiverAs_ne (member : s ∈ n.fabric.sessions.toList) : s.receiverAs ≠ s.senderAs := by
  obtain ⟨ends⟩ := joined member
  exact fun same =>
    ends.apart (congrArg Prod.fst ((plain.senderAs_eq_receiverAs_iff member member).1 same.symm))

theorem isExternal (member : s ∈ n.fabric.sessions.toList) : s.type.isExternal = true := by
  obtain ⟨ends⟩ := joined member
  rw [ends.type, if_neg (plain.receiverAs_ne member)]
  rfl

/-- Only what came from a peer is not sent back to its address. -/
theorem comes_back (member : t ∈ n.fabric.sessions.toList) (member' : s ∈ n.fabric.sessions.toList)
    (here : t.receiver.place = s.sender.place) (address : t.senderAddress = s.receiverAddress) :
    t.sender.place = s.receiver.place := by
  obtain ⟨first⟩ := joined member
  obtain ⟨second⟩ := joined member'
  have one := eq_of_place first.receives second.sends
    (by rw [first.receiver_place, second.sender_place, here])
  have process : first.process = second.senderProcess := congrArg Prod.snd one
  obtain ⟨listed, peer⟩ := BgpProcess.of_neighbor? second.sender_entry
  have entry : first.neighbor = second.senderNeighbor := by
    refine List.inj_on_of_nodup_map (plain.peers _ second.sends) (process ▸ first.receiver_entry)
      listed ?_
    rw [first.peer, peer, ← first.sender_address, address, second.receiver_address]
  rw [← plain.senderAs_eq_receiverAs_iff member member', ← first.expects, entry, second.expected]

/-- What a session conveys. -/
theorem conveys_iff {routers : List Router} {r : Router} (devices : n.HasDevices routers)
    (member : r ∈ routers) (listed : s ∈ n.fabric.sessions.toList)
    (here : s.receiver.place = r.place) :
    ∃ sender ∈ routers, sender.place = s.sender.place ∧
      ∃ process, r.bgpProcess? = some process ∧ ∃ senderProcess senderNeighbor neighbor, ∀ x,
        Router.Conveys routers r process s x ↔ ∃ route ∈ sender.bgp.combined.routes, ∃ data,
          route.kind = .bgp data ∧
          (route.receivedFrom ≠ s.receiverAddress ∧ route.nonRouting = false) ∧
          (s.receiverAs ≠ s.senderAs ∧ data.attributes.asPath.contains s.receiverAs = false) ∧
          x = Router.arrivedRoute route data s senderProcess senderNeighbor neighbor := by
  obtain ⟨ends⟩ := joined listed
  obtain ⟨sender, source, device, found⟩ := ends.senderOf devices
  obtain ⟨node, vrf⟩ := Prod.mk.inj here
  obtain ⟨-, own⟩ := ends.receiver_device devices member node vrf
  have place : sender.place = s.sender.place := ends.place_of_sender device
  have entry : ends.process.neighbor? s.receiver.peer = some ends.neighbor := by
    rw [← ends.peer]
    exact BgpProcess.neighbor?_eq_some (plain.peers _ ends.receives) ends.receiver_entry
  obtain ⟨-, -, outgoing⟩ := plain.unfiltered _ ends.sends _
    (BgpProcess.of_neighbor? ends.sender_entry).1
  obtain ⟨-, incoming, -⟩ := plain.unfiltered _ ends.receives _ ends.receiver_entry
  have external := plain.isExternal listed
  refine ⟨sender, source, place, ends.process, own, ends.senderProcess, ends.senderNeighbor,
    ends.neighbor, fun x => ?_⟩
  simp only [Router.conveys_unfiltered_iff external found entry outgoing incoming,
    Router.maySend_external external, Router.hasLooped_external external]

end IsPlainEbgp

end Network

end RoutePlane
