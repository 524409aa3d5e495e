import RoutePlane.Proofs.Configuration.Contents
import RoutePlane.Proofs.Network.Devices

/-! The two ends of a session. Every session joins two BGP processes of different devices, each of which
names the other one as a neighbor, and its addresses and system numbers are those of its ends. -/
namespace RoutePlane

namespace Session

variable {s : Session} {configurations : SortedMap String Configuration} {owners : Owners}
  {receiver : Configuration} {vrf : String} {process : BgpProcess} {neighbor : Neighbor}
  {own : Address} {owner : String × String}

theorem between?_eq_some_iff :
    between? configurations receiver vrf process neighbor own owner = some s ↔
      owner.1 ≠ receiver.hostname ∧
      ∃ remote, configurations.get? owner.1 = some remote ∧
      ∃ remoteProcess, remote.bgpProcess? owner.2 = some remoteProcess ∧
      ∃ remoteNeighbor, remoteProcess.neighbor? own = some remoteNeighbor ∧
        (remoteNeighbor.remoteAs = process.sessionAs neighbor ∧
          neighbor.remoteAs = remoteProcess.sessionAs remoteNeighbor) ∧
        remote.sessionAddress? owner.2 remoteNeighbor = some neighbor.peer ∧
        s = {
          sender := ⟨owner.1, owner.2, own⟩
          receiver := ⟨receiver.hostname, vrf, neighbor.peer⟩
          type := if process.sessionAs neighbor = remoteProcess.sessionAs remoteNeighbor then
            .internal remoteNeighbor.reflectorClient else .external
          senderAddress := neighbor.peer
          receiverAddress := own
          senderAs := remoteProcess.sessionAs remoteNeighbor
          receiverAs := process.sessionAs neighbor } := by
  simp only [between?, Option.bind_eq_bind, Option.bind_eq_some_iff, Option.guard_eq_some',
    Option.pure_def, Option.some.injEq, exists_const, eq_comm (b := s)]

theorem mem_ofConfiguration_iff : s ∈ ofConfiguration configurations owners receiver ↔
    ∃ vrf process neighbor own owner, receiver.bgpProcess? vrf = some process ∧
      neighbor ∈ process.neighbors ∧ receiver.sessionAddress? vrf neighbor = some own ∧
      owner ∈ owners.nodesAndVrfs neighbor.peer ∧
      between? configurations receiver vrf process neighbor own owner = some s := by
  simp only [ofConfiguration, List.mem_flatMap]
  constructor
  · rintro ⟨⟨vrf, settings⟩, bound, found⟩
    dsimp only at found
    split at found
    next => exact absurd found List.not_mem_nil
    next process runs =>
      obtain ⟨neighbor, entry, found⟩ := List.mem_flatMap.1 found
      rw [ofNeighbor] at found
      split at found
      next => exact absurd found List.not_mem_nil
      next own address =>
        obtain ⟨owner, owned, found⟩ := List.mem_filterMap.1 found
        exact ⟨vrf, process, neighbor, own, owner,
          Option.bind_eq_some_iff.2 ⟨settings, SortedMap.mem_toList_iff.1 bound, runs⟩, entry, address,
          owned, found⟩
  · rintro ⟨vrf, process, neighbor, own, owner, runs, entry, address, owned, found⟩
    obtain ⟨settings, bound, runs⟩ := Option.bind_eq_some_iff.1 runs
    refine ⟨(vrf, settings), SortedMap.mem_toList_iff.2 bound, ?_⟩
    dsimp only
    rw [runs]
    refine List.mem_flatMap.2 ⟨neighbor, entry, ?_⟩
    rw [ofNeighbor, address]
    exact List.mem_filterMap.2 ⟨owner, owned, found⟩

end Session

namespace Sessions

variable {s : Session} {sessions : Sessions} {node vrf : String}

theorem mem_endpoints {e : Endpoint} : e ∈ sessions.endpoints ↔
    ∃ s ∈ sessions.toList, e = s.sender ∨ e = s.receiver := by
  rw [endpoints, mem_foldl_new]
  simp

theorem mem_incoming_iff : s ∈ sessions.incoming node vrf ↔
    s ∈ sessions.toList ∧ s.receiver.node = node ∧ s.receiver.vrf = vrf := by
  simp only [incoming, List.mem_flatMap, List.mem_filter, List.mem_reverse, Bool.and_eq_true,
    beq_iff_eq, mem_endpoints]
  constructor
  · rintro ⟨_, ⟨-, names⟩, member, rfl⟩
    exact ⟨member, names⟩
  · rintro ⟨member, names⟩
    exact ⟨s.receiver, ⟨⟨s, member, .inr rfl⟩, names⟩, member, rfl⟩

theorem mem_place {t : Session} {l : List Session} (member : s ∈ t.place l) : s = t ∨ s ∈ l := by
  induction l with
  | nil => exact .inl (List.mem_singleton.1 member)
  | cons first rest ih =>
    rw [Session.place] at member
    split at member
    · rcases List.mem_cons.1 member with rfl | later
      · exact .inl rfl
      · exact .inr (List.mem_cons_of_mem _ later)
    · rcases List.mem_cons.1 member with rfl | later
      · exact .inr List.mem_cons_self
      · exact (ih later).imp_right (List.mem_cons_of_mem _)

theorem source_of_mem {configurations : SortedMap String Configuration} {owners : Owners}
    (member : s ∈ (ofConfigurations configurations owners).toList) :
    ∃ c ∈ configurations.values, s ∈ Session.ofConfiguration configurations owners c := by
  have placed (l before : List Session)
      (member : s ∈ l.foldl (fun placed s => s.place placed) before) : s ∈ before ∨ s ∈ l := by
    induction l generalizing before with
    | nil => exact .inl member
    | cons first rest ih =>
      rcases ih _ member with here | later
      · rcases mem_place here with rfl | before
        · exact .inr List.mem_cons_self
        · exact .inl before
      · exact .inr (List.mem_cons_of_mem _ later)
  rcases placed _ _ member with never | found
  · exact absurd never List.not_mem_nil
  · exact List.mem_flatMap.1 found

end Sessions

namespace Network

def processes (n : Network) : List ((Configuration × String) × BgpProcess) :=
  n.configurations.values.flatMap fun c =>
    c.vrfs.toList.filterMap fun v => v.2.bgp.map fun process => ((c, v.1), process)

variable {n : Network} {s : Session} {c : Configuration} {vrf : String} {process : BgpProcess}

theorem mem_processes_iff : ((c, vrf), process) ∈ n.processes ↔
    c ∈ n.configurations.values ∧ c.bgpProcess? vrf = some process := by
  simp only [processes, List.mem_flatMap, List.mem_filterMap, Option.map_eq_some_iff, Prod.mk.injEq]
  constructor
  · rintro ⟨_, listed, ⟨_, v⟩, bound, _, runs, ⟨rfl, rfl⟩, rfl⟩
    exact ⟨listed, Option.bind_eq_some_iff.2 ⟨v, SortedMap.mem_toList_iff.1 bound, runs⟩⟩
  · rintro ⟨listed, runs⟩
    obtain ⟨v, bound, runs⟩ := Option.bind_eq_some_iff.1 runs
    exact ⟨c, listed, (vrf, v), SortedMap.mem_toList_iff.2 bound, process, runs, ⟨rfl, rfl⟩, rfl⟩

structure Joined (n : Network) (s : Session) where
  sender : Configuration
  senderProcess : BgpProcess
  senderNeighbor : Neighbor
  receiver : Configuration
  process : BgpProcess
  neighbor : Neighbor
  sends : ((sender, s.sender.vrf), senderProcess) ∈ n.processes
  receives : ((receiver, s.receiver.vrf), process) ∈ n.processes
  sender_name : sender.hostname = s.sender.node
  receiver_name : receiver.hostname = s.receiver.node
  apart : s.sender.node ≠ s.receiver.node
  sender_entry : senderProcess.neighbor? s.sender.peer = some senderNeighbor
  receiver_entry : neighbor ∈ process.neighbors
  peer : neighbor.peer = s.receiver.peer
  sender_address : s.senderAddress = s.receiver.peer
  receiver_address : s.receiverAddress = s.sender.peer
  sender_as : s.senderAs = senderProcess.sessionAs senderNeighbor
  receiver_as : s.receiverAs = process.sessionAs neighbor
  expected : senderNeighbor.remoteAs = s.receiverAs
  expects : neighbor.remoteAs = s.senderAs
  type : s.type = if s.receiverAs = s.senderAs then .internal senderNeighbor.reflectorClient
    else .external

/-- A session as its receiver discovers it, among the owners of the peer address. -/
structure Discovered (n : Network) (s : Session) extends n.Joined s where
  owner : (s.sender.node, s.sender.vrf) ∈ n.fabric.owners.nodesAndVrfs s.senderAddress
  sender_own : sender.sessionAddress? s.sender.vrf senderNeighbor = some s.senderAddress
  receiver_own : receiver.sessionAddress? s.receiver.vrf neighbor = some s.receiverAddress

theorem discovered (listed : c ∈ n.configurations.values)
    (found : s ∈ Session.ofConfiguration n.configurations n.fabric.owners c) :
    Nonempty (n.Discovered s) := by
  obtain ⟨vrf, process, neighbor, own, ⟨node, senderVrf⟩, runs, entry, address, owned, found⟩ :=
    Session.mem_ofConfiguration_iff.1 found
  obtain ⟨apart, remote, known, remoteProcess, remoteRuns, remoteNeighbor, remoteEntry,
    ⟨expected, expects⟩, remoteAddress, rfl⟩ := Session.between?_eq_some_iff.1 found
  have bound := SortedMap.mem_toList_iff.2 known
  exact ⟨{
    sender := remote
    senderProcess := remoteProcess
    senderNeighbor := remoteNeighbor
    receiver := c
    process := process
    neighbor := neighbor
    sends := mem_processes_iff.2 ⟨List.mem_map.2 ⟨_, bound, rfl⟩, remoteRuns⟩
    receives := mem_processes_iff.2 ⟨listed, runs⟩
    sender_name := n.named _ bound
    receiver_name := rfl
    apart := apart
    sender_entry := remoteEntry
    receiver_entry := entry
    peer := rfl
    sender_address := rfl
    receiver_address := rfl
    sender_as := rfl
    receiver_as := rfl
    expected := expected
    expects := expects
    type := rfl
    owner := owned
    sender_own := remoteAddress
    receiver_own := address }⟩

theorem joined (member : s ∈ n.fabric.sessions.toList) : Nonempty (n.Joined s) := by
  obtain ⟨c, listed, found⟩ := Sessions.source_of_mem member
  obtain ⟨d⟩ := discovered listed found
  exact ⟨d.toJoined⟩

theorem Joined.receiverAs_eq_senderAs (ends : n.Joined s) (inside : s.type.isExternal = false) :
    s.receiverAs = s.senderAs := by
  by_contra apart
  rw [ends.type, if_neg apart] at inside
  cases inside

/-- Every process has one system number, that of its system. -/
def HasOneNumber (n : Network) : Prop :=
  ∀ p ∈ n.processes, ∀ neighbor ∈ p.2.neighbors, neighbor.localAs = none

instance : Decidable n.HasOneNumber :=
  inferInstanceAs (Decidable (∀ p ∈ n.processes, ∀ neighbor ∈ p.2.neighbors, neighbor.localAs = none))

section OneNumber

variable (one : n.HasOneNumber)
include one

theorem HasOneNumber.sessionAs_eq {neighbor : Neighbor} (runs : ((c, vrf), process) ∈ n.processes)
    (listed : neighbor ∈ process.neighbors) : process.sessionAs neighbor = process.localAs := by
  rw [BgpProcess.sessionAs, one _ runs neighbor listed]
  rfl

theorem Joined.senderAs_eq (ends : n.Joined s) : s.senderAs = ends.senderProcess.localAs := by
  rw [ends.sender_as, one.sessionAs_eq ends.sends (BgpProcess.of_neighbor? ends.sender_entry).1]

theorem Joined.receiverAs_eq (ends : n.Joined s) : s.receiverAs = ends.process.localAs := by
  rw [ends.receiver_as, one.sessionAs_eq ends.receives ends.receiver_entry]

end OneNumber

section Routers

variable {routers : List Router} {r : Router} (devices : n.HasDevices routers)
include devices

theorem HasDevices.runs (member : r ∈ routers) (own : r.bgpProcess? = some process) :
    (r.device, process) ∈ n.processes :=
  mem_processes_iff.2 ⟨devices.listed member, own⟩

theorem HasDevices.exists_router (runs : ((c, vrf), process) ∈ n.processes) :
    ∃ r ∈ routers, r.device = (c, vrf) := by
  obtain ⟨listed, own⟩ := mem_processes_iff.1 runs
  obtain ⟨v, bound, -⟩ := Option.bind_eq_some_iff.1 own
  have name : vrf ∈ c.vrfNames := SortedSet.mem_ofList.2
    (List.mem_append_left _ (List.mem_map.2 ⟨_, SortedMap.mem_toList_iff.2 bound, rfl⟩))
  exact devices.exists_of_vrf listed name

theorem Joined.senderOf (ends : n.Joined s) : ∃ sender ∈ routers,
    sender.device = (ends.sender, s.sender.vrf) ∧
      Router.senderOf? routers s = some (sender, ends.senderProcess, ends.senderNeighbor) := by
  obtain ⟨sender, member, device⟩ := devices.exists_router ends.sends
  obtain ⟨configuration, vrf⟩ := Prod.mk.inj device
  have found : findRouter? routers s.sender.node s.sender.vrf = some sender :=
    devices.findRouter_iff.2
      ⟨member, by rw [Router.hostname, configuration, ends.sender_name], vrf⟩
  have own : sender.bgpProcess? = some ends.senderProcess := by
    rw [Router.bgpProcess?, configuration, vrf]
    exact (mem_processes_iff.1 ends.sends).2
  refine ⟨sender, member, device, ?_⟩
  simp only [Router.senderOf?, found, own, ends.sender_entry, Option.bind_eq_bind, Option.bind_some]
  rfl

theorem Joined.receiver_device (ends : n.Joined s) (member : r ∈ routers)
    (node : s.receiver.node = r.hostname) (vrf : s.receiver.vrf = r.vrf) :
    r.device = (ends.receiver, s.receiver.vrf) ∧ r.bgpProcess? = some ends.process := by
  obtain ⟨listed, own⟩ := mem_processes_iff.1 ends.receives
  have configuration : r.configuration = ends.receiver :=
    eq_of_hostname (devices.listed member) listed (node.symm.trans ends.receiver_name.symm)
  exact ⟨Prod.ext configuration vrf.symm, by rw [Router.bgpProcess?, configuration, ← vrf, own]⟩

end Routers

end Network

end RoutePlane
