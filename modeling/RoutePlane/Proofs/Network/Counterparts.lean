import RoutePlane.Proofs.Network.Reversal
import RoutePlane.Proofs.Router.Rearranged

/-! Networks that say the same in another order. Each device of one has a counterpart in the other. Links,
owners and sessions follow from what the devices say, so both networks have the same ones. -/
namespace RoutePlane

theorem Topology.ofConfigurations_congr {l l' : List Configuration}
    (same : l'.map attachments = l.map attachments) : ofConfigurations l' = ofConfigurations l := by
  have joined (l : List Configuration) : segments l = (l.map attachments).flatten.foldl
      (fun segments b => segments.alter b.1 (·.getD [] ++ [b.2])) .empty := rfl
  rw [ofConfigurations, ofConfigurations, joined, joined, same]

theorem Owners.ofConfigurations_congr {l l' : List Configuration}
    (same : l'.map (fun c => (c.hostname, holdings c)) = l.map fun c => (c.hostname, holdings c)) :
    ofConfigurations l' = ofConfigurations l := by
  have seen (l : List Configuration) : ofConfigurations l =
      (l.map fun c => (c.hostname, holdings c)).foldl
        (fun o c => c.2.foldl (fun o b => o.record b.1 c.1 b.2) o) ⟨.empty⟩ := by
    rw [List.foldl_map]
    rfl
  rw [seen, seen, same]

namespace Network

structure Rearranges (n n' : Network) : Prop where
  distinct : ∀ c ∈ n.configurations.values, c.HasDistinctPeers
  contents : n'.configurations.toList.map (fun b => (b.1, b.2.contents)) =
    n.configurations.toList.map fun b => (b.1, b.2.contents)
  announcements : n.announcements.Perm n'.announcements
  settings : n'.settings = n.settings

/-- The device that has the same contents, if there is one of the same name. -/
def counterpart (n : Network) (c : Configuration) : Configuration :=
  ((n.configurations.get? c.hostname).filter fun c' => c'.contents = c.contents).getD c

namespace Rearranges

variable {n n' : Network} (same : n.Rearranges n') {c : Configuration} {vrf : String}
  {process : BgpProcess} {s : Session}
include same

theorem seen {α : Type} {see : Configuration → α}
    (told : ∀ c c' : Configuration, c'.contents = c.contents → see c' = see c) :
    n'.configurations.toList.map (fun b => (b.1, see b.2)) =
      n.configurations.toList.map fun b => (b.1, see b.2) := by
  refine map_eq_map_of_alike same.contents fun b' _ b _ alike => ?_
  obtain ⟨key, contents⟩ := Prod.mk.inj alike
  exact Prod.ext key (told _ _ contents)

theorem seen_values {α : Type} {see : Configuration → α}
    (told : ∀ c c' : Configuration, c'.contents = c.contents → see c' = see c) :
    n'.configurations.values.map see = n.configurations.values.map see := by
  have seen := congrArg (List.map Prod.snd) (same.seen told)
  rw [List.map_map, List.map_map] at seen
  rw [SortedMap.values, SortedMap.values, List.map_map, List.map_map]
  exact seen

theorem device (listed : c ∈ n.configurations.values) :
    ∃ c' ∈ n'.configurations.values, c.Like c' := by
  have member : c.contents ∈ n'.configurations.values.map Configuration.contents :=
    same.seen_values (fun _ _ same => same) ▸ List.mem_map_of_mem listed
  obtain ⟨c', listed', contents⟩ := List.mem_map.1 member
  exact ⟨c', listed', Configuration.like_of_contents contents (same.distinct c listed)⟩

theorem symm : n'.Rearranges n where
  distinct := by
    intro c' listed'
    have member : c'.contents ∈ n.configurations.values.map Configuration.contents :=
      same.seen_values (fun _ _ same => same) ▸ List.mem_map_of_mem listed'
    obtain ⟨c, listed, contents⟩ := List.mem_map.1 member
    exact Configuration.hasDistinctPeers_of_contents contents.symm (same.distinct c listed)
  contents := same.contents.symm
  announcements := same.announcements.symm
  settings := same.settings.symm

theorem topology : n'.fabric.topology = n.fabric.topology :=
  Topology.ofConfigurations_congr (same.seen_values fun c c' same => by
    rw [Topology.attachments, Topology.attachments, Configuration.interfaces_of_contents same,
      Configuration.hostname_of_contents same])

theorem owners : n'.fabric.owners = n.fabric.owners :=
  Owners.ofConfigurations_congr (same.seen_values fun c c' same => by
    rw [Owners.holdings, Owners.holdings, Configuration.interfaces_of_contents same,
      Configuration.hostname_of_contents same])

theorem links : n.fabric.LinksLike n'.fabric :=
  ⟨same.topology, SortedMap.get?_congr (same.seen fun _ _ => Configuration.interfaces_of_contents)⟩

theorem runs (runs : ((c, vrf), process) ∈ n.processes) :
    ∃ c' process', ((c', vrf), process') ∈ n'.processes ∧ c.Like c' ∧
      process'.face = process.face ∧ process.neighbors.Perm process'.neighbors := by
  obtain ⟨listed, own⟩ := mem_processes_iff.1 runs
  obtain ⟨c', listed', like⟩ := same.device listed
  obtain ⟨process', own', face, neighbors⟩ := like.process own
  exact ⟨c', process', mem_processes_iff.2 ⟨listed', own'⟩, like, face, neighbors⟩

/-- A session is discovered by the counterpart of its receiver. -/
theorem discovered (d : n.Discovered s) : Nonempty (n'.Discovered s) := by
  obtain ⟨sender, senderProcess, sends, senderLike, senderFace, -⟩ := same.runs d.sends
  obtain ⟨receiver, process, receives, like, face, neighbors⟩ := same.runs d.receives
  have entries : senderProcess.neighbor? = d.senderProcess.neighbor? := congrArg Prod.snd senderFace
  exact ⟨{
    sender := sender
    senderProcess := senderProcess
    senderNeighbor := d.senderNeighbor
    receiver := receiver
    process := process
    neighbor := d.neighbor
    sends := sends
    receives := receives
    sender_name := (Configuration.hostname_of_contents senderLike.contents).trans d.sender_name
    receiver_name := (Configuration.hostname_of_contents like.contents).trans d.receiver_name
    apart := d.apart
    sender_entry := entries ▸ d.sender_entry
    receiver_entry := neighbors.mem_iff.1 d.receiver_entry
    peer := d.peer
    sender_address := d.sender_address
    receiver_address := d.receiver_address
    sender_as := d.sender_as.trans (congrFun (BgpProcess.sessionAs_of_face senderFace) _).symm
    receiver_as := d.receiver_as.trans (congrFun (BgpProcess.sessionAs_of_face face) _).symm
    expected := d.expected
    expects := d.expects
    type := d.type
    owner := same.owners ▸ d.owner
    sender_own := (Configuration.sessionAddress_of_contents senderLike.contents _ _).trans d.sender_own
    receiver_own := (Configuration.sessionAddress_of_contents like.contents _ _).trans
      d.receiver_own }⟩

theorem mem_incoming_iff (node vrf : String) (s : Session) :
    s ∈ n'.fabric.sessions.incoming node vrf ↔ s ∈ n.fabric.sessions.incoming node vrf := by
  rw [Sessions.mem_incoming_iff, Sessions.mem_incoming_iff, mem_sessions_iff,
    mem_sessions_iff]
  refine and_congr_left fun _ => ⟨?_, ?_⟩
  · rintro ⟨d⟩
    exact same.symm.discovered d
  · rintro ⟨d⟩
    exact same.discovered d

theorem like_counterpart (c : Configuration) : c.Like (n'.counterpart c) := by
  rw [counterpart]
  cases found : (n'.configurations.get? c.hostname).filter fun c' => c'.contents = c.contents with
  | none => exact .refl c
  | some c' =>
    obtain ⟨known, contents⟩ := Option.filter_eq_some_iff.1 found
    have contents := of_decide_eq_true contents
    have listed : c' ∈ n'.configurations.values :=
      List.mem_map.2 ⟨_, SortedMap.mem_toList_iff.2 known, rfl⟩
    have distinct := Configuration.hasDistinctPeers_of_contents contents.symm
      (same.symm.distinct c' listed)
    exact Configuration.like_of_contents contents distinct

theorem values : n'.configurations.values = n.configurations.values.map n'.counterpart := by
  have bindings : n.configurations.toList.map (fun b => n'.counterpart b.2) =
      n'.configurations.toList.map (·.2) := by
    refine map_eq_map_of_alike same.contents.symm fun b bound b' bound' alike => ?_
    obtain ⟨key, contents⟩ := Prod.mk.inj alike
    have known : n'.configurations.get? b.2.hostname = some b'.2 := by
      rw [n.named b bound, key]
      exact SortedMap.mem_toList_iff.1 bound'
    rw [counterpart, known, Option.filter_some, if_pos (decide_eq_true contents.symm)]
    rfl
  rw [SortedMap.values, SortedMap.values, List.map_map]
  exact bindings.symm

theorem freshRouters : n'.fabric.freshRouters =
    n.fabric.freshRouters.map (Router.rearrange n'.counterpart) := by
  rw [Fabric.freshRouters, Fabric.freshRouters, List.map_flatMap]
  rw [show n'.fabric.configurations.values = _ from same.values, List.flatMap_map]
  refine List.flatMap_congr fun c _ => ?_
  rw [List.map_map, Configuration.vrfNames_of_contents (same.like_counterpart c).contents]
  rfl

end Rearranges

end Network

end RoutePlane
