import RoutePlane.Proofs.Network.Sessions
import RoutePlane.Proofs.Network.Support
import RoutePlane.Proofs.Topology.Owners

/-! Both directions of a session. The receiver of a session looks for its sender among the owners of the
peer address, and no one looks for the owner of the receiver's own address. So the other direction is
there exactly if the receiver owns that address, and if its first entry for the peer is one that the
sender can answer. -/
namespace RoutePlane

namespace Session

/-- Routes go the other way: ends, addresses and system numbers are exchanged. -/
structure Reverses (t s : Session) : Prop where
  sender : t.sender = s.receiver
  receiver : t.receiver = s.sender
  senderAddress : t.senderAddress = s.receiverAddress
  receiverAddress : t.receiverAddress = s.senderAddress
  senderAs : t.senderAs = s.receiverAs
  receiverAs : t.receiverAs = s.senderAs
  external : t.type.isExternal = s.type.isExternal

theorem mem_place_iff {s t : Session} {l : List Session}
    (unique : ∀ u ∈ l, u.ends = t.ends → u = t) : s ∈ t.place l ↔ s = t ∨ s ∈ l := by
  refine ⟨Sessions.mem_place, ?_⟩
  induction l with
  | nil => simp [place]
  | cons first rest ih =>
    rw [place]
    split
    next same =>
      obtain rfl := unique first List.mem_cons_self same
      simp
    next =>
      rw [List.mem_cons, List.mem_cons]
      rintro (rfl | rfl | later)
      · exact .inr (ih (fun u listed => unique u (List.mem_cons_of_mem _ listed)) (.inl rfl))
      · exact .inl rfl
      · exact .inr (ih (fun u listed => unique u (List.mem_cons_of_mem _ listed)) (.inr later))

/-- Sessions that are determined by their ends never replace each other. -/
theorem mem_foldl_place_iff {s : Session} {l placed : List Session}
    (unique : ∀ t ∈ placed ++ l, ∀ u ∈ placed ++ l, t.ends = u.ends → t = u) :
    s ∈ l.foldl (fun placed s => s.place placed) placed ↔ s ∈ placed ++ l := by
  induction l generalizing placed with
  | nil => simp
  | cons first rest ih =>
    have members (u : Session) : u ∈ first.place placed ↔ u = first ∨ u ∈ placed :=
      mem_place_iff fun u listed => unique u (List.mem_append_left _ listed) first (by simp)
    have same (u : Session) : u ∈ first.place placed ++ rest ↔ u ∈ placed ++ first :: rest := by
      simp only [List.mem_append, members, List.mem_cons]
      tauto
    rw [List.foldl_cons, ih, same]
    exact fun t listed u listed' => unique t ((same t).1 listed) u ((same u).1 listed')

end Session

namespace Network

variable {n : Network} {s t : Session}

def Owns (n : Network) (e : Endpoint) (a : Address) : Prop :=
  ∃ c ∈ n.configurations.values, c.hostname = e.node ∧ c.Holds e.vrf a

instance {e : Endpoint} {a : Address} : Decidable (n.Owns e a) :=
  inferInstanceAs (Decidable (∃ c ∈ n.configurations.values, _))

/-- The first entry that the receiver has for the sender expects the session as it is. -/
def Answers (n : Network) (s : Session) : Prop :=
  ∃ p ∈ n.processes, p.1.1.hostname = s.receiver.node ∧ p.1.2 = s.receiver.vrf ∧
    ∃ entry ∈ p.2.neighbor? s.receiver.peer, entry.remoteAs = s.senderAs ∧
      p.2.sessionAs entry = s.receiverAs ∧
      p.1.1.sessionAddress? s.receiver.vrf entry = some s.receiverAddress

instance : Decidable (n.Answers s) := inferInstanceAs (Decidable (∃ p ∈ n.processes, _))

theorem mem_nodesAndVrfs_iff {e : Endpoint} {a : Address} :
    (e.node, e.vrf) ∈ n.fabric.owners.nodesAndVrfs a ↔ n.Owns e a :=
  Owners.mem_ofConfigurations_iff

/-- A receiver whose entries have distinct peers answers with the entry that it has found the sender
by. -/
theorem Discovered.answers (d : n.Discovered s) (nodup : (d.process.neighbors.map (·.peer)).Nodup) :
    n.Answers s := by
  refine ⟨_, d.receives, d.receiver_name, rfl, d.neighbor, ?_, d.expects, d.receiver_as.symm,
    d.receiver_own⟩
  rw [← d.peer]
  exact BgpProcess.neighbor?_eq_some nodup d.receiver_entry

/-- The session the other way, as the sender discovers it. -/
theorem Discovered.reversed (d : n.Discovered s) (owns : n.Owns s.receiver s.receiverAddress)
    (answers : n.Answers s) : ∃ t, Nonempty (n.Discovered t) ∧ t.Reverses s := by
  obtain ⟨⟨⟨c, vrf⟩, process⟩, runs, name, rfl, entry, found, expects, number, own⟩ := answers
  obtain ⟨listed, peer⟩ := BgpProcess.of_neighbor? d.sender_entry
  let t : Session := {
    sender := s.receiver
    receiver := s.sender
    type := if s.senderAs = s.receiverAs then .internal entry.reflectorClient else .external
    senderAddress := s.receiverAddress
    receiverAddress := s.senderAddress
    senderAs := s.receiverAs
    receiverAs := s.senderAs }
  refine ⟨t, ⟨{
      sender := c
      senderProcess := process
      senderNeighbor := entry
      receiver := d.sender
      process := d.senderProcess
      neighbor := d.senderNeighbor
      sends := runs
      receives := d.sends
      sender_name := name
      receiver_name := d.sender_name
      apart := d.apart.symm
      sender_entry := found
      receiver_entry := listed
      peer := peer
      sender_address := d.receiver_address
      receiver_address := d.sender_address
      sender_as := number.symm
      receiver_as := d.sender_as
      expected := expects
      expects := d.expected
      type := rfl
      owner := mem_nodesAndVrfs_iff.2 owns
      sender_own := own
      receiver_own := d.sender_own }⟩, rfl, rfl, rfl, rfl, rfl, rfl, ?_⟩
  rw [d.type]
  by_cases inside : s.senderAs = s.receiverAs
  · simp only [t, if_pos inside, if_pos inside.symm, SessionType.isExternal]
  · simp only [t, if_neg inside, if_neg (Ne.symm inside)]

/-- What the session the other way says about the receiver. -/
theorem Discovered.of_reverses (e : n.Discovered t) (reverses : t.Reverses s) :
    n.Owns s.receiver s.receiverAddress ∧ n.Answers s := by
  unfold Answers
  rw [← reverses.sender, ← reverses.senderAddress, ← reverses.receiverAs, ← reverses.senderAs]
  exact ⟨mem_nodesAndVrfs_iff.1 e.owner, _, e.sends, e.sender_name, rfl, e.senderNeighbor, e.sender_entry,
    e.expected, e.sender_as.symm, e.sender_own⟩

theorem mem_candidates_iff :
    s ∈ n.configurations.values.flatMap (Session.ofConfiguration n.configurations n.fabric.owners) ↔
      Nonempty (n.Discovered s) := by
  rw [List.mem_flatMap]
  constructor
  · rintro ⟨c, listed, found⟩
    exact discovered listed found
  · rintro ⟨d⟩
    obtain ⟨receives, runs⟩ := mem_processes_iff.1 d.receives
    obtain ⟨sends, senderRuns⟩ := mem_processes_iff.1 d.sends
    refine ⟨d.receiver, receives, Session.mem_ofConfiguration_iff.2 ⟨s.receiver.vrf, d.process,
      d.neighbor,
      s.receiverAddress, (s.sender.node, s.sender.vrf), runs, d.receiver_entry, d.receiver_own, ?_, ?_⟩⟩
    · rw [d.peer, ← d.sender_address]
      exact d.owner
    · refine Session.between?_eq_some_iff.2 ⟨?_, d.sender, ?_, d.senderProcess, senderRuns,
        d.senderNeighbor, ?_, ⟨?_, ?_⟩, ?_, ?_⟩
      · rw [d.receiver_name]
        exact d.apart
      · exact d.sender_name ▸ get_hostname sends
      · rw [d.receiver_address]
        exact d.sender_entry
      · rw [d.expected, d.receiver_as]
      · rw [d.expects, d.sender_as]
      · rw [d.sender_own, d.sender_address, d.peer]
      · have sender : s.sender = ⟨s.sender.node, s.sender.vrf, s.receiverAddress⟩ := by
          rw [d.receiver_address]
        have receiver : s.receiver = ⟨s.receiver.node, s.receiver.vrf, s.senderAddress⟩ := by
          rw [d.sender_address]
        rw [d.peer, d.receiver_name, ← d.receiver_as, ← d.sender_as, ← d.type, ← d.sender_address,
          ← sender, ← receiver]

/-- What is discovered is determined by its ends: the sender answers with its first entry, and that entry
fixes both system numbers. -/
theorem Discovered.eq_of_ends (d : n.Discovered s) (e : n.Discovered t) (same : s.ends = t.ends) :
    s = t := by
  obtain ⟨sender, receiver⟩ := Prod.mk.inj same
  obtain ⟨sends, runs⟩ := mem_processes_iff.1 d.sends
  obtain ⟨sends', runs'⟩ := mem_processes_iff.1 e.sends
  have device : d.sender = e.sender :=
    eq_of_hostname sends sends' (by rw [d.sender_name, e.sender_name, sender])
  have process : d.senderProcess = e.senderProcess := by
    rw [device, sender, runs'] at runs
    exact (Option.some.inj runs).symm
  have entry : d.senderNeighbor = e.senderNeighbor := by
    have found := d.sender_entry
    rw [process, sender, e.sender_entry] at found
    exact (Option.some.inj found).symm
  have senderAs : s.senderAs = t.senderAs := by rw [d.sender_as, e.sender_as, process, entry]
  have receiverAs : s.receiverAs = t.receiverAs := by rw [← d.expected, ← e.expected, entry]
  have type : s.type = t.type := by rw [d.type, e.type, senderAs, receiverAs, entry]
  have senderAddress : s.senderAddress = t.senderAddress := by
    rw [d.sender_address, e.sender_address, receiver]
  have receiverAddress : s.receiverAddress = t.receiverAddress := by
    rw [d.receiver_address, e.receiver_address, sender]
  cases s
  cases t
  rw [Session.mk.injEq]
  exact ⟨sender, receiver, type, senderAddress, receiverAddress, senderAs, receiverAs⟩

/-- The sessions of a network are exactly those that their receivers discover. -/
theorem mem_sessions_iff : s ∈ n.fabric.sessions.toList ↔ Nonempty (n.Discovered s) := by
  rw [← mem_candidates_iff]
  refine Session.mem_foldl_place_iff fun t listed u listed' same => ?_
  obtain ⟨d⟩ := mem_candidates_iff.1 listed
  obtain ⟨e⟩ := mem_candidates_iff.1 listed'
  exact d.eq_of_ends e same

/-- The sender of a session owns its address. There is a session the other way exactly if the receiver
owns its own address too, and answers with its first entry for the sender. Where no process has two
entries for one peer, every receiver answers. -/
theorem session_reversed_iff (member : s ∈ n.fabric.sessions.toList) :
    n.Owns s.sender s.senderAddress ∧
      ((∃ t ∈ n.fabric.sessions.toList, t.Reverses s) ↔
        n.Owns s.receiver s.receiverAddress ∧ n.Answers s) ∧
      ((∀ p ∈ n.processes, (p.2.neighbors.map (·.peer)).Nodup) → n.Answers s) := by
  obtain ⟨d⟩ := mem_sessions_iff.1 member
  refine ⟨mem_nodesAndVrfs_iff.1 d.owner, ⟨?_, ?_⟩, fun nodup => d.answers (nodup _ d.receives)⟩
  · rintro ⟨t, member', reverses⟩
    obtain ⟨e⟩ := mem_sessions_iff.1 member'
    exact e.of_reverses reverses
  · rintro ⟨owns, answers⟩
    obtain ⟨t, discovered, reverses⟩ := d.reversed owns answers
    exact ⟨t, mem_sessions_iff.2 discovered, reverses⟩

/-- Two systems on a link. The first one speaks from the given address. -/
def facing (own : Address) : Network :=
  let entry : Neighbor := { peer := .ofOctets 10 0 0 2, localAddress := some own, remoteAs := 65002 }
  let answer : Neighbor := {
    peer := own, localAddress := some (.ofOctets 10 0 0 2), remoteAs := 65001 }
  let first := (speaker "first" (.ofOctets 1 1 1 1) 65001 .empty [entry])
    |>.withInterface "eth0" (.ofAddress (.ofOctets 10 0 0 1 30))
  let second := (speaker "second" (.ofOctets 2 2 2 2) 65002 .empty [answer])
    |>.withInterface "eth0" (.ofAddress (.ofOctets 10 0 0 2 30))
  ofConfigurations [first, second]

/-- From the address of its interface, it has a session in both directions. -/
theorem interface_is_answered : ∃ s ∈ (facing (.ofOctets 10 0 0 1)).fabric.sessions.toList,
    ∃ t ∈ (facing (.ofOctets 10 0 0 1)).fabric.sessions.toList, t.Reverses s := by
  have fits : ∃ s ∈ (facing (.ofOctets 10 0 0 1)).fabric.sessions.toList,
      (facing (.ofOctets 10 0 0 1)).Owns s.receiver s.receiverAddress ∧
        (facing (.ofOctets 10 0 0 1)).Answers s := by
    decide +kernel
  obtain ⟨s, member, fits⟩ := fits
  exact ⟨s, member, (session_reversed_iff member).2.1.2 fits⟩

/-- From an address that is not its own, it hears its neighbor and cannot reach it. -/
theorem pretender_is_not_answered : ∃ s ∈ (facing (.ofOctets 1 1 1 1)).fabric.sessions.toList,
    ¬(facing (.ofOctets 1 1 1 1)).Owns s.receiver s.receiverAddress ∧
      ∀ t ∈ (facing (.ofOctets 1 1 1 1)).fabric.sessions.toList, ¬t.Reverses s := by
  have alone : ∃ s ∈ (facing (.ofOctets 1 1 1 1)).fabric.sessions.toList,
      ¬(facing (.ofOctets 1 1 1 1)).Owns s.receiver s.receiverAddress ∧
        ∀ t ∈ (facing (.ofOctets 1 1 1 1)).fabric.sessions.toList, t.sender ≠ s.receiver := by
    decide +kernel
  obtain ⟨s, member, foreign, alone⟩ := alone
  exact ⟨s, member, foreign, fun t listed reverses => alone t listed reverses.sender⟩

end Network

end RoutePlane
