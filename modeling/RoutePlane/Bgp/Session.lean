import RoutePlane.Topology.Basic

/-!
BGP sessions. Two neighbour entries of different devices make a session if each one's peer address
is owned by the other device, the numbers of the systems agree on both sides, and the remote side
uses the peer address as its own. A session is directed: routes go from its sender to its receiver.
-/
namespace RoutePlane

/-- Seen from the sender. -/
inductive SessionType where
  | external
  /-- Inside one system; the receiver may be a reflector client of the sender. -/
  | internal (toClient : Bool)
  deriving DecidableEq

namespace SessionType

def isExternal : SessionType → Bool
  | external => true
  | internal _ => false

def isInternal (t : SessionType) : Bool := !t.isExternal

def text : SessionType → String
  | external => "ebgp"
  | internal false => "ibgp"
  | internal true => "ibgp-client"

end SessionType

/-- One side of a session: the neighbour entry for a peer, in a VRF of a node. -/
structure Endpoint where
  node : String
  vrf : String
  peer : Address
  deriving DecidableEq

namespace Endpoint

def key (e : Endpoint) : String × String × Address := (e.node, e.vrf, e.peer)

theorem key_injective (a b : Endpoint) (h : a.key = b.key) : a = b := by
  cases a; cases b
  simpa [key] using h

instance : Ord Endpoint := ⟨compareOn key⟩

instance : Std.TransOrd Endpoint := inferInstanceAs (Std.TransCmp (compareOn key))

instance : Std.LawfulEqOrd Endpoint := lawfulEqCmp_compareOn key key_injective

def text (e : Endpoint) : String := s!"{e.node}/{e.vrf}/{e.peer.text}"

end Endpoint

structure Session where
  sender : Endpoint
  receiver : Endpoint
  type : SessionType
  senderAddress : Address
  receiverAddress : Address
  senderAs : AsNumber
  receiverAs : AsNumber
  deriving DecidableEq

namespace Session

def ends (s : Session) : Endpoint × Endpoint := (s.sender, s.receiver)

/-- The session over which a neighbour entry receives from one owner of its peer address. -/
def between? (configurations : SortedMap String Configuration) (receiver : Configuration)
    (vrf : String) (process : BgpProcess) (neighbor : Neighbor) (own : Address)
    (owner : String × String) : Option Session := do
  guard (owner.1 ≠ receiver.hostname)
  let remote ← configurations.get? owner.1
  let remoteProcess ← remote.bgpProcess? owner.2
  let remoteNeighbor ← remoteProcess.neighbor? own
  let localAs := process.sessionAs neighbor
  let remoteAs := remoteProcess.sessionAs remoteNeighbor
  guard (remoteNeighbor.remoteAs = localAs ∧ neighbor.remoteAs = remoteAs)
  guard (remote.sessionAddress? owner.2 remoteNeighbor = some neighbor.peer)
  pure {
    sender := ⟨owner.1, owner.2, own⟩
    receiver := ⟨receiver.hostname, vrf, neighbor.peer⟩
    type := if localAs = remoteAs then .internal remoteNeighbor.reflectorClient else .external
    senderAddress := neighbor.peer
    receiverAddress := own
    senderAs := remoteAs
    receiverAs := localAs }

def ofNeighbor (configurations : SortedMap String Configuration) (owners : Owners)
    (receiver : Configuration) (vrf : String) (process : BgpProcess) (neighbor : Neighbor) :
    List Session :=
  match receiver.sessionAddress? vrf neighbor with
  | none => []
  | some own =>
    (owners.nodesAndVrfs neighbor.peer).filterMap
      (between? configurations receiver vrf process neighbor own)

def ofConfiguration (configurations : SortedMap String Configuration) (owners : Owners)
    (receiver : Configuration) : List Session :=
  receiver.vrfs.toList.flatMap fun (vrf, settings) =>
    match settings.bgp with
    | none => []
    | some process =>
      process.neighbors.flatMap (ofNeighbor configurations owners receiver vrf process)

/-- A session between the same ends is replaced where it stands. -/
def place (s : Session) : List Session → List Session
  | [] => [s]
  | t :: rest => if t.ends = s.ends then s :: rest else t :: place s rest

end Session

/-- All sessions, in the order of their discovery. -/
structure Sessions where
  toList : List Session
  deriving DecidableEq

namespace Sessions

def ofConfigurations (configurations : SortedMap String Configuration) (owners : Owners) :
    Sessions :=
  ⟨(configurations.values.flatMap (Session.ofConfiguration configurations owners)).foldl
    (fun placed s => s.place placed) []⟩

def endpoints (s : Sessions) : List Endpoint :=
  (s.toList.flatMap fun s => [s.sender, s.receiver]).foldl
    (fun ends e => if e ∈ ends then ends else ends ++ [e]) []

/-- The sessions over which a VRF of a node receives: by receiving end, the latest first. -/
def incoming (s : Sessions) (node vrf : String) : List Session :=
  (s.endpoints.filter (fun e => e.node == node && e.vrf == vrf)).flatMap fun e =>
    (s.toList.filter (·.receiver == e)).reverse

def size (s : Sessions) : Nat := s.toList.length

end Sessions

end RoutePlane
