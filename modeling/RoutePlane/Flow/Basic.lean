import RoutePlane.Address.Basic
import RoutePlane.Flow.Link

/-!
Flows: the headers of packets that enter the network at a node.
-/
namespace RoutePlane

/-- The protocol inside an IP packet. Three have names; the name and the number are different
spellings, and `number` says what both mean. -/
inductive IpProtocol where
  | icmp
  | tcp
  | udp
  | other (number : UInt8)
  deriving DecidableEq, Inhabited

namespace IpProtocol

def number : IpProtocol → UInt8
  | icmp => 1
  | tcp => 6
  | udp => 17
  | other n => n

/-- The named spelling where there is one. -/
def ofNumber (n : UInt8) : IpProtocol :=
  if n = 1 then icmp else if n = 6 then tcp else if n = 17 then udp else other n

/-- A name in any case, or a number. -/
def ofText? (text : String) : Option IpProtocol :=
  match text.toLower with
  | "icmp" => some icmp
  | "tcp" => some tcp
  | "udp" => some udp
  | _ => (Numeral.unsigned? UInt8.size text).map fun n => ofNumber (UInt8.ofNat n)

def unknownMessage (text : String) : String := s!"Unknown IP protocol: {text}"

def text : IpProtocol → String
  | icmp => "ICMP"
  | tcp => "TCP"
  | udp => "UDP"
  | other n => Numeral.render n.toNat

def key : IpProtocol → Nat × UInt8
  | icmp => (0, 0)
  | tcp => (1, 0)
  | udp => (2, 0)
  | other n => (3, n)

theorem key_injective (p q : IpProtocol) (h : p.key = q.key) : p = q := by
  cases p <;> cases q <;> simp_all [key]

instance : Ord IpProtocol := ⟨compareOn key⟩

instance : Std.TransOrd IpProtocol := inferInstanceAs (Std.TransCmp (compareOn key))

instance : Std.LawfulEqOrd IpProtocol := lawfulEqCmp_compareOn key key_injective

end IpProtocol

structure Flow where
  ingressNode : String
  ingressVrf : String := defaultVrf
  source : Address
  destination : Address
  protocol : IpProtocol := .tcp
  sourcePort : UInt16 := 49152
  destinationPort : UInt16 := 80
  deriving DecidableEq

namespace Flow

def key (f : Flow) :=
  (f.ingressNode, f.ingressVrf, f.source, f.destination, f.protocol, f.sourcePort,
    f.destinationPort)

theorem key_injective (a b : Flow) (h : a.key = b.key) : a = b := by
  cases a; cases b
  simpa [key] using h

instance : Ord Flow := ⟨compareOn key⟩

instance : Std.TransOrd Flow := inferInstanceAs (Std.TransCmp (compareOn key))

instance : Std.LawfulEqOrd Flow := lawfulEqCmp_compareOn key key_injective

def text (f : Flow) : String :=
  let source := s!"{f.source.text}:{Numeral.render f.sourcePort.toNat}"
  let destination := s!"{f.destination.text}:{Numeral.render f.destinationPort.toNat}"
  s!"{f.ingressNode}@{f.ingressVrf}: {source} -> {destination} {f.protocol.text}"

end Flow

end RoutePlane
