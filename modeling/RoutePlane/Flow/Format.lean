import RoutePlane.Flow.AccessList
import RoutePlane.Flow.Trace
import RoutePlane.Route.Format

/-!
The JSON form of flows, access lists and traces.
-/
namespace RoutePlane

namespace Range

def toJson (r : Range) : Json :=
  .object [("start", .nat r.first), ("end", .nat r.last)]

/-- Both ends are below the bound. A range has no other fields. -/
def ofJson? (bound : Nat) (j : Json) : Option Range := do
  let r ← j.record? ["start", "end"]
  if let .object members := j then guard (members.length = 2)
  pure ⟨← (← r.get? "start").natBelow? bound, ← (← r.get? "end").natBelow? bound⟩

def listOfJson? (bound : Nat) : Json → Option (List Range)
  | .list items => items.mapM (ofJson? bound)
  | _ => none

end Range

instance : JsonFormat IpProtocol where
  toJson
    | .icmp => .text "Icmp"
    | .tcp => .text "Tcp"
    | .udp => .text "Udp"
    | .other n => .choice "Other" n
  ofJson? j :=
    match j.choice? with
    | some ("Other", some content) => (ofJson? content).map .other
    | _ =>
      match j.plainChoice? with
      | some "Icmp" => some .icmp
      | some "Tcp" => some .tcp
      | some "Udp" => some .udp
      | _ => none

instance : JsonFormat Flow where
  toJson f := .object [
    ("ingress_node", toJson f.ingressNode),
    ("ingress_vrf", toJson f.ingressVrf),
    ("src_ip", toJson f.source),
    ("dst_ip", toJson f.destination),
    ("ip_protocol", toJson f.protocol),
    ("src_port", toJson f.sourcePort),
    ("dst_port", toJson f.destinationPort)]
  ofJson? j := do
    let r ← j.record? ["ingress_node", "ingress_vrf", "src_ip", "dst_ip", "ip_protocol", "src_port",
      "dst_port"]
    pure {
      ingressNode := ← r.required "ingress_node"
      ingressVrf := ← r.required "ingress_vrf"
      source := ← r.required "src_ip"
      destination := ← r.required "dst_ip"
      protocol := ← r.required "ip_protocol"
      sourcePort := ← r.required "src_port"
      destinationPort := ← r.required "dst_port" }

instance : JsonFormat LineAction where
  toJson
    | .accept => .text "Accept"
    | .reject => .text "Reject"
  ofJson? j :=
    match j.plainChoice? with
    | some "Accept" => some .accept
    | some "Reject" => some .reject
    | _ => none

namespace HeaderSpace

/-- Ranges of 16-bit numbers that may be missing. -/
def ranges? (r : Json.Record) (name : String) : Option (List Range) :=
  match r.get? name with
  | none => some []
  | some j => Range.listOfJson? UInt16.size j

instance : JsonFormat HeaderSpace where
  toJson h := .object [
    ("src_ips", toJson h.sources),
    ("dst_ips", toJson h.destinations),
    ("ip_protocols", toJson h.protocols),
    ("dst_ports", .list (h.destinationPorts.map Range.toJson)),
    ("src_ports", .list (h.sourcePorts.map Range.toJson))]
  ofJson? j := do
    let r ← j.record? ["src_ips", "dst_ips", "ip_protocols", "dst_ports", "src_ports"]
    pure {
      sources := ← r.withDefault "src_ips" []
      destinations := ← r.withDefault "dst_ips" []
      protocols := ← r.withDefault "ip_protocols" []
      destinationPorts := ← ranges? r "dst_ports"
      sourcePorts := ← ranges? r "src_ports" }

end HeaderSpace

instance : JsonFormat AccessList.Line where
  toJson l := .object [
    ("name", toJson l.name),
    ("action", toJson l.action),
    ("headers", toJson l.headers)]
  ofJson? j := do
    let r ← j.record? ["name", "action", "headers"]
    pure {
      name := ← r.optional "name"
      action := ← r.required "action"
      headers := ← r.withDefault "headers" {} }

instance : JsonFormat AccessList where
  toJson a := .object [("name", toJson a.name), ("lines", toJson a.lines)]
  ofJson? j := do
    let r ← j.record? ["name", "lines"]
    pure ⟨← r.required "name", ← r.required "lines"⟩

instance : JsonFormat InterfaceId where
  toJson p := .object [("node", toJson p.node), ("interface", toJson p.interface)]
  ofJson? j := do
    let r ← j.record? ["node", "interface"]
    pure ⟨← r.required "node", ← r.required "interface"⟩

instance : JsonFormat Link where
  toJson l := .object [("from", toJson l.source), ("to", toJson l.target)]
  ofJson? j := do
    let r ← j.record? ["from", "to"]
    pure ⟨← r.required "from", ← r.required "to"⟩

namespace Disposition

def name : Disposition → String
  | accepted => "Accepted"
  | nullRouted => "NullRouted"
  | noRoute => "NoRoute"
  | deniedIn => "DeniedIn"
  | deniedOut => "DeniedOut"

def ofName? : String → Option Disposition
  | "Accepted" => some accepted
  | "NullRouted" => some nullRouted
  | "NoRoute" => some noRoute
  | "DeniedIn" => some deniedIn
  | "DeniedOut" => some deniedOut
  | _ => none

instance : JsonFormat Disposition where
  toJson d := .text d.name
  ofJson? j := j.plainChoice?.bind ofName?

end Disposition

instance : JsonFormat Hop where
  toJson h := .object [("edge", toJson h.link), ("routes", toJson h.routes)]
  ofJson? j := do
    let r ← j.record? ["edge", "routes"]
    pure ⟨← r.required "edge", ← r.required "routes"⟩

instance : JsonFormat Trace where
  toJson t := .object [
    ("disposition", toJson t.disposition),
    ("hops", toJson t.hops),
    ("notes", toJson t.notes)]
  ofJson? j := do
    let r ← j.record? ["disposition", "hops", "notes"]
    pure ⟨← r.required "disposition", ← r.required "hops", ← r.required "notes"⟩

end RoutePlane
