import RoutePlane.DataPlane.Query
import RoutePlane.Flow.Trace

/-!
Flows through a converged network. At each router a flow goes on over every entry for its
destination and every link that the entry leads to, so it has one trace for each way. A way that
comes back to a node, or ends at an interface that leads nowhere, is an error of the whole trace.
-/
namespace RoutePlane

namespace DataPlane

/-- The note of the access list that stops the flow, if it names one that does. -/
def deniedBy? (c : Configuration) (filter : Option String) (f : Flow) (d : Disposition) :
    Option String := do
  let list ← c.accessLists.get? (← filter)
  let verdict := list.filter f
  match verdict.action with
  | .accept => none
  | .reject =>
    let line := list.describe verdict.line
    some (d.text ++ "\x7b" ++ list.name ++ "\x7d\x7b" ++ line ++ "\x7d")

/-- The links out of an interface that an entry leads to: those to its node, or if it has none, those to
the owners of its next hop, or else of the destination. -/
def nextLinks (d : DataPlane) (f : Flow) (out : InterfaceId) (e : ForwardingEntry) : List Link :=
  match e.node with
  | some node => (d.fabric.topology.linksFrom out).filter (·.target.node == node)
  | none =>
    let target := e.nextHop.getD f.destination
    (d.fabric.topology.linksFrom out).filter fun l => d.fabric.owners.owns target l.target.node

/-- What becomes of a flow at an entry: it ends there, or it goes on over links. -/
inductive Departure where
  | ends (disposition : Disposition) (notes : String)
  | across (links : List Link)

def departure (d : DataPlane) (f : Flow) (r : Router) (e : ForwardingEntry) :
    Except NetworkError Departure :=
  let out : InterfaceId := ⟨r.hostname, e.interface⟩
  if e.isDiscard then .ok (.ends .nullRouted "")
  else
    match r.configuration.interfaces.get? e.interface with
    | none => .error (.interfaceNotFound out)
    | some i =>
      match deniedBy? r.configuration i.outgoingFilter f .deniedOut with
      | some note => .ok (.ends .deniedOut note)
      | none =>
        if d.sinks.contains out then .ok (.ends .accepted "")
        else if !d.fabric.topology.hasLinks out then .error (.missingLinks out)
        else
          match d.nextLinks f out e with
          | [] => if e.node.isSome then .error (.missingLinks out) else .ok (.ends .accepted "")
          | links => .ok (.across links)

/-- The far end of a link: the VRF the flow enters, or the note of the filter that stops it. -/
def arrival (d : DataPlane) (f : Flow) (l : Link) :
    Except NetworkError (Option String × String) := do
  let remote ← d.configuration? l.target.node
  match remote.interfaces.get? l.target.interface with
  | none => .error (.interfaceNotFound l.target)
  | some i => pure (deniedBy? remote i.incomingFilter f .deniedIn, i.vrf)

def hop (l : Link) (e : ForwardingEntry) : Hop := ⟨l, [e.route.text]⟩

/-- All traces from a node on, after some hops over a path of nodes. A path without a repetition has
no more nodes than the network, which bounds the steps. -/
def traceFrom (d : DataPlane) (f : Flow) :
    Nat → List String → List Hop → String → String → Except NetworkError (List Trace)
  | 0, path, _, node, _ => .error (.forwardingLoop (path ++ [node]))
  | steps + 1, path, hops, node, vrf =>
    if node ∈ path then .error (.forwardingLoop (path ++ [node]))
    else do
      let r ← d.router? node vrf
      if d.fabric.owners.ownsIn f.destination node vrf then pure [⟨.accepted, hops, ""⟩]
      else
        match r.forwarding.lookup? f.destination with
        | none => pure [⟨.noRoute, hops, ""⟩]
        | some (_, entries) => do
          let traces ← entries.toList.mapM fun e => do
            match ← d.departure f r e with
            | .ends disposition notes =>
              let last := hop ⟨⟨node, e.interface⟩, .null⟩ e
              pure [⟨disposition, hops ++ [last], notes⟩]
            | .across links => do
              let further ← links.mapM fun l => do
                let hops := hops ++ [hop l e]
                match ← d.arrival f l with
                | (some note, _) => pure [⟨.deniedIn, hops, note⟩]
                | (none, vrf) => d.traceFrom f steps (path ++ [node]) hops l.target.node vrf
              pure further.flatten
          pure traces.flatten

/-- The traces of a flow on all its ways. -/
def trace (d : DataPlane) (f : Flow) : Except NetworkError (SortedSet Trace) := do
  let traces ← d.traceFrom f (d.fabric.configurations.size + 1) [] [] f.ingressNode f.ingressVrf
  pure (.ofList traces)

def traceAll (d : DataPlane) (flows : List Flow) :
    Except NetworkError (SortedMap Flow (SortedSet Trace)) := do
  let traced ← flows.mapM fun f => do pure (f, ← d.trace f)
  pure (.ofList traced)

end DataPlane

end RoutePlane
