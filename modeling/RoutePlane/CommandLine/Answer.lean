import RoutePlane.CommandLine.Arguments
import RoutePlane.DataPlane.Tracing
import RoutePlane.Network.Schedule
import RoutePlane.Network.Snapshot

/-!
What the command line prints, and its exit code: 0 for an answer, also for the version and for help,
1 for a snapshot or a computation that fails, 2 for a mistake in the arguments.
-/
namespace RoutePlane.CommandLine

structure Answer where
  code : UInt8
  output : String
  deriving DecidableEq

def failure : Answer := ⟨1, ""⟩

def lines (ls : List String) : String := String.join (ls.map (· ++ "\n"))

def stopped : Stop → Answer
  | .mistake => ⟨2, ""⟩
  | .version => ⟨0, lines ["ribsim 0.1.0"]⟩
  | .help topic => ⟨0, lines topic.helpLines⟩

def header : String :=
  "\t".intercalate ["node", "vrf", "network", "next_hop_node", "next_hop_ip",
    "next_hop_interface", "admin", "metric", "protocol", "tag"]

def forwardingLine (network : Prefix) (e : ForwardingEntry) : String :=
  let hop := RouteRow.orDash (e.nextHop.map (·.text))
  let node := RouteRow.orDash e.node
  s!"  {network.text} -> {e.interface} via {hop} ({node})"

def forwardingLines (r : Router) : List String :=
  s!"{r.hostname} [{r.vrf}]" :: r.forwarding.entries.toList.flatMap fun (network, entries) =>
    entries.toList.map (forwardingLine network)

/-- The flow is printed before it is traced. -/
def traceAnswer (d : DataPlane) (f : Flow) : Answer :=
  match d.trace f with
  | .ok traces => ⟨0, lines (f.text :: traces.toList.map (·.text))⟩
  | .error _ => ⟨1, lines [f.text]⟩

def report (d : DataPlane) : Command → Answer
  | .routes => ⟨0, lines (header :: d.rows.map (·.text))⟩
  | .forwarding => ⟨0, lines (d.routers.flatMap forwardingLines)⟩
  | .statistics => ⟨0, lines [d.statistics.toJson.pretty]⟩
  | .trace flow => traceAnswer d flow

/-- Answer a request with the text of its snapshot, if that could be read. -/
def answer (request : Request) (text : Option String) : Answer :=
  match text.bind Network.ofText? with
  | none => failure
  | some network =>
    let settings : ComputeSettings := { maxOuter := request.maxOuter, threads := request.threads }
    match { network with settings := settings }.compute with
    | .error _ => failure
    | .ok d => report d request.command

end RoutePlane.CommandLine
