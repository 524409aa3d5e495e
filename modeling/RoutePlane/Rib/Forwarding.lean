import RoutePlane.Rib.Match
import RoutePlane.Topology.Basic

/-!
Forwarding tables, compiled from main tables. The next hop of a route is resolved to interfaces: an
address is looked up among the routes that forward, again and again until an interface is reached.
Routes that lead nowhere are left out.

While the next hop of a route is resolved, its network is closed to other routes, so resolution
ends. The network opens again afterwards, unless nothing covers the next hop: then it stays closed
for the rest of the resolution.
-/
namespace RoutePlane

structure ForwardingEntry where
  interface : String
  /-- The next node's address; none if the destination itself is on the interface. -/
  nextHop : Option Address
  /-- A node that owns the next hop. -/
  node : Option String
  /-- The route that the entry comes from. -/
  route : Route
  deriving DecidableEq

namespace ForwardingEntry

def isDiscard (e : ForwardingEntry) : Bool := e.interface == nullInterface

def key (e : ForwardingEntry) : String × Option Address × Option String × Route :=
  (e.interface, e.nextHop, e.node, e.route)

theorem key_injective (a b : ForwardingEntry) (h : a.key = b.key) : a = b := by
  cases a; cases b
  simpa [key] using h

instance : Ord ForwardingEntry := ⟨compareOn key⟩

instance : Std.TransOrd ForwardingEntry := inferInstanceAs (Std.TransCmp (compareOn key))

instance : Std.LawfulEqOrd ForwardingEntry := lawfulEqCmp_compareOn key key_injective

end ForwardingEntry

/-- A way out of a router: an interface, and an address on it if there is one to go to. -/
abbrev Exit := String × Option Address

namespace Rib

/-- One route of the match of a next hop, added to what the routes before it have given. -/
def addExits (hop : Address) (resolve : List Prefix → Route → SortedSet Exit × List Prefix) :
    SortedSet Exit × List Prefix → Route → SortedSet Exit × List Prefix :=
  fun (found, closed) next =>
    match next.nextHop with
    | .interface name none => (found.insert (name, some hop), closed)
    | _ =>
      let (more, closed) := resolve closed next
      (found.union more, closed)

/-- The exits of a route, and the closed networks after it. Each address that is looked up closes the
network of a route of the table, so the steps are bounded by the number of entries. -/
def resolve (t : Rib) : Nat → List Prefix → Route → SortedSet Exit × List Prefix
  | steps, closed, r =>
    match r.nextHop with
    | .discard => (.singleton (nullInterface, none), closed)
    | .interface name address => (.singleton (name, address), closed)
    | .self | .peer => (.empty, closed)
    | .address hop =>
      if r.network ∈ closed then (.empty, closed)
      else
        match steps with
        | 0 => (.empty, closed)
        | steps + 1 =>
          match t.longestForwardingMatch? hop r.network with
          | none => (.empty, r.network :: closed)
          | some (_, candidates) =>
            let (found, closed) := (candidates.toList.filter (!·.nonForwarding)).foldl
              (addExits hop (t.resolve steps)) (.empty, r.network :: closed)
            (found, closed.erase r.network)

def exits (t : Rib) (r : Route) : SortedSet Exit := (t.resolve (t.entries.size + 1) [] r).1

end Rib

structure ForwardingTable where
  entries : SortedMap Prefix (SortedSet ForwardingEntry)
  deriving DecidableEq

namespace ForwardingTable

def empty : ForwardingTable := ⟨.empty⟩

/-- One entry per owner of the next hop, or a single one without a node. -/
def entriesOf (owners : Owners) (r : Route) (exit : Exit) : List ForwardingEntry :=
  match (exit.2.map owners.nodes).getD [] with
  | [] => [⟨exit.1, exit.2, none, r⟩]
  | nodes => nodes.map fun node => ⟨exit.1, exit.2, some node, r⟩

/-- Add the entries of a route, if its next hop leads somewhere. -/
def addRoute (main : Rib) (owners : Owners) (f : ForwardingTable) (r : Route) : ForwardingTable :=
  let exits := main.exits r
  if exits.isEmpty then f
  else
    ⟨f.entries.alter r.network fun held =>
      (exits.toList.flatMap (entriesOf owners r)).foldl .insert (held.getD .empty)⟩

def ofRib (main : Rib) (owners : Owners) : ForwardingTable :=
  (main.routes.filter (!·.nonForwarding)).foldl (addRoute main owners) empty

def lookup? (f : ForwardingTable) (a : Address) : Option (Prefix × SortedSet ForwardingEntry) :=
  (lastCovering f.entries.toList (.host a)).filter (!·.2.isEmpty)

def get? (f : ForwardingTable) (network : Prefix) : Option (SortedSet ForwardingEntry) :=
  f.entries.get? network

def size (f : ForwardingTable) : Nat := f.entries.size

end ForwardingTable

end RoutePlane
