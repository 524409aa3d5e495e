import RoutePlane.Order.SortedMap
import RoutePlane.Rib.Preference

/-!
Routing tables. For each network a table holds the routes that none of those merged into it beats
under the comparison of its kind. Removing routes can leave the entry of a network empty; an empty
entry holds no route, and two tables are equal when their other entries are.
-/
namespace RoutePlane

abbrev RouteSet := SortedSet Route

structure Rib where
  kind : RibKind
  entries : SortedMap Prefix RouteSet
  deriving DecidableEq

namespace Rib

def empty (kind : RibKind) : Rib := ⟨kind, .empty⟩

instance : Inhabited Rib := ⟨empty .main⟩

/-- The entry after a route was offered to it, and whether it changed: a route that beats the held
ones replaces them, an equally good one joins them, and a worse one is dropped. -/
def offer (kind : RibKind) (route : Route) (held : RouteSet) : RouteSet × Bool :=
  match held.first? with
  | none => (.singleton route, true)
  | some current =>
    match kind.preference route current with
    | .lt => (.singleton route, true)
    | .eq => (held.insert route, !held.contains route)
    | .gt => (held, false)

/-- A non-routing route never enters a main table. -/
def merge (t : Rib) (route : Route) : Rib × Bool :=
  if t.kind = .main ∧ route.nonRouting then (t, false)
  else
    let (held, changed) := offer t.kind route ((t.entries.get? route.network).getD .empty)
    ({ t with entries := t.entries.insert route.network held }, changed)

def mergeAll (t : Rib) (routes : List Route) : Rib × Bool :=
  routes.foldl (fun (t, changed) route =>
    let (t, more) := t.merge route
    (t, changed || more)) (t, false)

/-- All routes, by network and then in their order. -/
def routes (t : Rib) : List Route := t.entries.values.flatMap (·.toList)

/-- Merge all routes of another table. -/
def absorb (t other : Rib) : Rib × Bool := t.mergeAll other.routes

/-- Keep of the routes for a network those that satisfy the condition. The entry stays. -/
def retain (t : Rib) (network : Prefix) (keep : Route → Bool) : Rib × Bool :=
  match t.entries.get? network with
  | none => (t, false)
  | some held =>
    let kept := held.filter keep
    ({ t with entries := t.entries.insert network kept }, kept.size != held.size)

/-- The networks that have routes, with their routes. -/
def bindings (t : Rib) : List (Prefix × RouteSet) := t.entries.toList.filter (!·.2.isEmpty)

def get? (t : Rib) (network : Prefix) : Option RouteSet :=
  (t.entries.get? network).filter (!·.isEmpty)

def contains (t : Rib) (route : Route) : Bool :=
  match t.get? route.network with
  | some held => held.contains route
  | none => false

def size (t : Rib) : Nat := t.entries.values.foldl (· + ·.size) 0

def isEmpty (t : Rib) : Bool := t.size == 0

/-- Both tables hold the same routes for the same networks, whatever their kinds. -/
def sameRoutes (t u : Rib) : Bool := t.bindings == u.bindings

end Rib

end RoutePlane
