import RoutePlane.Rib.Basic

/-!
Look-up by address. In the order of the entries, the networks that contain one address come from
the largest to the smallest, so the last entry that contains it is its longest match.
-/
namespace RoutePlane

/-- The last binding whose network contains the given block. -/
def lastCovering {ν : Type} (bindings : List (Prefix × ν)) (block : Prefix) :
    Option (Prefix × ν) :=
  bindings.foldl (fun found b => if b.1.contains block then some b else found) none

namespace Rib

/-- The entry of the longest network that contains the block, be it empty or not. -/
def covering? (t : Rib) (block : Prefix) : Option (Prefix × RouteSet) :=
  lastCovering t.entries.toList block

/-- The entry of the longest network that contains the address, unless that entry is empty. -/
def longestMatch? (t : Rib) (a : Address) : Option (Prefix × RouteSet) :=
  (t.covering? (.host a)).filter (!·.2.isEmpty)

/-- The longest match other than the entry of the excluded network. A next hop is resolved so,
because a route must not depend on itself. -/
def longestMatchExcluding? (t : Rib) (a : Address) (excluded : Prefix) :
    Option (Prefix × RouteSet) :=
  match t.longestMatch? a with
  | none => none
  | some found =>
    if found.1 = excluded then
      (excluded.parent?.bind t.covering?).filter (!·.2.isEmpty)
    else some found

def forwards (routes : RouteSet) : Bool := routes.toList.any (!·.nonForwarding)

/-- Look for an entry around the block that can forward, going on to larger blocks. -/
def forwardingFrom? (t : Rib) (excluded : Prefix) : Nat → Prefix → Option (Prefix × RouteSet)
  | 0, _ => none
  | steps + 1, block =>
    match t.covering? block with
    | none => none
    | some found =>
      if found.1 ≠ excluded ∧ forwards found.2 then some found
      else found.1.parent?.bind (t.forwardingFrom? excluded steps)

/-- The longest match with a route that forwards, other than the entry of the excluded network. A
block has one of 33 lengths, so 33 steps go through all entries around an address. -/
def longestForwardingMatch? (t : Rib) (a : Address) (excluded : Prefix) :
    Option (Prefix × RouteSet) :=
  t.forwardingFrom? excluded 33 (.host a)

/-- The routes for networks inside the given one. -/
def moreSpecific (t : Rib) (network : Prefix) : List Route :=
  (t.entries.toList.filter (fun b => network.strictlyContains b.1)).flatMap (·.2.toList)

end Rib

end RoutePlane
