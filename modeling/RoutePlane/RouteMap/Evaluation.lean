import RoutePlane.Configuration.Basic

/-!
Evaluation of policies. A route map is walked through from its first entry on: an entry that does
not match is skipped, a rejecting one ends the walk, and a permitting one adds its actions and says
where the walk goes on. The verdict depends on the route alone; the actions are applied to a draft
afterwards.

A condition can ask another policy of the device, which may ask further ones. There are only as
many as the device has, so a chain of questions that is longer comes back to itself. Nothing stops such
questions, and a run that follows them has no end. Here they are followed to a bounded depth, and what
needs more is marked as circular.
-/
namespace RoutePlane

inductive PolicyError where
  | undefined (name : String)
  /-- In place of a run that has not come to its end. -/
  | circular (name : String)
  deriving DecidableEq

def PolicyError.message : PolicyError → String
  | undefined name => s!"Undefined routing policy {name}"
  | circular name => s!"Policy failed: {name} refers to itself"

inductive Direction where
  | incoming
  | outgoing
  deriving DecidableEq

def Direction.text : Direction → String
  | incoming => "in"
  | outgoing => "out"

/-- Where a policy is evaluated: the device, the VRF, and the addresses of a session if there is
one. -/
structure PolicyContext where
  configuration : Configuration
  vrf : String
  direction : Direction
  localAddress : Option Address := none
  peerAddress : Option Address := none

namespace RouteMap

structure Verdict where
  permitted : Bool
  /-- The actions of the permitting entries, in the order of the walk. -/
  actions : List Action
  deriving DecidableEq

/-- Whether the condition holds of the route; `permits` answers for other policies. -/
def Condition.holds (permits : String → Except PolicyError Bool) (r : Route) :
    Condition → Except PolicyError Bool
  | prefixList ranges => .ok (ranges.any (·.covers r.network))
  | asPathContains as => .ok (r.attributes?.any (·.asPath.contains as))
  | asPathLength lengths => .ok (r.attributes?.any fun a => lengths.contains a.asPath.length)
  | nextHop address => .ok (r.nextHop.address? == some address)
  | community c => .ok (r.attributes?.any (·.communities.contains c))
  | missingCommunity c => .ok (!r.attributes?.any (·.communities.contains c))
  | protocol p => .ok (r.protocol == p)
  | tag t => .ok (r.tag == some t)
  | policy name => permits name

/-- All conditions hold; those after the first that does not are not asked. -/
def allHold (permits : String → Except PolicyError Bool) (r : Route) :
    List Condition → Except PolicyError Bool
  | [] => .ok true
  | c :: rest => do if ← c.holds permits r then allHold permits r rest else pure false

/-- Walk through the entries with the verdict so far. While an entry is sought, all others are passed
over, so it is the next later one with the number. Among entries by increasing number, a search by
bisection through all of them finds the same; among entries out of order, or with equal numbers, it may
find another one or none. -/
def walk (permits : String → Except PolicyError Bool) (r : Route) :
    Option UInt16 → Verdict → List Entry → Except PolicyError Verdict
  | _, verdict, [] => .ok verdict
  | sought, verdict, e :: rest =>
    if sought.any (· ≠ e.sequence) then walk permits r sought verdict rest
    else do
      if ← allHold permits r e.conditions then
        match e.action with
        | .reject => pure { verdict with permitted := false }
        | .accept =>
          let verdict := ⟨true, verdict.actions ++ e.actions⟩
          match e.next with
          | .exit => pure verdict
          | .next => walk permits r none verdict rest
          | .goto sequence => walk permits r (some sequence) verdict rest
      else walk permits r none verdict rest

def evaluate (permits : String → Except PolicyError Bool) (m : RouteMap) (r : Route) :
    Except PolicyError Verdict :=
  walk permits r none ⟨false, []⟩ m.entries

def Verdict.applyTo (v : Verdict) (draft : RouteDraft) : RouteDraft :=
  v.actions.foldl Action.apply draft

end RouteMap

namespace PolicyContext

/-- The verdict of a policy of the device, which may ask others to the given depth. When the depth is
used up, all that is known is that the run is longer. -/
def evaluate (c : PolicyContext) (r : Route) : Nat → String → Except PolicyError RouteMap.Verdict
  | depth, name =>
    match c.configuration.policy? name with
    | none => .error (.undefined name)
    | some policy =>
      match depth with
      | 0 => .error (.circular name)
      | depth + 1 =>
        policy.evaluate (fun other => do pure (← c.evaluate r depth other).permitted) r

/-- The number of policies that a chain of questions can pass through without a repetition. -/
def depth (c : PolicyContext) : Nat :=
  c.configuration.policies.size + c.configuration.routeMaps.size

/-- The symbolic next hops stand for the ends of the session, where there is one. -/
def resolve (c : PolicyContext) : NextHop → NextHop
  | .self => (c.localAddress.map .address).getD .self
  | .peer => (c.peerAddress.map .address).getD .peer
  | hop => hop

def resolveDraft (c : PolicyContext) (draft : RouteDraft) : RouteDraft :=
  { draft with nextHop := draft.nextHop.map c.resolve }

/-- Apply the policy with this name to a route, writing to the draft. Without a name the route is
accepted as it is. Symbolic next hops are replaced afterwards, also in a rejected draft. -/
def apply (c : PolicyContext) (name : Option String) (r : Route) (draft : RouteDraft) :
    Except PolicyError (Bool × RouteDraft) :=
  match name with
  | none => .ok (true, c.resolveDraft draft)
  | some name => do
    let verdict ← c.evaluate r c.depth name
    pure (verdict.permitted, c.resolveDraft (verdict.applyTo draft))

end PolicyContext

end RoutePlane
