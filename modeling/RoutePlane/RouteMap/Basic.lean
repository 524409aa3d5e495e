import RoutePlane.Flow.AccessList
import RoutePlane.Route.Draft

/-!
Route maps: named lists of entries that decide whether a route is permitted, and how it is
changed. An entry matches a route if all its conditions hold.
-/
namespace RoutePlane

namespace RouteMap

/-- A block, and the lengths that networks inside of it may have. -/
structure PrefixRange where
  block : Prefix
  lengths : Range
  deriving DecidableEq

namespace PrefixRange

def exact (block : Prefix) : PrefixRange := ⟨block, .single block.length⟩

def covers (r : PrefixRange) (network : Prefix) : Bool :=
  r.lengths.contains network.length && r.block.contains network

end PrefixRange

inductive Condition where
  | prefixList (ranges : List PrefixRange)
  | asPathContains (as : AsNumber)
  | asPathLength (lengths : Range)
  | nextHop (address : Address)
  | community (community : Community)
  /-- Holds also of routes that are not BGP routes. -/
  | missingCommunity (community : Community)
  | protocol (protocol : Protocol)
  | tag (tag : UInt32)
  /-- Another policy of the device permits the route. -/
  | policy (name : String)
  deriving DecidableEq

inductive Action where
  | nextHop (nextHop : NextHop)
  | weight (weight : UInt32)
  | localPreference (preference : UInt32)
  | metric (metric : UInt32)
  | tag (tag : Option UInt32)
  | origin (origin : OriginType)
  | addCommunity (community : Community)
  | deleteCommunity (community : Community)
  /-- The first of the sequence ends leftmost. -/
  | prependAsPath (sequence : List AsNumber)
  deriving DecidableEq

/-- Change the draft; an attribute that its kind does not have stays absent. -/
def Action.apply (draft : RouteDraft) : Action → RouteDraft
  | nextHop h => draft.setNextHop h
  | weight w => draft.setWeight w
  | localPreference p => draft.setLocalPreference p
  | metric m => { draft with metric := m }
  | tag t => { draft with tag := t }
  | origin o => draft.setOriginType o
  | addCommunity c => draft.addCommunity c
  | deleteCommunity c => draft.removeCommunity c
  | prependAsPath sequence => draft.prependSequence sequence

/-- Where the evaluation goes on after an entry has permitted the route. -/
inductive Continuation where
  | exit
  | next
  /-- At the later entry with this number; if there is none, the evaluation ends. -/
  | goto (sequence : UInt16)
  deriving DecidableEq

instance : Inhabited Continuation := ⟨.exit⟩

structure Entry where
  sequence : UInt16
  action : LineAction
  conditions : List Condition
  actions : List Action
  next : Continuation
  deriving DecidableEq

end RouteMap

structure RouteMap where
  name : String
  entries : List RouteMap.Entry
  deriving DecidableEq

/-- A route map from entries in any order; entries of one number keep theirs. -/
def RouteMap.ofEntries (name : String) (entries : List RouteMap.Entry) : RouteMap :=
  ⟨name, entries.mergeSort (fun a b => a.sequence ≤ b.sequence)⟩

end RoutePlane
