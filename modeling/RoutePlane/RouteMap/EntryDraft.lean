import RoutePlane.RouteMap.Basic

/-!
Entries of route maps under construction. A finished entry needs a number and an action, and it can
only go on at a later entry. All networks that a draft matches form one prefix list, the last of
its conditions.
-/
namespace RoutePlane.RouteMap

inductive EntryFault where
  | missingSequence
  | missingAction (sequence : UInt16)
  | backwardContinuation (sequence target : UInt16)
  deriving DecidableEq

def EntryFault.message : EntryFault → String
  | missingSequence => "missing sequence number"
  | missingAction sequence =>
    s!"entry {Numeral.render sequence.toNat} is neither permit nor deny"
  | backwardContinuation sequence target =>
    let later := Numeral.render target.toNat
    s!"entry {Numeral.render sequence.toNat} can only continue at a later entry, not at {later}"

structure EntryDraft where
  sequence : Option UInt16 := none
  action : Option LineAction := none
  ranges : List PrefixRange := []
  conditions : List Condition := []
  actions : List Action := []
  next : Continuation := .exit

namespace EntryDraft

def withCondition (d : EntryDraft) (c : Condition) : EntryDraft :=
  { d with conditions := d.conditions ++ [c] }

def withRange (d : EntryDraft) (r : PrefixRange) : EntryDraft :=
  { d with ranges := d.ranges ++ [r] }

def withAction (d : EntryDraft) (a : Action) : EntryDraft :=
  { d with actions := d.actions ++ [a] }

/-- The fault of a continuation that does not lead to a later entry. -/
def continuationFault? (sequence : UInt16) : Continuation → Option EntryFault
  | .goto target =>
    if target ≤ sequence then some (.backwardContinuation sequence target) else none
  | _ => none

def build (d : EntryDraft) : Except EntryFault Entry :=
  match d.sequence, d.action with
  | none, _ => .error .missingSequence
  | some sequence, none => .error (.missingAction sequence)
  | some sequence, some action =>
    match continuationFault? sequence d.next with
    | some fault => .error fault
    | none =>
      .ok {
        sequence := sequence
        action := action
        conditions := d.conditions ++ (if d.ranges.isEmpty then [] else [.prefixList d.ranges])
        actions := d.actions
        next := d.next }

end EntryDraft

end RoutePlane.RouteMap
