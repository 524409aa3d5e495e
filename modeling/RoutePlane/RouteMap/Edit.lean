import RoutePlane.RouteMap.EntryDraft
import RoutePlane.RouteMap.Format

/-!
Edits of route map entries in written form: an edit has a name and, most of them, a value.
-/
namespace RoutePlane.RouteMap.EntryDraft

def editBy? {α : Type} [JsonFormat α] (value : Option Json) (set : EntryDraft → α → EntryDraft) :
    Option (EntryDraft → EntryDraft) := do
  let v ← value.bind ofJson?
  pure (set · v)

def conditionBy? {α : Type} [JsonFormat α] (value : Option Json) (make : α → Condition) :
    Option (EntryDraft → EntryDraft) :=
  editBy? value fun d v => d.withCondition (make v)

def actionBy? {α : Type} [JsonFormat α] (value : Option Json) (make : α → Action) :
    Option (EntryDraft → EntryDraft) :=
  editBy? value fun d v => d.withAction (make v)

def edit? (name : String) (value : Option Json) : Option (EntryDraft → EntryDraft) :=
  match name with
  | "order" => editBy? value fun d sequence => { d with sequence := some sequence }
  | "allow" => some fun d => { d with action := some .accept }
  | "deny" => some fun d => { d with action := some .reject }
  | "condition" => conditionBy? value id
  | "match_prefix" => editBy? value fun d block => d.withRange (.exact block)
  | "match_prefix_range" => do
    let .list [block, first, last] ← value | none
    let block ← ofJson? block
    let first : UInt8 ← ofJson? first
    let last : UInt8 ← ofJson? last
    pure (·.withRange ⟨block, ⟨first.toNat, last.toNat⟩⟩)
  | "match_as_path_contains" => conditionBy? value .asPathContains
  | "match_as_path_length" => do
    let lengths ← value.bind (Range.ofJson? UInt64.size)
    pure (·.withCondition (.asPathLength lengths))
  | "match_next_hop" => conditionBy? value .nextHop
  | "match_community" => conditionBy? value .community
  | "match_missing_community" => conditionBy? value .missingCommunity
  | "match_protocol" => conditionBy? value .protocol
  | "match_tag" => conditionBy? value .tag
  | "match_policy" => conditionBy? value .policy
  | "set" => actionBy? value id
  | "set_next_hop" => actionBy? value .nextHop
  | "set_weight" => actionBy? value .weight
  | "set_local_pref" => actionBy? value .localPreference
  | "reset_local_pref" => some (·.withAction (.localPreference defaultLocalPreference))
  | "set_med" => actionBy? value .metric
  | "set_tag" => actionBy? (some (value.getD .null)) .tag
  | "set_origin" => actionBy? value .origin
  | "set_community" => actionBy? value .addCommunity
  | "remove_community" => actionBy? value .deleteCommunity
  | "prepend_as_path" => actionBy? value .prependAsPath
  | "exit" => some fun d => { d with next := .exit }
  | "continue_next" => some fun d => { d with next := .next }
  | "continue_at" => editBy? value fun d target => { d with next := .goto target }
  | _ => none

end RoutePlane.RouteMap.EntryDraft
