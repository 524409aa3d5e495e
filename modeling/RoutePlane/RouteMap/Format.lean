import RoutePlane.Flow.Format
import RoutePlane.RouteMap.Basic

/-!
The JSON form of route maps. The entries are read as they stand, and not sorted.
-/
namespace RoutePlane.RouteMap

instance : JsonFormat PrefixRange where
  toJson r := .object [("prefix", toJson r.block), ("lengths", r.lengths.toJson)]
  ofJson? j := do
    let r ← j.record? ["prefix", "lengths"]
    pure ⟨← r.required "prefix", ← Range.ofJson? UInt8.size (← r.get? "lengths")⟩

instance : JsonFormat Condition where
  toJson
    | .prefixList ranges => .choice "PrefixList" ranges
    | .asPathContains as => .choice "AsPathContains" as
    | .asPathLength lengths => .object [("AsPathLength", lengths.toJson)]
    | .nextHop address => .choice "NextHop" address
    | .community c => .choice "Community" c
    | .missingCommunity c => .choice "MissingCommunity" c
    | .protocol p => .choice "Protocol" p
    | .tag t => .choice "Tag" t
    | .policy name => .choice "Policy" name
  ofJson? j :=
    match j.choice? with
    | some (name, some content) =>
      match name with
      | "PrefixList" => (ofJson? content).map .prefixList
      | "AsPathContains" => (ofJson? content).map .asPathContains
      | "AsPathLength" => (Range.ofJson? UInt64.size content).map .asPathLength
      | "NextHop" => (ofJson? content).map .nextHop
      | "Community" => (ofJson? content).map .community
      | "MissingCommunity" => (ofJson? content).map .missingCommunity
      | "Protocol" => (ofJson? content).map .protocol
      | "Tag" => (ofJson? content).map .tag
      | "Policy" => (ofJson? content).map .policy
      | _ => none
    | _ => none

instance : JsonFormat Action where
  toJson
    | .nextHop h => .choice "NextHop" h
    | .weight w => .choice "Weight" w
    | .localPreference p => .choice "LocalPreference" p
    | .metric m => .choice "Metric" m
    | .tag t => .choice "Tag" t
    | .origin o => .choice "Origin" o
    | .addCommunity c => .choice "AddCommunity" c
    | .deleteCommunity c => .choice "DeleteCommunity" c
    | .prependAsPath sequence => .choice "PrependAsPath" sequence
  ofJson? j :=
    match j.choice? with
    | some (name, some content) =>
      match name with
      | "NextHop" => (ofJson? content).map .nextHop
      | "Weight" => (ofJson? content).map .weight
      | "LocalPreference" => (ofJson? content).map .localPreference
      | "Metric" => (ofJson? content).map .metric
      | "Tag" => (ofJson? content).map .tag
      | "Origin" => (ofJson? content).map .origin
      | "AddCommunity" => (ofJson? content).map .addCommunity
      | "DeleteCommunity" => (ofJson? content).map .deleteCommunity
      | "PrependAsPath" => (ofJson? content).map .prependAsPath
      | _ => none
    | _ => none

instance : JsonFormat Continuation where
  toJson
    | .exit => .text "Exit"
    | .next => .text "Next"
    | .goto sequence => .choice "Goto" sequence
  ofJson? j :=
    match j.choice? with
    | some ("Goto", some content) => (ofJson? content).map .goto
    | _ =>
      match j.plainChoice? with
      | some "Exit" => some .exit
      | some "Next" => some .next
      | _ => none

instance : JsonFormat Entry where
  toJson e := .object [
    ("seq", toJson e.sequence),
    ("action", toJson e.action),
    ("conditions", toJson e.conditions),
    ("sets", toJson e.actions),
    ("next", toJson e.next)]
  ofJson? j := do
    let r ← j.record? ["seq", "action", "conditions", "sets", "next"]
    pure {
      sequence := ← r.required "seq"
      action := ← r.required "action"
      conditions := ← r.required "conditions"
      actions := ← r.required "sets"
      next := ← r.required "next" }

instance : JsonFormat RouteMap where
  toJson m := .object [("name", toJson m.name), ("entries", toJson m.entries)]
  ofJson? j := do
    let r ← j.record? ["name", "entries"]
    pure ⟨← r.required "name", ← r.required "entries"⟩

end RoutePlane.RouteMap
