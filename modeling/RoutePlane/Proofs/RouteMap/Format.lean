import RoutePlane.Proofs.Flow.Format
import RoutePlane.RouteMap.Format

/-! Route maps are kept by their JSON form, with all conditions, actions and continuations, if the
ranges in them have the width of their fields. Nothing in them has a default but the address of a
next hop that is an interface. -/
namespace RoutePlane.RouteMap

open JsonFormat (Kept)
open Schema

theorem PrefixRange.kept {r : PrefixRange} (below : r.lengths.Below UInt8.size) : Kept r := by
  have small : UInt8.size ≤ UInt64.size := by decide
  refine .record rfl (fun _ => rfl) rfl (by simp [Json.distinct]) ?_ ?_
  · simp [below.legible small]
  · simp [below.ofJson?_toJson]

def Condition.Fits : Condition → Prop
  | prefixList ranges => ∀ r ∈ ranges, r.lengths.Below UInt8.size
  | asPathLength lengths => lengths.Below UInt64.size
  | _ => True

instance : (c : Condition) → Decidable c.Fits
  | .prefixList ranges => inferInstanceAs (Decidable (∀ r ∈ ranges, r.lengths.Below UInt8.size))
  | .asPathLength lengths => inferInstanceAs (Decidable (lengths.Below UInt64.size))
  | .asPathContains _ | .nextHop _ | .community _ | .missingCommunity _ | .protocol _ | .tag _
  | .policy _ => .isTrue trivial

theorem Condition.Fits.kept {c : Condition} (fits : c.Fits) : Kept c := by
  cases c with
  | prefixList ranges =>
    have content : Kept ranges := .list fun r member => PrefixRange.kept (fits r member)
    exact .choice Condition.prefixList content rfl rfl
  | asPathContains as => exact .choice Condition.asPathContains (FaithfulFormat.kept as) rfl rfl
  | asPathLength lengths =>
    have below : lengths.Below UInt64.size := fits
    refine ⟨.object (by simp [below.legible (Nat.le_refl _)]), ?_⟩
    show (Range.ofJson? UInt64.size lengths.toJson).map Condition.asPathLength = _
    rw [below.ofJson?_toJson]
    rfl
  | nextHop address => exact .choice Condition.nextHop (FaithfulFormat.kept address) rfl rfl
  | community c => exact .choice Condition.community (FaithfulFormat.kept c) rfl rfl
  | missingCommunity c => exact .choice Condition.missingCommunity (FaithfulFormat.kept c) rfl rfl
  | protocol p => exact .choice Condition.protocol (FaithfulFormat.kept p) rfl rfl
  | tag t => exact .choice Condition.tag (FaithfulFormat.kept t) rfl rfl
  | policy name => exact .choice Condition.policy (FaithfulFormat.kept name) rfl rfl

instance : FaithfulFormat Action := .of_kept fun a => by
  cases a with
  | nextHop h => exact .choice Action.nextHop (FaithfulFormat.kept h) rfl rfl
  | weight w => exact .choice Action.weight (FaithfulFormat.kept w) rfl rfl
  | localPreference p => exact .choice Action.localPreference (FaithfulFormat.kept p) rfl rfl
  | metric m => exact .choice Action.metric (FaithfulFormat.kept m) rfl rfl
  | tag t => exact .choice Action.tag (FaithfulFormat.kept t) rfl rfl
  | origin o => exact .choice Action.origin (FaithfulFormat.kept o) rfl rfl
  | addCommunity c => exact .choice Action.addCommunity (FaithfulFormat.kept c) rfl rfl
  | deleteCommunity c => exact .choice Action.deleteCommunity (FaithfulFormat.kept c) rfl rfl
  | prependAsPath s => exact .choice Action.prependAsPath (FaithfulFormat.kept s) rfl rfl

instance : FaithfulFormat Continuation := .of_kept fun c => by
  cases c with
  | goto sequence => exact .choice Continuation.goto (FaithfulFormat.kept sequence) rfl rfl
  | exit | next => exact ⟨.text _, rfl⟩

theorem Entry.kept {e : Entry} (fits : ∀ c ∈ e.conditions, c.Fits) : Kept e := by
  obtain ⟨legible, read⟩ := Kept.list fun c member => (fits c member).kept
  refine .record rfl (fun _ => rfl) rfl (by simp [Json.distinct]) ?_ ?_
  · simp [legible]
  · simp [read]

def Fits (m : RouteMap) : Prop := ∀ e ∈ m.entries, ∀ c ∈ e.conditions, c.Fits

instance (m : RouteMap) : Decidable m.Fits :=
  inferInstanceAs (Decidable (∀ e ∈ m.entries, ∀ c ∈ e.conditions, c.Fits))

theorem Fits.kept {m : RouteMap} (fits : m.Fits) : Kept m := by
  obtain ⟨legible, read⟩ := Kept.list fun e member => Entry.kept (fits e member)
  refine .record rfl (fun _ => rfl) rfl (by simp [Json.distinct]) ?_ ?_
  · simp [legible]
  · simp [read]

instance : Fillable Condition := .plain _

instance : Fillable Continuation := .plain _

instance : Fillable Action where
  schema := .choice [("NextHop", Fillable.schema NextHop)]
  ofJson?_eq step := by
    cases step with
    | content option inside =>
      obtain ⟨rfl, rfl⟩ := Prod.mk.inj (List.mem_singleton.1 option)
      exact congrArg (Option.map Action.nextHop) (Fillable.ofJson?_eq inside)

instance : Fillable Entry where
  schema := .record [requiredField UInt16 "seq", requiredField LineAction "action",
    requiredField (List Condition) "conditions", requiredField (List Action) "sets",
    requiredField Continuation "next"]
  ofJson?_eq step := by
    refine Json.ofJson?_writesOut (fun _ => rfl) rfl (by simp [Json.distinct]) ?_ step
    intro r r' alike
    simp [alike.required]

instance : Fillable RouteMap where
  schema := .record [requiredField String "name", requiredField (List Entry) "entries"]
  ofJson?_eq step := by
    refine Json.ofJson?_writesOut (fun _ => rfl) rfl (by simp [Json.distinct]) ?_ step
    intro r r' alike
    simp [alike.required]

end RoutePlane.RouteMap
