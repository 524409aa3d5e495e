import RoutePlane.Json.Format
import RoutePlane.Proofs.Json.Reading
import RoutePlane.Proofs.Order.Contents

/-! Values that are kept by their JSON form: it can be read back from its text, and what is read
from it is the value. A record is kept if its fields are, a list if its items are. -/
namespace RoutePlane

open Json (Legible)

namespace JsonFormat

variable {α : Type} [JsonFormat α]

/-- The JSON form of the value can be read from its text and is read as the value. -/
structure Kept (a : α) : Prop where
  legible : (toJson a).Legible
  read : ofJson? (toJson a) = some a

end JsonFormat

open JsonFormat (Kept)

class FaithfulFormat (α : Type) [JsonFormat α] : Prop extends LawfulJsonFormat α where
  legible : ∀ a : α, (toJson a).Legible

class NonNullFormat (α : Type) [JsonFormat α] : Prop where
  ofJson?_null : (ofJson? .null : Option α) = none

attribute [simp] LawfulJsonFormat.ofJson_toJson FaithfulFormat.legible NonNullFormat.ofJson?_null

section

variable {α : Type} [JsonFormat α]

theorem FaithfulFormat.kept [FaithfulFormat α] (a : α) : Kept a := ⟨legible a, by simp⟩

theorem FaithfulFormat.of_kept (all : ∀ a : α, Kept a) : FaithfulFormat α where
  ofJson_toJson a := (all a).read
  legible a := (all a).legible

theorem FaithfulFormat.of_encoding {β : Type} [JsonFormat β] [FaithfulFormat β] (encode : α → β)
    (decode? : β → Option α) (written : ∀ a : α, toJson a = toJson (encode a))
    (read : ∀ j : Json, ofJson? j = (ofJson? j).bind decode?)
    (back : ∀ a, decode? (encode a) = some a) : FaithfulFormat α where
  ofJson_toJson a := by rw [written, read, LawfulJsonFormat.ofJson_toJson, Option.bind_some, back]
  legible a := by
    rw [written]
    exact legible _

end

namespace Json

theorem legible_nat {n : Nat} (fits : n < UInt64.size) : (nat n).Legible :=
  .number (JsonNumber.readsBack_int (by omega) (by omega))

theorem natBelow?_nat {n bound : Nat} (small : n < bound) : (nat n).natBelow? bound = some n := by
  rw [nat, int, natBelow?, if_pos (by omega), Int.toNat_natCast]

end Json

/-! ### Numbers and texts -/

/-- A type of whole numbers below a bound. -/
theorem FaithfulFormat.of_word {α : Type} [JsonFormat α] {bound : Nat} (toNat : α → Nat)
    (ofNat : Nat → α) (written : ∀ a : α, toJson a = .nat (toNat a))
    (read : ∀ j : Json, ofJson? j = (j.natBelow? bound).map ofNat) (below : ∀ a, toNat a < bound)
    (fits : bound ≤ UInt64.size) (back : ∀ a, ofNat (toNat a) = a) : FaithfulFormat α where
  ofJson_toJson a := by rw [written, read, Json.natBelow?_nat (below a), Option.map_some, back]
  legible a := by
    rw [written]
    exact Json.legible_nat ((below a).trans_le fits)

instance : FaithfulFormat UInt8 :=
  .of_word UInt8.toNat UInt8.ofNat (fun _ => rfl) (fun _ => rfl) UInt8.toNat_lt (by decide)
    fun _ => UInt8.ofNat_toNat

instance : FaithfulFormat UInt16 :=
  .of_word UInt16.toNat UInt16.ofNat (fun _ => rfl) (fun _ => rfl) UInt16.toNat_lt (by decide)
    fun _ => UInt16.ofNat_toNat

instance : FaithfulFormat UInt32 :=
  .of_word UInt32.toNat UInt32.ofNat (fun _ => rfl) (fun _ => rfl) UInt32.toNat_lt (by decide)
    fun _ => UInt32.ofNat_toNat

instance : FaithfulFormat Bool where
  ofJson_toJson _ := rfl
  legible b := .bool b

instance : FaithfulFormat String where
  ofJson_toJson _ := rfl
  legible s := .text s

instance : NonNullFormat UInt32 := ⟨rfl⟩

instance : NonNullFormat String := ⟨rfl⟩

namespace JsonFormat.Kept

theorem float {x : Float} (finite : x.isFinite = true)
    (readsBack : (JsonNumber.float x).ReadsBack) : Kept x := by
  have written : toJson x = .number (.float x) := if_pos finite
  constructor
  · rw [written]
    exact .number readsBack
  · rw [written]
    rfl

variable {α : Type} [JsonFormat α]

theorem option [NonNullFormat α] {o : Option α} (all : ∀ a ∈ o, Kept a) : Kept o := by
  cases o with
  | none => exact ⟨.null, rfl⟩
  | some a =>
    obtain ⟨legible, read⟩ := all a rfl
    refine ⟨legible, ?_⟩
    show ofJson? (toJson a) = some (some a)
    cases form : toJson a with
    | null =>
      rw [form, NonNullFormat.ofJson?_null] at read
      cases read
    | _ => exact (congrArg (Option.map some) (form ▸ read :))

theorem list {l : List α} (all : ∀ a ∈ l, Kept a) : Kept l := by
  constructor
  · refine .list ?_
    rw [List.forall_mem_map]
    exact fun a member => (all a member).legible
  · show (l.map toJson).mapM ofJson? = some l
    induction l with
    | nil => rfl
    | cons a l ih =>
      obtain ⟨here, later⟩ := List.forall_mem_cons.1 all
      simp [here.read, ih later]

theorem map {m : SortedMap String α} (all : ∀ a ∈ m.values, Kept a) : Kept m := by
  have all : ∀ b ∈ m.toList, Kept b.2 := fun b member => all b.2 (List.mem_map_of_mem member)
  constructor
  · refine .object ?_
    rw [List.forall_mem_map]
    exact fun b member => (all b member).legible
  · have bindings (l : List (String × α)) (all : ∀ b ∈ l, Kept b.2) :
        (l.map fun b => (b.1, toJson b.2)).mapM
          (fun m => (ofJson? m.2).bind fun a => some (m.1, a)) = some l := by
      induction l with
      | nil => rfl
      | cons b l ih =>
        obtain ⟨here, later⟩ := List.forall_mem_cons.1 all
        rw [List.map_cons, List.mapM_cons, ih later]
        simp [here.read]
    show Option.bind ((m.toList.map fun b => (b.1, toJson b.2)).mapM
      (fun m => (ofJson? m.2).bind fun a => some (m.1, a)))
        (fun bindings => some (SortedMap.ofList bindings)) = some m
    rw [bindings m.toList all, Option.bind_some, SortedMap.ofList_toList]

end JsonFormat.Kept

section

variable {α : Type} [JsonFormat α] [FaithfulFormat α]

instance [NonNullFormat α] : FaithfulFormat (Option α) :=
  .of_kept fun _ => .option fun a _ => FaithfulFormat.kept a

instance : FaithfulFormat (List α) := .of_kept fun _ => .list fun a _ => FaithfulFormat.kept a

instance [Ord α] [Std.TransOrd α] [Std.LawfulEqOrd α] : FaithfulFormat (SortedSet α) where
  ofJson_toJson s := by
    show (ofJson? (toJson s.toList)).map SortedSet.ofList = some s
    simp [SortedSet.ofList_toList]
  legible s := FaithfulFormat.legible s.toList

end

section

variable {α : Type} [JsonFormat α]

@[simp] theorem ofJson?_toJson_none :
    (ofJson? (toJson (none : Option α)) : Option (Option α)) = some none := rfl

@[simp] theorem ofJson?_toJson_nil :
    (ofJson? (toJson ([] : List α)) : Option (List α)) = some [] := rfl

end

/-! ### Records and choices -/

namespace Json

/-- A record with all its fields in their order is taken as it is. -/
theorem record?_object {names : List String} {members : List (String × Json)}
    (same : members.map (·.1) = names) (distinct : distinct names = true) :
    record? names (object members) = some ⟨members, false⟩ := by
  have known : members.filter (fun m => names.contains m.1) = members := by
    rw [List.filter_eq_self]
    intro m member
    rw [List.contains_eq_mem, decide_eq_true_eq, ← same]
    exact List.mem_map_of_mem member
  simp only [record?, known, same, distinct, if_true]

namespace Record

variable {α : Type} [JsonFormat α] {name other : String} {j : Json} {rest : List (String × Json)}
  {byPlace : Bool} {value : α}

@[simp] theorem get?_here : (⟨(name, j) :: rest, byPlace⟩ : Record).get? name = some j := by
  simp [get?]

@[simp] theorem get?_later (ne : other ≠ name) :
    (⟨(other, j) :: rest, byPlace⟩ : Record).get? name = (⟨rest, byPlace⟩ : Record).get? name := by
  simp [get?, ne]

@[simp] theorem required_here :
    (⟨(name, j) :: rest, byPlace⟩ : Record).required name = (ofJson? j : Option α) := by
  simp [required]

@[simp] theorem required_later (ne : other ≠ name) :
    (⟨(other, j) :: rest, byPlace⟩ : Record).required name =
      ((⟨rest, byPlace⟩ : Record).required name : Option α) := by
  simp [required, ne]

@[simp] theorem withDefault_here :
    (⟨(name, j) :: rest, byPlace⟩ : Record).withDefault name value = ofJson? j := by
  simp [withDefault]

@[simp] theorem withDefault_later (ne : other ≠ name) :
    (⟨(other, j) :: rest, byPlace⟩ : Record).withDefault name value =
      (⟨rest, byPlace⟩ : Record).withDefault name value := by
  simp [withDefault, ne]

@[simp] theorem optional_eq (r : Record) :
    (r.optional name : Option (Option α)) = r.withDefault name none := rfl

@[simp] theorem nullable_of_named {r : Record} (named : r.byPlace = false) :
    (r.nullable name : Option (Option α)) = r.withDefault name none := by
  simp [nullable, named]

end Record

end Json

/-- A record is kept if all its fields are legible and it can be built of them. -/
theorem JsonFormat.Kept.record {α : Type} [JsonFormat α] {a : α} {names : List String}
    {members : List (String × Json)} {build : Json.Record → Option α}
    (written : toJson a = .object members)
    (read : ∀ j : Json, ofJson? j = (j.record? names).bind build)
    (same : members.map (·.1) = names) (distinct : Json.distinct names = true)
    (legible : ∀ m ∈ members, m.2.Legible) (built : build ⟨members, false⟩ = some a) : Kept a where
  legible := by
    rw [written]
    exact .object legible
  read := by
    rw [read, written, Json.record?_object same distinct, Option.bind_some, built]

theorem JsonFormat.Kept.choice {α β : Type} [JsonFormat α] [JsonFormat β] (wrap : β → α) {content : β}
    (kept : Kept content) {name : String} (written : toJson (wrap content) = Json.choice name content)
    (read : ofJson? (Json.choice name content) = (ofJson? (toJson content)).map wrap) :
    Kept (wrap content) where
  legible := by
    rw [written]
    exact .object (by simp [kept.legible])
  read := by
    rw [written, read, kept.read]
    rfl

end RoutePlane
