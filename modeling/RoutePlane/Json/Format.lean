import RoutePlane.Json.Reader
import RoutePlane.Order.SortedMap
import RoutePlane.Order.SortedSet

/-!
How values of other types are written as JSON and read back. A record is an object with known names,
of which none is repeated, or the list of its fields in their order; other names are passed over. A
choice without content is its name, and a choice with content an object of one member.
-/
namespace RoutePlane

class JsonFormat (α : Type) where
  toJson : α → Json
  ofJson? : Json → Option α

export JsonFormat (toJson ofJson?)

/-- Reading gives back what was written. -/
class LawfulJsonFormat (α : Type) [JsonFormat α] : Prop where
  ofJson_toJson : ∀ a : α, ofJson? (toJson a) = some a

namespace Json

/-- A whole number below a bound. -/
def natBelow? (bound : Nat) : Json → Option Nat
  | number (.int n) => if 0 ≤ n ∧ n < bound then some n.toNat else none
  | _ => none

end Json

instance : JsonFormat UInt8 where
  toJson n := .nat n.toNat
  ofJson? j := (j.natBelow? UInt8.size).map UInt8.ofNat

instance : JsonFormat UInt16 where
  toJson n := .nat n.toNat
  ofJson? j := (j.natBelow? UInt16.size).map UInt16.ofNat

instance : JsonFormat UInt32 where
  toJson n := .nat n.toNat
  ofJson? j := (j.natBelow? UInt32.size).map UInt32.ofNat

/-- Counts have 64 bits. -/
instance : JsonFormat Nat where
  toJson n := .nat n
  ofJson? j := j.natBelow? UInt64.size

instance : JsonFormat Bool where
  toJson b := .bool b
  ofJson?
    | .bool b => some b
    | _ => none

instance : JsonFormat String where
  toJson s := .text s
  ofJson?
    | .text s => some s
    | _ => none

instance : JsonFormat Float where
  toJson x := .float x
  ofJson?
    | .number (.int n) => some (Float.ofInt n)
    | .number (.float x) => some x
    | _ => none

instance {α : Type} [JsonFormat α] : JsonFormat (Option α) where
  toJson
    | none => .null
    | some a => toJson a
  ofJson?
    | .null => some none
    | j => (ofJson? j).map some

instance {α : Type} [JsonFormat α] : JsonFormat (List α) where
  toJson l := .list (l.map toJson)
  ofJson?
    | .list items => items.mapM ofJson?
    | _ => none

instance {α β : Type} [JsonFormat α] [JsonFormat β] : JsonFormat (α × β) where
  toJson p := .list [toJson p.1, toJson p.2]
  ofJson?
    | .list [a, b] => do pure (← ofJson? a, ← ofJson? b)
    | _ => none

instance {α : Type} [Ord α] [Std.TransOrd α] [JsonFormat α] : JsonFormat (SortedSet α) where
  toJson s := toJson s.toList
  ofJson? j := (ofJson? j).map SortedSet.ofList

/-- Of members with one name the last one counts. -/
instance {ν : Type} [JsonFormat ν] : JsonFormat (SortedMap String ν) where
  toJson m := .object (m.toList.map fun (name, v) => (name, toJson v))
  ofJson?
    | .object members => do
      let bindings ← members.mapM fun (name, j) => do pure (name, ← ofJson? j)
      pure (SortedMap.ofList bindings)
    | _ => none

namespace Json

structure Record where
  fields : List (String × Json)
  /-- The fields were given by their places. -/
  byPlace : Bool

/-- No name is repeated. -/
def distinct : List String → Bool
  | [] => true
  | name :: rest => !rest.contains name && distinct rest

def record? (names : List String) : Json → Option Record
  | object members =>
    let known := members.filter fun m => names.contains m.1
    if distinct (known.map (·.1)) then some ⟨known, false⟩ else none
  | list items =>
    if items.length ≤ names.length then some ⟨names.zip items, true⟩ else none
  | _ => none

namespace Record

variable {α : Type} [JsonFormat α]

def get? (r : Record) (name : String) : Option Json :=
  (r.fields.find? (·.1 == name)).map (·.2)

def required (r : Record) (name : String) : Option α := (r.get? name).bind ofJson?

def withDefault (r : Record) (name : String) (value : α) : Option α :=
  match r.get? name with
  | none => some value
  | some j => ofJson? j

/-- A field that may be missing or null. -/
def optional (r : Record) (name : String) : Option (Option α) := r.withDefault name none

/-- A field that may be null, and may be missing only where fields have names. -/
def nullable (r : Record) (name : String) : Option (Option α) :=
  if r.byPlace then r.required name else r.optional name

end Record

/-- The name and the content of a choice. -/
def choice? : Json → Option (String × Option Json)
  | text name => some (name, none)
  | object [(name, content)] => some (name, some content)
  | _ => none

/-- The name of a choice without content. -/
def plainChoice? (j : Json) : Option String :=
  match j.choice? with
  | some (name, none) | some (name, some null) => some name
  | _ => none

def choice {α : Type} [JsonFormat α] (name : String) (content : α) : Json :=
  object [(name, toJson content)]

end Json

end RoutePlane
