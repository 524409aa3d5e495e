import Mathlib.Data.List.Nodup
import RoutePlane.Proofs.Json.Formats

/-! Fields that are left out, and their defaults. A schema tells which fields a value of a type may
leave out, at any depth, and what stands for them. Writing out a default does not change what is
read. -/
namespace RoutePlane

inductive Missing
  /-- Nothing: the field must be there. -/
  | never
  /-- A value, where fields have names. -/
  | named (value : Json)
  /-- A value, also at the end of a list of fields. -/
  | anywhere (value : Json)

/-- The value of a field that is missing, in a record whose fields have names or places. -/
def Missing.value? : Missing → Bool → Option Json
  | never, _ => none
  | named value, byPlace => if byPlace then none else some value
  | anywhere value, _ => some value

/-- Where the records of a type are, and which fields they may leave out. -/
inductive Schema
  /-- There are none. -/
  | plain
  | list (item : Schema)
  /-- Members with free names. -/
  | map (entry : Schema)
  /-- A choice of contents. -/
  | choice (options : List (String × Schema))
  /-- A record with names, values and schemas of its fields. -/
  | record (fields : List (String × Missing × Schema))

/-- The second value is the first one with a default written out that was left out there. -/
inductive WritesOut : Schema → Json → Json → Prop
  | item {s : Schema} {before after : List Json} {j j' : Json} : WritesOut s j j' →
    WritesOut (.list s) (.list (before ++ j :: after)) (.list (before ++ j' :: after))
  | entry {s : Schema} {before after : List (String × Json)} {name : String} {j j' : Json} :
    WritesOut s j j' →
      WritesOut (.map s) (.object (before ++ (name, j) :: after))
        (.object (before ++ (name, j') :: after))
  | content {options : List (String × Schema)} {name : String} {s : Schema} {j j' : Json} :
    (name, s) ∈ options → WritesOut s j j' →
      WritesOut (.choice options) (.object [(name, j)]) (.object [(name, j')])
  /-- In a field with a name. -/
  | field {fields : List (String × Missing × Schema)} {name : String} {m : Missing} {s : Schema}
    {before after : List (String × Json)} {j j' : Json} :
    (name, m, s) ∈ fields → WritesOut s j j' →
      WritesOut (.record fields) (.object (before ++ (name, j) :: after))
        (.object (before ++ (name, j') :: after))
  /-- In a field with a place. -/
  | place {fields : List (String × Missing × Schema)} {name : String} {m : Missing} {s : Schema}
    {before after : List Json} {j j' : Json} :
    fields[before.length]? = some (name, m, s) → WritesOut s j j' →
      WritesOut (.record fields) (.list (before ++ j :: after)) (.list (before ++ j' :: after))
  /-- A field with a name, put anywhere. -/
  | named {fields : List (String × Missing × Schema)} {name : String} {m : Missing} {s : Schema}
    {before after : List (String × Json)} {value : Json} :
    (name, m, s) ∈ fields → m.value? false = some value → (∀ b ∈ before ++ after, b.1 ≠ name) →
      WritesOut (.record fields) (.object (before ++ after))
        (.object (before ++ (name, value) :: after))
  /-- The next field in a list of fields. -/
  | next {fields : List (String × Missing × Schema)} {name : String} {m : Missing} {s : Schema}
    {items : List Json} {value : Json} :
    fields[items.length]? = some (name, m, s) → m.value? true = some value →
      WritesOut (.record fields) (.list items) (.list (items ++ [value]))

namespace Json

theorem distinct_iff {names : List String} : distinct names = true ↔ names.Nodup := by
  induction names with
  | nil => simp [distinct]
  | cons name names ih => simp [distinct, ih]

namespace Record

inductive FieldAlike (m : Missing) (s : Schema) (byPlace : Bool) : Option Json → Option Json → Prop
  | same (o : Option Json) : FieldAlike m s byPlace o o
  | inside {j j' : Json} : WritesOut s j j' → FieldAlike m s byPlace (some j) (some j')
  | written {value : Json} : m.value? byPlace = some value →
    FieldAlike m s byPlace none (some value)

structure Alike (fields : List (String × Missing × Schema)) (r r' : Record) : Prop where
  byPlace : r.byPlace = r'.byPlace
  field : ∀ {name m s}, (name, m, s) ∈ fields →
    FieldAlike m s r.byPlace (r.get? name) (r'.get? name)

theorem get?_append {before after : List (String × Json)} {byPlace : Bool} {name : String} :
    (⟨before ++ after, byPlace⟩ : Record).get? name =
      ((⟨before, byPlace⟩ : Record).get? name).or ((⟨after, byPlace⟩ : Record).get? name) := by
  simp only [get?, List.find?_append]
  cases before.find? (·.1 == name) <;> simp

theorem get?_eq_none {members : List (String × Json)} {byPlace : Bool} {name : String}
    (absent : ∀ m ∈ members, m.1 ≠ name) : (⟨members, byPlace⟩ : Record).get? name = none := by
  rw [get?, Option.map_eq_none_iff, List.find?_eq_none]
  simpa using absent

/-- Fields by their places have the names in their order. -/
theorem get?_zip {names : List String} (nodup : names.Nodup) {items : List Json} {i : Nat}
    {name : String} (there : names[i]? = some name) {byPlace : Bool} :
    (⟨names.zip items, byPlace⟩ : Record).get? name = items[i]? := by
  induction names generalizing items i with
  | nil => cases there
  | cons first names ih =>
    obtain ⟨new, nodup⟩ := List.nodup_cons.1 nodup
    cases items with
    | nil => simp [get?]
    | cons j items =>
      cases i with
      | zero =>
        obtain rfl : first = name := by simpa using there
        simp
      | succ i =>
        have there : names[i]? = some name := by simpa using there
        have ne : first ≠ name := by
          rintro rfl
          exact new (List.mem_of_getElem? there)
        rw [List.zip_cons_cons, get?_later ne, ih nodup there]
        simp

theorem field_unique {fields : List (String × Missing × Schema)} (nodup : (fields.map (·.1)).Nodup)
    {name : String} {m m' : Missing} {s s' : Schema} (member : (name, m, s) ∈ fields)
    (member' : (name, m', s') ∈ fields) : m = m' ∧ s = s' := by
  have equal := List.inj_on_of_nodup_map nodup member member' rfl
  cases equal
  exact ⟨rfl, rfl⟩

section

variable {fields : List (String × Missing × Schema)} (nodup : (fields.map (·.1)).Nodup)
  {name : String} {m : Missing} {s : Schema}

include nodup

theorem alike_field {before after : List (String × Json)} {j j' : Json}
    (member : (name, m, s) ∈ fields) (inside : WritesOut s j j')
    (absent : ∀ b ∈ before, b.1 ≠ name) :
    Alike fields ⟨before ++ (name, j) :: after, false⟩ ⟨before ++ (name, j') :: after, false⟩ := by
  refine ⟨rfl, fun {other m' s'} member' => ?_⟩
  by_cases here : name = other
  · subst here
    obtain ⟨rfl, rfl⟩ := field_unique nodup member member'
    rw [get?_append, get?_append, get?_eq_none absent, get?_here, get?_here]
    exact .inside inside
  · rw [get?_append, get?_append, get?_later here, get?_later here]
    exact .same _

theorem alike_named {before after : List (String × Json)} {value : Json}
    (member : (name, m, s) ∈ fields) (default : m.value? false = some value)
    (absent : ∀ b ∈ before ++ after, b.1 ≠ name) :
    Alike fields ⟨before ++ after, false⟩ ⟨before ++ (name, value) :: after, false⟩ := by
  refine ⟨rfl, fun {other m' s'} member' => ?_⟩
  by_cases here : name = other
  · subst here
    obtain ⟨rfl, rfl⟩ := field_unique nodup member member'
    rw [get?_eq_none absent, get?_append,
      get?_eq_none fun b earlier => absent b (List.mem_append_left _ earlier), get?_here]
    exact .written default
  · rw [get?_append, get?_append, get?_later here]
    exact .same _

end

section

variable {fields : List (String × Missing × Schema)} {name other : String} {m m' : Missing}
  {s s' : Schema} {i : Nat}

theorem fieldAlike_place {before after : List Json} {j j' : Json}
    (there : fields[before.length]? = some (name, m, s)) (inside : WritesOut s j j')
    (there' : fields[i]? = some (other, m', s')) :
    FieldAlike m' s' true (before ++ j :: after)[i]? (before ++ j' :: after)[i]? := by
  rcases Nat.lt_trichotomy i before.length with earlier | rfl | later
  · rw [List.getElem?_append_left earlier, List.getElem?_append_left earlier]
    exact .same _
  · rw [there] at there'
    cases there'
    simpa using FieldAlike.inside inside
  · obtain ⟨k, after⟩ : ∃ k, i - before.length = k + 1 := ⟨i - before.length - 1, by omega⟩
    rw [List.getElem?_append_right later.le, List.getElem?_append_right later.le, after]
    exact .same _

theorem fieldAlike_next {items : List Json} {value : Json}
    (there : fields[items.length]? = some (name, m, s)) (default : m.value? true = some value)
    (there' : fields[i]? = some (other, m', s')) :
    FieldAlike m' s' true items[i]? (items ++ [value])[i]? := by
  rcases Nat.lt_trichotomy i items.length with earlier | rfl | later
  · rw [List.getElem?_append_left earlier]
    exact .same _
  · rw [there] at there'
    cases there'
    simpa using FieldAlike.written default
  · rw [List.getElem?_eq_none later.le, List.getElem?_eq_none (by simp; omega)]
    exact .same _

end

end Record

variable {fields : List (String × Missing × Schema)} {names : List String}

def known (names : List String) (members : List (String × Json)) : List (String × Json) :=
  members.filter fun m => names.contains m.1

theorem known_append (before after : List (String × Json)) :
    known names (before ++ after) = known names before ++ known names after :=
  List.filter_append ..

theorem known_cons {name : String} (listed : name ∈ names) (j : Json)
    (rest : List (String × Json)) : known names ((name, j) :: rest) = (name, j) :: known names rest :=
  List.filter_cons_of_pos (by simpa using listed)

/-- The known members of two objects, one of which has a default written out. -/
theorem record?_object_alike {members members' : List (String × Json)}
    (once : ((known names members).map (·.1)).Nodup ↔ ((known names members').map (·.1)).Nodup)
    (alike : ((known names members).map (·.1)).Nodup →
      Record.Alike fields ⟨known names members, false⟩ ⟨known names members', false⟩) :
    record? names (object members) = none ∧ record? names (object members') = none ∨
      ∃ r r', record? names (object members) = some r ∧ record? names (object members') = some r' ∧
        r.Alike fields r' := by
  by_cases nodup : ((known names members).map (·.1)).Nodup
  · exact .inr ⟨_, _, if_pos (distinct_iff.2 nodup), if_pos (distinct_iff.2 (once.1 nodup)),
      alike nodup⟩
  · exact .inl ⟨if_neg (distinct_iff.not.2 nodup), if_neg (distinct_iff.not.2 (once.not.1 nodup))⟩

/-- Two lists of fields, one of which has a default written out. -/
theorem record?_list_alike (same : fields.map (·.1) = names) (nodup : names.Nodup)
    {items items' : List Json}
    (long : items.length ≤ names.length ↔ items'.length ≤ names.length)
    (alike : ∀ (i : Nat) {name m s}, fields[i]? = some (name, m, s) →
      Record.FieldAlike m s true items[i]? items'[i]?) :
    record? names (list items) = none ∧ record? names (list items') = none ∨
      ∃ r r', record? names (list items) = some r ∧ record? names (list items') = some r' ∧
        r.Alike fields r' := by
  by_cases short : items.length ≤ names.length
  · refine .inr ⟨_, _, if_pos short, if_pos (long.1 short), rfl, ?_⟩
    intro name m s member
    obtain ⟨i, there⟩ := List.mem_iff_getElem?.1 member
    have named : names[i]? = some name := by rw [← same, List.getElem?_map, there]; rfl
    rw [Record.get?_zip nodup named, Record.get?_zip nodup named]
    exact alike i there
  · exact .inl ⟨if_neg short, if_neg (long.not.1 short)⟩

theorem record?_writesOut (same : fields.map (·.1) = names) (nodup : names.Nodup) {j j' : Json}
    (step : WritesOut (.record fields) j j') :
    record? names j = none ∧ record? names j' = none ∨
      ∃ r r', record? names j = some r ∧ record? names j' = some r' ∧ r.Alike fields r' := by
  subst same
  have listed {name m s} (member : (name, m, s) ∈ fields) : name ∈ fields.map (·.1) :=
    List.mem_map_of_mem member
  cases step with
  | @field _ name m s before after j j' member inside =>
    apply record?_object_alike
    · simp only [known_append, known_cons (listed member), List.map_append, List.map_cons]
    · intro once
      simp only [known_append, known_cons (listed member), List.map_append, List.map_cons] at once ⊢
      refine Record.alike_field nodup member inside fun b earlier same => ?_
      exact (List.nodup_append.1 once).2.2 _ (List.mem_map_of_mem earlier) name List.mem_cons_self same
  | @named _ name m s before after value member default absent =>
    have absent : ∀ b ∈ known (fields.map (·.1)) before ++ known (fields.map (·.1)) after,
        b.1 ≠ name := fun b member =>
      absent b (List.mem_of_mem_filter (known_append before after ▸ member))
    apply record?_object_alike
    · have new : name ∉ (known (fields.map (·.1)) before ++ known (fields.map (·.1)) after).map (·.1) := by
        intro member
        obtain ⟨b, there, same⟩ := List.mem_map.1 member
        exact absent b there same
      simp only [known_append, known_cons (listed member), List.map_append, List.map_cons,
        List.nodup_middle, List.nodup_cons]
      rw [List.map_append] at new
      exact (and_iff_right new).symm
    · intro _
      simp only [known_append, known_cons (listed member)]
      exact Record.alike_named nodup member default absent
  | place there inside =>
    exact record?_list_alike rfl nodup (by simp) fun _ => Record.fieldAlike_place there inside
  | @next _ _ _ _ items _ there default =>
    have room := (List.getElem?_eq_some_iff.1 there).1
    refine record?_list_alike rfl nodup ?_ fun _ => Record.fieldAlike_next there default
    rw [List.length_append, List.length_singleton, List.length_map]
    omega

end Json

/-- A type whose values are read alike after a default is written out. -/
class Fillable (α : Type) [JsonFormat α] where
  schema : Schema
  ofJson?_eq : ∀ {j j' : Json}, WritesOut schema j j' → (ofJson? j : Option α) = ofJson? j'

namespace Schema

def requiredField (α : Type) [JsonFormat α] [Fillable α] (name : String) :
    String × Missing × Schema :=
  (name, .never, Fillable.schema α)

def defaultField {α : Type} [JsonFormat α] [Fillable α] (name : String) (value : α) :
    String × Missing × Schema :=
  (name, .anywhere (toJson value), Fillable.schema α)

/-- A field that may be missing where fields have names. -/
def nullableField (α : Type) [JsonFormat α] [Fillable (Option α)] (name : String) :
    String × Missing × Schema :=
  (name, .named .null, Fillable.schema (Option α))

@[simp] theorem requiredField_name {α : Type} [JsonFormat α] [Fillable α] (name : String) :
    (requiredField α name).1 = name := rfl

@[simp] theorem defaultField_name {α : Type} [JsonFormat α] [Fillable α] (name : String)
    (value : α) : (defaultField name value).1 = name := rfl

@[simp] theorem nullableField_name {α : Type} [JsonFormat α] [Fillable (Option α)] (name : String) :
    (nullableField α name).1 = name := rfl

end Schema

namespace Json

open Schema

namespace Record.Alike

variable {fields : List (String × Missing × Schema)} {r r' : Record} (alike : r.Alike fields r')
  {α : Type} [JsonFormat α] {name : String}

include alike

theorem required [Fillable α] (listed : requiredField α name ∈ fields) :
    (r.required name : Option α) = r'.required name := by
  have field := alike.field listed
  unfold Record.required
  generalize r.get? name = o at field ⊢
  generalize r'.get? name = o' at field ⊢
  cases field with
  | same => rfl
  | inside step => exact Fillable.ofJson?_eq step
  | written value => cases value

theorem withDefault [Fillable α] {value : α} (listed : defaultField name value ∈ fields)
    (read : ofJson? (toJson value) = some value) :
    r.withDefault name value = r'.withDefault name value := by
  have field := alike.field listed
  unfold Record.withDefault
  generalize r.get? name = o at field ⊢
  generalize r'.get? name = o' at field ⊢
  cases field with
  | same => rfl
  | inside step => exact Fillable.ofJson?_eq step
  | written default =>
    cases default
    exact read.symm

theorem nullable [Fillable (Option α)] (listed : nullableField α name ∈ fields) :
    (r.nullable name : Option (Option α)) = r'.nullable name := by
  have field := alike.field listed
  unfold Record.nullable Record.optional Record.withDefault Record.required
  rw [← alike.byPlace]
  generalize r.get? name = o at field ⊢
  generalize r'.get? name = o' at field ⊢
  cases field with
  | same => rfl
  | inside step =>
    simp only [Option.bind_some, Fillable.ofJson?_eq step]
  | written default =>
    cases places : r.byPlace with
    | true =>
      rw [places] at default
      cases default
    | false =>
      rw [places] at default
      cases default
      rfl

end Record.Alike

variable {α : Type} {fields : List (String × Missing × Schema)} {names : List String}
  {build : Record → Option α}

/-- What is built of records that are alike is the same. -/
theorem bind_record?_writesOut (same : fields.map (·.1) = names) (once : distinct names = true)
    (built : ∀ r r' : Record, r.Alike fields r' → build r = build r') {j j' : Json}
    (step : WritesOut (.record fields) j j') :
    (j.record? names).bind build = (j'.record? names).bind build := by
  rcases record?_writesOut same (distinct_iff.1 once) step with
    ⟨no, no'⟩ | ⟨r, r', found, found', alike⟩
  · rw [no, no']
  · rw [found, found']
    exact built r r' alike

/-- A type of records is read alike, if what it is built of is read alike. -/
theorem ofJson?_writesOut [JsonFormat α]
    (read : ∀ j : Json, ofJson? j = (j.record? names).bind build)
    (same : fields.map (·.1) = names) (once : distinct names = true)
    (built : ∀ r r' : Record, r.Alike fields r' → build r = build r') {j j' : Json}
    (step : WritesOut (.record fields) j j') : (ofJson? j : Option α) = ofJson? j' := by
  rw [read, read]
  exact bind_record?_writesOut same once built step

end Json

/-! ### Plain values and containers -/

@[reducible] def Fillable.plain (α : Type) [JsonFormat α] : Fillable α where
  schema := .plain
  ofJson?_eq step := by cases step

theorem WritesOut.ne_null {s : Schema} {j j' : Json} (step : WritesOut s j j') :
    j ≠ .null ∧ j' ≠ .null := by
  cases step <;> simp

instance : Fillable UInt16 := .plain _

instance : Fillable UInt32 := .plain _

instance : Fillable Bool := .plain _

instance : Fillable String := .plain _

instance : Fillable Float := .plain _

section

variable {α : Type} [JsonFormat α] [Fillable α]

instance : Fillable (Option α) where
  schema := Fillable.schema α
  ofJson?_eq {j j'} step := by
    have some {j : Json} (value : j ≠ .null) :
        (ofJson? j : Option (Option α)) = (ofJson? j : Option α).map some := by
      cases j with
      | null => exact absurd rfl value
      | _ => rfl
    obtain ⟨value, value'⟩ := step.ne_null
    rw [some value, some value', Fillable.ofJson?_eq step]

instance : Fillable (List α) where
  schema := .list (Fillable.schema α)
  ofJson?_eq {j j'} step := by
    cases step with
    | @item _ before after j j' inside =>
      show (before ++ j :: after).mapM ofJson? = (before ++ j' :: after).mapM ofJson?
      simp only [List.mapM_append, List.mapM_cons, Fillable.ofJson?_eq inside]

instance [Ord α] [Std.TransOrd α] : Fillable (SortedSet α) where
  schema := Fillable.schema (List α)
  ofJson?_eq step := congrArg (Option.map SortedSet.ofList) (Fillable.ofJson?_eq step)

instance : Fillable (SortedMap String α) where
  schema := .map (Fillable.schema α)
  ofJson?_eq {j j'} step := by
    cases step with
    | @entry _ before after name j j' inside =>
      show Option.bind ((before ++ (name, j) :: after).mapM _) _ =
        Option.bind ((before ++ (name, j') :: after).mapM _) _
      simp only [List.mapM_append, List.mapM_cons, Fillable.ofJson?_eq inside]

end

end RoutePlane
