import RoutePlane.Flow.Format
import RoutePlane.Proofs.Route.Format

/-! Access lists are kept by their JSON form, if the ends of their port ranges are ports. A line may
leave out its name and its headers, and headers may leave out any field. -/
namespace RoutePlane

open JsonFormat (Kept)
open Schema

namespace Range

def Below (bound : Nat) (r : Range) : Prop := r.first < bound ∧ r.last < bound

instance (bound : Nat) (r : Range) : Decidable (r.Below bound) :=
  inferInstanceAs (Decidable (_ ∧ _))

variable {bound : Nat} {r : Range}

theorem Below.legible (below : r.Below bound) (small : bound ≤ UInt64.size) : r.toJson.Legible := by
  have first := Json.legible_nat (below.1.trans_le small)
  have last := Json.legible_nat (below.2.trans_le small)
  exact .object (by simp [first, last])

theorem Below.ofJson?_toJson (below : r.Below bound) : ofJson? bound r.toJson = some r := by
  have fields : Json.record? ["start", "end"] r.toJson = some ⟨_, false⟩ :=
    Json.record?_object rfl (by simp [Json.distinct])
  rw [ofJson?, fields]
  show ((Json.nat r.first).natBelow? bound).bind (fun first =>
    ((Json.nat r.last).natBelow? bound).bind fun last => some ⟨first, last⟩) = some r
  rw [Json.natBelow?_nat below.1, Json.natBelow?_nat below.2]
  rfl

theorem listOfJson?_toJson {ranges : List Range} (all : ∀ r ∈ ranges, r.Below bound) :
    listOfJson? bound (.list (ranges.map toJson)) = some ranges := by
  rw [listOfJson?]
  induction ranges with
  | nil => rfl
  | cons r ranges ih =>
    obtain ⟨here, later⟩ := List.forall_mem_cons.1 all
    rw [List.map_cons, List.mapM_cons, here.ofJson?_toJson, ih later]
    rfl

theorem legible_list {ranges : List Range} (small : bound ≤ UInt64.size)
    (all : ∀ r ∈ ranges, r.Below bound) : (Json.list (ranges.map toJson)).Legible := by
  refine .list ?_
  rw [List.forall_mem_map]
  exact fun r member => (all r member).legible small

end Range

instance : FaithfulFormat IpProtocol := .of_kept fun p => by
  cases p with
  | other n => exact .choice IpProtocol.other (FaithfulFormat.kept n) rfl rfl
  | icmp | tcp | udp => exact ⟨.text _, rfl⟩

instance : FaithfulFormat LineAction := .of_kept fun a => by
  cases a <;> exact ⟨.text _, rfl⟩

instance : Fillable IpProtocol := .plain _

instance : Fillable LineAction := .plain _

namespace HeaderSpace

def HasPorts (h : HeaderSpace) : Prop :=
  ∀ r ∈ h.destinationPorts ++ h.sourcePorts, r.Below UInt16.size

instance (h : HeaderSpace) : Decidable h.HasPorts :=
  inferInstanceAs (Decidable (∀ r ∈ _, _))

theorem ranges?_here {name : String} {j : Json} {rest : List (String × Json)} :
    ranges? ⟨(name, j) :: rest, false⟩ name = Range.listOfJson? UInt16.size j := by
  simp [ranges?]

theorem ranges?_later {name other : String} {j : Json} {rest : List (String × Json)}
    (ne : other ≠ name) : ranges? ⟨(other, j) :: rest, false⟩ name = ranges? ⟨rest, false⟩ name := by
  simp [ranges?, ne]

theorem HasPorts.kept {h : HeaderSpace} (ports : h.HasPorts) : Kept h := by
  obtain ⟨destination, source⟩ := List.forall_mem_append.1 ports
  have small : UInt16.size ≤ UInt64.size := by decide
  refine .record rfl (fun _ => rfl) rfl (by simp [Json.distinct]) ?_ ?_
  · simp [Range.legible_list small destination, Range.legible_list small source]
  · simp [ranges?_here, ranges?_later, Range.listOfJson?_toJson destination,
      Range.listOfJson?_toJson source]

def rangesField (name : String) : String × Missing × Schema := (name, .anywhere (.list []), .plain)

@[simp] theorem rangesField_name (name : String) : (rangesField name).1 = name := rfl

theorem ranges?_alike {fields : List (String × Missing × Schema)} {r r' : Json.Record}
    (alike : r.Alike fields r') {name : String} (listed : rangesField name ∈ fields) :
    ranges? r name = ranges? r' name := by
  have field := alike.field listed
  unfold ranges?
  generalize r.get? name = o at field ⊢
  generalize r'.get? name = o' at field ⊢
  cases field with
  | same => rfl
  | inside step => cases step
  | written default =>
    cases default
    rfl

instance : Fillable HeaderSpace where
  schema := .record [defaultField "src_ips" ([] : List Prefix),
    defaultField "dst_ips" ([] : List Prefix), defaultField "ip_protocols" ([] : List IpProtocol),
    rangesField "dst_ports", rangesField "src_ports"]
  ofJson?_eq step := by
    refine Json.ofJson?_writesOut (fun _ => rfl) rfl (by simp [Json.distinct]) ?_ step
    intro r r' alike
    simp [alike.withDefault, ranges?_alike alike]

end HeaderSpace

namespace AccessList

def HasPorts (a : AccessList) : Prop := ∀ l ∈ a.lines, l.headers.HasPorts

instance (a : AccessList) : Decidable a.HasPorts := inferInstanceAs (Decidable (∀ l ∈ _, _))

theorem Line.kept {l : Line} (ports : l.headers.HasPorts) : Kept l := by
  obtain ⟨legible, read⟩ := ports.kept
  refine .record rfl (fun _ => rfl) rfl (by simp [Json.distinct]) ?_ ?_
  · simp [legible]
  · simp [read]

theorem HasPorts.kept {a : AccessList} (ports : a.HasPorts) : Kept a := by
  obtain ⟨legible, read⟩ := Kept.list fun l member => Line.kept (ports l member)
  refine .record rfl (fun _ => rfl) rfl (by simp [Json.distinct]) ?_ ?_
  · simp [legible]
  · simp [read]

instance : Fillable Line where
  schema := .record [defaultField "name" (none : Option String), requiredField LineAction "action",
    defaultField "headers" ({} : HeaderSpace)]
  ofJson?_eq step := by
    have headers : ofJson? (toJson ({} : HeaderSpace)) = some ({} : HeaderSpace) :=
      (HeaderSpace.HasPorts.kept (by decide)).read
    refine Json.ofJson?_writesOut (fun _ => rfl) rfl (by simp [Json.distinct]) ?_ step
    intro r r' alike
    simp [alike.required, alike.withDefault, headers]

instance : Fillable AccessList where
  schema := .record [requiredField String "name", requiredField (List Line) "lines"]
  ofJson?_eq step := by
    refine Json.ofJson?_writesOut (fun _ => rfl) rfl (by simp [Json.distinct]) ?_ step
    intro r r' alike
    simp [alike.required]

end AccessList

end RoutePlane
