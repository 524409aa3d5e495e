import RoutePlane.Proofs.Address.Texts
import RoutePlane.Proofs.Json.Defaults
import RoutePlane.Route.Format

/-! What routes are made of is kept by its JSON form. Only the address of a next hop that is an
interface may be left out. -/
namespace RoutePlane

open Schema

instance : FaithfulFormat Address :=
  .of_encoding Address.text Address.ofText? (fun _ => rfl) (fun _ => rfl) Address.ofText?_text

instance : FaithfulFormat Prefix :=
  .of_encoding Prefix.text Prefix.ofText? (fun _ => rfl) (fun _ => rfl) Prefix.ofText?_text

instance : FaithfulFormat InterfaceAddress :=
  .of_encoding InterfaceAddress.text InterfaceAddress.ofText? (fun _ => rfl) (fun _ => rfl)
    InterfaceAddress.ofText?_text

instance : NonNullFormat Address := ⟨rfl⟩

instance : NonNullFormat InterfaceAddress := ⟨rfl⟩

instance : FaithfulFormat Area :=
  .of_encoding Area.id (some ∘ Area.mk) (fun _ => rfl) (fun _ => Option.map_eq_bind) fun _ => rfl

instance : FaithfulFormat Community :=
  .of_encoding Community.value (some ∘ Community.mk) (fun _ => rfl) (fun _ => Option.map_eq_bind) fun _ => rfl

instance : FaithfulFormat Protocol where
  ofJson_toJson p := by cases p <;> rfl
  legible p := .text p.name

instance : FaithfulFormat OriginType where
  ofJson_toJson o := by cases o <;> rfl
  legible o := by cases o <;> exact .text _

instance : FaithfulFormat NextHop := .of_kept fun h => by
  cases h with
  | address a => exact .choice NextHop.address (FaithfulFormat.kept a) rfl rfl
  | interface name a =>
    have fields : Json.record? ["interface", "ip"]
        (.object [("interface", toJson name), ("ip", toJson a)]) = some ⟨_, false⟩ :=
      Json.record?_object rfl (by simp [Json.distinct])
    refine ⟨.object (by simp), ?_⟩
    show (Json.record? ["interface", "ip"] _).bind _ = _
    simp [fields]
  | discard | self | peer => exact ⟨.text _, rfl⟩

instance : Fillable Address := .plain _

instance : Fillable Prefix := .plain _

instance : Fillable InterfaceAddress := .plain _

instance : Fillable Area := .plain _

instance : Fillable Community := .plain _

instance : Fillable OriginType := .plain _

instance : Fillable NextHop where
  schema := .choice [
    ("Interface", .record [requiredField String "interface", nullableField Address "ip"])]
  ofJson?_eq step := by
    cases step with
    | content option inside =>
      obtain ⟨rfl, rfl⟩ := Prod.mk.inj (List.mem_singleton.1 option)
      refine Json.bind_record?_writesOut rfl (by simp [Json.distinct]) ?_ inside
      intro r r' alike
      simp [alike.required, alike.nullable]

end RoutePlane
