import RoutePlane.Proofs.Order.Contents
import RoutePlane.Topology.Basic

/-! Owners of addresses. A device owns an address in a VRF if one of its active interfaces in that VRF
has it, and the record of all owners says exactly this. -/
namespace RoutePlane

variable {c : Configuration} {configurations : List Configuration} {a : Address}
  {node vrf : String}

/-- The device has the address on an active interface of the VRF. -/
def Configuration.Holds (c : Configuration) (vrf : String) (a : Address) : Prop :=
  ∃ i ∈ c.interfaces.values, i.active = true ∧ i.vrf = vrf ∧ i.host? = some a

instance : Decidable (c.Holds vrf a) :=
  inferInstanceAs (Decidable (∃ i ∈ c.interfaces.values, _))

namespace Owners

theorem mem_holdings_iff : (a, vrf) ∈ holdings c ↔ c.Holds vrf a := by
  simp only [holdings, List.mem_filterMap, Configuration.Holds]
  refine exists_congr fun i => and_congr_right fun _ => ?_
  by_cases up : i.active = true
  · rw [if_pos up, Option.map_eq_some_iff]
    constructor
    · rintro ⟨_, host, same⟩
      obtain ⟨rfl, rfl⟩ := Prod.mk.inj same
      exact ⟨up, rfl, host⟩
    · rintro ⟨-, rfl, host⟩
      exact ⟨a, host, rfl⟩
  · rw [if_neg up]
    exact iff_of_false (fun never => nomatch never) fun holds => up holds.1

theorem mem_nodesAndVrfs {o : Owners} : (node, vrf) ∈ o.nodesAndVrfs a ↔
    ∃ nodes, o.byAddress.get? a = some nodes ∧ ∃ vrfs, nodes.get? node = some vrfs ∧ vrf ∈ vrfs := by
  simp only [nodesAndVrfs, holders, List.mem_flatMap, List.mem_map]
  cases o.byAddress.get? a with
  | none => simp
  | some nodes =>
    simp only [Option.map_some, Option.getD_some, Option.some.injEq, exists_eq_left']
    constructor
    · rintro ⟨⟨_, vrfs⟩, bound, _, member, same⟩
      obtain ⟨rfl, rfl⟩ := Prod.mk.inj same
      exact ⟨vrfs, SortedMap.mem_toList_iff.1 bound, member⟩
    · rintro ⟨vrfs, bound, member⟩
      exact ⟨(node, vrfs), SortedMap.mem_toList_iff.2 bound, vrf, member, rfl⟩

theorem mem_nodesAndVrfs_record {o : Owners} {b : Address} {name v : String} :
    (node, vrf) ∈ (o.record b name v).nodesAndVrfs a ↔
      (a = b ∧ node = name ∧ vrf = v) ∨ (node, vrf) ∈ o.nodesAndVrfs a := by
  rw [mem_nodesAndVrfs, mem_nodesAndVrfs, record]
  dsimp only [SortedMap.alter]
  by_cases address : a = b
  · subst address
    rw [SortedMap.get?_insert_self]
    simp only [Option.some.injEq, exists_eq_left', true_and]
    by_cases name_eq : node = name
    · subst name_eq
      rw [SortedMap.get?_insert_self]
      cases o.byAddress.get? a with
      | none => simp [SortedMap.get?, SortedMap.empty]
      | some nodes => cases found : nodes.get? node <;> simp [found]
    · rw [SortedMap.get?_insert_of_ne _ _ name_eq]
      cases o.byAddress.get? a with
      | none => simp [SortedMap.get?, SortedMap.empty, name_eq]
      | some nodes => simp [name_eq]
  · rw [SortedMap.get?_insert_of_ne _ _ address]
    simp [address]

theorem mem_nodesAndVrfs_foldl_record {o : Owners} {name : String} {l : List (Address × String)} :
    (node, vrf) ∈ (l.foldl (fun o b => o.record b.1 name b.2) o).nodesAndVrfs a ↔
      (node = name ∧ (a, vrf) ∈ l) ∨ (node, vrf) ∈ o.nodesAndVrfs a := by
  induction l generalizing o with
  | nil => simp
  | cons b l ih =>
    rw [List.foldl_cons, ih, mem_nodesAndVrfs_record, ← or_assoc, List.mem_cons, Prod.ext_iff]
    refine or_congr_left ?_
    tauto

theorem mem_ofConfigurations_iff : (node, vrf) ∈ (ofConfigurations configurations).nodesAndVrfs a ↔
    ∃ c ∈ configurations, c.hostname = node ∧ c.Holds vrf a := by
  have folded (o : Owners) :
      (node, vrf) ∈ (configurations.foldl (fun o c =>
        (holdings c).foldl (fun o b => o.record b.1 c.hostname b.2) o) o).nodesAndVrfs a ↔
      (∃ c ∈ configurations, c.hostname = node ∧ c.Holds vrf a) ∨
        (node, vrf) ∈ o.nodesAndVrfs a := by
    induction configurations generalizing o with
    | nil => simp
    | cons c l ih =>
      rw [List.foldl_cons, ih, mem_nodesAndVrfs_foldl_record, mem_holdings_iff, ← or_assoc,
        List.exists_mem_cons_iff, or_comm (a := ∃ c ∈ l, _), eq_comm (a := node)]
  refine (folded ⟨.empty⟩).trans (or_iff_left fun never => ?_)
  obtain ⟨_, bound, -⟩ := mem_nodesAndVrfs.1 never
  cases bound

end Owners

end RoutePlane
