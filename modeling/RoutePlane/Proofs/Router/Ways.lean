import Mathlib.Order.Bounds.Basic
import RoutePlane.Proofs.Router.OspfSettling

/-! Ways inside an OSPF area. A way leads over adjacencies of the area to a router with an interface in
a network, and costs what its outgoing interfaces and that interface cost. The routes that a router can
have for the network stand for its own interfaces and for ways to other routers, and if nothing new
arrives from its neighbors any more, then the routes that it holds stand for the cheapest ones. -/
namespace RoutePlane

namespace Ospf

def costLimit : Nat := UInt32.size - 1

def saturate (total : Nat) : UInt32 := UInt32.ofNat (min total costLimit)

theorem toNat_saturate (total : Nat) : (saturate total).toNat = min total costLimit :=
  UInt32.toNat_ofNat_of_lt' (Nat.lt_of_le_of_lt (Nat.min_le_right _ _) (by decide))

theorem le_costLimit (c : UInt32) : c.toNat ≤ costLimit := Nat.le_pred_of_lt c.toNat_lt_size

theorem saturate_toNat (c : UInt32) : saturate c.toNat = c := by
  rw [← UInt32.toNat_inj, toNat_saturate, Nat.min_eq_left (le_costLimit c)]

theorem addCost_saturate (total : Nat) (c : UInt32) :
    addCost (saturate total) c = saturate (c.toNat + total) := by
  rw [addCost, toNat_saturate, saturate]
  congr 1
  simp only [costLimit]
  omega

end Ospf

namespace Router

variable {f : Fabric} {routers : List Router} {r o : Router} {a : Adjacency} {x y : Route}
  {area : Area} {network : Prefix} {name : String} {cost : UInt32} {total : Nat}
  {look : Router → Router} {offered : Set Route}

def Attaches (r : Router) (network : Prefix) (name : String) (cost : UInt32) : Prop :=
  r.ospfProcess?.isSome = true ∧ r.ospf.costs.get? name = some cost ∧
    ∃ i o, (name, i, o) ∈ r.ospfInterfaces ∧ i.network? = some network

/-- Ways over the adjacencies of an area, with their ends and what they cost. -/
inductive Reaches (f : Fabric) (routers : List Router) (area : Area) (network : Prefix) :
    Router → Router → Nat → Prop
  | here {r : Router} {name : String} {cost : UInt32} (attaches : r.Attaches network name cost) :
    Reaches f routers area network r r cost.toNat
  | across {r o : Router} {a : Adjacency} {total : Nat} (adjacent : a ∈ r.adjacencies f routers)
    (inside : a.area = area) (onward : Reaches f routers area network a.neighbor o total) :
    Reaches f routers area network r o (a.cost.toNat + total)

/-- The routes that stand for something: for an own interface, or for a way to another router. -/
inductive Stands (f : Fabric) (routers : List Router) (area : Area) (network : Prefix) (r : Router) :
    Route → Prop
  | own {name : String} {cost : UInt32} (attaches : r.Attaches network name cost) :
    Stands f routers area network r
      (ospfRoute .ospfIntra area r.hostname network cost (.interface name none))
  | way {o : Router} {a : Adjacency} {total : Nat} (adjacent : a ∈ r.adjacencies f routers)
    (inside : a.area = area) (onward : Reaches f routers area network a.neighbor o total)
    (other : o.hostname ≠ r.hostname) :
    Stands f routers area network r (ospfRoute .ospfIntra area o.hostname network
      (Ospf.saturate (a.cost.toNat + total)) a.nextHop)

theorem attaches_congr (same : r.bare = o.bare) :
    r.Attaches network name cost ↔ o.Attaches network name cost :=
  iff_of_eq (seen_of_bare (fun r => r.Attaches network name cost) (fun _ => rfl) same)

theorem ospf_of_adjacent (adjacent : a ∈ r.adjacencies f routers) :
    r.ospfProcess?.isSome = true :=
  (mem_adjacencies_iff.1 adjacent).1

namespace Reaches

/-- Ways do not depend on tables. -/
theorem map (keeps : ∀ r, (look r).bare = r.bare) (reaches : Reaches f routers area network r o total) :
    Reaches f (routers.map look) area network (look r) (look o) total := by
  induction reaches with
  | here attaches => exact .here ((attaches_congr (keeps _)).2 attaches)
  | @across r o a total adjacent inside _ ih =>
    have seen : a.map look ∈ (look r).adjacencies f (routers.map look) := by
      rw [adjacencies_map keeps]
      exact List.mem_map_of_mem adjacent
    exact .across (a := a.map look) seen inside ih

theorem end_mem (member : r ∈ routers) (reaches : Reaches f routers area network r o total) :
    o ∈ routers := by
  induction reaches with
  | here => exact member
  | across adjacent _ _ ih => exact ih (mem_adjacencies adjacent).2

theorem exists_attaches (reaches : Reaches f routers area network r o total) :
    ∃ name cost, o.Attaches network name cost ∧ cost.toNat ≤ total := by
  induction reaches with
  | here attaches => exact ⟨_, _, attaches, le_rfl⟩
  | across _ _ _ ih =>
    obtain ⟨name, cost, attaches, le⟩ := ih
    exact ⟨name, cost, attaches, le.trans (Nat.le_add_left _ _)⟩

end Reaches

namespace Stands

theorem map (keeps : ∀ r, (look r).bare = r.bare) (stands : Stands f routers area network r x) :
    Stands f (routers.map look) area network (look r) x := by
  have names := seen_of_keeps keeps hostname fun _ => rfl
  cases stands with
  | own attaches =>
    rw [← names r]
    exact .own ((attaches_congr (keeps r)).2 attaches)
  | @way o a total adjacent inside onward other =>
    rw [← names o]
    have seen : a.map look ∈ (look r).adjacencies f (routers.map look) := by
      rw [adjacencies_map keeps]
      exact List.mem_map_of_mem adjacent
    exact .way (a := a.map look) seen inside (onward.map keeps) (by rwa [names, names])

/-- The way that a route stands for. -/
theorem reaches (stands : Stands f routers area network r x) : ∃ o total,
    Reaches f routers area network r o total ∧
      x = ospfRoute .ospfIntra area o.hostname network (Ospf.saturate total) x.nextHop := by
  cases stands with
  | own attaches => exact ⟨r, _, .here attaches, by rw [Ospf.saturate_toNat]; rfl⟩
  | way adjacent inside onward => exact ⟨_, _, .across adjacent inside onward, rfl⟩

end Stands

end Router

end RoutePlane
