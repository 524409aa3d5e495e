import Mathlib.Data.List.Nodup
import Mathlib.Data.Multiset.Basic
import RoutePlane.Proofs.Order.Contents
import RoutePlane.Proofs.Router.Gathering

/-! What a configuration says, without the order in which it says it. Static and generated routes and
neighbors are listed; everything else is in order by itself. Where no two neighbors of a process have one
address, configurations with the same contents answer every question but for the order of these
lists. -/
namespace RoutePlane

theorem SortedMap.get?_congr {κ ν μ : Type} [Ord κ] {m m' : SortedMap κ ν} {see see' : ν → μ}
    (same : m'.toList.map (fun b => (b.1, see' b.2)) = m.toList.map fun b => (b.1, see b.2)) (k : κ) :
    (m'.get? k).map see' = (m.get? k).map see := by
  have seen (m : SortedMap κ ν) (see : ν → μ) : (m.get? k).map see =
      ((m.toList.map fun b => (b.1, see b.2)).find? fun b => compare k b.1 == .eq).map Prod.snd := by
    rw [get?, List.find?_map, Option.map_map, Option.map_map]
    rfl
  rw [seen, seen, same]

namespace BgpProcess

variable {process other : BgpProcess} {neighbor : Neighbor} {peer : Address}

theorem of_neighbor? (found : process.neighbor? peer = some neighbor) :
    neighbor ∈ process.neighbors ∧ neighbor.peer = peer :=
  ⟨List.mem_of_find?_eq_some found, by simpa using List.find?_some found⟩

theorem neighbor?_eq_some (nodup : (process.neighbors.map (·.peer)).Nodup)
    (listed : neighbor ∈ process.neighbors) : process.neighbor? neighbor.peer = some neighbor := by
  obtain ⟨first, found⟩ : ∃ first, process.neighbor? neighbor.peer = some first :=
    Option.isSome_iff_exists.1 (List.find?_isSome.2 ⟨neighbor, listed, beq_self_eq_true _⟩)
  obtain ⟨listed', same⟩ := of_neighbor? found
  rw [found, List.inj_on_of_nodup_map nodup listed' listed same]

/-- Where peers are distinct, it does not matter in which order the entries are. -/
theorem neighbor?_perm (nodup : (process.neighbors.map (·.peer)).Nodup)
    (same : process.neighbors.Perm other.neighbors) : other.neighbor? = process.neighbor? := by
  funext peer
  cases found : process.neighbor? peer with
  | none =>
    rw [neighbor?, List.find?_eq_none] at found ⊢
    exact fun n listed => found n (same.mem_iff.2 listed)
  | some n =>
    obtain ⟨listed, rfl⟩ := of_neighbor? found
    exact neighbor?_eq_some ((same.map _).nodup_iff.1 nodup) (same.mem_iff.1 listed)

def contents (p : BgpProcess) : BgpProcess × Multiset Neighbor :=
  ({ p with neighbors := [] }, (p.neighbors : Multiset Neighbor))

theorem sessionAs_of_face (same : other.face = process.face) :
    other.sessionAs = process.sessionAs :=
  congrArg (fun k : BgpProcess × _ => fun n : Neighbor => n.localAs.getD k.1.localAs) same

theorem face_of_contents (nodup : (process.neighbors.map (·.peer)).Nodup)
    (same : other.contents = process.contents) : other.face = process.face := by
  obtain ⟨others, neighbors⟩ := Prod.mk.inj same
  exact Prod.ext others (neighbor?_perm nodup (Multiset.coe_eq_coe.1 neighbors.symm))

end BgpProcess

structure Vrf.Contents where
  staticRoutes : Multiset StaticRoute
  generatedRoutes : Multiset GeneratedRoute
  ospf : Option OspfProcess
  bgp : Option (BgpProcess × Multiset Neighbor)
  deriving DecidableEq

def Vrf.contents (v : Vrf) : Vrf.Contents where
  staticRoutes := v.staticRoutes
  generatedRoutes := v.generatedRoutes
  ospf := v.ospf
  bgp := v.bgp.map BgpProcess.contents

namespace Configuration

/-- A configuration with all lists in it in no order. -/
structure Contents where
  /-- Everything outside of the VRFs. -/
  device : Configuration
  vrfs : List (String × Vrf.Contents)
  deriving DecidableEq

def contents (c : Configuration) : Contents where
  device := { c with vrfs := .empty }
  vrfs := c.vrfs.toList.map fun b => (b.1, b.2.contents)

def HasDistinctPeers (c : Configuration) : Prop :=
  ∀ v ∈ c.vrfs.values, ∀ p ∈ v.bgp, (p.neighbors.map (·.peer)).Nodup

instance (c : Configuration) : Decidable c.HasDistinctPeers :=
  inferInstanceAs (Decidable (∀ v ∈ c.vrfs.values, ∀ p ∈ v.bgp, (p.neighbors.map (·.peer)).Nodup))

theorem HasDistinctPeers.nodup {c : Configuration} {vrf : String} {p : BgpProcess}
    (distinct : c.HasDistinctPeers) (own : c.bgpProcess? vrf = some p) :
    (p.neighbors.map (·.peer)).Nodup := by
  obtain ⟨v, found, runs⟩ := Option.bind_eq_some_iff.1 own
  exact distinct v (List.mem_map.2 ⟨_, SortedMap.mem_toList_iff.2 found, rfl⟩) p runs

/-- The same contents, and the same entries for peers. -/
structure Like (c c' : Configuration) : Prop where
  contents : c'.contents = c.contents
  faces : ∀ vrf, (c'.bgpProcess? vrf).map BgpProcess.face = (c.bgpProcess? vrf).map BgpProcess.face

theorem Like.refl (c : Configuration) : c.Like c := ⟨rfl, fun _ => rfl⟩

section Contents

variable {c c' : Configuration} (same : c'.contents = c.contents)
include same

theorem vrf_of_contents (vrf : String) :
    (c'.vrfs.get? vrf).map Vrf.contents = (c.vrfs.get? vrf).map Vrf.contents :=
  SortedMap.get?_congr (congrArg Contents.vrfs same) vrf

theorem hostname_of_contents : c'.hostname = c.hostname := congrArg (·.device.hostname) same

theorem interfaces_of_contents : c'.interfaces = c.interfaces := congrArg (·.device.interfaces) same

theorem ospfProcess_of_contents (vrf : String) : c'.ospfProcess? vrf = c.ospfProcess? vrf := by
  have seen (c : Configuration) :
      c.ospfProcess? vrf = ((c.vrfs.get? vrf).map Vrf.contents).bind (·.ospf) := by
    rw [Option.bind_map]
    rfl
  rw [seen, seen, vrf_of_contents same]

theorem bgpProcess_of_contents (vrf : String) :
    (c'.bgpProcess? vrf).map BgpProcess.contents = (c.bgpProcess? vrf).map BgpProcess.contents := by
  have seen (c : Configuration) : (c.bgpProcess? vrf).map BgpProcess.contents =
      ((c.vrfs.get? vrf).map Vrf.contents).bind (·.bgp) := by
    rw [Option.bind_map, bgpProcess?, Option.map_bind]
    rfl
  rw [seen, seen, vrf_of_contents same]

theorem vrfNames_of_contents : c'.vrfNames = c.vrfNames := by
  have keys (c : Configuration) : c.vrfs.keys = c.contents.vrfs.map (·.1) := by
    rw [contents, List.map_map]
    rfl
  rw [vrfNames, vrfNames, keys, keys, same, interfaces_of_contents same]

theorem sessionAddress_of_contents (vrf : String) (neighbor : Neighbor) :
    c'.sessionAddress? vrf neighbor = c.sessionAddress? vrf neighbor := by
  rw [sessionAddress?, sessionAddress?, interfacesOf, interfacesOf, interfaces_of_contents same]

theorem listed_of_contents {α : Type} {listed : Vrf → List α}
    (told : ∀ v v' : Vrf, v'.contents = v.contents → (listed v).Perm (listed v')) (vrf : String) :
    (((c.vrfs.get? vrf).map listed).getD []).Perm (((c'.vrfs.get? vrf).map listed).getD []) := by
  have seen := vrf_of_contents same vrf
  cases found : c.vrfs.get? vrf <;> cases found' : c'.vrfs.get? vrf <;> rw [found, found'] at seen
  case some.some v v' => exact told v v' (Option.some.inj seen)
  all_goals cases seen

theorem staticRoutes_of_contents (vrf : String) :
    (((c.vrfs.get? vrf).map (·.staticRoutes)).getD []).Perm
      (((c'.vrfs.get? vrf).map (·.staticRoutes)).getD []) :=
  listed_of_contents same
    (fun _ _ same => Multiset.coe_eq_coe.1 (congrArg (·.staticRoutes) same).symm) vrf

theorem generatedRoutes_of_contents (vrf : String) :
    (((c.vrfs.get? vrf).map (·.generatedRoutes)).getD []).Perm
      (((c'.vrfs.get? vrf).map (·.generatedRoutes)).getD []) :=
  listed_of_contents same
    (fun _ _ same => Multiset.coe_eq_coe.1 (congrArg (·.generatedRoutes) same).symm) vrf

theorem hasDistinctPeers_of_contents (distinct : c.HasDistinctPeers) : c'.HasDistinctPeers := by
  intro v' listed p' runs'
  obtain ⟨⟨vrf, _⟩, bound, rfl⟩ := List.mem_map.1 listed
  have seen := bgpProcess_of_contents same vrf
  rw [bgpProcess?, SortedMap.mem_toList_iff.1 bound, Option.bind_some, runs', eq_comm,
    Option.map_some, Option.map_eq_some_iff] at seen
  obtain ⟨p, own, contents⟩ := seen
  have neighbors := Multiset.coe_eq_coe.1 (Prod.mk.inj contents).2
  exact (neighbors.map _).nodup_iff.1 (distinct.nodup own)

theorem like_of_contents (distinct : c.HasDistinctPeers) : c.Like c' := by
  refine ⟨same, fun vrf => ?_⟩
  have seen := bgpProcess_of_contents same vrf
  cases own : c.bgpProcess? vrf <;> cases own' : c'.bgpProcess? vrf <;> rw [own, own'] at seen
  case some.some p p' =>
    exact congrArg some (BgpProcess.face_of_contents (distinct.nodup own) (Option.some.inj seen))
  all_goals cases seen

end Contents

/-- A process and the one in its place. -/
theorem Like.process {c c' : Configuration} (like : c.Like c') {vrf : String} {p : BgpProcess}
    (own : c.bgpProcess? vrf = some p) : ∃ p', c'.bgpProcess? vrf = some p' ∧ p'.face = p.face ∧
      p.neighbors.Perm p'.neighbors := by
  have faces := like.faces vrf
  have contents := bgpProcess_of_contents like.contents vrf
  rw [own, Option.map_some] at faces contents
  obtain ⟨p', own', face⟩ := Option.map_eq_some_iff.1 faces
  rw [own', Option.map_some, Option.some.injEq] at contents
  exact ⟨p', own', face, Multiset.coe_eq_coe.1 (Prod.mk.inj contents).2.symm⟩

theorem Like.no_process {c c' : Configuration} (like : c.Like c') {vrf : String}
    (none : c.bgpProcess? vrf = none) : c'.bgpProcess? vrf = .none := by
  have faces := like.faces vrf
  rwa [none, Option.map_none, Option.map_eq_none_iff] at faces

end Configuration

namespace PolicyContext

variable {k k' : PolicyContext} (same : k'.configuration.contents = k.configuration.contents)
include same

theorem evaluate_of_contents (r : Route) (depth : Nat) (name : String) :
    k'.evaluate r depth name = k.evaluate r depth name := by
  have policies : k'.configuration.policy? = k.configuration.policy? := by
    funext name
    rw [Configuration.policy?, Configuration.policy?]
    exact congrArg (fun c => c.device.policies.get? name <|> c.device.routeMaps.get? name) same
  induction depth generalizing name with
  | zero => rw [evaluate, evaluate, policies]
  | succ depth ih =>
    rw [evaluate, evaluate, policies]
    simp only [ih]

/-- A policy does to a route what the policies and the addresses of its session say. -/
theorem apply_of_contents (own : k'.localAddress = k.localAddress)
    (peer : k'.peerAddress = k.peerAddress) : k'.apply = k.apply := by
  have depth : k'.depth = k.depth :=
    congrArg (fun c => c.device.policies.size + c.device.routeMaps.size) same
  have resolve : k'.resolve = k.resolve := by
    funext hop
    cases hop <;> simp only [PolicyContext.resolve, own, peer]
  funext name r draft
  cases name with
  | none => simp only [apply, resolveDraft, resolve]
  | some name => simp only [apply, depth, evaluate_of_contents same, resolveDraft, resolve]

end PolicyContext

end RoutePlane
