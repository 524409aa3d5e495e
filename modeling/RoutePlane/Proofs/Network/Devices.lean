import RoutePlane.Proofs.Network.LastRound
import RoutePlane.Proofs.Router.Effects

/-! Routers and their devices. There is a router for each VRF of each device, and no phase of a
computation adds, removes or exchanges routers. So a router is found by its name and its VRF. -/
namespace RoutePlane

open Fallible

/-- Where names are distinct, no device takes the place of another one. -/
theorem Network.mem_ofConfigurations_iff {l : List Configuration}
    (named : (l.map (·.hostname)).Nodup) {name : String} {c : Configuration} :
    (name, c) ∈ (ofConfigurations l).configurations.toList ↔ c ∈ l ∧ c.hostname = name := by
  have all (n : Network) : (l.foldl addConfiguration n).configurations.get? name = some c ↔
      (c ∈ l ∧ c.hostname = name) ∨
        (name ∉ l.map (·.hostname) ∧ n.configurations.get? name = some c) := by
    induction l generalizing n with
    | nil => simp
    | cons first rest ih =>
      obtain ⟨absent, others⟩ := List.nodup_cons.1 named
      rw [List.foldl_cons, ih others, List.map_cons, List.mem_cons, List.mem_cons]
      by_cases here : name = first.hostname
      · subst here
        rw [addConfiguration, SortedMap.get?_insert_self, Option.some.injEq]
        grind
      · rw [addConfiguration, SortedMap.get?_insert_of_ne _ _ here]
        grind
  rw [SortedMap.mem_toList_iff, ofConfigurations, all]
  exact or_iff_left fun never => by cases never.2

namespace Network

variable {n : Network} {c c' : Configuration}

theorem get_hostname (listed : c ∈ n.configurations.values) :
    n.configurations.get? c.hostname = some c := by
  obtain ⟨⟨name, c⟩, bound, rfl⟩ := List.mem_map.1 listed
  rw [n.named _ bound]
  exact SortedMap.mem_toList_iff.1 bound

theorem eq_of_hostname (listed : c ∈ n.configurations.values)
    (listed' : c' ∈ n.configurations.values) (same : c.hostname = c'.hostname) : c = c' := by
  have found := get_hostname listed
  rw [same, get_hostname listed'] at found
  exact (Option.some.inj found).symm

end Network

namespace Router

variable {announcements : List Announcement} {r r' : Router}

theorem device_prepare (done : Schedule.prepare announcements r = .ok r') :
    r'.device = r.device := by
  obtain ⟨external, internal, -, -, rfl⟩ := initBgp_effect done
  obtain ⟨costs, effect⟩ := r.initConnected.initStatic.initOspfCosts_effect
  rw [effect]
  rfl

end Router

namespace Schedule

variable {f : Fabric} {announcements : List Announcement} {routers entry moved : List Router}
  {limit steps : Nat}

theorem independent_device (done : independent f limit announcements = .ok (routers, steps)) :
    routers.map Router.device = f.freshRouters.map Router.device := by
  obtain ⟨prepared, converged, first, second, rfl⟩ := independent_ok.1 done
  have prepares : prepared.map Router.device = f.freshRouters.map Router.device :=
    mapM_map (fun _ _ => Router.device_prepare) first
  have converges : converged.map Router.device = prepared.map Router.device := by
    refine repeatUntilStable_map (fun routers _ _ => exchange_map fun r g gathered => ?_) second
    cases gathered
    rfl
  rw [List.map_map]
  exact converges.trans prepares

theorem device_of_setAside (same : entry.map setAside = (routers.map Router.startRound).map setAside) :
    entry.map Router.device = routers.map Router.device := by
  have devices := congrArg (List.map fun k => k.1.device) same
  rwa [List.map_map, List.map_map, List.map_map] at devices

theorem beforeOspf_device (done : beforeOspf limit routers = .ok entry) :
    entry.map Router.device = routers.map Router.device :=
  device_of_setAside (beforeOspf_map done)

theorem beforeBgp_device (done : beforeBgp f limit routers = .ok entry) :
    entry.map Router.device = routers.map Router.device :=
  device_of_setAside (beforeBgp_map done)

theorem round_device (done : round f limit routers = .ok (moved, steps)) :
    moved.map Router.device = routers.map Router.device := by
  obtain ⟨entry, first, second⟩ := bind_eq_ok.1 done
  obtain ⟨run, rfl, -⟩ := BgpRun.of_phase second
  exact (run.map_device le_rfl).trans (beforeBgp_device first)

end Schedule

namespace Network

open Schedule

variable {n : Network} {routers : List Router} {r o : Router}

theorem RoundStart.map_device (start : n.RoundStart routers) :
    routers.map Router.device = n.fabric.freshRouters.map Router.device := by
  induction start with
  | first done => exact independent_device done
  | next _ done ih => exact (round_device done).trans ih

def HasDevices (n : Network) (routers : List Router) : Prop :=
  routers.map Router.device = n.fabric.freshRouters.map Router.device

namespace HasDevices

variable (devices : n.HasDevices routers)
include devices

theorem listed (member : r ∈ routers) : r.configuration ∈ n.configurations.values := by
  have source : r.device ∈ n.fabric.freshRouters.map Router.device :=
    devices ▸ List.mem_map_of_mem member
  obtain ⟨fresh, found, same⟩ := List.mem_map.1 source
  obtain ⟨c, listed, source⟩ := List.mem_flatMap.1 found
  obtain ⟨vrf, -, rfl⟩ := List.mem_map.1 source
  have configuration : c = r.configuration := congrArg Prod.fst same
  rwa [← configuration]

theorem exists_of_vrf {c : Configuration} {vrf : String} (listed : c ∈ n.configurations.values)
    (name : vrf ∈ c.vrfNames) : ∃ r ∈ routers, r.device = (c, vrf) := by
  have source : (c, vrf) ∈ routers.map Router.device := by
    rw [devices]
    exact List.mem_map.2 ⟨{ configuration := c, vrf := vrf },
      List.mem_flatMap.2 ⟨c, listed, List.mem_map.2 ⟨vrf, name, rfl⟩⟩, rfl⟩
  exact List.mem_map.1 source

theorem nodup : (routers.map Router.device).Nodup := by
  have vrfs (c : Configuration) : ((c.vrfNames.toList.map fun vrf =>
      ({ configuration := c, vrf := vrf } : Router)).map Router.device).Nodup := by
    rw [List.map_map]
    refine List.Nodup.map (fun v w same => congrArg Prod.snd same) ?_
    exact c.vrfNames.increasing.imp fun before same => by
      rw [same, Std.ReflOrd.compare_self] at before
      cases before
  rw [devices, Fabric.freshRouters, List.map_flatMap]
  refine List.nodup_flatMap.2 ⟨fun c _ => vrfs c, ?_⟩
  refine List.pairwise_map.2 (n.configurations.increasing.imp_of_mem fun {a b} first second before => ?_)
  intro d here there
  obtain ⟨r, source, rfl⟩ := List.mem_map.1 here
  obtain ⟨r', source', same⟩ := List.mem_map.1 there
  obtain ⟨_, -, rfl⟩ := List.mem_map.1 source
  obtain ⟨_, -, rfl⟩ := List.mem_map.1 source'
  have names : b.2.hostname = a.2.hostname := congrArg (fun d => d.1.hostname) same
  rw [n.named a first, n.named b second] at names
  rw [names, Std.ReflOrd.compare_self] at before
  cases before

theorem eq_of_device (member : r ∈ routers) (other : o ∈ routers) (same : r.device = o.device) :
    r = o :=
  List.inj_on_of_nodup_map devices.nodup member other same

theorem eq_of_names (member : r ∈ routers) (other : o ∈ routers) (hostname : r.hostname = o.hostname)
    (vrf : r.vrf = o.vrf) : r = o :=
  devices.eq_of_device member other (Prod.ext
    (eq_of_hostname (devices.listed member) (devices.listed other) hostname) vrf)

theorem findRouter_iff {node vrf : String} : findRouter? routers node vrf = some r ↔
    r ∈ routers ∧ r.hostname = node ∧ r.vrf = vrf := by
  constructor
  · intro found
    have fits := List.find?_some found
    rw [Bool.and_eq_true, beq_iff_eq, beq_iff_eq] at fits
    exact ⟨List.mem_of_find?_eq_some found, fits⟩
  · rintro ⟨member, rfl, rfl⟩
    obtain ⟨o, found⟩ : ∃ o, findRouter? routers r.hostname r.vrf = some o :=
      Option.isSome_iff_exists.1 (List.find?_isSome.2 ⟨r, member, by simp⟩)
    have fits := List.find?_some found
    rw [Bool.and_eq_true, beq_iff_eq, beq_iff_eq] at fits
    rw [found, devices.eq_of_names (List.mem_of_find?_eq_some found) member fits.1 fits.2]

end HasDevices

end Network

end RoutePlane
