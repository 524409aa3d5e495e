import RoutePlane.Proofs.Network.History
import RoutePlane.Proofs.Network.SessionPaths
import RoutePlane.Proofs.Router.Spared

/-! AS paths without repetition. A router puts its own system in front of a path that goes to another
system, and a path with the receiving system on it is refused there. Inside a system paths spread
unchecked, but then the receiving system is also the sending one, which is on none of the paths that it
holds. So no table ever holds a path that names a system twice, or the own one. -/
namespace RoutePlane

open Fallible

theorem AsPath.contains_ofSequence {l : List AsNumber} {as : AsNumber} :
    (AsPath.ofSequence l).contains as = true ↔ as ∈ l := by
  simp [contains_iff, ofSequence]

/-- Where no policy writes to AS paths, all of them spare these. -/
theorem Configuration.spares_asPath {c : Configuration}
    (unprepended : ∀ a ∈ c.actions, ∀ sequence, a ≠ .prependAsPath sequence) :
    c.Spares BgpAttributes.asPath := by
  refine Configuration.spares_of_edits fun a action b => ?_
  cases a with
  | prependAsPath sequence => exact absurd rfl (unprepended _ action sequence)
  | _ => rfl

namespace Router

variable {s : Session} {process senderProcess : BgpProcess} {neighbor senderNeighbor : Neighbor}
  {route : Route} {a a' : BgpAttributes} {l : List AsNumber}

/-- A session between systems makes a simple path of a simple one, and one inside leaves it. -/
theorem simple_of_sent (shape : a.asPath = .ofSequence l) (nodup : l.Nodup) (apart : s.senderAs ∉ l)
    (inside : s.type.isExternal = false → s.receiverAs = s.senderAs)
    (sent : a'.asPath = (sentAttributes route s senderProcess senderNeighbor a).asPath)
    (fresh : hasLooped s process (arrivedAttributes neighbor a') = false) :
    ∃ m, a'.asPath = .ofSequence m ∧ m.Nodup ∧ s.receiverAs ∉ m ∧
      ∀ as ∈ m, as = s.senderAs ∨ as ∈ l := by
  cases type : s.type.isExternal with
  | true =>
    have path : a'.asPath = .ofSequence (s.senderAs :: l) := by
      rw [sent, (sentAttributes_external type).1, shape]
      rfl
    refine ⟨_, path, List.nodup_cons.2 ⟨apart, nodup⟩, fun step => ?_, fun as => List.mem_cons.1⟩
    rw [hasLooped, if_pos type, ← Bool.not_eq_true] at fresh
    exact fresh ((congrArg (AsPath.contains · _) path).trans (AsPath.contains_ofSequence.2 step))
  | false =>
    have path : a'.asPath = .ofSequence l := by
      rw [sent, (sentAttributes_internal type).1, shape]
    exact ⟨l, path, nodup, inside type ▸ apart, fun as => .inr⟩

/-- All BGP tables: those of announcements, the staged ones, and those that routes are sent from. -/
def allBgpRibs (r : Router) : List Rib := r.bgp.baseExternal :: r.bgp.baseInternal :: r.bgpRibs

theorem DrawsBgp.mem {pool : Set Route} {r : Router} {t : Rib} {x : Route} (draws : r.DrawsBgp pool)
    (table : t ∈ r.allBgpRibs) (held : x ∈ t.routes) : x ∈ pool := by
  obtain ⟨baseExternal, baseInternal, tables⟩ := draws
  simp only [allBgpRibs, bgpRibs, List.mem_cons, List.not_mem_nil, or_false] at table
  rcases table with rfl | rfl | rfl | rfl | rfl | rfl | rfl
  exacts [baseExternal.mem held, baseInternal.mem held, tables.external.mem held,
    tables.internal.mem held, tables.combined.mem held, tables.stagedExternal.mem held,
    tables.stagedInternal.mem held]

end Router

namespace Network

open Schedule

variable {n : Network} {routers : List Router} {r : Router} {x : Route} {s : Session}

/-- The systems of the network, and those that are announced to it. -/
def systems (n : Network) : List AsNumber :=
  n.processes.map (·.2.localAs) ++ n.announcements.flatMap (·.asPath)

/-- Every process has one system number, no policy writes to AS paths, and announcements come from
other systems, with paths that name no system twice. -/
structure KeepsPaths (n : Network) : Prop where
  oneNumber : n.HasOneNumber
  unprepended : ∀ c ∈ n.configurations.values, ∀ a ∈ c.actions, ∀ sequence,
    a ≠ .prependAsPath sequence
  outside : n.HearsOutside
  distinct : ∀ a ∈ n.announcements, a.asPath.Nodup

def simpleRoutes (n : Network) (device : Configuration × String) : Set Route :=
  {x | ∃ process a l, device.1.bgpProcess? device.2 = some process ∧ x.attributes? = some a ∧
    a.asPath = .ofSequence l ∧ l.Nodup ∧ process.localAs ∉ l ∧ ∀ as ∈ l, as ∈ n.systems}

namespace KeepsPaths

variable (keeps : n.KeepsPaths)
include keeps

theorem spares (devices : n.HasDevices routers) (member : r ∈ routers) :
    r.configuration.Spares BgpAttributes.asPath :=
  Configuration.spares_asPath (keeps.unprepended _ (devices.listed member))

theorem originated (devices : n.HasDevices routers) (member : r ∈ routers)
    (originates : r.Originates x) : x ∈ n.simpleRoutes r.device := by
  obtain ⟨-, a, b, found, same, path, -⟩ := originates.seen (keeps.spares devices member)
  obtain ⟨process, -, own, -⟩ := originates
  exact ⟨process, b, [], own, found, same.trans path, .nil, List.not_mem_nil,
    fun as never => absurd never List.not_mem_nil⟩

theorem announced {external : Bool} (devices : n.HasDevices routers) (member : r ∈ routers)
    (announced : r.IsAnnounced n.announcements external x) : x ∈ n.simpleRoutes r.device := by
  obtain ⟨process, own, a, listed, -, -, neighbor, found, -, fresh, -, seen⟩ :=
    announced.seen (keeps.spares devices member)
  obtain ⟨b, known, path⟩ := Option.map_eq_some_iff.1 seen
  have number := keeps.oneNumber.sessionAs_eq (devices.runs member own) (BgpProcess.of_neighbor? found).1
  refine ⟨process, b, a.asPath, own, known, path, keeps.distinct a listed, ?_, fun as step => ?_⟩
  · rw [← number]
    exact fresh (keeps.outside.external devices member announced)
  · exact List.mem_append_right _ (List.mem_flatMap.2 ⟨a, listed, step⟩)

/-- The paths of the sender do not name its system, and the session checks for that of the receiver
unless both are the same. -/
theorem heard {external : Bool} (devices : n.HasDevices routers)
    (all : ∀ r ∈ routers, ∀ x ∈ r.bgp.combined.routes, x ∈ n.simpleRoutes r.device)
    (member : r ∈ routers) (hears : r.Hears n.fabric routers external x) :
    x ∈ n.simpleRoutes r.device := by
  obtain ⟨process, own, s, incoming, -, sender, senderProcess, senderNeighbor, neighbor, route, draft,
    found, -, held, sent, received⟩ := hears
  obtain ⟨known, node, vrf⟩ := Sessions.mem_incoming_iff.1 incoming
  obtain ⟨ends⟩ := joined known
  obtain ⟨_, source, device, same⟩ := ends.senderOf devices
  cases found.symm.trans same
  obtain ⟨-, runs⟩ := ends.receiver_device devices member node vrf
  cases own.symm.trans runs
  have sends := ends.senderAs_eq keeps.oneNumber
  have receives := ends.receiverAs_eq keeps.oneNumber
  obtain ⟨a, a', b, carried, -, departed, fresh, -, known, arrived⟩ :=
    Router.handed_over (keeps.spares devices source) (keeps.spares devices member) sent received
  obtain ⟨senderProcess, _, l, runs', carried', shape, nodup, apart, within⟩ :=
    all sender source route held
  cases carried.symm.trans carried'
  rw [device] at runs'
  cases (mem_processes_iff.1 ends.sends).2.symm.trans runs'
  obtain ⟨m, path, nodup, left, steps⟩ := Router.simple_of_sent shape nodup (sends ▸ apart)
    ends.receiverAs_eq_senderAs departed fresh
  refine ⟨ends.process, b, m, own, known, arrived.trans path, nodup, receives ▸ left, fun as step => ?_⟩
  rcases steps as step with rfl | before
  · exact List.mem_append_left _ (List.mem_map.2 ⟨_, ends.sends, sends.symm⟩)
  · exact within as before

theorem gathers : n.Gathers fun _ => n.simpleRoutes where
  suits := by
    rintro _ _ x ⟨_, a, _, -, found, -⟩
    exact Route.isBgpKind_of_attributes found
  grows := fun _ _ _ => subset_rfl
  announced := fun _ _ devices _ member _ _ => keeps.announced devices member
  originated := fun _ _ devices _ member _ => keeps.originated devices member
  heard := fun _ _ devices all _ member _ _ => keeps.heard devices all member

end KeepsPaths

/-- Every BGP route has a path of distinct systems, all of them different from that of its router. -/
def HoldsSimplePaths (n : Network) (routers : List Router) : Prop :=
  ∀ r ∈ routers, ∀ t ∈ r.allBgpRibs, ∀ x ∈ t.routes, ∃ process a l,
    r.bgpProcess? = some process ∧ x.attributes? = some a ∧ a.asPath = .ofSequence l ∧ l.Nodup ∧
      process.localAs ∉ l ∧ a.asPath.length ≤ n.systems.toFinset.card

/-- No path of a BGP route names a system twice, or that of the router that holds it, in any state that
the network can get into. So no path is longer than there are systems. -/
theorem paths_name_systems_once (keeps : n.KeepsPaths) :
    (∀ routers, n.Reaches routers → n.HoldsSimplePaths routers) ∧
      ∀ d, n.compute = .ok d → n.HoldsSimplePaths d.routers := by
  have all (routers : List Router) (reached : n.Reaches routers) : n.HoldsSimplePaths routers := by
    intro r member t table x held
    obtain ⟨earlier, history⟩ := reached
    obtain ⟨process, a, l, own, found, path, nodup, apart, within⟩ :=
      (history.draws keeps.gathers r member).mem table held
    refine ⟨process, a, l, own, found, path, nodup, apart, ?_⟩
    have subset : l.toFinset ⊆ n.systems.toFinset := fun as step =>
      List.mem_toFinset.2 (within as (List.mem_toFinset.1 step))
    calc a.asPath.length = l.toFinset.card := by
          rw [path, List.toFinset_card_of_nodup nodup, AsPath.length, AsPath.ofSequence,
            List.length_map]
      _ ≤ n.systems.toFinset.card := Finset.card_le_card subset
  exact ⟨all, fun d done => all _ (reaches_compute done)⟩

/-- In the row of systems the route from outside has got into the one in the middle, and its path names
the first. -/
theorem row_names_systems_once : row.KeepsPaths ∧ ∃ d, row.compute = .ok d ∧
    row.HoldsSimplePaths d.routers ∧ ∃ r ∈ d.routers, ∃ x ∈ r.bgp.combined.routes, ∃ a,
      x.attributes? = some a ∧ a.asPath = .ofSequence [65001] := by
  have silent : ∀ c ∈ row.configurations.values, c.actions = [] := by decide +kernel
  have keeps : row.KeepsPaths := {
    oneNumber := by decide +kernel
    unprepended := fun c listed a action => by
      rw [silent c listed] at action
      exact absurd action List.not_mem_nil
    outside := by decide +kernel
    distinct := by decide +kernel }
  have passed : row.compute.toOption.any (fun d => d.routers.any fun r =>
      r.bgp.combined.routes.any fun x => x.attributes?.any fun a =>
        a.asPath == .ofSequence [65001]) = true := by
    decide +kernel
  obtain ⟨d, done, passed⟩ := of_any passed
  obtain ⟨r, member, passed⟩ := List.any_eq_true.1 passed
  obtain ⟨x, held, passed⟩ := List.any_eq_true.1 passed
  obtain ⟨a, found, path⟩ := (Option.any_eq_true _ _).1 passed
  exact ⟨keeps, d, done, (paths_name_systems_once keeps).2 d done, r, member, x, held, a, found,
    beq_iff_eq.1 path⟩

end Network

end RoutePlane
