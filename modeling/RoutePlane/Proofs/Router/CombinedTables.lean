import RoutePlane.Proofs.Rib.Emptied
import RoutePlane.Proofs.Router.Hearing
import RoutePlane.Proofs.Router.Sources
import RoutePlane.Proofs.Router.TypedTables

/-! Tables that combine other tables. Each is brought up to date from what it was before, while better
routes take the place of those that it has combined already. Yet it is what it would be if it were made
anew of the tables as they are, since nothing that has once been beaten comes back. The main table,
which compares routes in another way, does not choose against the combined ones. -/
namespace RoutePlane

open Fallible

namespace Rib

variable {t u : Rib} {k : RibKind} {offered : Set Route}

theorem filled_mergeAll (filled : ∀ p, ¬t.Emptied p) (l : List Route) :
    ∀ p, ¬(t.mergeAll l).1.Emptied p :=
  fun p emptied => filled p emptied.of_mergeAll

/-- Without emptied entries a table is determined by what was offered to it. -/
theorem Weighs.eq_of_filled (weighs : t.Weighs k offered) (others : u.Weighs k offered)
    (filled : ∀ p, ¬t.Emptied p) (filled' : ∀ p, ¬u.Emptied p) : t = u := by
  have held : t.held = u.held := by
    funext p
    exact SortedSet.ext fun x => weighs.mem_iff.trans others.mem_iff.symm
  have entry {t : Rib} (filled : ∀ p, ¬t.Emptied p) (p : Prefix) :
      (t.entries.get? p).isSome = true ↔ ∃ x, x ∈ t.held p := by
    constructor
    · intro present
      by_contra none
      exact filled p (emptied_iff.2 ⟨present, not_exists.1 none⟩)
    · rintro ⟨x, member⟩
      rw [Rib.held] at member
      cases found : t.entries.get? p with
      | none => simp [found] at member
      | some routes => rfl
  refine eq_of_held (weighs.kind.trans others.kind.symm) held fun p => ?_
  rw [Bool.eq_iff_iff, entry filled, entry filled', held]

end Rib

namespace Router

variable {f : Fabric} {routers : List Router} {r e : Router} {announcements : List Announcement}
  {main earlier combined : Rib} {pool : Set Route} {p : Prefix} {x y : Route}

-- Tables are compared by what is merged into them, never by their entries.
attribute [local irreducible] Rib.mergeAll installAll bestRoutes

section Bgp

def recombinedBgp (r : Router) : Rib :=
  (((Rib.empty .bgp).absorb r.bgp.external).1.absorb r.bgp.internal).1

/-- The tables after a commit: the BGP table has all that has ever been in those of the two sides, and the
main table follows it. -/
structure HasCommitted (r : Router) : Prop where
  weighed : ∃ own heard, r.HasWeighed own heard
  filled : ∀ p, ¬r.bgp.combined.Emptied p
  main : r.main.DrawsFrom .main anyRoute
  follows : ∀ p, FollowsAt r.main r.bgp.combined.held p

/-- The best of all that was ever learned are the best of what is held of it. -/
theorem HasCommitted.combined_eq (committed : r.HasCommitted) : r.bgp.combined = r.recombinedBgp := by
  obtain ⟨own, heard, weighed⟩ := committed.weighed
  have anew := ((Rib.Weighs.empty .bgp).absorb weighed.external).absorb weighed.internal
  rw [Set.empty_union] at anew
  exact weighed.combined.eq_of_filled anew committed.filled
    (Rib.filled_mergeAll (Rib.filled_mergeAll (fun _ => Rib.not_emptied_empty) _) _)

/-- A commit makes the main table follow the BGP table, if it has followed it before. Where the BGP table
has nothing now it had nothing before, so no route is left behind there. -/
theorem follows_of_grown (draws : main.DrawsFrom .main anyRoute) (holds : combined.DrawsFrom .bgp pool)
    (follows : ∀ p, FollowsAt main earlier.held p)
    (grown : ∀ p, (∃ x, x ∈ earlier.held p) → ∃ x, x ∈ combined.held p) (p : Prefix) :
    FollowsAt (installAll main (bestRoutes main combined)).1 combined.held p := by
  have are : ∀ best ∈ bestRoutes main combined, AreHeld combined.held best :=
    fun _ => bestRoutes_areHeld holds
  by_cases some : ∃ x, x ∈ combined.held p
  · obtain ⟨routes, bound⟩ := Rib.exists_held_iff_bindings.1 some
    have listed : (⟨p, routes, routes.toList.filter (isInstallable main)⟩ : BestRoutes) ∈
        bestRoutes main combined := by
      unfold bestRoutes
      exact List.mem_map.2 ⟨_, bound, rfl⟩
    have followed := follows_installAll draws are listed
    exact followed
  · refine FollowsAt.installAll draws (fun x member bgp => ?_) are
    exact absurd (grown p ⟨x, follows p x member bgp⟩) some

theorem exists_held_absorb {other : Rib} (draws : combined.DrawsFrom .bgp pool)
    (others : other.DrawsFrom .bgp pool) (some : ∃ x, x ∈ combined.held p) :
    ∃ x, x ∈ (combined.absorb other).1.held p := by
  obtain ⟨x, held⟩ := some
  exact draws.exists_held_mergeAll (fun _ => others.mem) (.inl held)

/-- A commit of whatever the tables of the two sides have become. -/
theorem follows_commitBgp (tables : r.HoldsBgp bgpRoutes)
    (follows : ∀ p, FollowsAt r.main r.bgp.combined.held p) (p : Prefix) :
    FollowsAt r.commitBgp.1.main r.commitBgp.1.bgp.combined.held p := by
  have first := tables.combined.absorb tables.external
  exact follows_of_grown tables.main (first.absorb tables.internal) follows (fun p some =>
    exists_held_absorb first tables.internal (exists_held_absorb tables.combined tables.external some)) p

theorem filled_commitBgp (filled : ∀ p, ¬r.bgp.combined.Emptied p) :
    ∀ p, ¬r.commitBgp.1.bgp.combined.Emptied p :=
  Rib.filled_mergeAll (Rib.filled_mergeAll filled _) _

/-- The first commit of a phase finds no BGP routes in the main table. -/
theorem HasCommitted.originate (sound : e.IsSound announcements) (fresh : e.IsFresh)
    (plain : ∀ p, ∀ x ∈ e.main.held p, x.isBgpKind = false) (done : e.originateBgp = .ok r) :
    r.HasCommitted := by
  have weighed := HasWeighed.originate sound.bases fresh done
  have filled : ∀ p, ¬e.bgp.combined.Emptied p := by
    rw [fresh.combined]
    exact fun _ => Rib.not_emptied_empty
  have follows (p : Prefix) : FollowsAt e.main e.bgp.combined.held p := by
    intro x member bgp
    rw [plain p x member] at bgp
    cases bgp
  rcases originateBgp_effect done with ⟨rfl, -⟩ | ⟨l, originates, rfl⟩
  · exact ⟨⟨_, _, weighed⟩, filled, sound.tables.main, follows⟩
  · have tables := sound.bringIn originates
    exact ⟨⟨_, _, weighed⟩, filled_commitBgp (r := e.bringIn l) filled, tables.commit.main,
      follows_commitBgp tables follows⟩

theorem HasCommitted.step {g : Router × Bool} (committed : r.HasCommitted)
    (all : ∀ r ∈ routers, r.IsSound announcements) (sound : r.IsSound announcements)
    (gathered : r.gatherBgp f routers = .ok g) : g.1.commitStagedBgp.1.HasCommitted := by
  have tables := (sound.gathered all gathered).tables.takeStaged
  obtain ⟨arrived, rfl, external, internal⟩ := gatherBgp_ok gathered
  obtain ⟨own, heard, weighed⟩ := committed.weighed
  have weighed : (r.stageBgp arrived).1.commitStagedBgp.1.HasWeighed own
      fun external => heard external ∪ {x | r.Hears f routers external x} :=
    weighed.step external internal fun external x hears => hears.isBgpKind all
  exact ⟨⟨_, _, weighed⟩, filled_commitBgp (r := (r.stageBgp arrived).1.takeStaged) committed.filled,
    tables.commit.main, follows_commitBgp tables committed.follows⟩

end Bgp

section Ospf

def standardRoutes : Set Route :=
  {x | x.protocol.isOspf = true → x.distance = x.protocol.defaultDistance}

def internalOspf (r : Router) : Rib :=
  (((Rib.empty .ospf).absorb r.ospf.intra).1.absorb r.ospf.inter).1

def recombinedOspf (r : Router) : Rib :=
  ((r.internalOspf.absorb r.ospf.e1).1.absorb r.ospf.e2).1

def ospfTables (r : Router) : List Rib := [r.ospf.intra, r.ospf.inter, r.ospf.e1, r.ospf.e2]

/-- The OSPF routes among those that stay the same in all rounds are still the best ones inside OSPF. -/
def KeepsInternal (r : Router) : Prop :=
  r.independent.HoldsOnly {x | x.protocol.isOspf = true → x ∈ r.internalOspf.routes}

/-- All OSPF routes are in the tables that are made of the four tables of them. -/
structure HasOspf (r : Router) : Prop where
  combined : r.ospf.combined = r.recombinedOspf
  keeps : r.KeepsInternal

theorem distance_of_isOspf {protocol : Protocol} (ospf : protocol.isOspf = true) :
    protocol.defaultDistance = 110 := by
  cases protocol <;> first | rfl | cases ospf

theorem isBgpKind_of_isOspf (lawful : x ∈ lawfulRoutes) (ospf : x.protocol.isOspf = true) :
    x.isBgpKind = false := by
  have allowed : x.kind.allows x.protocol = true := lawful
  rw [Route.isBgpKind, Route.bgp?]
  cases kind : x.kind with
  | plain | ospf _ => rfl
  | bgp data =>
    rw [kind] at allowed
    cases same : x.protocol <;> rw [same] at allowed ospf <;>
      first | exact absurd ospf Bool.false_ne_true | exact absurd allowed Bool.false_ne_true

/-- The sort of a route tells of its protocol. -/
theorem protocol_of_sort {ofKind : RouteKind → Prop} {protocols : List Protocol} (P : Protocol → Prop)
    (member : x ∈ routesOf ofKind protocols) (all : ∀ q ∈ protocols, P q) : P x.protocol :=
  all _ member.2.1

theorem standard_of_protocols {ofKind : RouteKind → Prop} {protocols : List Protocol}
    (member : x ∈ routesOf ofKind protocols) (others : ∀ q ∈ protocols, q.isOspf = false) :
    x ∈ standardRoutes := by
  intro ospf
  rw [protocol_of_sort (·.isOspf = false) member others] at ospf
  cases ospf

/-- Whatever a router puts into its tables, the OSPF routes among it have the distance of OSPF. -/
theorem sources_standard (f : Fabric) (announcements : List Announcement) (routers : List Router)
    (r : Router) : r.Sources f announcements routers standardRoutes where
  connected := fun x member => standard_of_protocols (r.connectedRoutes_typed x member) (by decide)
  static := fun _ _ => nofun
  generated := fun _ => nofun
  base := by
    intro costs x member
    obtain ⟨-, _, _, _, _, _, -, -, -, rfl⟩ := mem_ospfBaseRoutes_iff.1 member
    exact fun _ => rfl
  learned := by
    rintro type x learns -
    rw [learns.distance, learns.protocol]
  announced := fun external x announced =>
    standard_of_protocols announced.typed (by cases external <;> decide)
  originated := fun x originates => standard_of_protocols originates.typed (by decide)
  heard := fun external x hears => standard_of_protocols hears.typed (by cases external <;> decide)

/-- At one distance the routes of the lower type are preferred, whatever the metrics. -/
theorem preference_of_precedence_lt (hx : x ∈ standardRoutes) (hy : y ∈ standardRoutes)
    (ospf : x.protocol.isOspf = true) (ospf' : y.protocol.isOspf = true)
    (lt : Ospf.precedence x.protocol < Ospf.precedence y.protocol) :
    RibKind.ospf.preference x y = .lt ∧ RibKind.ospf.preference y x = .gt := by
  have level : x.distance = y.distance := by
    rw [hx ospf, hy ospf', distance_of_isOspf ospf, distance_of_isOspf ospf']
  simp [RibKind.preference, RibKind.byOspf, compareLex, compareOn, level, Nat.compare_eq_lt.2 lt,
    Nat.compare_eq_gt.2 lt]

theorem internalOspf_weighs (r : Router) : r.internalOspf.Weighs .ospf
    ({x | x ∈ r.ospf.intra.routes} ∪ {x | x ∈ r.ospf.inter.routes}) :=
  (Rib.Weighs.of_empty (suits_of_ne (by decide) _)).mergeAll (suits_of_ne (by decide) _)

theorem recombinedOspf_weighs (r : Router) :
    r.recombinedOspf.Weighs .ospf {x | ∃ t ∈ r.ospfTables, x ∈ t.routes} := by
  have all : {x | ∃ t ∈ r.ospfTables, x ∈ t.routes} = {x | x ∈ r.ospf.intra.routes} ∪
      {x | x ∈ r.ospf.inter.routes} ∪ {x | x ∈ r.ospf.e1.routes} ∪ {x | x ∈ r.ospf.e2.routes} := by
    ext x
    simp [ospfTables, or_assoc]
  rw [all]
  exact (r.internalOspf_weighs.mergeAll (suits_of_ne (by decide) _)).mergeAll
    (suits_of_ne (by decide) _)

section Precedence

variable (typed : r.IsTyped) (standard : r.HoldsOnly standardRoutes)
include typed standard

theorem ospfTables_hold {t : Rib} (listed : t ∈ r.ospfTables) (held : x ∈ t.held p) :
    x.network = p ∧ x ∈ standardRoutes ∧ x.protocol.isOspf = true := by
  have sort {k : RibKind} {protocols : List Protocol} (draws : t.DrawsFrom k (ospfRoutes protocols))
      (holds : t.HoldsOnly standardRoutes) (all : ∀ q ∈ protocols, q.isOspf = true) :
      x.network = p ∧ x ∈ standardRoutes ∧ x.protocol.isOspf = true :=
    ⟨draws.network_eq held, holds.of_held held,
      protocol_of_sort (·.isOspf = true) (draws.mem_of_held held) all⟩
  simp only [ospfTables, List.mem_cons, List.not_mem_nil, or_false] at listed
  rcases listed with rfl | rfl | rfl | rfl
  · exact sort typed.intra standard.intra (by decide)
  · exact sort typed.inter standard.inter (by decide)
  · exact sort typed.e1 standard.e1 (by decide)
  · exact sort typed.e2 standard.e2 (by decide)

/-- No route of the four tables for the network is of a lower type. -/
theorem precedence_le (best : x ∈ r.recombinedOspf.held p) {t : Rib} (listed : t ∈ r.ospfTables)
    (held : y ∈ t.held p) : Ospf.precedence x.protocol ≤ Ospf.precedence y.protocol := by
  have top := r.recombinedOspf_weighs.mem_iff.1 best
  obtain ⟨u, source, routes⟩ := top.1.1
  obtain ⟨q, own⟩ := Rib.mem_routes_iff.1 routes
  obtain ⟨-, hx, ospf⟩ := ospfTables_hold typed standard source own
  obtain ⟨network, hy, ospf'⟩ := ospfTables_hold typed standard listed held
  by_contra greater
  refine top.2 y ⟨⟨t, listed, Rib.mem_routes_iff.2 ⟨p, held⟩⟩, RibKind.admits_of_ne (by decide),
    network⟩ ?_
  exact (preference_of_precedence_lt hy hx ospf' ospf (Nat.lt_of_not_le greater)).1

/-- External routes do not displace what is best inside OSPF. -/
theorem mem_recombinedOspf (internal : x ∈ r.internalOspf.held p) : x ∈ r.recombinedOspf.held p := by
  have top := r.internalOspf_weighs.mem_iff.1 internal
  have low : ∃ t ∈ r.ospfTables, x ∈ t.routes ∧ Ospf.precedence x.protocol ≤ 1 := by
    rcases top.1.1 with intra | inter
    · exact ⟨r.ospf.intra, by simp [ospfTables], intra,
        protocol_of_sort (Ospf.precedence · ≤ 1) (typed.intra.mem intra) (by decide)⟩
    · exact ⟨r.ospf.inter, by simp [ospfTables], inter,
        protocol_of_sort (Ospf.precedence · ≤ 1) (typed.inter.mem inter) (by decide)⟩
  obtain ⟨t, listed, member, low⟩ := low
  obtain ⟨q, own⟩ := Rib.mem_routes_iff.1 member
  obtain ⟨-, hx, ospf⟩ := ospfTables_hold typed standard listed own
  refine r.recombinedOspf_weighs.mem_iff.2 ⟨⟨⟨t, listed, member⟩, top.1.2⟩, ?_⟩
  rintro y ⟨⟨u, source, routes⟩, rest⟩
  have external (high : 2 ≤ Ospf.precedence y.protocol) : RibKind.ospf.preference y x ≠ .lt := by
    obtain ⟨q', own'⟩ := Rib.mem_routes_iff.1 routes
    obtain ⟨-, hy, ospf'⟩ := ospfTables_hold typed standard source own'
    rw [(preference_of_precedence_lt hx hy ospf ospf' (by omega)).2]
    decide
  -- with the routes inside OSPF it was compared before, and the others are of a higher type
  simp only [ospfTables, List.mem_cons, List.not_mem_nil, or_false] at source
  rcases source with rfl | rfl | rfl | rfl
  · exact top.2 y ⟨.inl routes, rest⟩
  · exact top.2 y ⟨.inr routes, rest⟩
  · exact external (protocol_of_sort (2 ≤ Ospf.precedence ·) (typed.e1.mem routes) (by decide))
  · exact external (protocol_of_sort (2 ≤ Ospf.precedence ·) (typed.e2.mem routes) (by decide))

/-- An OSPF route that the router has without BGP is among the best of all its OSPF routes. -/
theorem HasOspf.mem_combined (has : r.HasOspf) (member : x ∈ r.localRoutes)
    (ospf : x.protocol.isOspf = true) : x ∈ r.ospf.combined.held x.network := by
  rcases member with ((independent | static) | generated) | combined
  -- a route from before the round has been compared with external ones only in the OSPF table
  · obtain ⟨p, held⟩ := Rib.mem_routes_iff.1 (has.keeps x independent ospf)
    have place : x.network = p := (r.internalOspf_weighs.mem_iff.1 held).1.2.2
    rw [has.combined, place]
    exact mem_recombinedOspf typed standard held
  · have plain : x.protocol.isOspf = false :=
      protocol_of_sort (·.isOspf = false) (typed.static.mem static) (by decide)
    rw [plain] at ospf
    cases ospf
  · have plain : x.protocol.isOspf = false :=
      protocol_of_sort (·.isOspf = false) (typed.generated.mem generated) (by decide)
    rw [plain] at ospf
    cases ospf
  · obtain ⟨p, held⟩ := Rib.mem_routes_iff.1 combined
    rwa [typed.ospf.network_eq held]

end Precedence

structure LacksOspf (r : Router) : Prop where
  combined : r.ospf.combined = .empty .ospf
  independent : r.independent.HoldsOnly {x | x.protocol.isOspf = false}

theorem LacksOspf.prepare {c : Configuration} {vrf : String}
    (done : Schedule.prepare announcements { configuration := c, vrf := vrf } = .ok r) :
    r.LacksOspf := by
  let fresh : Router := { configuration := c, vrf := vrf }
  obtain ⟨costs, effect⟩ := fresh.initConnected.initStatic.initOspfCosts_effect
  rw [Schedule.prepare, effect] at done
  obtain ⟨external, internal, -, -, rfl⟩ := initBgp_effect done
  have connected : fresh.initConnected.connected.HoldsOnly {x | x.protocol.isOspf = false} :=
    (Rib.holdsOnly_empty _).mergeAll fun x member =>
      protocol_of_sort (·.isOspf = false) (fresh.connectedRoutes_typed x member) (by decide)
  have static : fresh.initStatic.interfaceStatic.HoldsOnly {x | x.protocol.isOspf = false} :=
    (Rib.holdsOnly_empty _).mergeAll fun x member =>
      protocol_of_sort (·.isOspf = false) (staticRoutes_typed _ x member) (by decide)
  exact ⟨rfl, ((Rib.holdsOnly_empty _).absorb connected).absorb static⟩

/-- The import adds nothing else to the routes that stay the same. -/
theorem LacksOspf.importOspfInternal (lacks : r.LacksOspf) :
    r.importOspfInternal.KeepsInternal := by
  have imported : ((r.ospf.combined.absorb r.ospf.intra).1.absorb r.ospf.inter).1 = r.internalOspf := by
    rw [lacks.combined]
    rfl
  have before : r.independent.HoldsOnly {x | x.protocol.isOspf = true → x ∈ r.internalOspf.routes} := by
    intro x member ospf
    have plain : x.protocol.isOspf = false := lacks.independent x member
    rw [plain] at ospf
    cases ospf
  refine before.absorb fun x member _ => ?_
  rwa [imported] at member

/-- In a round the four tables come together once those of external routes are full. -/
theorem HasOspf.importOspfExternal (internal : r.ospf.combined = r.internalOspf)
    (keeps : r.KeepsInternal) : r.importOspfExternal.HasOspf where
  combined := by
    show ((r.ospf.combined.absorb r.ospf.e1).1.absorb r.ospf.e2).1 = r.recombinedOspf
    rw [internal]
    rfl
  keeps := keeps

end Ospf

/-- The combined tables are what they would be if they were made anew of the tables as they are, and the
main table has only routes that are among the best ones of them: so no OSPF route in it stands before one
of a lower type. -/
structure Agrees (r : Router) : Prop where
  recombinedBgp : r.bgp.combined = r.recombinedBgp
  recombinedOspf : r.ospf.combined = r.recombinedOspf
  bgp : ∀ p, ∀ x ∈ r.main.held p, x.isBgpKind = true → x ∈ r.bgp.combined.held p
  ospf : ∀ p, ∀ x ∈ r.main.held p, x.protocol.isOspf = true → x ∈ r.ospf.combined.held p
  precedence : ∀ p, ∀ x ∈ r.main.held p, x.protocol.isOspf = true → ∀ t ∈ r.ospfTables, ∀ y ∈ t.held p,
    Ospf.precedence x.protocol ≤ Ospf.precedence y.protocol

/-- An OSPF route in a main table is none of BGP, so it is one of the local routes. -/
theorem HasCommitted.agrees (committed : r.HasCommitted) (has : r.HasOspf) (typed : r.IsTyped)
    (standard : r.HoldsOnly standardRoutes)
    (others : ∀ p, ∀ x ∈ r.main.held p, x.isBgpKind = false → x ∈ r.localRoutes) : r.Agrees := by
  have best (p : Prefix) (x : Route) (held : x ∈ r.main.held p) (ospf : x.protocol.isOspf = true) :
      x ∈ r.ospf.combined.held p := by
    have other := isBgpKind_of_isOspf (typed.main.mem_of_held held) ospf
    rw [← typed.main.network_eq held]
    exact has.mem_combined typed standard (others p x held other) ospf
  exact {
    recombinedBgp := committed.combined_eq
    recombinedOspf := has.combined
    bgp := committed.follows
    ospf := best
    precedence := fun p x held ospf t listed y held' =>
      precedence_le typed standard (has.combined ▸ best p x held ospf) listed held' }

end Router

end RoutePlane
