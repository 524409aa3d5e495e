import RoutePlane.Proofs.Router.BgpSettling
import RoutePlane.Proofs.Router.Effects
import RoutePlane.Proofs.Router.OspfSettling

/-! What the routers hold when a loop is entered. Only the tables of announcements from outside come
from an earlier round; all others start from what the round has put in them. -/
namespace RoutePlane

open Fallible

abbrev bgpRoutes : Set Route := {x | x.isBgpKind = true}

theorem bgpRoutes_suits : ∀ x ∈ bgpRoutes, RibKind.bgp.Suits x := fun _ bgp _ => bgp

namespace Router

variable {r r' : Router} {f : Fabric} {routers : List Router} {announcements : List Announcement}

-- Tables are compared by what is merged into them, never by their entries.
attribute [local irreducible] Rib.mergeAll installAll bestRoutes

structure HasBases (announcements : List Announcement) (r : Router) : Prop where
  external : r.bgp.baseExternal.Weighs .bgp {x | r.IsAnnounced announcements true x}
  internal : r.bgp.baseInternal.Weighs .bgp {x | r.IsAnnounced announcements false x}

structure IsSound (announcements : List Announcement) (r : Router) : Prop where
  bases : r.HasBases announcements
  tables : r.HoldsBgp bgpRoutes

/-- Nothing from outside OSPF has been gathered yet. -/
structure IsBeforeOspf (announcements : List Announcement) (r : Router) : Prop where
  sound : r.IsSound announcements
  e1 : r.ospf.e1 = .empty .ospfE1
  e2 : r.ospf.e2 = .empty .ospfE2
  staging : r.staging = {}

theorem HasBases.congr (bases : r.HasBases announcements) (device : r'.device = r.device)
    (external : r'.bgp.baseExternal = r.bgp.baseExternal)
    (internal : r'.bgp.baseInternal = r.bgp.baseInternal) : r'.HasBases announcements := by
  have same := @isAnnounced_congr _ _ announcements device
  exact ⟨by rw [external, same]; exact bases.external, by rw [internal, same]; exact bases.internal⟩

theorem HasBases.initBgp (external : r.bgp.baseExternal = .empty .bgp)
    (internal : r.bgp.baseInternal = .empty .bgp) (done : r.initBgp announcements = .ok r') :
    r'.HasBases announcements := by
  obtain ⟨l, m, first, second, effect⟩ := initBgp_effect done
  have same : r'.IsAnnounced announcements = r.IsAnnounced announcements := by
    rw [effect]
    exact isAnnounced_congr rfl
  have merged {l : List Route} {external : Bool}
      (announced : ∀ x, x ∈ l ↔ r.IsAnnounced announcements external x) :
      ((Rib.empty .bgp).mergeAll l).1.Weighs .bgp {x | r'.IsAnnounced announcements external x} := by
    have all : {x | x ∈ l} = {x | r'.IsAnnounced announcements external x} := by
      rw [same]
      exact Set.ext announced
    rw [← all]
    exact .of_empty fun x member => bgpRoutes_suits x ((announced x).1 member).isBgpKind
  refine ⟨?_, ?_⟩
  · have base : r'.bgp.baseExternal = ((Rib.empty .bgp).mergeAll l).1 := by rw [effect, ← external]
    rw [base]
    exact merged first
  · have base : r'.bgp.baseInternal = ((Rib.empty .bgp).mergeAll m).1 := by rw [effect, ← internal]
    rw [base]
    exact merged second

theorem HasBases.commitStaged (bases : r.HasBases announcements) :
    r.commitStagedBgp.1.HasBases announcements := by
  obtain ⟨external, internal, combined, main, effect⟩ := r.commitStagedBgp_effect
  rw [effect]
  exact bases.congr rfl rfl rfl

theorem HasBases.startRound (bases : r.HasBases announcements) :
    r.startRound.IsBeforeOspf announcements where
  sound := {
    bases := bases.congr rfl rfl rfl
    tables := {
      external := bases.external.drawsFrom bgpRoutes_suits fun _ => IsAnnounced.isBgpKind
      internal := bases.internal.drawsFrom bgpRoutes_suits fun _ => IsAnnounced.isBgpKind
      combined := .empty bgpRoutes_suits
      stagedExternal := .empty bgpRoutes_suits
      stagedInternal := .empty bgpRoutes_suits
      main := (Rib.DrawsFrom.empty fun _ _ never => by cases never).mergeAll fun _ _ => trivial } }
  e1 := rfl
  e2 := rfl
  staging := rfl

theorem IsBeforeOspf.merged (before : r.IsBeforeOspf announcements) (static generated : Rib)
    (l : List Route) : { r with
      static := static
      generated := generated
      main := (r.main.mergeAll l).1 : Router }.IsBeforeOspf announcements := by
  have main := before.sound.tables.main.mergeAll (l := l) fun _ _ => trivial
  exact { before with sound := ⟨before.sound.bases.congr rfl rfl rfl,
    { before.sound.tables with main := main }⟩ }

theorem IsBeforeOspf.activateStatic (before : r.IsBeforeOspf announcements) :
    r.activateStatic.1.IsBeforeOspf announcements := by
  obtain ⟨ready, effect⟩ := activateStatic_effect r
  rw [effect]
  exact before.merged _ r.generated _

theorem IsBeforeOspf.activateGenerated (before : r.IsBeforeOspf announcements) :
    r.activateGenerated.1.IsBeforeOspf announcements := by
  obtain ⟨ready, effect⟩ := activateGenerated_effect r
  rw [effect]
  exact before.merged r.static _ _

theorem IsBeforeOspf.initOspfExports (before : r.IsBeforeOspf announcements)
    (done : r.initOspfExports = .ok r') : r'.IsBeforeOspf announcements := by
  obtain ⟨l, -, rfl⟩ := initOspfExports_effect done
  exact { before with sound := ⟨before.sound.bases.congr rfl rfl rfl,
    { before.sound.tables with }⟩ }

theorem IsSound.ospfExternal (sound : r.IsSound announcements) :
    (r.gatherOspfExternal f routers).1.commitOspfExternal.1.IsSound announcements :=
  ⟨sound.bases.congr rfl rfl rfl, { sound.tables with }⟩

theorem IsSound.importOspfExternal (sound : r.IsSound announcements) :
    r.importOspfExternal.IsSound announcements :=
  ⟨sound.bases.congr rfl rfl rfl,
    { sound.tables with main := sound.tables.main.mergeAll fun _ _ => trivial }⟩

theorem IsSound.bringIn (sound : r.IsSound announcements) {l : List Route}
    (originates : ∀ x, x ∈ l ↔ r.Originates x) : (r.bringIn l).HoldsBgp bgpRoutes :=
  sound.tables.bringIn fun x member => isBgpKind_of_own ((originates x).1 member).own

theorem IsSound.originateBgp (sound : r.IsSound announcements) (done : r.originateBgp = .ok r') :
    r'.IsSound announcements := by
  rcases originateBgp_effect done with ⟨rfl, -⟩ | ⟨l, originates, rfl⟩
  · exact sound
  · exact ⟨sound.bases.congr rfl rfl rfl, (sound.bringIn originates).commit⟩

theorem Hears.isBgpKind {external : Bool} {x : Route} (all : ∀ r ∈ routers, r.IsSound announcements)
    (hears : r.Hears f routers external x) : x.isBgpKind = true := by
  obtain ⟨process, -, s, -, -, conveys⟩ := hears
  have pool : x ∈ bgpPool Set.univ := conveys.mem_bgpPool (fun _ _ _ _ => trivial)
    (fun _ _ => trivial) fun r member x found =>
      ⟨(all r member).tables.combined.mem found, fun _ _ => trivial⟩
  exact pool.1

theorem IsSound.gathered {g : Router × Bool} (all : ∀ r ∈ routers, r.IsSound announcements)
    (sound : r.IsSound announcements) (gathered : r.gatherBgp f routers = .ok g) :
    g.1.IsSound announcements := by
  obtain ⟨arrived, rfl, external, internal⟩ := gatherBgp_ok gathered
  exact ⟨sound.bases.congr rfl rfl rfl,
    sound.tables.stage (fun x member => ((external x).1 member).isBgpKind all)
      fun x member => ((internal x).1 member).isBgpKind all⟩

theorem IsSound.bgp {g : Router × Bool} (all : ∀ r ∈ routers, r.IsSound announcements)
    (sound : r.IsSound announcements) (gathered : r.gatherBgp f routers = .ok g) :
    g.1.commitStagedBgp.1.IsSound announcements :=
  have staged := sound.gathered all gathered
  ⟨staged.bases.commitStaged, staged.tables.commitStaged⟩

theorem initOspfCosts_effect (r : Router) :
    ∃ costs, r.initOspfCosts = { r with ospf := { r.ospf with costs := costs } } := by
  rw [initOspfCosts]
  split
  · exact ⟨r.ospf.costs, rfl⟩
  · exact ⟨_, rfl⟩

theorem ospfBaseRoutes_pathless {known : Set String} (names : ∀ s ∈ r.ownNames, s ∈ known) :
    ∀ x ∈ r.ospfBaseRoutes, x ∈ pathless known := by
  intro x member
  obtain ⟨-, name, i, o, network, cost, running, -, -, rfl⟩ := mem_ospfBaseRoutes_iff.1 member
  obtain ⟨listed, -⟩ := mem_ospfInterfaces_iff.1 running
  exact pathless_of_names (names _ (List.mem_cons_of_mem _ (List.mem_map.2 ⟨_, listed, rfl⟩))) rfl
    rfl (names _ List.mem_cons_self)

theorem prepare_ok {c : Configuration} {vrf : String}
    (prepared : Schedule.prepare announcements { configuration := c, vrf := vrf } = .ok r) :
    r.HasBases announcements ∧
      ∀ known : Set String, (∀ s ∈ r.ownNames, s ∈ known) → r.KnowsInternal known := by
  obtain ⟨costs, effect⟩ := initOspfCosts_effect
    ({ configuration := c, vrf := vrf } : Router).initConnected.initStatic
  rw [Schedule.prepare, effect] at prepared
  refine ⟨HasBases.initBgp rfl rfl prepared, fun known names => ?_⟩
  obtain ⟨external, internal, -, -, rfl⟩ := initBgp_effect prepared
  refine ⟨names, ?_, ?_, ?_, ?_⟩
  · exact (Rib.DrawsFrom.empty fun _ _ never => by cases never).mergeAll
      (ospfBaseRoutes_pathless names)
  all_goals exact .empty fun _ _ never => by cases never

end Router

end RoutePlane
