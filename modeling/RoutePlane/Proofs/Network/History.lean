import RoutePlane.Proofs.Network.Sessions

/-! The states that a network can get into. In a step every router does one of the operations of the
schedule, or nothing, on what the others held before the step. The states of every computation follow
each other like this, also if it fails in the end, and so do those of any other order of the
operations. What a BGP table holds has come in with an announcement, by the router itself or over a
session. -/
namespace RoutePlane

open Fallible

namespace Router

variable {f : Fabric} {announcements : List Announcement} {routers : List Router} {r r' : Router}
  {pool more : Set Route}

-- Tables are compared by what is merged into them, never by their entries.
attribute [local irreducible] Rib.mergeAll installAll bestRoutes

/-- An operation of the schedule on one router, while all routers are as listed. -/
inductive Moves (f : Fabric) (announcements : List Announcement) (routers : List Router) :
    Router → Router → Prop where
  | stay (r : Router) : Moves f announcements routers r r
  | prepare {r r' : Router} (done : Schedule.prepare announcements r = .ok r') :
      Moves f announcements routers r r'
  | gatherOspfInternal (r : Router) :
      Moves f announcements routers r (r.gatherOspfInternal f routers).1
  | commitOspfInternal (r : Router) : Moves f announcements routers r r.commitOspfInternal.1
  | importOspfInternal (r : Router) : Moves f announcements routers r r.importOspfInternal
  | startRound (r : Router) : Moves f announcements routers r r.startRound
  | activateStatic (r : Router) : Moves f announcements routers r r.activateStatic.1
  | activateGenerated (r : Router) : Moves f announcements routers r r.activateGenerated.1
  | initOspfExports {r r' : Router} (done : r.initOspfExports = .ok r') :
      Moves f announcements routers r r'
  | gatherOspfExternal (r : Router) :
      Moves f announcements routers r (r.gatherOspfExternal f routers).1
  | commitOspfExternal (r : Router) : Moves f announcements routers r r.commitOspfExternal.1
  | importOspfExternal (r : Router) : Moves f announcements routers r r.importOspfExternal
  | originateBgp {r r' : Router} (done : r.originateBgp = .ok r') :
      Moves f announcements routers r r'
  | gatherBgp {r : Router} {g : Router × Bool} (done : r.gatherBgp f routers = .ok g) :
      Moves f announcements routers r g.1
  | commitStagedBgp (r : Router) : Moves f announcements routers r r.commitStagedBgp.1
  | compileForwarding (owners : Owners) (r : Router) :
      Moves f announcements routers r (r.compileForwarding owners)

theorem Moves.device_eq (moves : Moves f announcements routers r r') : r'.device = r.device := by
  cases moves with
  | prepare done => exact device_prepare done
  | activateStatic =>
    obtain ⟨_, effect⟩ := r.activateStatic_effect
    rw [effect]
    rfl
  | activateGenerated =>
    obtain ⟨_, effect⟩ := r.activateGenerated_effect
    rw [effect]
    rfl
  | initOspfExports done =>
    obtain ⟨_, -, rfl⟩ := initOspfExports_effect done
    rfl
  | originateBgp done =>
    rcases originateBgp_effect done with ⟨rfl, -⟩ | ⟨_, -, rfl⟩ <;> rfl
  | gatherBgp done =>
    obtain ⟨_, rfl, -⟩ := gatherBgp_ok done
    rfl
  | _ => rfl

structure DrawsBgp (pool : Set Route) (r : Router) : Prop where
  baseExternal : r.bgp.baseExternal.DrawsFrom .bgp pool
  baseInternal : r.bgp.baseInternal.DrawsFrom .bgp pool
  tables : r.HoldsBgp pool

namespace DrawsBgp

variable (draws : r.DrawsBgp pool)

theorem fresh (suits : ∀ x ∈ pool, RibKind.bgp.Suits x) (c : Configuration) (vrf : String) :
    ({ configuration := c, vrf := vrf } : Router).DrawsBgp pool :=
  ⟨.empty suits, .empty suits, .empty suits, .empty suits, .empty suits, .empty suits, .empty suits,
    .empty fun _ _ never => by cases never⟩

include draws

theorem mono (subset : pool ⊆ more) (suits : ∀ x ∈ more, RibKind.bgp.Suits x) : r.DrawsBgp more := by
  have wider {t : Rib} (draws : t.DrawsFrom .bgp pool) : t.DrawsFrom .bgp more :=
    draws.restrict suits fun x member => subset (draws.mem member)
  obtain ⟨baseExternal, baseInternal, tables⟩ := draws
  exact ⟨wider baseExternal, wider baseInternal, wider tables.external, wider tables.internal,
    wider tables.combined, wider tables.stagedExternal, wider tables.stagedInternal, tables.main⟩

/-- What a prepared router has in BGP is announced to it. -/
theorem prepare (announced : ∀ external x, r.IsAnnounced announcements external x → x ∈ pool)
    (done : Schedule.prepare announcements r = .ok r') : r'.DrawsBgp pool := by
  obtain ⟨costs, effect⟩ := r.initConnected.initStatic.initOspfCosts_effect
  rw [Schedule.prepare, effect] at done
  obtain ⟨external, internal, first, second, rfl⟩ := initBgp_effect done
  have same : IsAnnounced announcements
      ({ r.initConnected.initStatic with ospf := { r.initConnected.initStatic.ospf with
        costs := costs } } : Router).initOspf = r.IsAnnounced announcements :=
    isAnnounced_congr rfl
  rw [same] at first second
  have main : r.initConnected.initStatic.main.DrawsFrom .main anyRoute :=
    (draws.tables.main.mergeAll fun _ _ => trivial).mergeAll fun _ _ => trivial
  exact {
    baseExternal := draws.baseExternal.mergeAll fun x member => announced true x ((first x).1 member)
    baseInternal := draws.baseInternal.mergeAll fun x member => announced false x ((second x).1 member)
    tables := { draws.tables with main := main } }

theorem startRound : r.startRound.DrawsBgp pool :=
  have suits := draws.baseExternal.suits
  { draws with
    tables := {
      external := draws.baseExternal
      internal := draws.baseInternal
      combined := .empty suits
      stagedExternal := .empty suits
      stagedInternal := .empty suits
      main := (Rib.DrawsFrom.empty fun _ _ never => by cases never).mergeAll fun _ _ => trivial } }

theorem originateBgp (originated : ∀ x, r.Originates x → x ∈ pool)
    (done : r.originateBgp = .ok r') : r'.DrawsBgp pool := by
  rcases originateBgp_effect done with ⟨rfl, -⟩ | ⟨l, originates, rfl⟩
  · exact draws
  · have merged := draws.tables.bringIn fun x (member : x ∈ l) => originated x ((originates x).1 member)
    exact ⟨draws.baseExternal, draws.baseInternal, merged.commit⟩

theorem gatherBgp {g : Router × Bool} (heard : ∀ external x, r.Hears f routers external x → x ∈ pool)
    (done : r.gatherBgp f routers = .ok g) : g.1.DrawsBgp pool := by
  obtain ⟨arrived, rfl, external, internal⟩ := gatherBgp_ok done
  have staged := draws.tables.stage (fun x member => heard true x ((external x).1 member))
    fun x member => heard false x ((internal x).1 member)
  exact ⟨draws.baseExternal, draws.baseInternal, staged⟩

/-- What gets into the BGP tables with a move is announced, brought up by the router, or heard. -/
theorem move (announced : ∀ external x, r.IsAnnounced announcements external x → x ∈ pool)
    (originated : ∀ x, r.Originates x → x ∈ pool)
    (heard : ∀ external x, r.Hears f routers external x → x ∈ pool)
    (moves : Moves f announcements routers r r') : r'.DrawsBgp pool := by
  have merged (l : List Route) : (r.main.mergeAll l).1.DrawsFrom .main anyRoute :=
    draws.tables.main.mergeAll fun _ _ => trivial
  cases moves with
  | prepare done => exact draws.prepare announced done
  | startRound => exact draws.startRound
  | activateStatic =>
    obtain ⟨_, effect⟩ := r.activateStatic_effect
    rw [effect]
    exact { draws with tables := { draws.tables with main := merged _ } }
  | activateGenerated =>
    obtain ⟨_, effect⟩ := r.activateGenerated_effect
    rw [effect]
    exact { draws with tables := { draws.tables with main := merged _ } }
  | initOspfExports done =>
    obtain ⟨_, -, rfl⟩ := initOspfExports_effect done
    exact { draws with tables := { draws.tables with } }
  | importOspfExternal => exact { draws with tables := { draws.tables with main := merged _ } }
  | originateBgp done => exact draws.originateBgp originated done
  | gatherBgp done => exact draws.gatherBgp heard done
  | commitStagedBgp => exact { draws with tables := draws.tables.commitStaged }
  | _ => exact { draws with tables := { draws.tables with } }

end DrawsBgp

end Router

namespace Network

open Schedule

variable {n : Network} {routers moved : List Router} {r : Router} {limit steps : Nat} {changed : Bool}
  {d : DataPlane}

/-- States that follow each other from the start, the latest first. -/
inductive History (n : Network) : List (List Router) → Prop where
  | start : History n [n.fabric.freshRouters]
  | move {routers moved : List Router} {earlier : List (List Router)}
      (history : History n (routers :: earlier))
      (moves : List.Forall₂ (Router.Moves n.fabric n.announcements routers) routers moved) :
      History n (moved :: routers :: earlier)

/-- The routers can get into this state. -/
def Reaches (n : Network) (routers : List Router) : Prop := ∃ earlier, n.History (routers :: earlier)

namespace Reaches

variable (reached : n.Reaches routers)
include reached

theorem move (moves : List.Forall₂ (Router.Moves n.fabric n.announcements routers) routers moved) :
    n.Reaches moved := by
  obtain ⟨earlier, history⟩ := reached
  exact ⟨routers :: earlier, history.move moves⟩

theorem mapM {operation : Router → Except NetworkError Router}
    (moves : ∀ r m, operation r = .ok m → Router.Moves n.fabric n.announcements routers r m)
    (done : routers.mapM operation = .ok moved) : n.Reaches moved :=
  reached.move ((mapM_eq_ok.1 done).imp fun r m => moves r m)

theorem map {operation : Router → Router}
    (moves : ∀ r, Router.Moves n.fabric n.announcements routers r (operation r)) :
    n.Reaches (routers.map operation) := by
  refine reached.move ?_
  rw [List.forall₂_map_right_iff, List.forall₂_same]
  exact fun r _ => moves r

theorem everyRouter {operation : Router → Except NetworkError (Router × Bool)}
    (moves : ∀ r m, operation r = .ok m → Router.Moves n.fabric n.announcements routers r m.1)
    (done : everyRouter operation routers = .ok (moved, changed)) : n.Reaches moved := by
  obtain ⟨outcomes, all, rfl, -⟩ := everyRouter_ok.1 done
  refine reached.move ?_
  rw [List.forall₂_map_right_iff]
  exact all.imp fun r m => moves r m

theorem exchange {gather : List Router → Router → Except NetworkError (Router × Bool)}
    {commit : Router → Router × Bool}
    (gathers : ∀ r m, gather routers r = .ok m →
      Router.Moves n.fabric n.announcements routers r m.1)
    (commits : ∀ gathered r, Router.Moves n.fabric n.announcements gathered r (commit r).1)
    (done : exchange gather commit routers = .ok (moved, changed)) : n.Reaches moved := by
  obtain ⟨⟨gathered, _⟩, first, rest⟩ := bind_eq_ok.1 done
  obtain ⟨⟨committed, _⟩, second, same⟩ := bind_eq_ok.1 rest
  cases same
  refine (reached.everyRouter gathers first).everyRouter (fun r m outcome => ?_) second
  cases outcome
  exact commits gathered r

theorem staticStep (done : staticStep routers = .ok (moved, changed)) : n.Reaches moved :=
  reached.everyRouter (fun r m outcome => by cases outcome; exact .activateStatic r) done

theorem generatedStep (done : generatedStep routers = .ok (moved, changed)) : n.Reaches moved := by
  refine reached.everyRouter (fun r m outcome => ?_) done
  obtain ⟨_, -, rfl⟩ := map_eq_ok.1 outcome
  exact .activateGenerated r

theorem ospfInternalStep (done : ospfInternalStep n.fabric routers = .ok (moved, changed)) :
    n.Reaches moved :=
  reached.exchange (fun r m outcome => by cases outcome; exact .gatherOspfInternal r)
    (fun _ r => .commitOspfInternal r) done

theorem ospfExternalStep (done : ospfExternalStep n.fabric routers = .ok (moved, changed)) :
    n.Reaches moved :=
  reached.exchange (fun r m outcome => by cases outcome; exact .gatherOspfExternal r)
    (fun _ r => .commitOspfExternal r) done

theorem bgpStep (done : bgpStep n.fabric routers = .ok (moved, changed)) : n.Reaches moved :=
  reached.exchange (fun _ _ => .gatherBgp) (fun _ r => .commitStagedBgp r) done

theorem beforeOspf (done : beforeOspf limit routers = .ok moved) : n.Reaches moved := by
  obtain ⟨statics, generated, _, _, first, second, third⟩ := beforeOspf_ok.1 done
  have started := reached.map fun r => .startRound r
  have afterStatic := repeatUntilStable_keeps (fun _ _ _ => Reaches.staticStep) started first
  have afterGenerated := repeatUntilStable_keeps (fun _ _ _ => Reaches.generatedStep) afterStatic
    second
  exact afterGenerated.mapM (fun _ _ => .initOspfExports) third

theorem beforeBgp (done : beforeBgp n.fabric limit routers = .ok moved) : n.Reaches moved := by
  obtain ⟨exported, converged, _, first, second, rfl⟩ := beforeBgp_ok.1 done
  have after := repeatUntilStable_keeps (fun _ _ _ => Reaches.ospfExternalStep)
    (reached.beforeOspf first) second
  exact after.map fun r => .importOspfExternal r

theorem round (done : round n.fabric limit routers = .ok (moved, steps)) : n.Reaches moved := by
  obtain ⟨before, first, rest⟩ := bind_eq_ok.1 done
  obtain ⟨originated, second, third⟩ := bind_eq_ok.1 rest
  have entered := (reached.beforeBgp first).mapM (fun _ _ => .originateBgp) second
  exact repeatUntilStable_keeps (fun _ _ _ => Reaches.bgpStep) entered third

end Reaches

theorem reaches_independent
    (done : independent n.fabric limit n.announcements = .ok (routers, steps)) :
    n.Reaches routers := by
  obtain ⟨prepared, converged, first, second, rfl⟩ := independent_ok.1 done
  have start : n.Reaches n.fabric.freshRouters := ⟨[], .start⟩
  have after := repeatUntilStable_keeps (fun _ _ _ => Reaches.ospfInternalStep)
    (start.mapM (fun _ _ => .prepare) first) second
  exact after.map fun r => .importOspfInternal r

/-- The result of a computation is one of the states, with the forwarding tables of its main tables. -/
theorem compiled_of_compute (done : n.compute = .ok d) : ∃ final, n.Reaches final ∧
    d.fabric = n.fabric ∧ d.routers = final.map (Router.compileForwarding n.fabric.owners) := by
  obtain ⟨⟨routers, _⟩, first, rest⟩ := bind_eq_ok.1 done
  obtain ⟨⟨final, _⟩, second, same⟩ := bind_eq_ok.1 rest
  cases same
  obtain ⟨before, _, reached, last, -⟩ := last_of_rounds (reaches_independent first)
    (fun _ _ _ => Reaches.round) second
  exact ⟨final, reached.round last, rfl, rfl⟩

theorem reaches_compute (done : n.compute = .ok d) : n.Reaches d.routers := by
  obtain ⟨final, reached, -, routers⟩ := compiled_of_compute done
  rw [routers]
  exact reached.map fun r => .compileForwarding _ r

theorem History.hasDevices {past : List (List Router)} (history : n.History past) :
    ∀ routers ∈ past, n.HasDevices routers := by
  induction history with
  | start =>
    intro routers member
    rw [List.mem_singleton.1 member]
    rfl
  | @move routers moved earlier history moves ih =>
    refine List.forall_mem_cons.2 ⟨?_, ih⟩
    have same : routers.map Router.device = moved.map Router.device :=
      map_eq_iff_forall₂.2 (moves.imp fun r m moves => moves.device_eq.symm)
    exact same.symm.trans (ih routers List.mem_cons_self)

/-- For each past and each device a pool of BGP routes, with all that can get into its tables. -/
structure Gathers (n : Network)
    (pool : List (List Router) → Configuration × String → Set Route) : Prop where
  suits : ∀ past device, ∀ x ∈ pool past device, x.isBgpKind = true
  grows : ∀ past moved device, pool past device ⊆ pool (moved :: past) device
  announced : ∀ past routers, n.HasDevices routers → ∀ r ∈ routers, ∀ external x,
    r.IsAnnounced n.announcements external x → x ∈ pool (routers :: past) r.device
  originated : ∀ past routers, n.HasDevices routers → ∀ r ∈ routers, ∀ x, r.Originates x →
    x ∈ pool (routers :: past) r.device
  heard : ∀ past routers, n.HasDevices routers →
    (∀ r ∈ routers, ∀ x ∈ r.bgp.combined.routes, x ∈ pool (routers :: past) r.device) →
    ∀ r ∈ routers, ∀ external x, r.Hears n.fabric routers external x →
      x ∈ pool (routers :: past) r.device

/-- Then the tables hold nothing else. -/
theorem History.draws {pool : List (List Router) → Configuration × String → Set Route}
    {earlier : List (List Router)} (gathers : n.Gathers pool)
    (history : n.History (routers :: earlier)) :
    ∀ r ∈ routers, r.DrawsBgp (pool (routers :: earlier) r.device) := by
  generalize same : routers :: earlier = past at history
  induction history generalizing routers earlier with
  | start =>
    cases same
    intro r member
    obtain ⟨c, -, source⟩ := List.mem_flatMap.1 member
    obtain ⟨vrf, -, rfl⟩ := List.mem_map.1 source
    exact .fresh (fun x member _ => gathers.suits _ _ x member) c vrf
  | @move routers moved earlier history moves ih =>
    cases same
    intro r' member
    have devices := history.hasDevices routers List.mem_cons_self
    have before := ih rfl
    obtain ⟨r, source, moves⟩ := source_of_mem moves member
    rw [moves.device_eq]
    refine ((before r source).move ?_ ?_ ?_ moves).mono (gathers.grows _ moved _) fun x member _ =>
      gathers.suits _ _ x member
    · exact gathers.announced earlier routers devices r source
    · exact gathers.originated earlier routers devices r source
    · exact gathers.heard earlier routers devices
        (fun r member x held => (before r member).tables.combined.mem held) r source

/-- No announcement comes from within the system of the process that it is made to. -/
def HearsOutside (n : Network) : Prop :=
  ∀ p ∈ n.processes, ∀ a ∈ n.announcements, a.node = p.1.1.hostname → a.vrf = p.1.2 →
    ∀ neighbor ∈ p.2.neighbor? a.peer, neighbor.remoteAs ≠ p.2.sessionAs neighbor

instance : Decidable n.HearsOutside :=
  inferInstanceAs (Decidable (∀ p ∈ n.processes, ∀ a ∈ n.announcements, a.node = p.1.1.hostname →
    a.vrf = p.1.2 → ∀ neighbor ∈ p.2.neighbor? a.peer, neighbor.remoteAs ≠ p.2.sessionAs neighbor))

theorem HearsOutside.external {external : Bool} {x : Route} (outside : n.HearsOutside)
    (devices : n.HasDevices routers) (member : r ∈ routers)
    (announced : r.IsAnnounced n.announcements external x) : external = true := by
  obtain ⟨process, own, a, listed, node, vrf, imported⟩ := announced
  obtain ⟨neighbor, -, found, type, -⟩ := Router.importAnnouncement_ok imported
  rw [type]
  exact bne_iff_ne.2 (outside _ (devices.runs member own) a listed node vrf neighbor found)

end Network

end RoutePlane
