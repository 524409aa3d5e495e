import RoutePlane.Proofs.Network.CombinedTables
import RoutePlane.Proofs.Router.OwnRoutes

/-! Own routes along a computation. In every state of every BGP phase the routes that a router brings into
BGP displace all that comes from inside its system, and give way to all that comes from other systems. -/
namespace RoutePlane

open Fallible

namespace Network

open Schedule

variable {n : Network} {d : DataPlane}

-- Tables are compared by what is merged into them, never by their entries.
attribute [local irreducible] Rib.mergeAll Router.installAll Router.bestRoutes

def SetsNoWeight (n : Network) : Prop := ∀ c ∈ n.configurations.values, Router.SetsNoWeight c

instance (n : Network) : Decidable n.SetsNoWeight :=
  inferInstanceAs (Decidable (∀ c ∈ n.configurations.values, Router.SetsNoWeight c))

namespace BgpCourse

variable (course : n.BgpCourse) {ρ : Nat → Router} {k : Nat}

def heardBefore (ρ : Nat → Router) (k : Nat) (external : Bool) : Set Route :=
  {x | ∃ j, 0 < j ∧ j < k ∧ (ρ 0).Hears n.fabric (stateOf course.histories j) external x}

/-- What announcements and sessions have offered a router for a network from other systems, before a
commit. -/
def rivalsBefore (ρ : Nat → Router) (k : Nat) (p : Prefix) : Set Route :=
  {z | z ∈ (ρ 0).rivals n.announcements (course.heardBefore ρ k) ∧ z.network = p}

theorem heardBefore_one : course.heardBefore ρ 1 = fun _ => ∅ := by
  funext external
  ext x
  simp only [heardBefore, Set.mem_ofPred_eq, Set.mem_empty_iff_false, iff_false]
  rintro ⟨j, later, lt, -⟩
  omega

theorem heardBefore_succ (some : 0 < k) : course.heardBefore ρ (k + 1) = fun external =>
    course.heardBefore ρ k external ∪
      {x | (ρ 0).Hears n.fabric (stateOf course.histories k) external x} := by
  funext external
  ext x
  constructor
  · rintro ⟨j, later, lt, hears⟩
    rcases Nat.lt_succ_iff_lt_or_eq.1 lt with before | rfl
    · exact .inl ⟨j, later, before, hears⟩
    · exact .inr hears
  · rintro (⟨j, later, lt, hears⟩ | hears)
    · exact ⟨j, later, by omega, hears⟩
    · exact ⟨k, some, by omega, hears⟩

/-- What is heard has the distance of its sessions, and no weight. -/
theorem heardBefore_stands (plain : Router.SetsNoWeight (ρ 0).configuration) (external : Bool) :
    ∀ y ∈ course.heardBefore ρ k external, y.Stands (Router.sessionDistance external) 0 := by
  rintro y ⟨j, -, -, hears⟩
  exact hears.stands plain

variable (member : ρ ∈ course.histories)
include member

theorem hasWeighed (some : 0 < k) (le : k ≤ course.commits) : (ρ k).device = (ρ 0).device ∧
    (ρ k).HasWeighed ((ρ 0).offers n.announcements) (course.heardBefore ρ k) := by
  induction k with
  | zero => exact absurd some (Nat.lt_irrefl 0)
  | succ k ih =>
    rcases Nat.eq_zero_or_pos k with rfl | later
    · have entry : ρ 0 ∈ stateOf course.histories 0 := List.mem_map_of_mem member
      have originated := course.originated_at member le
      have fresh := beforeBgp_fresh course.entered (ρ 0) entry
      have device : (ρ 1).fixed.device = (ρ 0).fixed.device :=
        congrArg (fun k => k.1.device) (outsideBgp_originateBgp originated)
      rw [course.heardBefore_one]
      exact ⟨device, .originate (course.sound (Nat.zero_le _) _ entry).bases fresh originated⟩
    · obtain ⟨same, weighed⟩ := ih later (by omega)
      obtain ⟨g, gathered, next⟩ := course.gathered_at member later le
      obtain ⟨arrived, rfl, external, internal⟩ := Router.gatherBgp_ok gathered
      rw [Router.hears_congr same] at external internal
      rw [next, course.heardBefore_succ later]
      have sound := course.sound (Nat.le_of_succ_le le)
      exact ⟨same, weighed.step external internal fun external x hears => hears.isBgpKind sound⟩

theorem setsNoWeight (plain : n.SetsNoWeight) : Router.SetsNoWeight (ρ 0).configuration := by
  obtain ⟨earlier, history⟩ := course.reaches (Nat.zero_le _)
  have devices := history.hasDevices _ List.mem_cons_self
  exact plain _ (devices.listed (List.mem_map_of_mem member))

end BgpCourse

/-- What a router holds for a network of one of its own routes, by what it is offered from other systems:
its own routes as long as that is nothing, and from then on nothing but what it was offered. -/
structure BgpCourse.Settles (course : n.BgpCourse) (ρ : Nat → Router) (k : Nat) (p : Prefix) : Prop where
  some : ∃ y, y ∈ (ρ k).bgp.combined.held p
  own : course.rivalsBefore ρ k p = ∅ →
    ∀ y ∈ (ρ k).bgp.combined.held p, (ρ 0).Originates y ∧ y.isLocal = true
  foreign : (course.rivalsBefore ρ k p).Nonempty →
    ∀ y ∈ (ρ k).bgp.combined.held p, y ∈ course.rivalsBefore ρ k p ∧ ¬(ρ 0).Originates y
  /-- Rivals have peers, which have addresses. -/
  own_iff : (∀ z ∈ course.rivalsBefore ρ k p, z.isLocal = false) →
    ((∀ y ∈ (ρ k).bgp.combined.held p, y.isLocal = true) ↔ course.rivalsBefore ρ k p = ∅)

theorem BgpCourse.settles (plain : n.SetsNoWeight) (course : n.BgpCourse) {ρ : Nat → Router} {k : Nat}
    (member : ρ ∈ course.histories) (some : 0 < k) (le : k ≤ course.commits) {x : Route}
    (originates : (ρ 0).Originates x) : course.Settles ρ k x.network := by
  obtain ⟨-, weighed⟩ := course.hasWeighed member some le
  have unweighted := course.setsNoWeight member plain
  have stand (external : Bool) := course.heardBefore_stands (k := k) unweighted external
  have held : ∃ y, y ∈ (ρ k).bgp.combined.held x.network :=
    weighed.combined.exists_held
      ⟨.inl (.inl (.inr ⟨rfl, originates⟩)), RibKind.admits_of_ne (by decide), rfl⟩
  have own (none : course.rivalsBefore ρ k x.network = ∅) :
      ∀ y ∈ (ρ k).bgp.combined.held x.network, (ρ 0).Originates y ∧ y.isLocal = true := by
    intro y held
    have originated := weighed.own_of_no_rival unweighted stand originates rfl
      (fun z rival here => Set.notMem_empty z (none ▸ ⟨rival, here⟩)) held
    exact ⟨originated, Router.isLocal_of_own originated.own⟩
  have foreign (rivals : (course.rivalsBefore ρ k x.network).Nonempty) :
      ∀ y ∈ (ρ k).bgp.combined.held x.network,
        y ∈ course.rivalsBefore ρ k x.network ∧ ¬(ρ 0).Originates y := by
    obtain ⟨z, rival, here⟩ := rivals
    intro y held
    obtain ⟨rival, strange⟩ := weighed.rival_of_rival unweighted stand rival here held
    exact ⟨⟨rival, (weighed.combined.mem_iff.1 held).1.2.2⟩, strange⟩
  refine ⟨held, own, foreign, fun addressed => ⟨fun all => ?_, fun none y held => (own none y held).2⟩⟩
  by_contra rivals
  obtain ⟨y, held⟩ := held
  obtain ⟨rival, -⟩ := foreign (Set.nonempty_iff_ne_empty.2 rivals) y held
  have both := (all y held).symm.trans (addressed y rival)
  cases both

/-- Where no policy writes a weight, a router that brings routes for a network into BGP holds its own
routes exactly as long as no other system has offered it one: after every commit of every BGP phase, while
the next routes are gathered, and so in the result. -/
theorem own_routes_kept_iff (n : Network) (plain : n.SetsNoWeight) :
    (∀ course : n.BgpCourse, ∀ ρ ∈ course.histories, ∀ k, 0 < k → k ≤ course.commits →
      ∀ x, (ρ 0).Originates x → course.Settles ρ k x.network ∧
        ∀ g, (ρ k).gatherBgp n.fabric (stateOf course.histories k) = .ok g →
          g.1.bgp.combined = (ρ k).bgp.combined) ∧
    ∀ d, n.compute = .ok d → ∃ course : n.BgpCourse, 0 < course.commits ∧ d.routers =
      (stateOf course.histories course.commits).map (Router.compileForwarding n.fabric.owners) := by
  constructor
  · intro course ρ member k some le x originates
    refine ⟨course.settles plain member some le originates, fun g gathered => ?_⟩
    obtain ⟨arrived, rfl, -⟩ := Router.gatherBgp_ok gathered
    rfl
  · intro d done
    obtain ⟨last⟩ := exists_lastRound done
    obtain ⟨course, commits, final⟩ := last.exists_course
    exact ⟨course, Nat.zero_lt_of_lt commits, last.result.trans (congrArg _ final.symm)⟩

theorem exists_firstCourse {limit steps : Nat} {start entry routers : List Router}
    (first : independent n.fabric limit n.announcements = .ok (start, steps))
    (entered : beforeBgp n.fabric limit start = .ok entry)
    (originated : entry.mapM Router.originateBgp = .ok routers) :
    ∃ course : n.BgpCourse, course.commits = 1 ∧ stateOf course.histories 0 = entry ∧
      stateOf course.histories 1 = routers := by
  have length : routers.length = entry.length := (mapM_eq_ok.1 originated).length_eq.symm
  obtain ⟨histories, state_eq⟩ := @exists_histories (fun k => if k = 0 then entry else routers) 1 (by
    intro k le
    split
    · rfl
    · exact length)
  have before : stateOf histories 0 = entry := state_eq 0 (by omega)
  have after : stateOf histories 1 = routers := state_eq 1 le_rfl
  refine ⟨{
    start := start
    reached := .first first
    limit := limit
    commits := 1
    histories := histories
    entered := by rw [before, entered]
    originated := fun _ => by rw [before, after, originated]
    step := fun k later lt => by omega }, rfl, before, after⟩

/-- A router with two networks of its own. A peer inside its system announces the first one, with a high
preference, and a peer outside of it the second one. -/
def homestead : Network :=
  let first := InterfaceAddress.ofOctets 8 8 8 8 32
  let second := InterfaceAddress.ofOctets 9 9 9 9 32
  let home := (speaker "home" (.ofOctets 1 1 1 1) 65001 (.ofList [first.network, second.network]) [
      { peer := .ofOctets 10 0 1 2, remoteAs := 65001 },
      { peer := .ofOctets 192 0 2 2, remoteAs := 65100 }])
    |>.withInterface "eth0" (.ofAddress (.ofOctets 10 0 1 1 30))
    |>.withInterface "eth1" (.ofAddress (.ofOctets 192 0 2 1 30))
    |>.withInterface "lo0" (.ofLoopback first)
    |>.withInterface "lo1" (.ofLoopback second)
  (ofConfigurations [home])
    |>.addAnnouncement {
      node := "home", peer := .ofOctets 10 0 1 2, network := first.network
      localPreference := some 300 }
    |>.addAnnouncement {
      node := "home", peer := .ofOctets 192 0 2 2, network := second.network, asPath := [65100] }

def firstCommit (n : Network) : Except NetworkError (List Router × List Router) := do
  let (start, _) ← independent n.fabric n.settings.maxInner n.announcements
  let entry ← beforeBgp n.fabric n.settings.maxInner start
  let routers ← entry.mapM Router.originateBgp
  pure (entry, routers)

/-- A route that the first router brings into BGP, and the routes that the second one holds for its
network. -/
def bringsSome (entry committed : Router) (test : Route → RouteSet → Bool) : Bool :=
  entry.bgpProcess?.any fun process => (entry.originated process).toOption.any fun routes =>
    routes.any fun x => test x (committed.bgp.combined.held x.network)

theorem exists_of_bringsSome {entry committed : Router} {test : Route → RouteSet → Bool}
    (some : bringsSome entry committed test = true) : ∃ x, entry.Originates x ∧
      test x (committed.bgp.combined.held x.network) = true := by
  obtain ⟨process, own, some⟩ := (Option.any_eq_true _ _).1 some
  obtain ⟨routes, originated, some⟩ := of_any some
  obtain ⟨x, member, passes⟩ := List.any_eq_true.1 some
  exact ⟨x, ⟨process, routes, own, originated, member⟩, passes⟩

/-- The router keeps its route for the one network, and gives up the one for the other. -/
theorem homestead_commits : ∃ course : homestead.BgpCourse, ∃ ρ ∈ course.histories, course.commits = 1 ∧
    (∃ x, (ρ 0).Originates x ∧ x ∈ (ρ 1).bgp.combined.held x.network) ∧
    ∃ x, (ρ 0).Originates x ∧ ∃ y ∈ (ρ 1).bgp.combined.held x.network, y.isLocal = false := by
  obtain ⟨⟨entry, routers⟩, done, passes⟩ := of_any (x := homestead.firstCommit)
    (p := fun c => (c.1.zip c.2).any fun (e, r) => bringsSome e r (fun x held => held.contains x) &&
      bringsSome e r fun _ held => held.toList.any fun y => !y.isLocal) (by decide +kernel)
  obtain ⟨⟨start, steps⟩, first, rest⟩ := bind_eq_ok.1 done
  obtain ⟨e, entered, rest⟩ := bind_eq_ok.1 rest
  obtain ⟨r, originated, same⟩ := bind_eq_ok.1 rest
  cases same
  obtain ⟨course, commits, rfl, rfl⟩ := exists_firstCourse first entered originated
  obtain ⟨⟨e, r⟩, member, passes⟩ := List.any_eq_true.1 passes
  rw [stateOf, stateOf, List.zip_map', List.mem_map] at member
  obtain ⟨ρ, listed, same⟩ := member
  cases same
  obtain ⟨keeps, gives⟩ := Bool.and_eq_true_iff.1 passes
  obtain ⟨x, originates, held⟩ := exists_of_bringsSome keeps
  obtain ⟨z, brought, held'⟩ := exists_of_bringsSome gives
  obtain ⟨y, foreign, strange⟩ := List.any_eq_true.1 held'
  refine ⟨course, ρ, listed, commits, ⟨x, originates, ?_⟩, z, brought, y, ?_, ?_⟩
  · exact SortedSet.contains_iff.1 held
  · exact foreign
  · simpa using strange

/-- A route from another system displaces the own one. -/
theorem own_route_gives_way : ¬∀ n : Network, n.SetsNoWeight → ∀ course : n.BgpCourse,
    ∀ ρ ∈ course.histories, ∀ k, 0 < k → k ≤ course.commits → ∀ x, (ρ 0).Originates x →
      ∀ y ∈ (ρ k).bgp.combined.held x.network, y.isLocal = true := by
  intro kept
  obtain ⟨course, ρ, member, commits, -, x, originates, y, held, foreign⟩ := homestead_commits
  have own := kept homestead (by decide +kernel) course ρ member 1 Nat.one_pos commits.ge x originates y
    held
  cases foreign.symm.trans own

/-- No other system offers the one network, and one offers the other. -/
theorem homestead_keeps_one : homestead.SetsNoWeight ∧ ∃ course : homestead.BgpCourse,
    ∃ ρ ∈ course.histories, 0 < 1 ∧ 1 ≤ course.commits ∧
      (∃ x, (ρ 0).Originates x ∧ course.Settles ρ 1 x.network ∧
        course.rivalsBefore ρ 1 x.network = ∅) ∧
      ∃ x, (ρ 0).Originates x ∧ course.Settles ρ 1 x.network ∧
        (course.rivalsBefore ρ 1 x.network).Nonempty := by
  have plain : homestead.SetsNoWeight := by decide +kernel
  obtain ⟨course, ρ, member, commits, ⟨x, originates, kept⟩, z, brought, y, held, foreign⟩ :=
    homestead_commits
  have le : 1 ≤ course.commits := commits.ge
  have settles := fun x originates =>
    ((own_routes_kept_iff homestead plain).1 course ρ member 1 Nat.one_pos le x originates).1
  refine ⟨plain, course, ρ, member, Nat.one_pos, le, ⟨x, originates, settles x originates, ?_⟩,
    z, brought, settles z brought, ?_⟩
  · by_contra rivals
    exact ((settles x originates).foreign (Set.nonempty_iff_ne_empty.2 rivals) x kept).2 originates
  · by_contra none
    have own := ((settles z brought).own (Set.not_nonempty_iff_eq_empty.1 none) y held).2
    cases foreign.symm.trans own

end Network

end RoutePlane
