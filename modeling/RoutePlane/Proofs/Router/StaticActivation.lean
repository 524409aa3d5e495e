import RoutePlane.Proofs.Rib.Emptied
import RoutePlane.Router.Local

/-! Static routes to addresses. A network stays held when better routes for it displace others, so what
a static route rests on is never lost within an activation. The routes that are activated in the end are
therefore those that rest on the main table, directly or through one another, in whatever order they
come. -/
namespace RoutePlane

namespace Rib

variable {t : Rib} {k : RibKind} {pool : Set Route} {l : List Route} {p : Prefix}

theorem exists_held_iff_of_filled (filled : ∀ p, ¬t.Emptied p) :
    (∃ x, x ∈ t.held p) ↔ (t.entries.get? p).isSome = true := by
  constructor
  · rintro ⟨x, member⟩
    rw [held] at member
    cases found : t.entries.get? p with
    | none => simp [found] at member
    | some routes => rfl
  · intro entry
    by_contra none
    exact filled p (emptied_iff.2 ⟨entry, not_exists.1 none⟩)

theorem DrawsFrom.mergeAll_again (draws : t.DrawsFrom k pool) (drawn : ∀ x ∈ l, x ∈ pool) :
    (t.mergeAll l).1.mergeAll l = ((t.mergeAll l).1, false) := by
  have twice : t.mergeAll (l ++ l) = t.mergeAll l :=
    draws.mergeAll_congr (by simpa using drawn) (by simp)
  rw [mergeAll_append] at twice
  have same : ((t.mergeAll l).1.mergeAll l).1 = (t.mergeAll l).1 := (Prod.ext_iff.1 twice).1
  refine Prod.ext same ?_
  rw [Bool.eq_false_iff, Ne, (draws.mergeAll drawn).mergeAll_flag_iff drawn, not_not, same]

end Rib

namespace Router

variable {r : Router} {main : Rib} {statics more waiting ready l m : List StaticRoute}
  {s : StaticRoute} {p : Prefix} {rounds : Nat}

/-- The least set of static routes with an address as their next hop that has each of them whose next
hop lies in another network than its own, one that the table holds or that of a member. -/
inductive Supported (main : Rib) (statics : List StaticRoute) : StaticRoute → Prop where
  | held {s : StaticRoute} {a : Address} {p : Prefix} (listed : s ∈ statics)
      (hop : s.nextHop = .address a) (other : p ≠ s.network)
      (covers : p.contains (.host a) = true) (holds : ∃ x, x ∈ main.held p) :
      Supported main statics s
  | through {s t : StaticRoute} {a : Address} (listed : s ∈ statics)
      (hop : s.nextHop = .address a) (member : Supported main statics t)
      (other : t.network ≠ s.network) (covers : t.network.contains (.host a) = true) :
      Supported main statics s

namespace Supported

theorem listed (supported : Supported main statics s) : s ∈ statics := by
  cases supported with
  | held listed => exact listed
  | through listed => exact listed

theorem mono (among : ∀ s ∈ statics, ∀ a, s.nextHop = .address a → s ∈ more)
    (supported : Supported main statics s) : Supported main more s := by
  induction supported with
  | held listed hop other covers holds => exact .held (among _ listed _ hop) hop other covers holds
  | through listed hop _ other covers ih => exact .through (among _ listed _ hop) hop ih other covers

end Supported

theorem supported_dependentStatic :
    Supported main r.dependentStatic s ↔ Supported main r.staticRoutes s := by
  constructor
  · exact Supported.mono fun s listed _ _ => (List.mem_filter.1 listed).1
  · exact Supported.mono fun s listed a hop => List.mem_filter.2 ⟨listed, by simp [hop]⟩

/-- Without emptied entries the look-up of a next hop succeeds if any other network around it is
held. -/
theorem isResolvable_iff (filled : ∀ p, ¬main.Emptied p) {own : Prefix} {hop : NextHop} :
    isResolvable main own hop = true ↔
      ∃ a p, hop = .address a ∧ p ≠ own ∧ p.contains (.host a) = true ∧ ∃ x, x ∈ main.held p := by
  cases hop with
  | address a =>
    rw [isResolvable, Rib.isSome_longestMatchExcluding? filled]
    simp
  | _ => simp [isResolvable]

section Installation

/-- The networks that are held after static routes were installed: what was held stays held, although
the routes may have changed. -/
theorem exists_held_install (filled : ∀ p, ¬main.Emptied p) :
    (∃ x, x ∈ (main.mergeAll (ready.map staticRoute)).1.held p) ↔
      (∃ x, x ∈ main.held p) ∨ ∃ s ∈ ready, s.network = p := by
  have filled' (p : Prefix) : ¬(main.mergeAll (ready.map staticRoute)).1.Emptied p :=
    fun emptied => filled p emptied.of_mergeAll
  rw [Rib.exists_held_iff_of_filled filled', Rib.exists_held_iff_of_filled filled,
    Rib.isSome_get?_mergeAll]
  simp [RibKind.Admits, staticRoute]

theorem installStatic_append :
    r.installStatic (l ++ m) =
      (((r.installStatic l).1.installStatic m).1,
        (r.installStatic l).2 || ((r.installStatic l).1.installStatic m).2) := by
  simp only [installStatic, List.map_append, Rib.mergeAll_append]

variable (static_draws : r.static.DrawsFrom .static anyRoute)
  (main_draws : r.main.DrawsFrom .main anyRoute)
include static_draws main_draws

/-- What is installed is a matter of the members of the list. -/
theorem installStatic_congr (same : ∀ s, s ∈ l ↔ s ∈ m) : r.installStatic l = r.installStatic m := by
  have routes (x : Route) : x ∈ l.map staticRoute ↔ x ∈ m.map staticRoute := by
    simp only [List.mem_map, same]
  simp only [installStatic, static_draws.mergeAll_congr (fun _ _ => trivial) routes,
    main_draws.mergeAll_congr (fun _ _ => trivial) routes]

theorem installStatic_again :
    (r.installStatic l).1.installStatic l = ((r.installStatic l).1, false) := by
  simp only [installStatic, static_draws.mergeAll_again (fun _ _ => trivial),
    main_draws.mergeAll_again (fun _ _ => trivial)]

end Installation

/-- A route is supported if it is resolvable now, or if it is supported once the resolvable ones are
installed. -/
theorem supported_iff_of_installed (filled : ∀ p, ¬main.Emptied p)
    (resolvable : ∀ s, s ∈ ready ↔ s ∈ waiting ∧ isResolvable main s.network s.nextHop = true) :
    Supported main waiting s ↔
      s ∈ ready ∨ Supported (main.mergeAll (ready.map staticRoute)).1
        (waiting.filter fun s => !isResolvable main s.network s.nextHop) s := by
  have ready_supported {s : StaticRoute} (member : s ∈ ready) : Supported main waiting s := by
    obtain ⟨listed, found⟩ := (resolvable s).1 member
    obtain ⟨a, p, hop, other, covers, holds⟩ := (isResolvable_iff filled).1 found
    exact .held listed hop other covers holds
  constructor
  · intro supported
    induction supported with
    | held listed hop other covers holds =>
      exact .inl ((resolvable _).2
        ⟨listed, (isResolvable_iff filled).2 ⟨_, _, hop, other, covers, holds⟩⟩)
    | @through s t a listed hop _ other covers ih =>
      by_cases now : isResolvable main s.network s.nextHop = true
      · exact .inl ((resolvable s).2 ⟨listed, now⟩)
      · have later : s ∈ waiting.filter fun s => !isResolvable main s.network s.nextHop :=
          List.mem_filter.2 ⟨listed, by simpa using now⟩
        rcases ih with installed | supported
        · exact .inr (.held later hop other covers
            ((exists_held_install filled).2 (.inr ⟨t, installed, rfl⟩)))
        · exact .inr (.through later hop supported other covers)
  · rintro (member | supported)
    · exact ready_supported member
    · induction supported with
      | held listed hop other covers holds =>
        have listed := (List.mem_filter.1 listed).1
        rcases (exists_held_install filled).1 holds with before | ⟨t, installed, rfl⟩
        · exact .held listed hop other covers before
        · exact .through listed hop (ready_supported installed) other covers
      | through listed hop _ other covers ih =>
        exact .through (List.mem_filter.1 listed).1 hop ih other covers

theorem not_supported_of_none (filled : ∀ p, ¬main.Emptied p)
    (none : ∀ s ∈ waiting, ¬isResolvable main s.network s.nextHop = true) :
    ¬Supported main waiting s := by
  intro supported
  induction supported with
  | held listed hop other covers holds =>
    exact none _ listed ((isResolvable_iff filled).2 ⟨_, _, hop, other, covers, holds⟩)
  | through _ _ _ _ _ ih => exact ih

/-- With enough rounds the supported ones of the waiting routes are installed, and no others. -/
theorem activateStaticFrom_supported (filled : ∀ p, ¬r.main.Emptied p)
    (enough : waiting.length ≤ rounds) :
    ∃ ready, (∀ s, s ∈ ready ↔ Supported r.main waiting s) ∧
      activateStaticFrom rounds waiting r = r.installStatic ready := by
  induction rounds generalizing waiting r with
  | zero =>
    obtain rfl := List.eq_nil_of_length_eq_zero (Nat.le_zero.1 enough)
    refine ⟨[], fun s => ⟨nofun, fun supported => ?_⟩, rfl⟩
    cases supported.listed
  | succ rounds ih =>
    rw [activateStaticFrom, List.partition_eq_filter_filter]
    generalize now : waiting.filter (fun s => isResolvable r.main s.network s.nextHop) = ready
    have resolvable (s : StaticRoute) :
        s ∈ ready ↔ s ∈ waiting ∧ isResolvable r.main s.network s.nextHop = true := by
      rw [← now, List.mem_filter]
    by_cases empty : ready.isEmpty = true
    · obtain rfl := List.isEmpty_iff.1 empty
      refine ⟨[], fun s => ⟨nofun, fun supported => ?_⟩, rfl⟩
      refine absurd supported (not_supported_of_none filled fun s listed found => ?_)
      cases (resolvable s).2 ⟨listed, found⟩
    · have shorter := waiting.length_eq_length_filter_add
        fun s => isResolvable r.main s.network s.nextHop
      rw [now] at shorter
      have some := List.length_pos_iff.2 fun none => empty (List.isEmpty_iff.2 none)
      have filled' (p : Prefix) : ¬(r.installStatic ready).1.main.Emptied p :=
        fun emptied => filled p emptied.of_mergeAll
      have fewer : (waiting.filter fun s => !isResolvable r.main s.network s.nextHop).length ≤
          rounds := by omega
      obtain ⟨rest, members, installed⟩ := ih filled' fewer
      refine ⟨ready ++ rest, fun s => ?_, ?_⟩
      · rw [List.mem_append, members s, supported_iff_of_installed filled resolvable]
        rfl
      · simp only [if_neg empty, installStatic_append]
        rw [← installed]
        rfl

/-- Routes that are installed support no others. -/
theorem supported_after_install (filled : ∀ p, ¬main.Emptied p)
    (all : ∀ s, s ∈ ready ↔ Supported main statics s) :
    Supported (main.mergeAll (ready.map staticRoute)).1 statics s ↔ Supported main statics s := by
  constructor
  · intro supported
    induction supported with
    | held listed hop other covers holds =>
      rcases (exists_held_install filled).1 holds with before | ⟨t, installed, rfl⟩
      · exact .held listed hop other covers before
      · exact .through listed hop ((all t).1 installed) other covers
    | through listed hop _ other covers ih => exact .through listed hop ih other covers
  · intro supported
    induction supported with
    | held listed hop other covers holds =>
      exact .held listed hop other covers ((exists_held_install filled).2 (.inl holds))
    | through listed hop _ other covers ih => exact .through listed hop ih other covers

theorem startRound_filled (r : Router) (p : Prefix) : ¬r.startRound.main.Emptied p := by
  intro emptied
  exact Rib.not_emptied_empty (Rib.Emptied.of_mergeAll emptied)

theorem startRound_main_draws (r : Router) : r.startRound.main.DrawsFrom .main anyRoute :=
  (Rib.DrawsFrom.empty (k := .main) fun _ _ => nofun).mergeAll fun _ _ => trivial

theorem startRound_static_draws (r : Router) : r.startRound.static.DrawsFrom .static anyRoute :=
  .empty fun _ _ => nofun

/-- Whatever the table has, only waiting routes are installed. -/
theorem activateStaticFrom_waiting (rounds : Nat) (waiting : List StaticRoute) (r : Router) :
    ∃ ready : List StaticRoute, (∀ s ∈ ready, s ∈ waiting) ∧
      (activateStaticFrom rounds waiting r).1 = (r.installStatic ready).1 := by
  induction rounds generalizing waiting r with
  | zero => exact ⟨[], nofun, rfl⟩
  | succ rounds ih =>
    rw [activateStaticFrom, List.partition_eq_filter_filter]
    dsimp only
    split
    · exact ⟨[], nofun, rfl⟩
    · obtain ⟨more, among, installed⟩ := ih
        (waiting.filter fun s => !isResolvable r.main s.network s.nextHop)
        (r.installStatic (waiting.filter fun s => isResolvable r.main s.network s.nextHop)).1
      refine ⟨waiting.filter (fun s => isResolvable r.main s.network s.nextHop) ++ more, ?_, ?_⟩
      · intro s member
        rcases List.mem_append.1 member with now | later
        · exact (List.mem_filter.1 now).1
        · exact (List.mem_filter.1 (among s later)).1
      · rw [installStatic_append]
        exact installed

/-- The static routes that a router may use: independent ones, and those to addresses. -/
def IsUsableStatic (r : Router) (s : StaticRoute) : Prop :=
  s ∈ r.staticRoutes ∧ (r.isIndependent s = true ∨ ∃ a, s.nextHop = .address a)

theorem activateStatic_installs (r : Router) : ∃ ready : List StaticRoute,
    (∀ s ∈ ready, r.IsUsableStatic s) ∧ r.activateStatic.1 = (r.installStatic ready).1 := by
  obtain ⟨ready, among, installed⟩ := activateStaticFrom_waiting _ r.dependentStatic r
  refine ⟨ready, fun s member => ?_, installed⟩
  obtain ⟨listed, dependent⟩ := List.mem_filter.1 (among s member)
  refine ⟨listed, .inr ?_⟩
  cases hop : s.nextHop with
  | address a => exact ⟨a, rfl⟩
  | _ => simp [hop] at dependent

section Round

variable {r : Router} (all : ∀ s, s ∈ ready ↔ Supported r.startRound.main r.staticRoutes s)
include all

theorem activateStaticFrom_startRound (enough : r.startRound.dependentStatic.length ≤ rounds) :
    activateStaticFrom rounds r.startRound.dependentStatic r.startRound =
      r.startRound.installStatic ready := by
  obtain ⟨found, members, installed⟩ := activateStaticFrom_supported r.startRound_filled enough
  rw [installed]
  refine installStatic_congr r.startRound_static_draws r.startRound_main_draws fun s => ?_
  rw [members, supported_dependentStatic, all]
  rfl

theorem activateStatic_startRound :
    r.startRound.activateStatic = r.startRound.installStatic ready :=
  activateStaticFrom_startRound all le_rfl

theorem activateStatic_again :
    (r.startRound.installStatic ready).1.activateStatic =
      ((r.startRound.installStatic ready).1, false) := by
  have filled (p : Prefix) : ¬(r.startRound.installStatic ready).1.main.Emptied p :=
    fun emptied => r.startRound_filled p (Rib.Emptied.of_mergeAll emptied)
  obtain ⟨again, members, installed⟩ := activateStaticFrom_supported filled
    (le_refl (r.startRound.installStatic ready).1.dependentStatic.length)
  have same (s : StaticRoute) : s ∈ again ↔ s ∈ ready := by
    rw [members, supported_dependentStatic, all]
    exact supported_after_install r.startRound_filled all
  have static_draws := r.startRound_static_draws.mergeAll (l := ready.map staticRoute)
    fun _ _ => trivial
  have main_draws := r.startRound_main_draws.mergeAll (l := ready.map staticRoute)
    fun _ _ => trivial
  rw [activateStatic, installed, installStatic_congr static_draws main_draws same]
  exact installStatic_again r.startRound_static_draws r.startRound_main_draws

end Round

/-- After the start of a round, the activation of static routes installs the supported ones and no
others, in whatever order the routes are listed: these are merged into the static table and into the main
one. Further rounds of it change nothing, nor does a second activation. -/
theorem supported_statics_activated (r : Router) :
    (∃ ready : List StaticRoute, ∀ s, s ∈ ready ↔ Supported r.startRound.main r.staticRoutes s) ∧
    (∀ ready : List StaticRoute,
      (∀ s, s ∈ ready ↔ Supported r.startRound.main r.staticRoutes s) →
        r.startRound.activateStatic = r.startRound.installStatic ready ∧
        r.startRound.activateStatic.1 = { r.startRound with
          static := (r.startRound.static.mergeAll (ready.map staticRoute)).1
          main := (r.startRound.main.mergeAll (ready.map staticRoute)).1 }) ∧
    (∀ rounds, r.startRound.dependentStatic.length ≤ rounds →
      activateStaticFrom rounds r.startRound.dependentStatic r.startRound =
        r.startRound.activateStatic) ∧
    r.startRound.activateStatic.1.activateStatic = (r.startRound.activateStatic.1, false) ∧
    ∀ r' : Router, r'.independent = r.independent → (∀ s, s ∈ r'.staticRoutes ↔ s ∈ r.staticRoutes) →
      r'.startRound.activateStatic.1.static = r.startRound.activateStatic.1.static ∧
      r'.startRound.activateStatic.1.main = r.startRound.activateStatic.1.main ∧
      r'.startRound.activateStatic.2 = r.startRound.activateStatic.2 := by
  obtain ⟨ready, members, -⟩ := activateStaticFrom_supported r.startRound_filled
    (le_refl r.startRound.dependentStatic.length)
  have all (s : StaticRoute) : s ∈ ready ↔ Supported r.startRound.main r.staticRoutes s :=
    (members s).trans supported_dependentStatic
  have activated := activateStatic_startRound all
  refine ⟨⟨ready, all⟩, fun ready all => ?_, ?_, ?_, ?_⟩
  · have activated := activateStatic_startRound all
    exact ⟨activated, congrArg Prod.fst activated⟩
  · intro rounds enough
    rw [activated, activateStaticFrom_startRound all enough]
  · rw [activated, activateStatic_again all]
  · intro r' independent listed
    have main : r'.startRound.main = r.startRound.main := by simp only [startRound, independent]
    have all' (s : StaticRoute) : s ∈ ready ↔ Supported r'.startRound.main r'.staticRoutes s := by
      rw [all, main]
      exact ⟨.mono fun s member _ _ => (listed s).2 member,
        .mono fun s member _ _ => (listed s).1 member⟩
    rw [activated, activateStatic_startRound all', installStatic, installStatic, main]
    exact ⟨rfl, rfl, rfl⟩

def toward (network : InterfaceAddress) (hop : Address) : StaticRoute where
  network := network.network
  nextHop := .address hop

/-- A chain of static routes, each resting on the one listed after it down to one that discards, and two
routes that rest on each other only. -/
def chained : Router where
  configuration :=
    { hostname := "r"
      vrfs := .ofList [("default", { staticRoutes := [
        toward (.ofOctets 10 1 0 0 24) (.ofOctets 10 2 0 1),
        toward (.ofOctets 10 2 0 0 24) (.ofOctets 10 3 0 1),
        { network := (InterfaceAddress.ofOctets 10 3 0 0 24).network, nextHop := .discard },
        toward (.ofOctets 20 0 0 0 8) (.ofOctets 30 0 0 1),
        toward (.ofOctets 30 0 0 0 8) (.ofOctets 20 0 0 1)] })] }
  vrf := "default"

/-- The whole chain is activated, and the pair is not. -/
theorem chained_activates :
    let r := chained.initStatic
    (∀ s ∈ r.dependentStatic, s ∈ r.staticRoutes.take 2 ↔
      Supported r.startRound.main r.staticRoutes s) ∧
    r.startRound.activateStatic.1.main.bindings.map (·.1.text) =
      ["10.1.0.0/24", "10.2.0.0/24", "10.3.0.0/24"] ∧
    r.startRound.activateStatic.1.activateStatic = (r.startRound.activateStatic.1, false) := by
  intro r
  obtain ⟨⟨ready, all⟩, installs, -, again, -⟩ := supported_statics_activated r
  obtain ⟨-, activated⟩ := installs ready all
  refine ⟨fun s listed => ?_, by decide +kernel, again⟩
  have networks (p : Prefix) : (∃ x, x ∈ r.startRound.activateStatic.1.main.held p) ↔
      (∃ x, x ∈ r.startRound.main.held p) ∨ ∃ s ∈ ready, s.network = p := by
    rw [activated]
    exact exists_held_install r.startRound_filled
  -- the routes have different networks, so their networks tell which of them were installed
  have evaluated : ∀ s ∈ r.dependentStatic, r.startRound.main.held s.network = .empty ∧
      (s ∈ r.staticRoutes.take 2 ↔ r.startRound.activateStatic.1.main.held s.network ≠ .empty) ∧
      ∀ t ∈ r.staticRoutes, t.network = s.network → t = s := by
    decide +kernel
  obtain ⟨before, after, alone⟩ := evaluated s listed
  rw [after, ← SortedSet.exists_mem_iff, networks, before, ← all]
  constructor
  · rintro (⟨x, none⟩ | ⟨t, member, same⟩)
    · exact absurd none (SortedSet.not_mem_empty x)
    · exact alone t ((all t).1 member).listed same ▸ member
  · exact fun member => .inr ⟨s, member, rfl⟩

end Router

end RoutePlane
