import Mathlib.Data.List.Perm.Subperm
import Mathlib.Data.Set.Insert
import Mathlib.Logic.Relation
import RoutePlane.Proofs.Rib.LongestMatch
import RoutePlane.Proofs.Router.Installation

/-! Resolution of next hops. A route leads to the forwarding routes of the longest match of its next
hop, and chains of such steps that visit no network twice end in exits. The exits found for a route
are ends of its chains, and those chains are all found that avoid the networks of dead ends: a dead
end stays closed for the rest of the search. -/
namespace RoutePlane.Rib

open Relation

variable {t : Rib} {r next x : Route} {p : Prefix} {exit : Exit} {closed : List Prefix}

def Keyed (t : Rib) : Prop := ∀ p, ∀ x ∈ t.held p, x.network = p

section Keyed

theorem Keyed.empty (k : RibKind) : (Rib.empty k).Keyed :=
  fun _ x held => absurd held (SortedSet.not_mem_empty x)

theorem mem_of_mem_offer {k : RibKind} {held : RouteSet} (offered : x ∈ (offer k r held).1) :
    x = r ∨ x ∈ held := by
  unfold offer at offered
  split at offered
  · exact .inl (SortedSet.mem_singleton.1 offered)
  · split at offered
    · exact .inl (SortedSet.mem_singleton.1 offered)
    · exact SortedSet.mem_insert.1 offered
    · exact .inr offered

theorem Keyed.merge (keyed : t.Keyed) (r : Route) : (t.merge r).1.Keyed := by
  by_cases admitted : t.kind.Admits r
  · intro p x held
    by_cases here : p = r.network
    · rw [here, held_merge_self admitted] at held
      rcases mem_of_mem_offer held with rfl | before
      · exact here.symm
      · exact (keyed _ x before).trans here.symm
    · rw [held_merge_of_ne here] at held
      exact keyed p x held
  · rwa [merge_of_not_admits admitted]

theorem Keyed.mergeAll {l : List Route} (keyed : t.Keyed) : (t.mergeAll l).1.Keyed := by
  induction l generalizing t with
  | nil => exact keyed
  | cons r l ih =>
    rw [mergeAll_cons]
    exact ih (keyed.merge r)

end Keyed

/-- The next hop of a route is resolved through a forwarding route of its longest match. -/
def Leads (t : Rib) (r next : Route) : Prop :=
  ∃ hop, r.nextHop = .address hop ∧
    ∃ b, IsLongest (t.Relays r.network) (.host hop) b ∧ next ∈ b.2 ∧ next.nonForwarding = false

/-- A chain of routes ends in an exit. No route with an address is for a network that is closed, or for
that of one before it; an interface without an address takes the last address of the chain. -/
inductive ResolvesTo (t : Rib) : Set Prefix → Option Address → Route → Exit → Prop
  | discard {closed : Set Prefix} {last : Option Address} {r : Route} (drops : r.nextHop = .discard) :
      t.ResolvesTo closed last r (nullInterface, none)
  | neighbor {closed : Set Prefix} {last : Option Address} {r : Route} {name : String} {a : Address}
      (out : r.nextHop = .interface name (some a)) : t.ResolvesTo closed last r (name, some a)
  | attached {closed : Set Prefix} {last : Option Address} {r : Route} {name : String}
      (out : r.nextHop = .interface name none) : t.ResolvesTo closed last r (name, last)
  | through {closed : Set Prefix} {last : Option Address} {r next : Route} {hop : Address}
      {exit : Exit} (address : r.nextHop = .address hop) (opened : r.network ∉ closed)
      (leads : t.Leads r next) (onward : t.ResolvesTo (insert r.network closed) (some hop) next exit) :
      t.ResolvesTo closed last r exit

def chainEnds (t : Rib) (r : Route) : Set Exit := {exit | t.ResolvesTo ∅ none r exit}

def IsDeadEnd (t : Rib) (r : Route) : Prop :=
  (∃ hop, r.nextHop = .address hop) ∧ ∀ next, ¬t.Leads r next

def deadEnds (t : Rib) (r : Route) : Set Prefix :=
  {p | ∃ x, ReflTransGen t.Leads r x ∧ t.IsDeadEnd x ∧ x.network = p}

/-- The ends of the chains that visit no network of a dead end after the first route. -/
def clearEnds (t : Rib) (r : Route) : Set Exit :=
  {exit | t.ResolvesTo (t.deadEnds r \ {r.network}) none r exit}

theorem resolvesTo_iff {closed : Set Prefix} {last : Option Address} :
    t.ResolvesTo closed last r exit ↔
      match r.nextHop with
      | .discard => exit = (nullInterface, none)
      | .interface name a => exit = (name, a.or last)
      | .self | .peer => False
      | .address hop => r.network ∉ closed ∧ ∃ next, t.Leads r next ∧
          t.ResolvesTo (insert r.network closed) (some hop) next exit := by
  constructor
  · intro way
    cases way with
    | discard drops => simp only [drops]
    | neighbor out => simp only [out, Option.some_or]
    | attached out => simp only [out, Option.none_or]
    | through address opened leads onward =>
      simp only [address]
      exact ⟨opened, _, leads, onward⟩
  · intro begins
    cases hop : r.nextHop with
    | discard =>
      simp only [hop] at begins
      exact begins ▸ .discard hop
    | interface name a =>
      simp only [hop] at begins
      subst begins
      cases a with
      | none => exact .attached hop
      | some a => exact .neighbor hop
    | self => simp only [hop] at begins
    | peer => simp only [hop] at begins
    | address a =>
      simp only [hop] at begins
      obtain ⟨opened, next, leads, onward⟩ := begins
      exact .through hop opened leads onward

theorem ResolvesTo.mono {closed more : Set Prefix} {last : Option Address} (fewer : closed ⊆ more)
    (resolves : t.ResolvesTo more last r exit) : t.ResolvesTo closed last r exit := by
  induction resolves generalizing closed with
  | discard drops => exact .discard drops
  | neighbor out => exact .neighbor out
  | attached out => exact .attached out
  | through address opened leads onward ih =>
    exact .through address (fun member => opened (fewer member)) leads
      (ih (Set.insert_subset_insert fewer))

theorem ResolvesTo.forget {closed : Set Prefix} {last last' : Option Address}
    (other : ∀ name, r.nextHop ≠ .interface name none)
    (resolves : t.ResolvesTo closed last r exit) : t.ResolvesTo closed last' r exit := by
  cases resolves with
  | discard drops => exact .discard drops
  | neighbor out => exact .neighbor out
  | attached out => exact absurd out (other _)
  | through address opened leads onward => exact .through address opened leads onward

theorem deadEnds_subset (leads : t.Leads r next) : t.deadEnds next ⊆ t.deadEnds r := by
  rintro p ⟨x, ways, dead, rfl⟩
  exact ⟨x, .head leads ways, dead, rfl⟩

def forwardingRoutes (routes : RouteSet) : List Route := routes.toList.filter (!·.nonForwarding)

theorem leads_iff {hop : Address} {b : Prefix × RouteSet} (address : r.nextHop = .address hop)
    (found : t.longestForwardingMatch? hop r.network = some b) :
    t.Leads r next ↔ next ∈ forwardingRoutes b.2 := by
  rw [forwardingRoutes, List.mem_filter, Bool.not_eq_true']
  constructor
  · rintro ⟨hop', address', c, longest, member, forwards⟩
    obtain rfl := NextHop.address.inj (address.symm.trans address')
    have same := found.symm.trans (longestForwardingMatch?_eq_some_iff.2 longest)
    obtain rfl := Option.some.inj same
    exact ⟨member, forwards⟩
  · rintro ⟨member, forwards⟩
    exact ⟨hop, address, b, longestForwardingMatch?_eq_some_iff.1 found, member, forwards⟩

theorem isDeadEnd_of_none {hop : Address} (address : r.nextHop = .address hop)
    (none : t.longestForwardingMatch? hop r.network = none) : t.IsDeadEnd r := by
  refine ⟨⟨hop, address⟩, ?_⟩
  rintro next ⟨hop', address', b, longest, -⟩
  obtain rfl := NextHop.address.inj (address.symm.trans address')
  rw [longestForwardingMatch?_eq_some_iff.2 longest] at none
  cases none

def Lists (t : Rib) (p : Prefix) : Prop := ∃ routes, t.entries.get? p = some routes

theorem Keyed.lists_of_mem (keyed : t.Keyed) {b : Prefix × RouteSet} (listed : b ∈ t.entries.toList)
    (member : x ∈ b.2) : t.Lists x.network := by
  have found : t.entries.get? b.1 = some b.2 := SortedMap.mem_toList_iff.1 listed
  have held : x ∈ t.held b.1 := by rwa [held, found]
  rw [keyed _ x held]
  exact ⟨b.2, found⟩

theorem Keyed.lists_of_leads (keyed : t.Keyed) (leads : t.Leads r next) : t.Lists next.network := by
  obtain ⟨_, _, b, longest, member, -⟩ := leads
  exact keyed.lists_of_mem longest.listed.1 member

theorem length_le_of_lists (nodup : closed.Nodup) (lists : ∀ p ∈ closed, t.Lists p) :
    closed.length ≤ t.entries.size := by
  have keys : closed ⊆ t.entries.toList.map Prod.fst := by
    intro p member
    obtain ⟨routes, found⟩ := lists p member
    exact List.mem_map_of_mem (SortedMap.mem_toList_iff.2 found)
  have bound := (nodup.subperm keys).length_le
  rwa [List.length_map] at bound

/-- What can be said of the networks that are closed when a search begins. -/
structure Admissible (t : Rib) (steps : Nat) (closed : List Prefix) : Prop where
  nodup : closed.Nodup
  lists : ∀ p ∈ closed, t.Lists p
  enough : t.entries.size ≤ steps + closed.length

/-- What a search for the exits of a route does: it finds ends of chains that avoid the closed networks,
and all those that avoid the dead ends as well, which are all that it closes. -/
structure Resolves (t : Rib) (r : Route) (closed : List Prefix)
    (result : SortedSet Exit × List Prefix) : Prop where
  nodup : result.2.Nodup
  lists : ∀ p ∈ result.2, t.Lists p
  kept : closed ⊆ result.2
  added : ∀ p ∈ result.2, p ∈ closed ∨ p ∈ t.deadEnds r
  sound : ∀ exit ∈ result.1, t.ResolvesTo {p | p ∈ closed} none r exit
  complete : ∀ avoided : Set Prefix, {p | p ∈ closed} ⊆ avoided →
    t.deadEnds r ⊆ insert r.network avoided → ∀ exit, t.ResolvesTo avoided none r exit →
      exit ∈ result.1

theorem resolve_address {steps : Nat} {hop : Address} (address : r.nextHop = .address hop) :
    t.resolve (steps + 1) closed r =
      if r.network ∈ closed then (.empty, closed)
      else
        match t.longestForwardingMatch? hop r.network with
        | none => (.empty, r.network :: closed)
        | some (_, candidates) =>
          let (found, closed) := (forwardingRoutes candidates).foldl (addExits hop (t.resolve steps))
            (.empty, r.network :: closed)
          (found, closed.erase r.network) := by
  rw [resolve, address]
  rfl

theorem Admissible.grow {steps : Nat} {more : List Prefix} (admissible : t.Admissible steps closed)
    (nodup : more.Nodup) (lists : ∀ p ∈ more, t.Lists p) (kept : closed ⊆ more) :
    t.Admissible steps more := by
  have longer := (admissible.nodup.subperm kept).length_le
  have enough := admissible.enough
  exact ⟨nodup, lists, by omega⟩

/-- What a search over several routes for one next hop adds to what was there before. -/
structure Gathers (t : Rib) (hop : Address) (l : List Route)
    (acc result : SortedSet Exit × List Prefix) : Prop where
  nodup : result.2.Nodup
  lists : ∀ p ∈ result.2, t.Lists p
  kept : acc.2 ⊆ result.2
  added : ∀ p ∈ result.2, p ∈ acc.2 ∨ ∃ next ∈ l, p ∈ t.deadEnds next
  found : ∀ exit ∈ acc.1, exit ∈ result.1
  sound : ∀ exit ∈ result.1, exit ∈ acc.1 ∨
    ∃ next ∈ l, t.ResolvesTo {p | p ∈ acc.2} (some hop) next exit
  complete : ∀ avoided : Set Prefix, {p | p ∈ acc.2} ⊆ avoided →
    (∀ next ∈ l, t.deadEnds next ⊆ avoided) → ∀ next ∈ l, ∀ exit,
      t.ResolvesTo avoided (some hop) next exit → exit ∈ result.1

section Gathering

variable {steps : Nat} {hop : Address} {acc mid result : SortedSet Exit × List Prefix}
  {l : List Route} {further : List Prefix → Route → SortedSet Exit × List Prefix}

theorem addExits_attached {name : String} (out : next.nextHop = .interface name none) :
    addExits hop further acc next = (acc.1.insert (name, some hop), acc.2) := by
  rw [addExits, out]

theorem addExits_other (other : ∀ name, next.nextHop ≠ .interface name none) :
    addExits hop further acc next =
      (acc.1.union (further acc.2 next).1, (further acc.2 next).2) := by
  cases hop : next.nextHop with
  | interface name address =>
    cases address with
    | none => exact absurd hop (other name)
    | some a => simp [addExits, hop]
  | address | discard | self | peer => simp [addExits, hop]

theorem addExits_gathers (nodup : acc.2.Nodup) (lists : ∀ p ∈ acc.2, t.Lists p)
    (resolves : t.Resolves next acc.2 (t.resolve steps acc.2 next)) :
    t.Gathers hop [next] acc (addExits hop (t.resolve steps) acc next) := by
  by_cases attached : ∃ name, next.nextHop = .interface name none
  · obtain ⟨name, out⟩ := attached
    rw [addExits_attached out]
    refine ⟨nodup, lists, fun p member => member, fun p member => .inl member, ?_, ?_, ?_⟩
    · intro exit member
      exact SortedSet.mem_insert.2 (.inr member)
    · intro exit member
      rcases SortedSet.mem_insert.1 member with rfl | before
      · exact .inr ⟨next, by simp, .attached out⟩
      · exact .inl before
    · intro avoided _ _ x here exit way
      obtain rfl := List.mem_singleton.1 here
      rw [resolvesTo_iff, out] at way
      exact SortedSet.mem_insert.2 (.inl way)
  · push Not at attached
    rw [addExits_other attached]
    refine ⟨resolves.nodup, resolves.lists, resolves.kept, ?_, ?_, ?_, ?_⟩
    · intro p member
      rcases resolves.added p member with before | dead
      · exact .inl before
      · exact .inr ⟨next, by simp, dead⟩
    · intro exit member
      exact SortedSet.mem_union.2 (.inl member)
    · intro exit member
      rcases SortedSet.mem_union.1 member with before | more
      · exact .inl before
      · exact .inr ⟨next, by simp, (resolves.sound exit more).forget attached⟩
    · intro avoided closed dead x here exit way
      obtain rfl := List.mem_singleton.1 here
      have spared : t.deadEnds x ⊆ insert x.network avoided :=
        (dead x (by simp)).trans (Set.subset_insert _ _)
      exact SortedSet.mem_union.2
        (.inr (resolves.complete avoided closed spared exit (way.forget attached)))

theorem Gathers.nil (nodup : acc.2.Nodup) (lists : ∀ p ∈ acc.2, t.Lists p) :
    t.Gathers hop [] acc acc :=
  ⟨nodup, lists, fun p member => member, fun p member => .inl member, fun exit member => member,
    fun exit member => .inl member, by simp⟩

theorem Gathers.cons (first : t.Gathers hop [next] acc mid) (rest : t.Gathers hop l mid result) :
    t.Gathers hop (next :: l) acc result := by
  refine ⟨rest.nodup, rest.lists, fun p member => rest.kept (first.kept member), ?_,
    fun exit member => rest.found exit (first.found exit member), ?_, ?_⟩
  · intro p member
    rcases rest.added p member with before | ⟨x, listed, dead⟩
    · rcases first.added p before with before | ⟨x, listed, dead⟩
      · exact .inl before
      · exact .inr ⟨x, by simp [List.mem_singleton.1 listed], dead⟩
    · exact .inr ⟨x, by simp [listed], dead⟩
  · intro exit member
    rcases rest.sound exit member with before | ⟨x, listed, way⟩
    · rcases first.sound exit before with before | ⟨x, listed, way⟩
      · exact .inl before
      · exact .inr ⟨x, by simp [List.mem_singleton.1 listed], way⟩
    · exact .inr ⟨x, by simp [listed], way.mono fun p closed => first.kept closed⟩
  · intro avoided closed dead x listed exit way
    have here : t.deadEnds next ⊆ avoided := dead next (by simp)
    rcases List.mem_cons.1 listed with rfl | later
    · exact rest.found exit
        (first.complete avoided closed (by simpa using here) x (by simp) exit way)
    · refine rest.complete avoided ?_ (fun y member => dead y (by simp [member])) x later exit way
      intro p member
      rcases first.added p member with before | ⟨y, only, dead'⟩
      · exact closed before
      · rw [List.mem_singleton.1 only] at dead'
        exact here dead'

/-- A search over several routes, each of which is searched well with what is closed by then. -/
theorem foldl_addExits_gathers (admissible : t.Admissible steps acc.2)
    (resolves : ∀ next ∈ l, ∀ closed, t.Admissible steps closed →
      t.Resolves next closed (t.resolve steps closed next)) :
    t.Gathers hop l acc (l.foldl (addExits hop (t.resolve steps)) acc) := by
  induction l generalizing acc with
  | nil => exact .nil admissible.nodup admissible.lists
  | cons next l ih =>
    have first : t.Gathers hop [next] acc (addExits hop (t.resolve steps) acc next) :=
      addExits_gathers admissible.nodup admissible.lists
        (resolves next (by simp) acc.2 admissible)
    refine first.cons (ih (admissible.grow first.nodup first.lists first.kept) ?_)
    intro x member
    exact resolves x (by simp [member])

end Gathering

section Searching

variable {steps : Nat} {hop : Address}

theorem resolves_empty (admissible : t.Admissible steps closed)
    (never : ∀ avoided : Set Prefix, {p | p ∈ closed} ⊆ avoided → ∀ exit,
      ¬t.ResolvesTo avoided none r exit) : t.Resolves r closed (.empty, closed) :=
  ⟨admissible.nodup, admissible.lists, fun _ member => member, fun _ member => .inl member,
    fun exit member => absurd member (SortedSet.not_mem_empty exit),
    fun avoided more _ exit way => absurd way (never avoided more exit)⟩

theorem resolves_singleton (admissible : t.Admissible steps closed)
    (only : ∀ (avoided : Set Prefix) exit', t.ResolvesTo avoided none r exit' ↔ exit' = exit) :
    t.Resolves r closed (.singleton exit, closed) :=
  ⟨admissible.nodup, admissible.lists, fun _ member => member, fun _ member => .inl member,
    fun exit' member => (only _ exit').2 (SortedSet.mem_singleton.1 member),
    fun avoided _ _ exit' way => SortedSet.mem_singleton.2 ((only avoided exit').1 way)⟩

theorem Admissible.close (admissible : t.Admissible (steps + 1) closed)
    (opened : r.network ∉ closed) (listed : t.Lists r.network) :
    t.Admissible steps (r.network :: closed) := by
  refine ⟨List.nodup_cons.2 ⟨opened, admissible.nodup⟩, ?_, ?_⟩
  · intro p member
    rcases List.mem_cons.1 member with rfl | before
    · exact listed
    · exact admissible.lists p before
  · have enough := admissible.enough
    rw [List.length_cons]
    omega

/-- A dead end finds nothing and stays closed. -/
theorem resolves_dead (admissible : t.Admissible steps (r.network :: closed))
    (dead : t.IsDeadEnd r) : t.Resolves r closed (.empty, r.network :: closed) := by
  have never (avoided : Set Prefix) (exit : Exit) : ¬t.ResolvesTo avoided none r exit := by
    obtain ⟨⟨hop, address⟩, nothing⟩ := dead
    intro way
    rw [resolvesTo_iff, address] at way
    obtain ⟨-, next, leads, -⟩ := way
    exact nothing next leads
  refine ⟨admissible.nodup, admissible.lists, List.subset_cons_self _ _, ?_,
    fun exit member => absurd member (SortedSet.not_mem_empty exit),
    fun avoided _ _ exit way => absurd way (never avoided exit)⟩
  intro p member
  rcases List.mem_cons.1 member with rfl | before
  · exact .inr ⟨r, .refl, dead, rfl⟩
  · exact .inl before

/-- A route whose next hop has a match has the exits of all forwarding routes of the match. Its network
opens again when they have been searched. -/
theorem resolves_address {b : Prefix × RouteSet} {result : SortedSet Exit × List Prefix}
    (address : r.nextHop = .address hop) (opened : r.network ∉ closed)
    (found : t.longestForwardingMatch? hop r.network = some b)
    (gathers : t.Gathers hop (forwardingRoutes b.2) (.empty, r.network :: closed) result) :
    t.Resolves r closed (result.1, result.2.erase r.network) := by
  have leads {next : Route} : next ∈ forwardingRoutes b.2 ↔ t.Leads r next :=
    (leads_iff address found).symm
  refine ⟨gathers.nodup.erase _, fun p member => gathers.lists p (List.mem_of_mem_erase member),
    ?_, ?_, ?_, ?_⟩
  · intro p member
    have other : p ≠ r.network := fun same => opened (same ▸ member)
    exact (List.mem_erase_of_ne other).2 (gathers.kept (List.mem_cons_of_mem _ member))
  · intro p member
    obtain ⟨other, member⟩ := (gathers.nodup.mem_erase_iff).1 member
    rcases gathers.added p member with before | ⟨next, listed, dead⟩
    · rcases List.mem_cons.1 before with same | before
      · exact absurd same other
      · exact .inl before
    · exact .inr (deadEnds_subset (leads.1 listed) dead)
  · intro exit member
    rcases gathers.sound exit member with never | ⟨next, listed, way⟩
    · exact absurd never (SortedSet.not_mem_empty exit)
    · refine .through address opened (leads.1 listed) ?_
      have all : {p | p ∈ r.network :: closed} = insert r.network {p | p ∈ closed} := by
        ext p
        simp
      rwa [all] at way
  · intro avoided more dead exit way
    rw [resolvesTo_iff, address] at way
    obtain ⟨-, next, ahead, onward⟩ := way
    refine gathers.complete _ ?_ ?_ next (leads.2 ahead) exit onward
    · intro p member
      rcases List.mem_cons.1 member with rfl | before
      · exact Set.mem_insert _ _
      · exact Set.mem_insert_of_mem _ (more before)
    · intro x listed
      exact (deadEnds_subset (leads.1 listed)).trans dead

theorem resolves_direct (direct : ∀ hop, r.nextHop ≠ .address hop)
    (admissible : t.Admissible steps closed) :
    t.Resolves r closed (t.resolve steps closed r) := by
  rw [resolve]
  cases hop : r.nextHop with
  | address a => exact absurd hop (direct a)
  | discard => exact resolves_singleton admissible fun _ _ => by rw [resolvesTo_iff, hop]
  | interface name a =>
    exact resolves_singleton admissible fun _ _ => by simp only [resolvesTo_iff, hop, Option.or_none]
  | self => exact resolves_empty admissible fun _ _ _ => by simp only [resolvesTo_iff, hop, not_false_eq_true]
  | peer => exact resolves_empty admissible fun _ _ _ => by simp only [resolvesTo_iff, hop, not_false_eq_true]

/-- A route for a closed network is skipped. -/
theorem resolves_closed (address : r.nextHop = .address hop) (member : r.network ∈ closed)
    (admissible : t.Admissible steps closed) : t.Resolves r closed (.empty, closed) := by
  refine resolves_empty admissible fun avoided more exit way => ?_
  rw [resolvesTo_iff, address] at way
  exact way.1 (more member)

/-- A search with enough steps does what it should. It uses one step for each network that it closes,
and the table has entries for all of them. -/
theorem Keyed.resolves (keyed : t.Keyed) (listed : t.Lists r.network)
    (admissible : t.Admissible steps closed) :
    t.Resolves r closed (t.resolve steps closed r) := by
  induction steps generalizing r closed with
  | zero =>
    by_cases direct : ∀ hop, r.nextHop ≠ .address hop
    · exact resolves_direct direct admissible
    · push Not at direct
      obtain ⟨hop, address⟩ := direct
      have member : r.network ∈ closed := by
        by_contra opened
        have bound := length_le_of_lists (List.nodup_cons.2 ⟨opened, admissible.nodup⟩)
          (List.forall_mem_cons.2 ⟨listed, admissible.lists⟩)
        have enough := admissible.enough
        rw [List.length_cons] at bound
        omega
      rw [resolve, address]
      simp only [if_pos member]
      exact resolves_closed address member admissible
  | succ steps ih =>
    by_cases direct : ∀ hop, r.nextHop ≠ .address hop
    · exact resolves_direct direct admissible
    · push Not at direct
      obtain ⟨hop, address⟩ := direct
      rw [resolve_address address]
      by_cases member : r.network ∈ closed
      · rw [if_pos member]
        exact resolves_closed address member admissible
      · rw [if_neg member]
        have onward := admissible.close member listed
        cases found : t.longestForwardingMatch? hop r.network with
        | none => exact resolves_dead onward (isDeadEnd_of_none address found)
        | some b =>
          refine resolves_address address member found (foldl_addExits_gathers onward ?_)
          intro next forwarding closed admissible
          exact ih (keyed.lists_of_leads ((leads_iff address found).2 forwarding)) admissible

end Searching

end RoutePlane.Rib
