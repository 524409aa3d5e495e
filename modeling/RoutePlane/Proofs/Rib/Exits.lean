import RoutePlane.Proofs.Rib.Resolution

/-! Forwarding tables compiled from routing tables. A forwarding table has entries for the exits of
every forwarding route and for nothing else. The exits are the ends of the resolution chains of the
route, unless some network that it leads to has both dead ends and other routes with an address:
then a dead end can hide the chains of the others. -/
namespace RoutePlane

open Relation

namespace Rib

variable {t : Rib} {r x : Route} {exit : Exit}

theorem Keyed.resolves_exits (keyed : t.Keyed) (held : r ∈ t.routes) :
    t.Resolves r [] (t.resolve (t.entries.size + 1) [] r) := by
  obtain ⟨p, held⟩ := mem_routes_iff.1 held
  have listed : t.Lists r.network := by
    rw [keyed p r held]
    cases found : t.entries.get? p with
    | none => simp [Rib.held, found] at held
    | some routes => exact ⟨routes, found⟩
  exact keyed.resolves listed ⟨.nil, by simp, by simp⟩

/-- The search finds ends of chains only. -/
theorem Keyed.exits_sound (keyed : t.Keyed) (held : r ∈ t.routes) (found : exit ∈ t.exits r) :
    exit ∈ t.chainEnds r :=
  ((keyed.resolves_exits held).sound exit found).mono (Set.empty_subset _)

/-- Chains that avoid dead ends are found. -/
theorem Keyed.exits_complete (keyed : t.Keyed) (held : r ∈ t.routes) (clear : exit ∈ t.clearEnds r) :
    exit ∈ t.exits r := by
  refine (keyed.resolves_exits held).complete _ (by simp) ?_ exit clear
  intro p dead
  by_cases own : p = r.network
  · exact .inl own
  · exact .inr ⟨dead, own⟩

/-- No other network that the route leads to has both dead ends and routes that lead on. -/
def Unmixed (t : Rib) (r : Route) : Prop :=
  ∀ x, ReflTransGen t.Leads r x → x.network ≠ r.network → x.network ∈ t.deadEnds r →
    ∀ next, ¬t.Leads x next

theorem ResolvesTo.avoid {closed : Set Prefix} {last : Option Address} (unmixed : t.Unmixed r)
    (ways : ReflTransGen t.Leads r x) (resolves : t.ResolvesTo closed last x exit) :
    t.ResolvesTo (closed ∪ (t.deadEnds r \ {r.network})) last x exit := by
  induction resolves with
  | discard drops => exact .discard drops
  | neighbor out => exact .neighbor out
  | attached out => exact .attached out
  | through address opened leads onward ih =>
    refine .through address ?_ leads ?_
    · rintro (before | ⟨dead, other⟩)
      · exact opened before
      · exact unmixed _ ways other dead _ leads
    · rw [← Set.insert_union]
      exact ih (ways.tail leads)

/-- Without mixed networks the exits are the ends of all chains. -/
theorem Keyed.exits_exact (keyed : t.Keyed) (held : r ∈ t.routes) (unmixed : t.Unmixed r) :
    exit ∈ t.exits r ↔ exit ∈ t.chainEnds r := by
  refine ⟨keyed.exits_sound held, fun chain => keyed.exits_complete held ?_⟩
  have avoiding := ResolvesTo.avoid unmixed .refl chain
  rwa [Set.empty_union] at avoiding

end Rib

namespace ForwardingTable

variable {main : Rib} {owners : Owners} {f : ForwardingTable} {r : Route} {exit : Exit}
  {e : ForwardingEntry} {p : Prefix} {l : List Route}

def entriesAt (f : ForwardingTable) (p : Prefix) : SortedSet ForwardingEntry :=
  (f.get? p).getD .empty

def exitsOf (f : ForwardingTable) (r : Route) : Set Exit :=
  {exit | ∃ p, ∃ e ∈ f.entriesAt p, e.route = r ∧ (e.interface, e.nextHop) = exit}

def Occupied (f : ForwardingTable) : Prop :=
  ∀ p entries, f.get? p = some entries → ∃ e, e ∈ entries

theorem route_of_mem_entriesOf (member : e ∈ entriesOf owners r exit) :
    e.route = r ∧ (e.interface, e.nextHop) = exit := by
  unfold entriesOf at member
  split at member
  · rw [List.mem_singleton.1 member]
    exact ⟨rfl, rfl⟩
  · obtain ⟨node, -, rfl⟩ := List.mem_map.1 member
    exact ⟨rfl, rfl⟩

theorem exists_mem_entriesOf (owners : Owners) (r : Route) (exit : Exit) :
    ∃ e, e ∈ entriesOf owners r exit := by
  unfold entriesOf
  split
  next => exact ⟨_, List.mem_singleton_self _⟩
  next nodes some =>
    obtain ⟨node, member⟩ := List.exists_mem_of_ne_nil _ some
    exact ⟨_, List.mem_map_of_mem member⟩

theorem addRoute_of_isEmpty (none : (main.exits r).isEmpty = true) :
    addRoute main owners f r = f := if_pos none

theorem get?_addRoute_self (some : ¬(main.exits r).isEmpty = true) :
    (addRoute main owners f r).get? r.network =
      .some (((main.exits r).toList.flatMap (entriesOf owners r)).foldl .insert
        (f.entriesAt r.network)) := by
  rw [addRoute, if_neg some]
  exact SortedMap.get?_insert_self _ _ _

theorem get?_addRoute_of_ne (ne : p ≠ r.network) :
    (addRoute main owners f r).get? p = f.get? p := by
  by_cases none : (main.exits r).isEmpty = true
  · rw [addRoute_of_isEmpty none]
  · rw [addRoute, if_neg none]
    exact SortedMap.get?_insert_of_ne _ _ ne

theorem mem_addRoute : e ∈ (addRoute main owners f r).entriesAt p ↔
    e ∈ f.entriesAt p ∨ r.network = p ∧ ∃ exit ∈ main.exits r, e ∈ entriesOf owners r exit := by
  by_cases here : p = r.network
  · subst here
    by_cases none : (main.exits r).isEmpty = true
    · have nothing (exit : Exit) : exit ∉ main.exits r := by
        rw [SortedSet.isEmpty_iff.1 none]
        exact SortedSet.not_mem_empty exit
      rw [addRoute_of_isEmpty none]
      simp [nothing]
    · rw [entriesAt, get?_addRoute_self none, Option.getD_some, SortedSet.mem_foldl_insert,
        List.mem_flatMap]
      simp [SortedSet.mem_def]
  · rw [entriesAt, get?_addRoute_of_ne here, ← entriesAt]
    simp [Ne.symm here]

theorem Occupied.addRoute (occupied : f.Occupied) : (addRoute main owners f r).Occupied := by
  intro p entries found
  by_cases here : p = r.network
  · subst here
    by_cases none : (main.exits r).isEmpty = true
    · rw [addRoute_of_isEmpty none] at found
      exact occupied _ entries found
    · rw [get?_addRoute_self none] at found
      obtain rfl := Option.some.inj found
      have some : (main.exits r).toList ≠ [] := by simpa [SortedSet.isEmpty] using none
      obtain ⟨exit, member⟩ := List.exists_mem_of_ne_nil _ some
      obtain ⟨e, entry⟩ := exists_mem_entriesOf owners r exit
      exact ⟨e, SortedSet.mem_foldl_insert.2 (.inr (List.mem_flatMap.2 ⟨exit, member, entry⟩))⟩
  · rw [get?_addRoute_of_ne here] at found
    exact occupied p entries found

theorem mem_foldl_addRoute : e ∈ (l.foldl (addRoute main owners) f).entriesAt p ↔
    e ∈ f.entriesAt p ∨
      ∃ r ∈ l, r.network = p ∧ ∃ exit ∈ main.exits r, e ∈ entriesOf owners r exit := by
  induction l generalizing f with
  | nil => simp
  | cons r l ih =>
    rw [List.foldl_cons, ih, mem_addRoute, or_assoc]
    simp

theorem Occupied.foldl (occupied : f.Occupied) :
    (l.foldl (ForwardingTable.addRoute main owners) f).Occupied := by
  induction l generalizing f with
  | nil => exact occupied
  | cons r l ih => exact ih occupied.addRoute

theorem occupied_ofRib (main : Rib) (owners : Owners) : (ofRib main owners).Occupied :=
  Occupied.foldl fun _ _ found => by cases found

/-- The entries of a forwarding table lead to the exits of the forwarding routes. -/
theorem mem_exitsOf_ofRib : exit ∈ (ofRib main owners).exitsOf r ↔
    r ∈ main.routes ∧ r.nonForwarding = false ∧ exit ∈ main.exits r := by
  have start (p : Prefix) (e : ForwardingEntry) : e ∉ empty.entriesAt p := SortedSet.not_mem_empty e
  constructor
  · rintro ⟨p, e, member, source, leads⟩
    rcases mem_foldl_addRoute.1 member with never | ⟨r', listed, -, exit', found, entry⟩
    · exact absurd never (start p e)
    · obtain ⟨held, forwards⟩ := List.mem_filter.1 listed
      obtain ⟨source', leads'⟩ := route_of_mem_entriesOf entry
      obtain rfl := source'.symm.trans source
      obtain rfl := leads'.symm.trans leads
      exact ⟨held, by simpa using forwards, found⟩
  · rintro ⟨held, forwards, found⟩
    obtain ⟨e, entry⟩ := exists_mem_entriesOf owners r exit
    obtain ⟨source, leads⟩ := route_of_mem_entriesOf entry
    have listed : r ∈ main.routes.filter (!·.nonForwarding) :=
      List.mem_filter.2 ⟨held, by simp [forwards]⟩
    exact ⟨r.network, e, mem_foldl_addRoute.2 (.inr ⟨r, listed, rfl, exit, found, entry⟩), source, leads⟩

/-- The entries of a forwarding route lead to ends of its resolution chains, and to all ends of those
that visit no network of a dead end. They lead to all ends, and there are none only if there is no
chain, if no network has both dead ends and routes that lead on. No entry set is empty. -/
theorem forwarding_follows_chains (keyed : main.Keyed) (owners : Owners) (held : r ∈ main.routes)
    (forwards : r.nonForwarding = false) :
    (ofRib main owners).exitsOf r ⊆ main.chainEnds r ∧
      main.clearEnds r ⊆ (ofRib main owners).exitsOf r ∧
      (main.Unmixed r → (ofRib main owners).exitsOf r = main.chainEnds r ∧
        ((ofRib main owners).exitsOf r = ∅ ↔ ¬∃ exit, exit ∈ main.chainEnds r)) ∧
      (ofRib main owners).Occupied := by
  refine ⟨?_, ?_, ?_, occupied_ofRib main owners⟩
  · intro exit leads
    exact keyed.exits_sound held (mem_exitsOf_ofRib.1 leads).2.2
  · intro exit clear
    exact mem_exitsOf_ofRib.2 ⟨held, forwards, keyed.exits_complete held clear⟩
  · intro unmixed
    have exact : (ofRib main owners).exitsOf r = main.chainEnds r := by
      ext exit
      rw [mem_exitsOf_ofRib, ← keyed.exits_exact held unmixed]
      simp [held, forwards]
    refine ⟨exact, ?_⟩
    rw [exact, Set.eq_empty_iff_forall_notMem, not_exists]

def staticTo (network : InterfaceAddress) (hop : Address) : Route where
  network := network.network
  protocol := .static
  distance := 1
  nextHop := .address hop

def attached : Route where
  network := (InterfaceAddress.ofOctets 10 0 1 0 24).network
  protocol := .connected
  distance := 0
  nextHop := .interface "eth0" none

def relay : Route := staticTo (.ofOctets 20 0 0 0 24) (.ofOctets 10 0 1 1)

/-- A second route for the same network, whose next hop nothing leads to. -/
def deadEnd : Route := staticTo (.ofOctets 20 0 0 0 24) (.ofOctets 5 5 5 5)

def far : Route := staticTo (.ofOctets 30 0 0 0 24) (.ofOctets 20 0 0 1)

def mixed : Rib := ((Rib.empty .main).mergeAll [attached, deadEnd, relay, far]).1

theorem mixed_keyed : mixed.Keyed := (Rib.Keyed.empty .main).mergeAll

theorem relay_leads {next : Route} : mixed.Leads relay next ↔ next = attached := by
  have found : mixed.longestForwardingMatch? (.ofOctets 10 0 1 1) relay.network =
      some (attached.network, .singleton attached) := by decide +kernel
  rw [Rib.leads_iff rfl found]
  have only : Rib.forwardingRoutes (.singleton attached) = [attached] := by decide
  rw [only, List.mem_singleton]

theorem far_leads : mixed.Leads far relay := by
  have found : mixed.longestForwardingMatch? (.ofOctets 20 0 0 1) far.network =
      some (relay.network, .ofList [deadEnd, relay]) := by decide +kernel
  exact (Rib.leads_iff rfl found).2 (by decide +kernel)

theorem attached_leads {next : Route} : ¬mixed.Leads attached next := by
  rintro ⟨hop, address, -⟩
  cases address

theorem relay_unmixed : mixed.Unmixed relay := by
  intro x ways other _ next leads
  rcases ways.cases_head with rfl | ⟨y, first, rest⟩
  · exact other rfl
  · obtain rfl := relay_leads.1 first
    rcases rest.cases_head with rfl | ⟨z, second, -⟩
    · exact attached_leads leads
    · exact attached_leads second

/-- The chain of the relay is found. -/
theorem relay_forwarded : mixed.Keyed ∧ relay ∈ mixed.routes ∧ relay.nonForwarding = false ∧
    mixed.Unmixed relay ∧ (ofRib mixed ⟨.empty⟩).exitsOf relay = mixed.chainEnds relay ∧
    ("eth0", some (.ofOctets 10 0 1 1)) ∈ (ofRib mixed ⟨.empty⟩).exitsOf relay := by
  have held : relay ∈ mixed.routes := by decide +kernel
  have all := forwarding_follows_chains mixed_keyed ⟨.empty⟩ held rfl
  have exact := (all.2.2.1 relay_unmixed).1
  refine ⟨mixed_keyed, held, rfl, relay_unmixed, exact, ?_⟩
  rw [exact]
  exact .through rfl (Set.notMem_empty _) (relay_leads.2 rfl) (.attached rfl)

/-- The far network can be reached through the relay, but the dead end beside it hides this. -/
theorem dead_end_hides_chain : ¬∀ (main : Rib) (owners : Owners) (r : Route), main.Keyed →
    r ∈ main.routes → r.nonForwarding = false →
    (ofRib main owners).exitsOf r = main.chainEnds r := by
  intro resolved
  have chain : ("eth0", some (Address.ofOctets 10 0 1 1)) ∈ mixed.chainEnds far :=
    .through rfl (Set.notMem_empty _) far_leads
      (.through rfl (by decide +kernel) (relay_leads.2 rfl) (.attached rfl))
  rw [← resolved mixed ⟨.empty⟩ far mixed_keyed (by decide +kernel) rfl, mem_exitsOf_ofRib] at chain
  have none : mixed.exits far = .empty := by decide +kernel
  rw [none] at chain
  exact SortedSet.not_mem_empty _ chain.2.2

end ForwardingTable

end RoutePlane
