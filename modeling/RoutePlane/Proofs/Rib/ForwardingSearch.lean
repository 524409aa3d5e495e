import RoutePlane.Proofs.Rib.Emptied

/-! The search for an entry that forwards. A look-up that comes to the excluded network, or to an entry
without a forwarding route, goes on with the next larger block around that network. Each look-up finds a
shorter network than the one before, so the search ends after at most one look-up per length, and it passes
over no entry that could be used. -/
namespace RoutePlane

namespace Rib

variable {t : Rib} {excluded block p : Prefix} {b : Prefix × RouteSet} {a : Address}
  {result other : Option (Prefix × RouteSet)} {steps n m : Nat}

def Usable (excluded : Prefix) (b : Prefix × RouteSet) : Prop := b.1 ≠ excluded ∧ forwards b.2 = true

instance : Decidable (Usable excluded b) := inferInstanceAs (Decidable (_ ∧ _))

/-- A search from a block that ends, with the number of its look-ups and with what it finds. The search
has no bound of its own. -/
inductive Search (t : Rib) (excluded : Prefix) : Prefix → Nat → Option (Prefix × RouteSet) → Prop
  | missing {block : Prefix} (free : t.covering? block = none) : Search t excluded block 1 none
  | found {block : Prefix} {b : Prefix × RouteSet} (hit : t.covering? block = some b)
      (usable : Usable excluded b) : Search t excluded block 1 (some b)
  | top {block : Prefix} {b : Prefix × RouteSet} (hit : t.covering? block = some b)
      (useless : ¬Usable excluded b) (last : b.1.parent? = none) : Search t excluded block 1 none
  | onward {block up : Prefix} {b : Prefix × RouteSet} {n : Nat} {result : Option (Prefix × RouteSet)}
      (hit : t.covering? block = some b) (useless : ¬Usable excluded b)
      (parent : b.1.parent? = some up) (rest : Search t excluded up n result) :
      Search t excluded block (n + 1) result

theorem Search.unique (search : t.Search excluded block n result)
    (again : t.Search excluded block m other) : n = m ∧ result = other := by
  induction search generalizing m other with
  | missing free => cases again <;> simp_all
  | found hit usable => cases again <;> simp_all
  | top hit useless last => cases again <;> simp_all
  | onward hit useless parent rest ih =>
    cases again with
    | onward hit' useless' parent' rest' =>
      obtain rfl := Option.some.inj (hit.symm.trans hit')
      obtain rfl := Option.some.inj (parent.symm.trans parent')
      obtain ⟨rfl, rfl⟩ := ih rest'
      exact ⟨rfl, rfl⟩
    | _ => simp_all

/-- The search ends after at most one look-up for each length up to that of the block. -/
theorem search_forwardingFrom? (enough : block.length < steps) : ∃ n ≤ block.length + 1,
    t.Search excluded block n (t.forwardingFrom? excluded steps block) := by
  induction steps generalizing block with
  | zero => omega
  | succ steps ih =>
    rw [forwardingFrom?]
    cases hit : t.covering? block with
    | none => exact ⟨1, Nat.le_add_left 1 _, .missing hit⟩
    | some b =>
      by_cases usable : Usable excluded b
      · refine ⟨1, Nat.le_add_left 1 _, ?_⟩
        simp only [if_pos (show b.1 ≠ excluded ∧ forwards b.2 = true from usable)]
        exact .found hit usable
      · simp only [if_neg (show ¬(b.1 ≠ excluded ∧ forwards b.2 = true) from usable)]
        cases parent : b.1.parent? with
        | none => exact ⟨1, Nat.le_add_left 1 _, .top hit usable parent⟩
        | some up =>
          have covers := (lastCovering_eq_some_iff.1 hit).covers
          have shorter := Prefix.length_le_of_contains covers
          have step := Prefix.length_parent parent
          have within : up.length < steps := by omega
          obtain ⟨n, bound, rest⟩ := ih within
          exact ⟨n + 1, by omega, .onward hit usable parent rest⟩

structure Candidate (t : Rib) (a : Address) (excluded p : Prefix) : Prop where
  around : p.containsAddress a = true
  other : p ≠ excluded
  forwards : ∃ r ∈ t.held p, r.nonForwarding = false

theorem relays_iff : t.Relays excluded b ↔
    b.2 = t.held b.1 ∧ b.1 ≠ excluded ∧ ∃ r ∈ t.held b.1, r.nonForwarding = false := by
  have bound : b ∈ t.entries.toList ↔ t.entries.get? b.1 = some b.2 := SortedMap.mem_toList_iff
  rw [Relays, bound, held]
  constructor
  · rintro ⟨stored, other, forwards⟩
    rw [stored]
    exact ⟨rfl, other, forwards⟩
  · rintro ⟨same, other, r, member, forwards⟩
    cases stored : t.entries.get? b.1 with
    | none =>
      rw [stored] at member
      cases member
    | some routes =>
      rw [stored] at same member
      exact ⟨congrArg some same.symm, other, r, same ▸ member, forwards⟩

theorem candidate_iff : t.Candidate a excluded p ↔
    t.Relays excluded (p, t.held p) ∧ p.contains (.host a) = true := by
  rw [relays_iff, Prefix.contains_host_iff]
  constructor
  · rintro ⟨around, other, forwards⟩
    exact ⟨⟨rfl, other, forwards⟩, around⟩
  · rintro ⟨⟨-, other, forwards⟩, around⟩
    exact ⟨around, other, forwards⟩

theorem longestForwardingMatch?_eq_some {routes : RouteSet} :
    t.longestForwardingMatch? a excluded = some (p, routes) ↔
      (t.Candidate a excluded p ∧ ∀ q, t.Candidate a excluded q → q.length ≤ p.length) ∧
        routes = t.held p := by
  rw [longestForwardingMatch?_eq_some_iff]
  constructor
  · rintro ⟨relays, covers, longest⟩
    obtain rfl : routes = t.held p := (relays_iff.1 relays).1
    refine ⟨⟨candidate_iff.2 ⟨relays, covers⟩, fun q candidate => ?_⟩, rfl⟩
    obtain ⟨relays', covers'⟩ := candidate_iff.1 candidate
    exact longest _ relays' covers'
  · rintro ⟨⟨candidate, longest⟩, rfl⟩
    obtain ⟨relays, covers⟩ := candidate_iff.1 candidate
    refine ⟨relays, covers, ?_⟩
    rintro ⟨q, routes⟩ relays' covers'
    obtain rfl : routes = t.held q := (relays_iff.1 relays').1
    exact longest q (candidate_iff.2 ⟨relays', covers'⟩)

theorem longestForwardingMatch?_eq_none :
    t.longestForwardingMatch? a excluded = none ↔ ∀ p, ¬t.Candidate a excluded p := by
  constructor
  · intro none p candidate
    obtain ⟨relays, covers⟩ := candidate_iff.1 candidate
    have eligible {c : Prefix × RouteSet} :
        c ∈ t.entries.toList.filter (fun c => decide (Usable excluded c)) ↔ t.Relays excluded c := by
      rw [List.mem_filter, decide_eq_true_eq, Usable, forwards_iff, Relays]
    obtain ⟨c, longest⟩ := exists_isLongest (eligible.2 relays) covers
    simp only [eligible] at longest
    rw [longestForwardingMatch?_eq_some_iff.2 longest] at none
    cases none
  · intro free
    cases found : t.longestForwardingMatch? a excluded with
    | none => rfl
    | some b => exact absurd (longestForwardingMatch?_eq_some.1 found).1.1 (free b.1)

/-- In every table, whatever was brought to it and taken out of it, the search for a way to an address ends
within 33 look-ups and in one way only. It finds the longest of the networks around the address other than
the excluded one that hold a forwarding route, with all routes of that network, and nothing exactly if there
is no such network. -/
theorem forwarding_match_is_longest (t : Rib) (a : Address) (excluded : Prefix) :
    (∃ n ≤ 33, t.Search excluded (.host a) n (t.longestForwardingMatch? a excluded)) ∧
    (∀ n found, t.Search excluded (.host a) n found →
      n ≤ 33 ∧ found = t.longestForwardingMatch? a excluded) ∧
    (∀ p routes, t.longestForwardingMatch? a excluded = some (p, routes) ↔
      (t.Candidate a excluded p ∧ ∀ q, t.Candidate a excluded q → q.length ≤ p.length) ∧
        routes = t.held p) ∧
    (t.longestForwardingMatch? a excluded = none ↔ ∀ p, ¬t.Candidate a excluded p) := by
  have enough : (Prefix.host a).length < 33 := Nat.lt_succ_self 32
  obtain ⟨n, bound, search⟩ : ∃ n ≤ 33,
      t.Search excluded (.host a) n (t.longestForwardingMatch? a excluded) :=
    search_forwardingFrom? enough
  refine ⟨⟨n, bound, search⟩, fun m found other => ?_,
    fun p routes => longestForwardingMatch?_eq_some, longestForwardingMatch?_eq_none⟩
  obtain ⟨rfl, rfl⟩ := other.unique search
  exact ⟨bound, rfl⟩

end Rib

end RoutePlane
