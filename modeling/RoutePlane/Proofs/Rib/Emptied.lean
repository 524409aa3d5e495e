import RoutePlane.Proofs.Rib.AnyOrder
import RoutePlane.Proofs.Rib.History
import RoutePlane.Proofs.Rib.LongestMatch
import RoutePlane.Proofs.Router.Installation

/-! Look-up in tables that lose routes. When the last route for a network is taken out, its entry
stays, and a look-up that comes to such an entry finds nothing, although a larger network around the
address may hold routes. Every other look-up finds the longest network that holds routes. -/
namespace RoutePlane

/-- Of the listed networks around a block there is a longest one. -/
theorem exists_isLongest {ν : Type} {m : SortedMap Prefix ν} {eligible : Prefix × ν → Bool}
    {block : Prefix} {b : Prefix × ν} (member : b ∈ m.toList.filter eligible)
    (covers : b.1.contains block = true) :
    ∃ c, IsLongest (· ∈ m.toList.filter eligible) block c := by
  cases found : lastCovering (m.toList.filter eligible) block with
  | none =>
    have absent := lastCovering_eq_none_iff.1 found b member
    rw [covers] at absent
    cases absent
  | some c => exact ⟨c, isLongest_of_lastCovering (m.increasing.filter _) found⟩

namespace Rib

variable {t : Rib} {p block excluded : Prefix} {b c : Prefix × RouteSet} {a : Address}

def Emptied (t : Rib) (p : Prefix) : Prop := t.entries.get? p = some .empty

def Others (t : Rib) (excluded : Prefix) (b : Prefix × RouteSet) : Prop :=
  b ∈ t.bindings ∧ b.1 ≠ excluded

theorem mem_bindings : b ∈ t.bindings ↔ b ∈ t.entries.toList ∧ b.2 ≠ .empty := by
  rw [bindings, List.mem_filter, Bool.not_eq_true', Bool.eq_false_iff, Ne, SortedSet.isEmpty_iff]

theorem emptied_of_listed (listed : b ∈ t.entries.toList) (none : b.2 = .empty) :
    t.Emptied b.1 := by
  rw [Emptied, SortedMap.mem_toList_iff.1 listed, none]

theorem eq_of_network_eq (hb : b ∈ t.bindings) (hc : c ∈ t.bindings) (same : b.1 = c.1) : b = c :=
  SortedMap.eq_of_key_eq (mem_bindings.1 hb).1 (mem_bindings.1 hc).1 same

/-- The longest entry around a block counts if it has routes. It is then the longest one with
routes, and longer than the emptied ones. -/
theorem covering?_filter_eq_some_iff :
    (t.covering? block).filter (!·.2.isEmpty) = some b ↔
      IsLongest (· ∈ t.bindings) block b ∧
        ∀ p, t.Emptied p → p.contains block = true → p.length < b.1.length := by
  rw [Option.filter_eq_some_iff, covering?, lastCovering_eq_some_iff, Bool.not_eq_true',
    Bool.eq_false_iff, Ne, SortedSet.isEmpty_iff]
  constructor
  · rintro ⟨⟨listed, covers, longest⟩, some⟩
    refine ⟨⟨mem_bindings.2 ⟨listed, some⟩, covers, ?_⟩, ?_⟩
    · exact fun c bound => longest c (mem_bindings.1 bound).1
    · intro p emptied around
      have entry := SortedMap.mem_toList_iff.2 emptied
      refine lt_of_le_of_ne (longest _ entry around) fun level => some ?_
      have inside := Prefix.contains_of_both around covers (le_of_eq level)
      have same := Prefix.eq_of_contains inside (le_of_eq level.symm)
      exact congrArg Prod.snd (SortedMap.eq_of_key_eq listed entry same.symm)
  · rintro ⟨⟨bound, covers, longest⟩, shorter⟩
    refine ⟨⟨(mem_bindings.1 bound).1, covers, ?_⟩, (mem_bindings.1 bound).2⟩
    intro c listed around
    by_cases none : c.2 = .empty
    · exact le_of_lt (shorter c.1 (emptied_of_listed listed none) around)
    · exact longest c (mem_bindings.2 ⟨listed, none⟩) around

theorem longestMatch?_eq_some_iff :
    t.longestMatch? a = some b ↔
      IsLongest (· ∈ t.bindings) (.host a) b ∧
        ∀ p, t.Emptied p → p.contains (.host a) = true → p.length < b.1.length :=
  covering?_filter_eq_some_iff

/-- If the excluded network is the longest with routes, the next one lies around its parent. -/
theorem isLongest_others_iff {up : Prefix} (longest : IsLongest (· ∈ t.bindings) block c)
    (parent : c.1.parent? = some up) :
    IsLongest (· ∈ t.bindings) up b ↔ IsLongest (t.Others c.1) block b := by
  have outside {q : Prefix} (covers : q.contains up = true) : q ≠ c.1 := by
    rintro rfl
    have inside := Prefix.length_le_of_contains covers
    have step := Prefix.length_parent parent
    omega
  have wider {q : Prefix} (covers : q.contains up = true) : q.contains block = true :=
    Prefix.contains_trans (Prefix.contains_trans covers (Prefix.parent_contains parent))
      longest.covers
  have narrower {d : Prefix × RouteSet} (other : t.Others c.1 d)
      (covers : d.1.contains block = true) : d.1.contains up = true :=
    Prefix.contains_parent parent (longest.within other.1 covers) other.2
  constructor
  · rintro ⟨bound, covers, greatest⟩
    refine ⟨⟨bound, outside covers⟩, wider covers, ?_⟩
    exact fun d other around => greatest d other.1 (narrower other around)
  · rintro ⟨other, covers, greatest⟩
    refine ⟨other.1, narrower other covers, ?_⟩
    exact fun d member around => greatest d ⟨member, outside around⟩ (wider around)

theorem longestMatchExcluding?_eq_some_iff :
    t.longestMatchExcluding? a excluded = some b ↔
      IsLongest (t.Others excluded) (.host a) b ∧
        ∀ p, t.Emptied p → p.contains (.host a) = true → p.length < b.1.length := by
  rw [longestMatchExcluding?]
  cases found : t.longestMatch? a with
  | none =>
    refine ⟨nofun, ?_⟩
    rintro ⟨longest, shorter⟩
    obtain ⟨c, top⟩ := exists_isLongest longest.listed.1 longest.covers
    have above := top.longest b longest.listed.1 longest.covers
    have hit := longestMatch?_eq_some_iff.2
      ⟨top, fun p emptied around => lt_of_lt_of_le (shorter p emptied around) above⟩
    rw [found] at hit
    cases hit
  | some c =>
    obtain ⟨longest, shorter⟩ := longestMatch?_eq_some_iff.1 found
    by_cases here : c.1 = excluded
    · subst here
      simp only [↓reduceIte]
      cases parent : c.1.parent? with
      | none =>
        -- the excluded network is the block of all addresses, so no other lies around it
        refine ⟨nofun, ?_⟩
        rintro ⟨other, -⟩
        have inside := longest.within other.listed.1 other.covers
        have all := Prefix.parent?_eq_none_iff.1 parent
        exact absurd (Prefix.eq_of_contains inside (by omega)) other.listed.2
      | some up =>
        rw [Option.bind_some, covering?_filter_eq_some_iff, isLongest_others_iff longest parent]
        refine and_congr_right fun _ => forall₂_congr fun p emptied => ?_
        have around : p.contains up = true ↔ p.contains (.host a) = true := by
          constructor
          · intro covers
            have wider := Prefix.contains_trans covers (Prefix.parent_contains parent)
            exact Prefix.contains_trans wider longest.covers
          · intro covers
            have less := shorter p emptied covers
            have inside := Prefix.contains_of_both covers longest.covers (le_of_lt less)
            exact Prefix.contains_parent parent inside fun same => by rw [same] at less; omega
        rw [around]
    · simp only [if_neg here, Option.some.injEq]
      have other : IsLongest (t.Others excluded) (.host a) c :=
        ⟨⟨longest.listed, here⟩, longest.covers, fun d member => longest.longest d member.1⟩
      constructor
      · rintro rfl
        exact ⟨other, shorter⟩
      · rintro ⟨found, -⟩
        exact eq_of_network_eq longest.listed found.listed.1 (other.network_eq found)

/-- Without emptied entries a look-up succeeds wherever another network around the address holds a
route. -/
theorem isSome_longestMatchExcluding? (filled : ∀ p, ¬t.Emptied p) :
    (t.longestMatchExcluding? a excluded).isSome = true ↔
      ∃ p, p ≠ excluded ∧ p.contains (.host a) = true ∧ ∃ x, x ∈ t.held p := by
  rw [Option.isSome_iff_exists]
  constructor
  · rintro ⟨b, found⟩
    obtain ⟨⟨bound, other⟩, covers, -⟩ := (longestMatchExcluding?_eq_some_iff.1 found).1
    exact ⟨b.1, other, covers, exists_held_iff_bindings.2 ⟨b.2, bound⟩⟩
  · rintro ⟨p, other, covers, holds⟩
    obtain ⟨routes, bound⟩ := exists_held_iff_bindings.1 holds
    have member : (p, routes) ∈ t.entries.toList.filter
        (fun c => !c.2.isEmpty && decide (c.1 ≠ excluded)) := by
      rw [List.mem_filter, Bool.and_eq_true, decide_eq_true_eq]
      exact ⟨(List.mem_filter.1 bound).1, (List.mem_filter.1 bound).2, other⟩
    obtain ⟨b, longest⟩ := exists_isLongest member covers
    have same {c : Prefix × RouteSet} : c ∈ t.entries.toList.filter
        (fun c => !c.2.isEmpty && decide (c.1 ≠ excluded)) ↔ t.Others excluded c := by
      rw [Others, bindings, List.mem_filter, List.mem_filter, Bool.and_eq_true, decide_eq_true_eq,
        and_assoc]
    simp only [same] at longest
    exact ⟨b, longestMatchExcluding?_eq_some_iff.2 ⟨longest, fun p none => absurd none (filled p)⟩⟩

/-- An operation that adds routes, or one that keeps of the routes for a network the fitting ones. -/
inductive Edit where
  | add (call : Call)
  | retain (network : Prefix) (keep : Route → Bool)

namespace Edit

def run (t : Rib) : Edit → Rib × Bool
  | add call => call.run t
  | retain network keep => t.retain network keep

def routes : Edit → Set Route
  | add call => call.routes
  | retain _ _ => ∅

end Edit

def edited (k : RibKind) (edits : List Edit) : Rib :=
  edits.foldl (fun t e => (e.run t).1) (.empty k)

variable {k : RibKind} {edits : List Edit} {e : Edit} {r : Route} {l : List Route}
  {keep : Route → Bool} {q : Prefix}

@[simp] theorem edited_append_singleton : edited k (edits ++ [e]) = (e.run (edited k edits)).1 := by
  simp [edited]

@[simp] theorem kind_edited : (edited k edits).kind = k := by
  induction edits using List.reverseRecOn with
  | nil => rfl
  | append_singleton edits e ih =>
    rw [edited_append_singleton]
    cases e with
    | add call =>
      obtain ⟨l, -, merged⟩ := call.exists_mergeAll (edited k edits)
      rw [Edit.run, merged, kind_mergeAll, ih]
    | retain network keep => rw [Edit.run, kind_retain, ih]

theorem isSome_get?_retain :
    ((t.retain q keep).1.entries.get? p).isSome = (t.entries.get? p).isSome := by
  rw [retain]
  cases found : t.entries.get? q with
  | none => rfl
  | some routes =>
    by_cases here : p = q
    · simp [here, found]
    · simp [SortedMap.get?_insert_of_ne _ _ here]

/-- A network has an entry once a route for it was brought, whatever is taken out later. -/
theorem isSome_get?_edited :
    ((edited k edits).entries.get? p).isSome = true ↔
      ∃ e ∈ edits, ∃ r ∈ e.routes, k.Admits r ∧ r.network = p := by
  induction edits using List.reverseRecOn with
  | nil => simp [edited, empty, SortedMap.get?, SortedMap.empty]
  | append_singleton edits e ih =>
    have split : (∃ f ∈ edits ++ [e], ∃ r ∈ f.routes, k.Admits r ∧ r.network = p) ↔
        (∃ f ∈ edits, ∃ r ∈ f.routes, k.Admits r ∧ r.network = p) ∨
          ∃ r ∈ e.routes, k.Admits r ∧ r.network = p := by
      simp only [List.mem_append, List.mem_singleton, or_and_right, exists_or, exists_eq_left]
    rw [edited_append_singleton, split, ← ih]
    cases e with
    | add call =>
      obtain ⟨l, same, merged⟩ := call.exists_mergeAll (edited k edits)
      rw [Edit.run, merged, isSome_get?_mergeAll, kind_edited, Edit.routes, ← same]
      rfl
    | retain network keep => simp [Edit.run, isSome_get?_retain, Edit.routes]

theorem emptied_iff : t.Emptied p ↔ (t.entries.get? p).isSome = true ∧ ∀ x, x ∉ t.held p := by
  rw [Emptied, held]
  cases t.entries.get? p with
  | none => simp
  | some routes =>
    have none : routes = .empty ↔ ∀ x, x ∉ routes := by
      rw [← not_exists, SortedSet.exists_mem_iff, not_not]
    simp [none]

theorem not_emptied_empty : ¬(empty k).Emptied p := nofun

/-- An entry is never empty after an offer. -/
theorem exists_mem_offer (k : RibKind) (r : Route) (stored : RouteSet) :
    ∃ x, x ∈ (offer k r stored).1 := by
  rw [offer]
  cases first : stored.first? with
  | none => exact ⟨r, SortedSet.mem_singleton.2 rfl⟩
  | some current =>
    have inside := SortedSet.mem_of_first? first
    cases order : k.preference r current with
    | lt => exact ⟨r, by simp [order]⟩
    | eq => exact ⟨r, by simp [order]⟩
    | gt => exact ⟨current, by simpa [order]⟩

theorem Emptied.of_merge (emptied : (t.merge r).1.Emptied p) : t.Emptied p := by
  by_cases admits : t.kind.Admits r
  · by_cases here : p = r.network
    · subst here
      have none := (emptied_iff.1 emptied).2
      rw [held_merge_self admits] at none
      obtain ⟨x, member⟩ := exists_mem_offer t.kind r (t.held r.network)
      exact absurd member (none x)
    · rwa [Emptied, merge, if_neg admits, SortedMap.get?_insert_of_ne _ _ here] at emptied
  · rwa [merge_of_not_admits admits] at emptied

theorem Emptied.of_mergeAll (emptied : (t.mergeAll l).1.Emptied p) : t.Emptied p := by
  induction l generalizing t with
  | nil => exact emptied
  | cons r l ih =>
    rw [mergeAll_cons] at emptied
    exact Emptied.of_merge (ih emptied)

theorem Emptied.of_retain (emptied : (t.retain q keep).1.Emptied p) (ne : p ≠ q) : t.Emptied p := by
  rw [emptied_iff, isSome_get?_retain, held_retain_of_ne ne] at emptied
  exact emptied_iff.2 emptied

/-- Only a network from which something was taken out can be emptied. -/
theorem Emptied.retained (emptied : (edited k edits).Emptied p) :
    ∃ keep, Edit.retain p keep ∈ edits := by
  induction edits using List.reverseRecOn with
  | nil => exact absurd emptied not_emptied_empty
  | append_singleton edits e ih =>
    have earlier (before : (edited k edits).Emptied p) : ∃ keep, Edit.retain p keep ∈ edits ++ [e] := by
      obtain ⟨keep, member⟩ := ih before
      exact ⟨keep, List.mem_append_left _ member⟩
    rw [edited_append_singleton] at emptied
    cases e with
    | add call =>
      obtain ⟨l, -, merged⟩ := call.exists_mergeAll (edited k edits)
      rw [Edit.run, merged] at emptied
      exact earlier emptied.of_mergeAll
    | retain network keep =>
      by_cases here : p = network
      · exact ⟨keep, by simp [here]⟩
      · exact earlier (Emptied.of_retain emptied here)

/-- What a look-up finds after any edits is the longest network around the address that holds a route,
or the longest other than the excluded one. It finds this network exactly if every emptied network
around the address is shorter. The emptied networks are those for which a route was brought and none
is held any more, and each of them has had routes taken out. -/
theorem longest_match_edited (k : RibKind) (edits : List Edit) (a : Address) (x : Prefix) :
    (∀ b, (edited k edits).longestMatch? a = some b ↔
      IsLongest (· ∈ (edited k edits).bindings) (.host a) b ∧
        ∀ p, (edited k edits).Emptied p → p.contains (.host a) = true → p.length < b.1.length) ∧
    (∀ b, (edited k edits).longestMatchExcluding? a x = some b ↔
      IsLongest ((edited k edits).Others x) (.host a) b ∧
        ∀ p, (edited k edits).Emptied p → p.contains (.host a) = true → p.length < b.1.length) ∧
    ∀ p, ((edited k edits).Emptied p ↔
        (∃ e ∈ edits, ∃ r ∈ e.routes, k.Admits r ∧ r.network = p) ∧
          ∀ y, y ∉ (edited k edits).held p) ∧
      ((edited k edits).Emptied p → ∃ keep, Edit.retain p keep ∈ edits) := by
  refine ⟨fun b => longestMatch?_eq_some_iff, fun b => longestMatchExcluding?_eq_some_iff, ?_⟩
  intro p
  refine ⟨?_, Emptied.retained⟩
  rw [emptied_iff, isSome_get?_edited]

def discarding (network : InterfaceAddress) : Route where
  network := network.network
  protocol := .static
  distance := 1
  nextHop := .discard

/-- Two nested networks, and then all routes for the inner one are taken out. -/
def innerEmptied : List Edit :=
  [.add (.merge (discarding (.ofOctets 10 0 0 0 8))),
    .add (.merge (discarding (.ofOctets 10 1 0 0 16))),
    .retain (InterfaceAddress.ofOctets 10 1 0 0 16).network fun _ => false]

/-- The outer network holds a route and is the only one around the address that does, but the
emptied entry inside it ends the look-up. -/
theorem emptied_entry_hides_outer : ¬∀ (k : RibKind) (edits : List Edit) (a : Address)
    (b : Prefix × RouteSet), IsLongest (· ∈ (edited k edits).bindings) (.host a) b →
    (edited k edits).longestMatch? a = some b := by
  intro exact
  let outer := discarding (.ofOctets 10 0 0 0 8)
  have bindings : (edited .main innerEmptied).bindings = [(outer.network, .singleton outer)] := by
    decide +kernel
  have hidden : (edited .main innerEmptied).longestMatch? (.ofOctets 10 1 1 1) = none := by
    decide +kernel
  have longest : IsLongest (· ∈ (edited .main innerEmptied).bindings) (.host (.ofOctets 10 1 1 1))
      (outer.network, .singleton outer) := by
    rw [bindings]
    refine ⟨List.mem_singleton_self _, by decide, ?_⟩
    intro c member _
    rw [List.mem_singleton.1 member]
  have found := exact .main innerEmptied _ _ longest
  rw [hidden] at found
  cases found

end Rib

end RoutePlane
