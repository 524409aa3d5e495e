import Mathlib.Data.List.Induction
import RoutePlane.Proofs.Address.Nesting
import RoutePlane.Proofs.Order.Contents
import RoutePlane.Rib.Forwarding

/-! Look-up by address finds the longest match: of the networks that contain the address, and for
next hops also forward and are not excluded, the one with the greatest length. -/
namespace RoutePlane

variable {ν : Type}

/-- Among the eligible bindings, the one of the longest network that contains the block. -/
structure IsLongest (eligible : Prefix × ν → Prop) (block : Prefix) (b : Prefix × ν) : Prop where
  listed : eligible b
  covers : b.1.contains block = true
  longest : ∀ c, eligible c → c.1.contains block = true → c.1.length ≤ b.1.length

/-- Every eligible network around the block lies around the longest one. -/
theorem IsLongest.within {eligible : Prefix × ν → Prop} {block : Prefix} {b c : Prefix × ν}
    (found : IsLongest eligible block b) (listed : eligible c)
    (covers : c.1.contains block = true) : c.1.contains b.1 = true :=
  Prefix.contains_of_both covers found.covers (found.longest c listed covers)

theorem IsLongest.network_eq {eligible : Prefix × ν → Prop} {block : Prefix} {b c : Prefix × ν}
    (hb : IsLongest eligible block b) (hc : IsLongest eligible block c) : b.1 = c.1 :=
  Prefix.eq_of_contains (hc.within hb.listed hb.covers) (hb.longest c hc.listed hc.covers)

theorem lastCovering_concat (bindings : List (Prefix × ν)) (b : Prefix × ν) (block : Prefix) :
    lastCovering (bindings ++ [b]) block =
      if b.1.contains block then some b else lastCovering bindings block := by
  simp [lastCovering]

theorem lastCovering_eq_none_iff {bindings : List (Prefix × ν)} {block : Prefix} :
    lastCovering bindings block = none ↔ ∀ b ∈ bindings, b.1.contains block = false := by
  induction bindings using List.reverseRecOn with
  | nil => simp [lastCovering]
  | append_singleton rest b ih =>
    rw [lastCovering_concat]
    by_cases covers : b.1.contains block = true
    · rw [if_pos covers]
      refine ⟨nofun, ?_⟩
      intro none
      rw [none b (by simp)] at covers
      cases covers
    · rw [if_neg covers, ih]
      simp only [Bool.not_eq_true] at covers
      simp only [List.mem_append, List.mem_singleton, or_imp, forall_and, forall_eq, covers,
        and_true]

/-- The networks around a block come in the order of their lengths, so the last is the longest. -/
theorem isLongest_of_lastCovering {bindings : List (Prefix × ν)} {block : Prefix} {b : Prefix × ν}
    (increasing : bindings.Pairwise (fun b c => compare b.1 c.1 = .lt))
    (found : lastCovering bindings block = some b) : IsLongest (· ∈ bindings) block b := by
  induction bindings using List.reverseRecOn with
  | nil => cases found
  | append_singleton rest last ih =>
    rw [lastCovering_concat] at found
    obtain ⟨before, -, order⟩ := List.pairwise_append.1 increasing
    by_cases covers : last.1.contains block = true
    · rw [if_pos covers] at found
      obtain rfl := Option.some.inj found
      refine ⟨by simp, covers, ?_⟩
      intro c member around
      by_contra longer
      have inside := Prefix.contains_of_both covers around (by omega)
      have ne : last.1 ≠ c.1 := fun same => longer (by rw [same])
      have earlier : c ∈ rest := by
        rcases List.mem_append.1 member with earlier | here
        · exact earlier
        · exact absurd (congrArg Prod.fst (List.mem_singleton.1 here)).symm ne
      have lt := order c earlier last (by simp)
      rw [Std.OrientedCmp.gt_of_lt (Prefix.compare_lt_of_contains inside ne)] at lt
      cases lt
    · rw [if_neg covers] at found
      obtain ⟨listed, around, longest⟩ := ih before found
      refine ⟨List.mem_append_left _ listed, around, ?_⟩
      intro c member around'
      rcases List.mem_append.1 member with earlier | here
      · exact longest c earlier around'
      · rw [List.mem_singleton.1 here] at around'
        exact absurd around' covers

theorem SortedMap.eq_of_key_eq {m : SortedMap Prefix ν} {b c : Prefix × ν} (hb : b ∈ m.toList)
    (hc : c ∈ m.toList) (same : b.1 = c.1) : b = c := by
  have value : m.get? b.1 = some b.2 := SortedMap.mem_toList_iff.1 hb
  rw [same, SortedMap.mem_toList_iff.1 hc] at value
  exact Prod.ext same (Option.some.inj value).symm

theorem lastCovering_eq_some_iff {m : SortedMap Prefix ν} {block : Prefix} {b : Prefix × ν} :
    lastCovering m.toList block = some b ↔ IsLongest (· ∈ m.toList) block b := by
  constructor
  · exact isLongest_of_lastCovering m.increasing
  · intro longest
    cases found : lastCovering m.toList block with
    | none =>
      have absent := lastCovering_eq_none_iff.1 found b longest.listed
      rw [longest.covers] at absent
      cases absent
    | some c =>
      have other := isLongest_of_lastCovering m.increasing found
      rw [SortedMap.eq_of_key_eq other.listed longest.listed (other.network_eq longest)]

namespace ForwardingTable

/-- What a look-up finds: the entries of the longest network of the table around the address. -/
theorem lookup?_eq_some_iff {f : ForwardingTable} {a : Address}
    {found : Prefix × SortedSet ForwardingEntry} :
    f.lookup? a = some found ↔
      IsLongest (· ∈ f.entries.toList) (.host a) found ∧ found.2.isEmpty = false := by
  rw [lookup?, Option.filter_eq_some_iff, lastCovering_eq_some_iff]
  simp

end ForwardingTable

namespace Rib

variable {t : Rib} {excluded block : Prefix}

def Relays (t : Rib) (excluded : Prefix) (b : Prefix × RouteSet) : Prop :=
  b ∈ t.entries.toList ∧ b.1 ≠ excluded ∧ ∃ r ∈ b.2, r.nonForwarding = false

theorem forwards_iff {routes : RouteSet} :
    forwards routes = true ↔ ∃ r ∈ routes, r.nonForwarding = false := by
  simp [forwards, SortedSet.mem_def]

theorem relays_of_found {b : Prefix × RouteSet} (found : t.covering? block = some b)
    (usable : b.1 ≠ excluded ∧ forwards b.2 = true) : IsLongest (t.Relays excluded) block b := by
  have longest := lastCovering_eq_some_iff.1 found
  refine ⟨⟨longest.listed, usable.1, forwards_iff.1 usable.2⟩, longest.covers, ?_⟩
  intro c relays covers
  exact longest.longest c relays.1 covers

/-- If the longest match cannot be used, what can be used lies around its parent. -/
theorem isLongest_parent_iff {b c : Prefix × RouteSet} {up : Prefix}
    (found : t.covering? block = some b)
    (unusable : ¬(b.1 ≠ excluded ∧ forwards b.2 = true)) (parent : b.1.parent? = some up) :
    IsLongest (t.Relays excluded) up c ↔ IsLongest (t.Relays excluded) block c := by
  have longest := lastCovering_eq_some_iff.1 found
  have same {d : Prefix × RouteSet} (relays : t.Relays excluded d) :
      d.1.contains up = true ↔ d.1.contains block = true := by
    constructor
    · intro covers
      exact Prefix.contains_trans (Prefix.contains_trans covers (Prefix.parent_contains parent))
        longest.covers
    · intro covers
      refine Prefix.contains_parent parent (longest.within relays.1 covers) ?_
      intro equal
      obtain rfl := SortedMap.eq_of_key_eq relays.1 longest.listed equal
      exact unusable ⟨relays.2.1, forwards_iff.2 relays.2.2⟩
  constructor
  · rintro ⟨relays, covers, greatest⟩
    exact ⟨relays, (same relays).1 covers, fun d h around => greatest d h ((same h).2 around)⟩
  · rintro ⟨relays, covers, greatest⟩
    exact ⟨relays, (same relays).2 covers, fun d h around => greatest d h ((same h).1 around)⟩

theorem forwardingFrom?_eq_some_iff {steps : Nat} {b : Prefix × RouteSet}
    (enough : block.length < steps) :
    t.forwardingFrom? excluded steps block = some b ↔ IsLongest (t.Relays excluded) block b := by
  induction steps generalizing block with
  | zero => omega
  | succ steps ih =>
    rw [forwardingFrom?]
    cases found : t.covering? block with
    | none =>
      have absent := lastCovering_eq_none_iff.1 found
      refine ⟨nofun, ?_⟩
      intro longest
      have covers := absent b longest.listed.1
      rw [longest.covers] at covers
      cases covers
    | some c =>
      have longest := lastCovering_eq_some_iff.1 found
      by_cases usable : c.1 ≠ excluded ∧ forwards c.2 = true
      · have here := relays_of_found found usable
        simp only [if_pos usable, Option.some.injEq]
        constructor
        · rintro rfl
          exact here
        · intro other
          exact SortedMap.eq_of_key_eq here.listed.1 other.listed.1 (here.network_eq other)
      · simp only [if_neg usable]
        cases parent : c.1.parent? with
        | none =>
          -- the longest match is the block of all addresses, so nothing else is around
          refine ⟨nofun, ?_⟩
          intro other
          have inside := longest.within other.listed.1 other.covers
          have all := Prefix.parent?_eq_none_iff.1 parent
          have equal := Prefix.eq_of_contains inside (by omega)
          obtain rfl := SortedMap.eq_of_key_eq other.listed.1 longest.listed equal
          exact absurd ⟨other.listed.2.1, forwards_iff.2 other.listed.2.2⟩ usable
        | some up =>
          have shorter := Prefix.length_le_of_contains longest.covers
          have step := Prefix.length_parent parent
          rw [Option.bind_some, ih (by omega)]
          exact isLongest_parent_iff found usable parent

/-- A next hop is resolved through the longest entry around it that forwards and is not excluded. -/
theorem longestForwardingMatch?_eq_some_iff {a : Address} {b : Prefix × RouteSet} :
    t.longestForwardingMatch? a excluded = some b ↔ IsLongest (t.Relays excluded) (.host a) b :=
  forwardingFrom?_eq_some_iff (by decide : (32 : Nat) < 33)

end Rib

end RoutePlane
