import Mathlib.Data.Nat.Bitwise
import Mathlib.Data.Set.Basic
import Mathlib.Order.RelClasses
import RoutePlane.Proofs.Address.Nesting
import RoutePlane.Proofs.Address.Texts
import RoutePlane.Route.Format

/-! Blocks as sets of addresses. A block keeps the leading bits of an address and clears the others, and
it holds the addresses that agree with it on the leading bits. Containment of blocks is inclusion of
these sets, two blocks are nested or apart, and in the order of blocks those inside of a block directly
follow it. -/
namespace RoutePlane

namespace Address

def flip (a : Address) (k : Nat) : Address := ofNat (a.toNat ^^^ 2 ^ k)

theorem testBit_flip (a : Address) {k : Nat} (bound : k < 32) (j : Nat) :
    (a.flip k).toNat.testBit j = (a.toNat.testBit j ^^ decide (k = j)) := by
  have small : a.toNat ^^^ 2 ^ k < 2 ^ 32 :=
    Nat.xor_lt_two_pow a.toNat_lt (Nat.pow_lt_pow_right (by decide) bound)
  show (UInt32.ofNat (a.toNat ^^^ 2 ^ k)).toNat.testBit j = _
  rw [UInt32.toNat_ofNat', Nat.mod_eq_of_lt small, Nat.testBit_xor, Nat.testBit_two_pow]

end Address

namespace Prefix

variable {p q r : Prefix} {a : Address} {i : InterfaceAddress}

/-- The ways to make a block, each with the address and the length that it is made of. -/
inductive IsMadeOf : Prefix → InterfaceAddress → Prop
  | ofAddress {a : Address} {n : Nat} {p : Prefix} (le : n ≤ 32) (made : ofAddress? a n = some p) :
      IsMadeOf p ⟨a, n, le⟩
  | host (a : Address) : IsMadeOf (host a) ⟨a, 32, Nat.le_refl 32⟩
  | network (i : InterfaceAddress) : IsMadeOf i.network i
  | ofText {text : String} {i : InterfaceAddress} {p : Prefix}
      (parsed : InterfaceAddress.ofText? text = some i) (made : ofText? text = some p) : IsMadeOf p i
  | ofJson {j : Json} {i : InterfaceAddress} {p : Prefix} (parsed : ofJson? j = some i)
      (made : ofJson? j = some p) : IsMadeOf p i
  | ofBits (bits : UInt32) {n : Nat} (le : n ≤ 32) : IsMadeOf (ofBits bits n) ⟨⟨bits⟩, n, le⟩
  | tooLong (bits : UInt32) {n : Nat} (above : 32 < n) :
      IsMadeOf (ofBits bits n) ⟨.unspecified, 0, Nat.zero_le 32⟩

theorem eq_network_of_text {text : String} (parsed : InterfaceAddress.ofText? text = some i)
    (made : ofText? text = some p) : p = i.network := by
  rw [ofText?, parsed] at made
  exact (Option.some.inj made).symm

theorem IsMadeOf.eq_network (made : p.IsMadeOf i) : p = i.network := by
  cases made with
  | ofAddress le made =>
    rw [ofAddress?, dif_pos le] at made
    exact (Option.some.inj made).symm
  | host => rfl
  | network => rfl
  | ofText parsed made => exact eq_network_of_text parsed made
  | ofJson parsed made =>
    obtain ⟨text, read, parsed⟩ := Option.bind_eq_some_iff.1 parsed
    obtain ⟨text', read', made⟩ := Option.bind_eq_some_iff.1 made
    obtain rfl := Option.some.inj (read.symm.trans read')
    exact eq_network_of_text parsed made
  | ofBits bits le =>
    rw [Prefix.ofBits, ofAddress?, dif_pos le]
    rfl
  | tooLong bits above =>
    rw [Prefix.ofBits, ofAddress?, dif_neg (by omega)]
    rfl

/-- The block around an address keeps its leading bits and clears the others. -/
theorem testBit_around (a : Address) {n : Nat} (le : n ≤ 32) (k : Nat) :
    (around a n le).network.toNat.testBit k = (decide (32 - n ≤ k) && a.toNat.testBit k) := by
  rw [toNat_around, blockSize_eq, Nat.testBit_mul_two_pow, Nat.testBit_div_two_pow]
  by_cases leading : 32 - n ≤ k <;> simp [leading]

/-- The addresses that agree with the network on the leading bits. -/
def addresses (p : Prefix) : Set Address :=
  {a | ∀ k, 32 - p.length ≤ k → a.toNat.testBit k = p.network.toNat.testBit k}

theorem mem_addresses_iff : a ∈ p.addresses ↔ p.containsAddress a = true := by
  rw [containsAddress_iff, size, blockSize_eq]
  constructor
  · intro agree
    refine Nat.eq_of_testBit_eq fun k => ?_
    rw [Nat.testBit_div_two_pow, Nat.testBit_div_two_pow]
    exact agree _ (Nat.le_add_left _ _)
  · intro same k leading
    have bit := congrArg (Nat.testBit · (k - (32 - p.length))) same
    simpa only [Nat.testBit_div_two_pow, Nat.sub_add_cancel leading] using bit

theorem network_mem_addresses (p : Prefix) : p.network ∈ p.addresses := fun _ _ => rfl

theorem length_le_of_subset (subset : q.addresses ⊆ p.addresses) : p.length ≤ q.length := by
  by_contra longer
  have bound := p.length_le
  -- the first bit that only the longer one fixes
  obtain ⟨k, bit⟩ : ∃ k, k + p.length = 32 := ⟨32 - p.length, by omega⟩
  have other : q.network.flip k ∈ q.addresses := by
    intro j leading
    rw [Address.testBit_flip _ (by omega), decide_eq_false (by omega), Bool.xor_false]
  have same := subset q.network_mem_addresses k (by omega)
  have flipped := subset other k (by omega)
  rw [Address.testBit_flip _ (by omega), ← same] at flipped
  simp at flipped

theorem contains_iff_subset : p.contains q = true ↔ q.addresses ⊆ p.addresses := by
  constructor
  · intro inside a member
    rw [mem_addresses_iff, ← contains_host_iff] at member ⊢
    exact contains_trans inside member
  · intro subset
    rw [contains, Bool.and_eq_true, decide_eq_true_eq, ← mem_addresses_iff]
    exact ⟨length_le_of_subset subset, subset q.network_mem_addresses⟩

theorem contains_refl (p : Prefix) : p.contains p = true := contains_iff_subset.2 subset_rfl

theorem contains_antisymm (pq : p.contains q = true) (qp : q.contains p = true) : p = q :=
  eq_of_contains pq (length_le_of_contains qp)

instance isPartialOrder_contains : IsPartialOrder Prefix fun p q => p.contains q = true where
  refl := contains_refl
  trans _ _ _ := contains_trans
  antisymm _ _ := contains_antisymm

theorem eq_iff_addresses_eq : p = q ↔ p.addresses = q.addresses := by
  refine ⟨congrArg addresses, fun same => ?_⟩
  exact contains_antisymm (contains_iff_subset.2 same.superset) (contains_iff_subset.2 same.subset)

theorem strictlyContains_iff :
    p.strictlyContains q = true ↔ p.contains q = true ∧ ¬q.contains p = true := by
  rw [strictlyContains, Bool.and_eq_true, decide_eq_true_eq]
  refine and_congr_right fun inside => ⟨fun longer back => ?_, fun outside => ?_⟩
  · exact absurd (length_le_of_contains back) (by omega)
  · by_contra le
    exact outside (eq_of_contains inside (by omega) ▸ contains_refl p)

theorem nested_or_disjoint (p q : Prefix) :
    p.contains q = true ∨ q.contains p = true ∨ ∀ a ∈ p.addresses, a ∉ q.addresses := by
  by_cases common : ∃ a, a ∈ p.addresses ∧ a ∈ q.addresses
  · obtain ⟨a, inP, inQ⟩ := common
    rw [mem_addresses_iff, ← contains_host_iff] at inP inQ
    rcases le_total p.length q.length with le | le
    · exact .inl (contains_of_both inP inQ le)
    · exact .inr (.inl (contains_of_both inQ inP le))
  · exact .inr (.inr fun a inP inQ => common ⟨a, inP, inQ⟩)

theorem compare_eq_lt_iff : compare p q = .lt ↔ p.network.toNat < q.network.toNat ∨
    p.network = q.network ∧ p.length < q.length := by
  show (compare p.network q.network).then (compare p.length q.length) = .lt ↔ _
  rw [Ordering.then_eq_lt, Nat.compare_eq_lt, compare_eq_iff]
  exact or_congr_left (compareOfLessAndEq_eq_lt.trans UInt32.lt_iff_toNat_lt)

theorem containsAddress_iff_range : p.containsAddress a = true ↔
    p.network.toNat ≤ a.toNat ∧ a.toNat < p.network.toNat + p.size := by
  rw [containsAddress, Bool.and_eq_true, decide_eq_true_eq, decide_eq_true_eq]

theorem network_le_of_compare (lt : compare p q = .lt) : p.network.toNat ≤ q.network.toNat := by
  rcases compare_eq_lt_iff.1 lt with less | ⟨same, -⟩
  · exact Nat.le_of_lt less
  · exact Nat.le_of_eq (congrArg Address.toNat same)

/-- What comes between a block and one inside of it is inside as well. -/
theorem strictlyContains_of_between (inside : p.contains q = true) (after : compare p r = .lt)
    (before : compare r q = .lt) : p.strictlyContains r = true := by
  have start : p.containsAddress r.network = true := by
    have range := containsAddress_iff_range.1 (Bool.and_eq_true_iff.1 inside).2
    have low := network_le_of_compare after
    have high := network_le_of_compare before
    exact containsAddress_iff_range.2 ⟨low, by omega⟩
  have longer : p.length < r.length := by
    rcases compare_eq_lt_iff.1 after with less | ⟨-, longer⟩
    · by_contra le
      -- otherwise `r` lies around its start in `p`, so around `p`, and does not start after it
      have own := mem_addresses_iff.1 r.network_mem_addresses
      have around : r.contains p = true :=
        contains_of_both (contains_host_iff.2 own) (contains_host_iff.2 start) (by omega)
      have range := containsAddress_iff_range.1 (Bool.and_eq_true_iff.1 around).2
      omega
    · exact longer
  rw [strictlyContains, contains, start, decide_eq_true (Nat.le_of_lt longer),
    decide_eq_true longer]
  rfl

theorem compare_lt_of_strictlyContains (inside : p.strictlyContains q = true) :
    compare p q = .lt := by
  obtain ⟨around, outside⟩ := strictlyContains_iff.1 inside
  exact compare_lt_of_contains around fun same => outside (same ▸ around)

/-- However a block is made, it keeps the leading bits of its address and clears the others, and holds the
addresses with these leading bits. Beside any other block, containment is inclusion of addresses, an
address being in a block like the block of it alone, and blocks with the same addresses are equal. Two
blocks are nested or have no address in common, containment is a partial order and proper containment its
strict part, and what follows a block up to one inside of it is inside of it. -/
theorem algebra_of_blocks (made : p.IsMadeOf i) (q : Prefix) :
    (p.length = i.length ∧ ∀ k, p.network.toNat.testBit k =
      (decide (32 - p.length ≤ k) && i.address.toNat.testBit k)) ∧
    (∀ a, a ∈ p.addresses ↔
      ∀ k, 32 - p.length ≤ k → a.toNat.testBit k = i.address.toNat.testBit k) ∧
    (∀ a, (p.containsAddress a = true ↔ a ∈ p.addresses) ∧
      (p.containsAddress a = true ↔ p.contains (host a) = true)) ∧
    (p.contains q = true ↔ q.addresses ⊆ p.addresses) ∧
    (p = q ↔ p.addresses = q.addresses) ∧
    (p.contains q = true ∨ q.contains p = true ∨ ∀ a ∈ p.addresses, a ∉ q.addresses) ∧
    IsPartialOrder Prefix (fun p q => p.contains q = true) ∧
    (p.strictlyContains q = true ↔ p.contains q = true ∧ ¬q.contains p = true) ∧
    (p.strictlyContains q = true → compare p q = .lt ∧
      ∀ r, compare p r = .lt → compare r q = .lt → p.strictlyContains r = true) := by
  obtain rfl := made.eq_network
  have bits := testBit_around i.address i.length_le
  refine ⟨⟨rfl, bits⟩, fun a => ?_, fun a => ⟨mem_addresses_iff.symm, contains_host_iff.symm⟩,
    contains_iff_subset, eq_iff_addresses_eq, nested_or_disjoint _ _, isPartialOrder_contains,
    strictlyContains_iff, fun inside => ⟨compare_lt_of_strictlyContains inside, fun r after before =>
      strictlyContains_of_between (strictlyContains_iff.1 inside).1 after before⟩⟩
  refine forall₂_congr fun k leading => ?_
  have kept := (bits k).trans (congrArg (· && _) (decide_eq_true leading))
  rw [InterfaceAddress.network, kept, Bool.true_and]

/-- A block that is read from a text, and one inside of it that is made of bits. -/
theorem block_of_bits_in_text : ∃ p i, p.IsMadeOf i ∧ ofText? "10.1.2.3/8" = some p ∧
    ∃ j, (ofBits 0x0A010203 16).IsMadeOf j ∧ p ≠ ofBits 0x0A010203 16 ∧
      (ofBits 0x0A010203 16).addresses ⊆ p.addresses ∧
      ¬p.addresses ⊆ (ofBits 0x0A010203 16).addresses ∧
      ∀ r, compare p r = .lt → compare r (ofBits 0x0A010203 16) = .lt →
        p.strictlyContains r = true := by
  have parsed : InterfaceAddress.ofText? "10.1.2.3/8" = some (.ofOctets 10 1 2 3 8) := by decide
  have made : ofText? "10.1.2.3/8" = some (InterfaceAddress.ofOctets 10 1 2 3 8).network := by
    rw [ofText?, parsed, Option.map_some]
  have first := IsMadeOf.ofText parsed made
  have second := IsMadeOf.ofBits 0x0A010203 (show 16 ≤ 32 by decide)
  have inside : (InterfaceAddress.ofOctets 10 1 2 3 8).network.strictlyContains
      (ofBits 0x0A010203 16) = true := by decide
  obtain ⟨-, -, -, subset, -, -, -, strict, order⟩ := algebra_of_blocks first (ofBits 0x0A010203 16)
  obtain ⟨-, -, -, back, -⟩ := algebra_of_blocks second (InterfaceAddress.ofOctets 10 1 2 3 8).network
  have proper := strict.1 inside
  exact ⟨_, _, first, made, _, second, by decide, subset.1 proper.1, mt back.2 proper.2,
    (order inside).2⟩

end Prefix

end RoutePlane
