import Mathlib.Algebra.Group.Nat.Defs
import Mathlib.Data.Nat.Basic
import RoutePlane.Address.Prefix

/-! Nested blocks. Two blocks that share an address are nested, so the blocks around an address form
a chain from the largest to the smallest, and the order of blocks follows it. -/
namespace RoutePlane

theorem blockSize_eq (length : Nat) : blockSize length = 2 ^ (32 - length) := by
  simp [blockSize, Nat.shiftLeft_eq]

theorem blockSize_pos (length : Nat) : 0 < blockSize length := by
  rw [blockSize_eq]
  exact Nat.two_pow_pos _

/-- A larger block is cut into blocks of each smaller size. -/
theorem blockSize_dvd {m n : Nat} (le : m ≤ n) : blockSize n ∣ blockSize m := by
  rw [blockSize_eq, blockSize_eq]
  exact Nat.pow_dvd_pow 2 (by omega)

namespace Prefix

variable {p q r : Prefix} {a : Address}

/-- The block as a number among the blocks of its size: it holds the addresses with its quotient. -/
theorem containsAddress_iff :
    p.containsAddress a = true ↔ a.toNat / p.size = p.network.toNat / p.size := by
  have positive : 0 < p.size := blockSize_pos p.length
  have start : p.network.toNat / p.size * p.size = p.network.toNat :=
    Nat.div_mul_cancel (Nat.dvd_of_mod_eq_zero p.aligned)
  rw [Nat.div_eq_iff positive, start]
  simp only [containsAddress, Bool.and_eq_true, decide_eq_true_eq]
  omega

theorem contains_iff :
    p.contains q = true ↔ p.length ≤ q.length ∧ q.network.toNat / p.size = p.network.toNat / p.size := by
  simp only [contains, Bool.and_eq_true, decide_eq_true_eq, containsAddress_iff]

theorem length_le_of_contains (inside : p.contains q = true) : p.length ≤ q.length :=
  (contains_iff.1 inside).1

theorem div_size_eq {x y : Nat} (le : p.length ≤ q.length) (same : x / q.size = y / q.size) :
    x / p.size = y / p.size := by
  obtain ⟨k, pieces⟩ := blockSize_dvd le
  have size : p.size = q.size * k := pieces
  rw [size, ← Nat.div_div_eq_div_mul, ← Nat.div_div_eq_div_mul, same]

theorem contains_trans (pq : p.contains q = true) (qr : q.contains r = true) :
    p.contains r = true := by
  obtain ⟨shorter, inside⟩ := contains_iff.1 pq
  obtain ⟨shorter', inside'⟩ := contains_iff.1 qr
  exact contains_iff.2 ⟨le_trans shorter shorter', (div_size_eq shorter inside').trans inside⟩

/-- Of two blocks around one the shorter contains the longer. -/
theorem contains_of_both (pr : p.contains r = true) (qr : q.contains r = true)
    (le : p.length ≤ q.length) : p.contains q = true := by
  have inside := (contains_iff.1 pr).2
  have inside' := div_size_eq le (contains_iff.1 qr).2
  exact contains_iff.2 ⟨le, inside'.symm.trans inside⟩

theorem eq_of_contains (pq : p.contains q = true) (le : q.length ≤ p.length) : p = q := by
  have length : p.length = q.length := le_antisymm (length_le_of_contains pq) le
  have size : p.size = q.size := congrArg blockSize length
  have number := (contains_iff.1 pq).2
  have start : p.network.toNat = q.network.toNat := by
    rw [← Nat.div_mul_cancel (Nat.dvd_of_mod_eq_zero p.aligned),
      ← Nat.div_mul_cancel (Nat.dvd_of_mod_eq_zero q.aligned)]
    show p.network.toNat / p.size * p.size = q.network.toNat / q.size * q.size
    rw [← number, size]
  have network : p.network = q.network :=
    Address.bits_injective _ _ (UInt32.toNat_inj.1 start)
  exact key_injective p q (Prod.ext network length)

/-- In the order of blocks a block comes before those inside of it. -/
theorem compare_lt_of_contains (pq : p.contains q = true) (ne : p ≠ q) : compare p q = .lt := by
  have longer : p.length < q.length := by
    by_contra le
    exact ne (eq_of_contains pq (by omega))
  have starts : p.network.toNat ≤ q.network.toNat := by
    have inside : p.containsAddress q.network = true := by
      simp only [contains, Bool.and_eq_true] at pq
      exact pq.2
    simp only [containsAddress, Bool.and_eq_true, decide_eq_true_eq] at inside
    exact inside.1
  show (compare p.network q.network).then (compare p.length q.length) = .lt
  rw [Ordering.then_eq_lt]
  rcases Nat.lt_or_eq_of_le starts with before | same
  · left
    exact compareOfLessAndEq_eq_lt.2 (UInt32.lt_iff_toNat_lt.2 before)
  · right
    have network : p.network = q.network :=
      Address.bits_injective _ _ (UInt32.toNat_inj.1 same)
    exact ⟨compare_eq_iff.2 network, Nat.compare_eq_lt.2 longer⟩

theorem toNat_around (a : Address) (length : Nat) (h : length ≤ 32) :
    (around a length h).network.toNat = a.toNat / blockSize length * blockSize length := by
  have bound : a.toNat - a.toNat % blockSize length < UInt32.size :=
    Nat.lt_of_le_of_lt (Nat.sub_le _ _) a.toNat_lt
  show (UInt32.ofNat (a.toNat - a.toNat % blockSize length)).toNat = _
  rw [UInt32.toNat_ofNat', Nat.mod_eq_of_lt bound]
  have parts := Nat.div_add_mod' a.toNat (blockSize length)
  omega

theorem around_containsAddress (a : Address) (length : Nat) (h : length ≤ 32) :
    (around a length h).containsAddress a = true := by
  rw [containsAddress_iff, toNat_around]
  exact (Nat.mul_div_cancel _ (blockSize_pos length)).symm

/-- A block around the block of one address is one with the address in it. -/
theorem contains_host_iff : p.contains (host a) = true ↔ p.containsAddress a = true := by
  have alone : (host a).network.toNat = a.toNat := by
    rw [host, toNat_around, blockSize_eq, Nat.sub_self, Nat.pow_zero, Nat.div_one, Nat.mul_one]
  rw [contains_iff, containsAddress_iff, alone]
  exact and_iff_right p.length_le

theorem parent?_eq_none_iff : p.parent? = none ↔ p.length = 0 := by
  unfold parent?
  split
  next none => simp [none]
  next n some => simp [some]

theorem length_parent (up : p.parent? = some q) : q.length + 1 = p.length := by
  unfold parent? at up
  split at up
  · cases up
  next n length =>
    obtain rfl := Option.some.inj up
    exact length.symm

theorem parent_contains (up : p.parent? = some q) : q.contains p = true := by
  have shorter : q.length ≤ p.length := by
    have step := length_parent up
    omega
  unfold parent? at up
  split at up
  · cases up
  · obtain rfl := Option.some.inj up
    simp only [contains, Bool.and_eq_true, decide_eq_true_eq]
    exact ⟨shorter, around_containsAddress _ _ _⟩

/-- What lies around a block and is larger lies around its parent. -/
theorem contains_parent (up : p.parent? = some q) (around : r.contains p = true) (ne : r ≠ p) :
    r.contains q = true := by
  refine contains_of_both around (parent_contains up) ?_
  have step := length_parent up
  have shorter : r.length < p.length := by
    by_contra le
    exact ne (eq_of_contains around (by omega))
  omega

end Prefix

end RoutePlane
