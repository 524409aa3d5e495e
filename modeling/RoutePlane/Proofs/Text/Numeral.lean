import Mathlib.Data.Nat.Digits.Defs
import RoutePlane.Text.Numeral

/-! Printed numerals: a number is read back from its decimal form, which has no sign and no leading
zeros. -/
namespace RoutePlane.Numeral

theorem isDigit_of_mem_repr {n : Nat} {c : Char} (member : c ∈ (Nat.repr n).toList) :
    '0' ≤ c ∧ c ≤ '9' := by
  rw [Nat.toList_repr] at member
  have digit := Nat.isDigit_of_mem_toDigits (by decide) (by decide) member
  simpa [Char.isDigit, Char.le_def, and_comm] using digit

theorem repr_ne_nil (n : Nat) : (Nat.repr n).toList ≠ [] := by
  rw [Nat.toList_repr]
  exact Nat.toDigits_ne_nil

theorem extend?_of_digits {digits : List Char} (all : ∀ c ∈ digits, '0' ≤ c ∧ c ≤ '9')
    (value : Nat) : extend? value digits = some (Nat.ofDigitChars 10 digits value) := by
  induction digits generalizing value with
  | nil => rfl
  | cons c rest ih =>
    have here : digit? c = some (c.toNat - '0'.toNat) := if_pos (all c List.mem_cons_self)
    rw [extend?, here, Nat.ofDigitChars_cons]
    exact ih (fun d member => all d (List.mem_cons_of_mem _ member)) _

theorem natural?_repr (n : Nat) : natural? (Nat.repr n).toList = some n := by
  have read := extend?_of_digits (fun c => isDigit_of_mem_repr (n := n) (c := c)) 0
  rw [Nat.toList_repr, Nat.ofDigitChars_ten_toDigits, ← Nat.toList_repr] at read
  rw [natural?]
  · exact read
  · exact repr_ne_nil n

theorem below?_repr {n bound : Nat} (small : n < bound) :
    below? bound (Nat.repr n).toList = some n := by
  rw [below?, natural?_repr]
  simp [small]

theorem eq_nil_of_repr_eq_zero_cons {n : Nat} {rest : List Char}
    (zero : (Nat.repr n).toList = '0' :: rest) : rest = [] := by
  induction n using Nat.strongRecOn generalizing rest with
  | ind n ih =>
    rw [Nat.toList_repr, Nat.toDigits_eq_if (by decide)] at zero
    split at zero
    next => exact (List.cons.inj zero).2.symm
    next large =>
      -- the digits before the last one are those of a smaller number, which is not zero
      obtain ⟨start, first⟩ : ∃ start, Nat.toDigits 10 (n / 10) = '0' :: start := by
        cases digits : Nat.toDigits 10 (n / 10) with
        | nil => exact absurd digits Nat.toDigits_ne_nil
        | cons c start =>
          rw [digits, List.cons_append] at zero
          exact ⟨start, by rw [(List.cons.inj zero).1]⟩
      rw [← Nat.toList_repr] at first
      have alone := ih (n / 10) (by omega) first
      have read := natural?_repr (n / 10)
      rw [first, alone] at read
      have none : n / 10 = 0 := (Option.some.inj read).symm
      omega

theorem length_repr_le {n width : Nat} (positive : 0 < width) (small : n < 10 ^ width) :
    (Nat.repr n).toList.length ≤ width := by
  rw [Nat.toList_repr]
  exact (Nat.length_toDigits_le_iff (by decide) positive).2 small

theorem not_mem_repr {n : Nat} {c : Char} (other : ¬('0' ≤ c ∧ c ≤ '9')) :
    c ∉ (Nat.repr n).toList :=
  fun member => other (isDigit_of_mem_repr member)

end RoutePlane.Numeral
