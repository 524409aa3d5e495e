import Mathlib.Data.List.TakeDrop
import Mathlib.Data.List.TakeWhile
import RoutePlane.Json.Number
import RoutePlane.Proofs.Text.Numeral

/-! Numbers in JSON texts. A literal is read alike whatever comes after it, unless that goes on with
the literal, and every whole number of 64 bits is read back from its text. -/
namespace RoutePlane.JsonNumber

def Ends (rest : List Char) : Prop :=
  ∀ c ∈ rest.head?, isDigit c = false ∧ c ≠ '.' ∧ c ≠ 'e' ∧ c ≠ 'E'

theorem ends_nil : Ends [] := by simp [Ends]

def LeavesRest {α : Type} (read : List Char → Option (α × List Char)) : Prop :=
  ∀ {cs rest left : List Char} {a : α}, Ends rest → read cs = some (a, left) →
    read (cs ++ rest) = some (a, left ++ rest)

theorem digits?_eq (cs : List Char) :
    digits? cs =
      if cs.takeWhile isDigit = [] then none
      else some (cs.takeWhile isDigit, cs.dropWhile isDigit) := by
  rw [digits?, List.span_eq_takeWhile_dropWhile]
  cases cs.takeWhile isDigit <;> simp

theorem takeWhile_append_of_ends {rest : List Char} (ends : Ends rest) (cs : List Char) :
    (cs ++ rest).takeWhile isDigit = cs.takeWhile isDigit ∧
      (cs ++ rest).dropWhile isDigit = cs.dropWhile isDigit ++ rest := by
  induction cs with
  | nil =>
    cases rest with
    | nil => exact ⟨rfl, rfl⟩
    | cons c rest => simp [(ends c rfl).1]
  | cons c cs ih => cases digit : isDigit c <;> simp [digit, ih]

theorem digits?_leavesRest : LeavesRest digits? := by
  intro cs rest left digits ends found
  obtain ⟨taken, dropped⟩ := takeWhile_append_of_ends ends cs
  rw [digits?_eq] at found
  rw [digits?_eq, taken, dropped]
  split at found
  next => cases found
  next some => cases found; simp [some]

theorem whole?_leavesRest : LeavesRest whole? := by
  intro cs rest left digits ends found
  unfold whole? at found
  split at found
  next => cases found; rfl
  next other =>
    unfold whole?
    split
    next zero =>
      cases cs with
      | nil => cases found
      | cons c cs => exact absurd (by rw [(List.cons.inj zero).1]) (other cs)
    next => exact digits?_leavesRest ends found

theorem fraction?_leavesRest : LeavesRest fraction? := by
  intro cs rest left digits ends found
  unfold fraction? at found
  split at found
  next => exact digits?_leavesRest ends found
  next other =>
    cases found
    unfold fraction?
    split
    next point =>
      cases cs with
      | nil =>
        rw [List.nil_append] at point
        subst point
        exact absurd rfl (ends '.' rfl).2.1
      | cons c cs => exact absurd (by rw [(List.cons.inj point).1]) (other cs)
    next => rfl

theorem exponentDigits?_leavesRest (negative : Bool) : LeavesRest (exponentDigits? negative) := by
  intro cs rest left exponent ends found
  simp only [exponentDigits?, Option.bind_eq_bind, Option.bind_eq_some_iff, Option.pure_def,
    Prod.exists] at found ⊢
  obtain ⟨digits, later, read, n, value, done⟩ := found
  cases done
  exact ⟨digits, left ++ rest, digits?_leavesRest ends read, n, value, rfl⟩

theorem exponent?_letter {letter : Char} (isLetter : letter = 'e' ∨ letter = 'E')
    (cs : List Char) :
    exponent? (letter :: cs) =
      match cs with
      | '+' :: digits => exponentDigits? false digits
      | '-' :: digits => exponentDigits? true digits
      | digits => exponentDigits? false digits := by
  rcases isLetter with rfl | rfl <;> unfold exponent? <;> split <;> simp_all

theorem exponent?_other {cs : List Char} (other : ∀ c ∈ cs.head?, c ≠ 'e' ∧ c ≠ 'E') :
    exponent? cs = some (none, cs) := by
  unfold exponent?
  split <;> simp_all

theorem exponent?_leavesRest : LeavesRest exponent? := by
  intro cs rest left exponent ends found
  cases cs with
  | nil =>
    rw [exponent?_other (by simp)] at found
    cases found
    exact exponent?_other fun c first => (ends c first).2.2
  | cons letter cs =>
    by_cases isLetter : letter = 'e' ∨ letter = 'E'
    · rw [List.cons_append, exponent?_letter isLetter]
      rw [exponent?_letter isLetter] at found
      split at found
      next => exact exponentDigits?_leavesRest false ends found
      next => exact exponentDigits?_leavesRest true ends found
      next notPlus notMinus =>
        cases cs with
        | nil => simp [exponentDigits?, digits?_eq] at found
        | cons c cs =>
          split
          next plus => exact absurd (by rw [(List.cons.inj plus).1]) (notPlus cs)
          next minus => exact absurd (by rw [(List.cons.inj minus).1]) (notMinus cs)
          next => exact exponentDigits?_leavesRest false ends found
    · rw [not_or] at isLetter
      have other (cs : List Char) : ∀ c ∈ (letter :: cs).head?, c ≠ 'e' ∧ c ≠ 'E' := by
        rintro c ⟨⟩
        exact isLetter
      rw [exponent?_other (other cs)] at found
      cases found
      exact exponent?_other (other _)

theorem unsignedLiteral?_leavesRest (negative : Bool) : LeavesRest (unsignedLiteral? negative) := by
  intro cs rest left l ends found
  simp only [unsignedLiteral?, Option.bind_eq_bind, Option.bind_eq_some_iff, Option.pure_def,
    Prod.exists] at found ⊢
  obtain ⟨whole, cs₁, first, fraction, cs₂, second, exponent, cs₃, third, done⟩ := found
  cases done
  exact ⟨whole, _, whole?_leavesRest ends first, fraction, _, fraction?_leavesRest ends second,
    exponent, _, exponent?_leavesRest ends third, rfl⟩

theorem literal?_head {cs left : List Char} {l : Literal} (found : literal? cs = some (l, left)) :
    ∃ c rest, cs = c :: rest ∧ (c = '-' ∨ isDigit c = true) := by
  unfold literal? at found
  split at found
  next => exact ⟨'-', _, rfl, .inl rfl⟩
  next =>
    simp only [unsignedLiteral?, Option.bind_eq_bind, Option.bind_eq_some_iff, Prod.exists] at found
    obtain ⟨whole, later, first, -⟩ := found
    unfold whole? at first
    split at first
    next => exact ⟨'0', _, rfl, .inr rfl⟩
    next =>
      rw [digits?_eq] at first
      cases cs with
      | nil => cases first
      | cons c cs =>
        refine ⟨c, cs, rfl, .inr ?_⟩
        by_contra other
        simp [other] at first

theorem literal?_leavesRest : LeavesRest literal? := by
  intro cs rest left l ends found
  obtain ⟨c, cs, rfl, -⟩ := literal?_head found
  unfold literal? at found ⊢
  split at found
  next signed =>
    rw [signed]
    exact unsignedLiteral?_leavesRest true ends found
  next unsigned =>
    split
    next minus => exact absurd (by rw [(List.cons.inj minus).1]) (unsigned cs)
    next => exact unsignedLiteral?_leavesRest false ends found

def ReadsBack (n : JsonNumber) : Prop :=
  ∃ l, literal? n.text = some (l, []) ∧ l.toNumber? = some n

instance (n : JsonNumber) : Decidable n.ReadsBack :=
  decidable_of_iff (∃ read ∈ literal? n.text, read.2 = [] ∧ read.1.toNumber? = some n) <| by
    constructor
    · rintro ⟨⟨l, rest⟩, read, rfl, value⟩
      exact ⟨l, read, value⟩
    · rintro ⟨l, read, value⟩
      exact ⟨⟨l, []⟩, read, rfl, value⟩

theorem le_ofDigitChars (digits : List Char) (value : Nat) :
    value ≤ Nat.ofDigitChars 10 digits value := by
  rw [Nat.ofDigitChars_eq_ofDigitChars_zero]
  have grown := Nat.le_mul_of_pos_left value (Nat.pow_pos (n := digits.length) (by decide : 0 < 10))
  omega

/-- Digits that fit into 64 bits are all taken. -/
theorem takeDigits_of_fits {digits : List Char} {value : Nat}
    (fits : Nat.ofDigitChars 10 digits value < UInt64.size) :
    takeDigits value digits = (Nat.ofDigitChars 10 digits value, 0) := by
  induction digits generalizing value with
  | nil => rfl
  | cons c rest ih =>
    rw [Nat.ofDigitChars_cons] at fits ⊢
    rw [takeDigits, if_pos (Nat.lt_of_le_of_lt (le_ofDigitChars _ _) fits)]
    exact ih fits

theorem takeDigits_repr {n : Nat} (fits : n < UInt64.size) :
    takeDigits 0 (Nat.repr n).toList = (n, 0) := by
  have value : Nat.ofDigitChars 10 (Nat.repr n).toList 0 = n := by
    rw [Nat.toList_repr, Nat.ofDigitChars_ten_toDigits]
  rw [takeDigits_of_fits (by rwa [value]), value]

theorem isDigit_repr (n : Nat) : ∀ c ∈ (Nat.repr n).toList, isDigit c = true := by
  intro c member
  simpa [isDigit] using Numeral.isDigit_of_mem_repr member

theorem unsignedLiteral?_repr (negative : Bool) (n : Nat) :
    unsignedLiteral? negative (Nat.repr n).toList =
      some (⟨negative, (Nat.repr n).toList, [], none⟩, []) := by
  have whole : whole? (Nat.repr n).toList = some ((Nat.repr n).toList, []) := by
    unfold whole?
    split
    next padded => rw [padded, Numeral.eq_nil_of_repr_eq_zero_cons padded]
    next =>
      have digits := isDigit_repr n
      rw [digits?_eq, List.takeWhile_eq_self_iff.2 digits, List.dropWhile_eq_nil_iff.2 digits,
        if_neg (Numeral.repr_ne_nil n)]
  simp only [unsignedLiteral?, whole, Option.bind_eq_bind, Option.bind_some]
  rfl

theorem literal?_repr (n : Nat) : literal? (Nat.repr n).toList =
    some (⟨false, (Nat.repr n).toList, [], none⟩, []) := by
  rw [← unsignedLiteral?_repr]
  unfold literal?
  split
  next minus =>
    have digit := isDigit_repr n '-' (by rw [minus]; exact List.mem_cons_self)
    cases digit
  next => rfl

theorem readsBack_int {n : Int} (low : -(UInt64.size / 2 : Nat) ≤ n) (high : n < UInt64.size) :
    (int n).ReadsBack := by
  have fits : n.natAbs < UInt64.size := by
    have : UInt64.size = 18446744073709551616 := rfl
    omega
  have taken := takeDigits_repr fits
  by_cases negative : n < 0
  · refine ⟨⟨true, (Nat.repr n.natAbs).toList, [], none⟩, ?_, ?_⟩
    · rw [text, if_pos negative]
      exact unsignedLiteral?_repr true n.natAbs
    · simp only [Literal.toNumber?, taken]
      rw [if_neg (by simp), if_pos trivial, if_neg (by omega), Int.ofNat_natAbs_of_nonpos (by omega),
        Int.neg_neg]
  · refine ⟨⟨false, (Nat.repr n.natAbs).toList, [], none⟩, ?_, ?_⟩
    · rw [text, if_neg negative]
      exact literal?_repr n.natAbs
    · simp only [Literal.toNumber?, taken]
      rw [if_neg (by simp), if_neg (by simp), Int.natAbs_of_nonneg (by omega)]

end RoutePlane.JsonNumber
