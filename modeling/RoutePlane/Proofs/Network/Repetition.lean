import Mathlib.Data.Nat.Find
import RoutePlane.Network.Schedule
import RoutePlane.Proofs.Network.Fallible

/-! Repeated steps without their limit. A repetition ends within every sufficient limit, with one
outcome, or its steps go on for ever. -/
namespace RoutePlane

variable {σ : Type} {phase : Phase} {step : σ → Except NetworkError (σ × Bool)} {s t : σ}

/-- The state after a number of steps, be they idle or not. A failing step leaves the state. -/
def stateAfter (step : σ → Except NetworkError (σ × Bool)) (s : σ) : Nat → σ
  | 0 => s
  | n + 1 =>
    match step (stateAfter step s n) with
    | .ok (t, _) => t
    | .error _ => stateAfter step s n

def KeepsMoving (step : σ → Except NetworkError (σ × Bool)) (s : σ) (n : Nat) : Prop :=
  ∀ k < n, step (stateAfter step s k) = .ok (stateAfter step s (k + 1), true)

theorem stateAfter_succ {n : Nat} {flag : Bool} (moved : step (stateAfter step s n) = .ok (t, flag)) :
    stateAfter step s (n + 1) = t := by
  rw [stateAfter, moved]

theorem stateAfter_one_add (moved : step s = .ok (t, true)) (n : Nat) :
    stateAfter step s (n + 1) = stateAfter step t n := by
  induction n with
  | zero => exact stateAfter_succ moved
  | succ n ih => rw [stateAfter, ih, stateAfter]

theorem KeepsMoving.tail {n : Nat} (moving : KeepsMoving step s (n + 1)) :
    ∃ t, step s = .ok (t, true) ∧ KeepsMoving step t n := by
  obtain ⟨t, first⟩ : ∃ t, step s = .ok (t, true) := ⟨_, moving 0 n.succ_pos⟩
  refine ⟨t, first, fun k bound => ?_⟩
  have later := moving (k + 1) (by omega)
  rwa [stateAfter_one_add first, stateAfter_one_add first] at later

/-- What the step after the moving ones decides, if the limit admits it. -/
theorem repeatFrom_eq {n : Nat} (moving : KeepsMoving step s n) {limit : Nat} (enough : n < limit)
    (done : Nat) :
    repeatFrom phase step limit done s =
      repeatFrom phase step (limit - n) (done + n) (stateAfter step s n) := by
  induction n generalizing s limit done with
  | zero => rfl
  | succ n ih =>
    obtain ⟨t, first, rest⟩ := moving.tail
    obtain ⟨left, rfl⟩ : ∃ left, limit = left + 1 := ⟨limit - 1, by omega⟩
    have unfolded : repeatFrom phase step (left + 1) done s =
        repeatFrom phase step left (done + 1) t := by
      rw [repeatFrom, first]
      rfl
    rw [unfolded, ih rest (by omega), stateAfter_one_add first, Nat.add_sub_add_right,
      Nat.add_assoc, Nat.add_comm 1 n]

theorem repeatUntilStable_ok {n : Nat} (moving : KeepsMoving step s n)
    (idle : step (stateAfter step s n) = .ok (t, false)) {limit : Nat} (enough : n < limit) :
    repeatUntilStable phase limit step s = .ok (t, n + 1) := by
  obtain ⟨left, more⟩ : ∃ left, limit - n = left + 1 := ⟨limit - n - 1, by omega⟩
  rw [repeatUntilStable, repeatFrom_eq moving enough, more, repeatFrom, idle]
  show Except.ok (t, 0 + n + 1) = _
  rw [Nat.zero_add]

theorem repeatUntilStable_error {n : Nat} {e : NetworkError} (moving : KeepsMoving step s n)
    (failed : step (stateAfter step s n) = .error e) {limit : Nat} (enough : n < limit) :
    repeatUntilStable phase limit step s = .error e := by
  obtain ⟨left, more⟩ : ∃ left, limit - n = left + 1 := ⟨limit - n - 1, by omega⟩
  rw [repeatUntilStable, repeatFrom_eq moving enough, more, repeatFrom, failed]
  rfl

/-- An outcome of a repetition is that of the first step that is idle or fails. -/
theorem of_repeatFrom {limit done : Nat} {outcome : Except NetworkError (σ × Nat)}
    (ended : repeatFrom phase step limit done s = outcome) :
    (KeepsMoving step s limit ∧ outcome = .error (.noConvergence phase (done + limit))) ∨
      ∃ n < limit, KeepsMoving step s n ∧
        ((∃ t, step (stateAfter step s n) = .ok (t, false) ∧ outcome = .ok (t, done + n + 1)) ∨
          ∃ e, step (stateAfter step s n) = .error e ∧ outcome = .error e) := by
  induction limit generalizing s done with
  | zero => exact .inl ⟨fun k bound => absurd bound k.not_lt_zero, ended.symm⟩
  | succ left ih =>
    rw [repeatFrom] at ended
    have none : KeepsMoving step s 0 := fun k bound => absurd bound k.not_lt_zero
    cases move : step s with
    | error e =>
      rw [move] at ended
      exact .inr ⟨0, left.succ_pos, none, .inr ⟨e, move, ended.symm⟩⟩
    | ok moved =>
      obtain ⟨t, changed⟩ := moved
      rw [move] at ended
      cases changed with
      | false => exact .inr ⟨0, left.succ_pos, none, .inl ⟨t, move, ended.symm⟩⟩
      | true =>
        have later (n : Nat) (moving : KeepsMoving step t n) : KeepsMoving step s (n + 1) := by
          rintro (_ | k) bound
          · rw [stateAfter_one_add move]
            exact move
          · rw [stateAfter_one_add move, stateAfter_one_add move]
            exact moving k (by omega)
        rcases ih ended with ⟨moving, rfl⟩ | ⟨n, bound, moving, stopped⟩
        · exact .inl ⟨later left moving, by rw [Nat.add_assoc, Nat.add_comm 1]⟩
        · refine .inr ⟨n + 1, by omega, later n moving, ?_⟩
          rwa [stateAfter_one_add move, ← Nat.add_assoc, Nat.add_right_comm done]

def Stops (step : σ → Except NetworkError (σ × Bool)) (s : σ) : Prop :=
  ∃ n, KeepsMoving step s n ∧ ∀ t, step (stateAfter step s n) ≠ .ok (t, true)

theorem stops_or_endless (step : σ → Except NetworkError (σ × Bool)) (s : σ) :
    Stops step s ∨ ∀ n, KeepsMoving step s n := by
  by_contra neither
  rw [not_or] at neither
  obtain ⟨never, still⟩ := neither
  refine still fun n => ?_
  induction n with
  | zero => exact fun k bound => absurd bound k.not_lt_zero
  | succ n ih =>
    have moves : ∃ t, step (stateAfter step s n) = .ok (t, true) := by
      by_contra idle
      exact never ⟨n, ih, not_exists.1 idle⟩
    obtain ⟨t, moved⟩ := moves
    intro k bound
    rcases Nat.lt_succ_iff_lt_or_eq.1 bound with earlier | rfl
    · exact ih k earlier
    · rw [stateAfter_succ moved, moved]

/-- A repetition that stops has one outcome for all sufficient limits. -/
theorem Stops.outcome (stops : Stops step s) (phase : Phase) :
    ∃ enough, (∃ t steps, ∀ limit ≥ enough, repeatUntilStable phase limit step s = .ok (t, steps)) ∨
      ∃ n e, step (stateAfter step s n) = .error e ∧
        ∀ limit ≥ enough, repeatUntilStable phase limit step s = .error e := by
  obtain ⟨n, moving, last⟩ := stops
  cases move : step (stateAfter step s n) with
  | error e =>
    exact ⟨n + 1, .inr ⟨n, e, move, fun limit bound => repeatUntilStable_error moving move bound⟩⟩
  | ok moved =>
    obtain ⟨t, changed⟩ := moved
    cases changed with
    | true => exact absurd move (last t)
    | false =>
      exact ⟨n + 1, .inl ⟨t, n + 1, fun limit bound => repeatUntilStable_ok moving move bound⟩⟩

theorem KeepsMoving.keeps {P : σ → Prop} {n : Nat} (moving : KeepsMoving step s n)
    (keeps : ∀ s t changed, P s → step s = .ok (t, changed) → P t) (start : P s) :
    P (stateAfter step s n) := by
  induction n with
  | zero => exact start
  | succ n ih =>
    have before : P (stateAfter step s n) := ih fun k bound => moving k (Nat.lt_succ_of_lt bound)
    exact keeps _ _ _ before (moving n n.lt_succ_self)

/-- The last step of a repetition is idle, and all that the steps keep is kept until it. -/
theorem exists_idle_step {P : σ → Prop} {limit steps : Nat}
    (keeps : ∀ s t changed, P s → step s = .ok (t, changed) → P t) (start : P s)
    (ended : repeatUntilStable phase limit step s = .ok (t, steps)) :
    ∃ u, P u ∧ step u = .ok (t, false) := by
  rcases of_repeatFrom ended with ⟨-, never⟩ | ⟨n, -, moving, ⟨u, idle, same⟩ | ⟨e, -, never⟩⟩
  · cases never
  · cases same
    exact ⟨_, KeepsMoving.keeps moving keeps start, idle⟩
  · cases never

theorem repeatUntilStable_keeps {P : σ → Prop} {limit steps : Nat}
    (keeps : ∀ s t changed, P s → step s = .ok (t, changed) → P t) (start : P s)
    (ended : repeatUntilStable phase limit step s = .ok (t, steps)) : P t := by
  obtain ⟨u, before, idle⟩ := exists_idle_step keeps start ended
  exact keeps u t false before idle

/-- A greater limit does not change a successful repetition. -/
theorem repeatUntilStable_mono {limit more steps : Nat}
    (ended : repeatUntilStable phase limit step s = .ok (t, steps)) (le : limit ≤ more) :
    repeatUntilStable phase more step s = .ok (t, steps) := by
  rcases of_repeatFrom ended with ⟨-, never⟩ | ⟨n, bound, moving, ⟨u, idle, same⟩ | ⟨e, -, never⟩⟩
  · cases never
  · rw [repeatUntilStable_ok moving idle (Nat.lt_of_lt_of_le bound le), same, Nat.zero_add]
  · cases never

end RoutePlane
