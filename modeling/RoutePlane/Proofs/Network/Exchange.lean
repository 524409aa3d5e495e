import Mathlib.Order.Filter.AtTopBot.Basic
import Mathlib.Order.Filter.Finite
import RoutePlane.Network.Schedule
import RoutePlane.Proofs.Network.Repetition

/-! Steps in which all routers move at once. What a router finds when it gathers depends on the whole
list, but what becomes of it can be followed by its place in the list. If every router alone gets
quiet, then at some time all of them are quiet together, and so the steps stop. -/
namespace RoutePlane.Schedule

open Filter Fallible

variable {gather : List Router → Router → Except NetworkError (Router × Bool)}
  {commit : Router → Router × Bool} {routers routers' : List Router} {flag : Bool}
  {Inv : Router → Prop}

theorem everyRouter_ok {move : Router → Except NetworkError (Router × Bool)} :
    everyRouter move routers = .ok (routers', flag) ↔
      ∃ moved, List.Forall₂ (fun r m => move r = .ok m) routers moved ∧
        routers' = moved.map (·.1) ∧ flag = moved.any (·.2) := by
  simp only [everyRouter, bind_eq_ok, mapM_eq_ok, pure_eq_ok, Prod.mk.injEq]
  constructor
  · rintro ⟨moved, all, rfl, rfl⟩
    exact ⟨moved, all, rfl, rfl⟩
  · rintro ⟨moved, all, rfl, rfl⟩
    exact ⟨moved, all, rfl, rfl⟩

theorem error_of_everyRouter {move : Router → Except NetworkError (Router × Bool)}
    {e : NetworkError} (failed : everyRouter move routers = .error e) :
    ∃ r ∈ routers, move r = .error e := by
  rcases bind_eq_error.1 failed with failed | ⟨_, -, never⟩
  · exact error_of_mapM failed
  · exact absurd never pure_ne_error

theorem everyRouter_keeps {move : Router → Except NetworkError (Router × Bool)}
    (keeps : ∀ r ∈ routers, ∀ m, move r = .ok m → Inv m.1)
    (moved : everyRouter move routers = .ok (routers', flag)) : ∀ r ∈ routers', Inv r := by
  obtain ⟨outcomes, all, rfl, rfl⟩ := everyRouter_ok.1 moved
  intro r member
  obtain ⟨m, found, rfl⟩ := List.mem_map.1 member
  obtain ⟨r, source, outcome⟩ := source_of_mem all found
  exact keeps r source m outcome

theorem everyRouter_total (commit : Router → Router × Bool) (routers : List Router) :
    everyRouter (fun r => .ok (commit r)) routers =
      .ok (routers.map (fun r => (commit r).1), routers.any (fun r => (commit r).2)) := by
  refine everyRouter_ok.2 ⟨routers.map commit, ?_, by simp [Function.comp_def],
    by simp [Function.comp_def]⟩
  rw [List.forall₂_map_right_iff, List.forall₂_same]
  exact fun r _ => rfl

theorem exchange_ok : exchange gather commit routers = .ok (routers', flag) ↔
    ∃ gathered, List.Forall₂ (fun r g => gather routers r = .ok g) routers gathered ∧
      routers' = gathered.map (fun g => (commit g.1).1) ∧
      flag = gathered.any (fun g => g.2 || (commit g.1).2) := by
  have joined (gathered : List (Router × Bool)) :
      (gathered.any (·.2) || (gathered.map (·.1)).any fun r => (commit r).2) =
        gathered.any fun g => g.2 || (commit g.1).2 := by
    induction gathered with
    | nil => rfl
    | cons g rest ih =>
      rw [List.any_cons, List.any_cons, List.map_cons, List.any_cons, ← ih]
      ac_rfl
  simp only [exchange, bind_eq_ok, Prod.exists, everyRouter_ok, everyRouter_total]
  constructor
  · rintro ⟨_, _, ⟨gathered, all, rfl, rfl⟩, _, _, same, outcome⟩
    cases same
    cases outcome
    exact ⟨gathered, all, by simp, joined gathered⟩
  · rintro ⟨gathered, all, rfl, rfl⟩
    refine ⟨_, _, ⟨gathered, all, rfl, rfl⟩, _, _, rfl, ?_⟩
    rw [joined]
    simp [Function.comp_def, pure_eq_ok]

theorem exchange_total {gather : List Router → Router → Router × Bool} :
    exchange (fun routers r => .ok (gather routers r)) commit routers =
      .ok (routers.map (fun r => (commit (gather routers r).1).1),
        routers.any fun r => (gather routers r).2 || (commit (gather routers r).1).2) := by
  refine exchange_ok.2 ⟨routers.map (gather routers), ?_, by simp [Function.comp_def],
    by simp [Function.comp_def]⟩
  rw [List.forall₂_map_right_iff, List.forall₂_same]
  exact fun r _ => rfl

theorem error_of_exchange {e : NetworkError} (failed : exchange gather commit routers = .error e) :
    ∃ r ∈ routers, gather routers r = .error e := by
  rcases bind_eq_error.1 failed with failed | ⟨⟨gathered, changed⟩, -, never⟩
  · exact error_of_everyRouter failed
  · dsimp only at never
    rw [everyRouter_total] at never
    cases never

/-- A property of all routers that no router loses while they all have it. -/
theorem exchange_keeps
    (keeps : ∀ r ∈ routers, ∀ g, gather routers r = .ok g → Inv (commit g.1).1)
    (moved : exchange gather commit routers = .ok (routers', flag)) : ∀ r ∈ routers', Inv r := by
  obtain ⟨gathered, all, rfl, rfl⟩ := exchange_ok.1 moved
  intro r member
  obtain ⟨g, found, rfl⟩ := List.mem_map.1 member
  obtain ⟨r, source, outcome⟩ := source_of_mem all found
  exact keeps r source g outcome

section Repeated

variable {phase : Phase} {limit steps : Nat} (start : ∀ r ∈ routers, Inv r)
include start

/-- A property that no router loses by its move, it has when the moves end. -/
theorem repeated_moves_keep {move : Router → Except NetworkError (Router × Bool)}
    (keeps : ∀ r m, Inv r → move r = .ok m → Inv m.1)
    (ended : repeatUntilStable phase limit (everyRouter move) routers = .ok (routers', steps)) :
    ∀ r ∈ routers', Inv r := by
  refine repeatUntilStable_keeps (P := fun routers => ∀ r ∈ routers, Inv r) ?_ start ended
  intro routers moved changed all step
  exact everyRouter_keeps (fun r member m outcome => keeps r m (all r member) outcome) step

/-- A property that no router loses while all have it, they have when the exchanges end. -/
theorem repeated_exchanges_keep
    (keeps : ∀ routers, (∀ r ∈ routers, Inv r) →
      ∀ r ∈ routers, ∀ g, gather routers r = .ok g → Inv (commit g.1).1)
    (ended : repeatUntilStable phase limit (exchange gather commit) routers =
      .ok (routers', steps)) : ∀ r ∈ routers', Inv r := by
  refine repeatUntilStable_keeps (P := fun routers => ∀ r ∈ routers, Inv r) ?_ start ended
  intro routers moved changed all step
  exact exchange_keeps (keeps routers all) step

/-- Exchanges in which gathering cannot fail. -/
theorem repeated_total_exchanges_keep {gather : List Router → Router → Router × Bool}
    (keeps : ∀ routers, (∀ r ∈ routers, Inv r) →
      ∀ r ∈ routers, Inv (commit (gather routers r).1).1)
    (ended : repeatUntilStable phase limit (exchange (fun routers r => .ok (gather routers r)) commit)
      routers = .ok (routers', steps)) : ∀ r ∈ routers', Inv r := by
  refine repeated_exchanges_keep start (fun routers all r member g gathered => ?_) ended
  cases gathered
  exact keeps routers all r member

end Repeated

/-- Along endless steps every place of the list has a history of its own. -/
theorem history_of_place {R : Nat → List Router}
    (run : ∀ n, exchange gather commit (R n) = .ok (R (n + 1), true)) :
    ∃ (places : Nat) (ρ : Nat → Fin places → Router) (γ : Nat → Fin places → Router × Bool),
      (∀ n i, ρ n i ∈ R n) ∧ (∀ n i, gather (R n) (ρ n i) = .ok (γ n i)) ∧
      (∀ n i, ρ (n + 1) i = (commit (γ n i).1).1) ∧
      ∀ n, ∃ i, (γ n i).2 = true ∨ (commit (γ n i).1).2 = true := by
  choose G all next moves using fun n => exchange_ok.1 (run n)
  have length (n : Nat) : (R n).length = (R 0).length := by
    induction n with
    | zero => rfl
    | succ n ih => rw [next, List.length_map, ← (all n).length_eq, ih]
  have gathered (n : Nat) : (G n).length = (R 0).length := by rw [← (all n).length_eq, length]
  refine ⟨(R 0).length, fun n i => (R n).get (i.cast (length n).symm),
    fun n i => (G n).get (i.cast (gathered n).symm), ?_, ?_, ?_, ?_⟩
  · intro n i
    exact List.get_mem _ _
  · intro n i
    exact (List.forall₂_iff_get.1 (all n)).2 i _ _
  · intro n i
    simp [next]
  · intro n
    obtain ⟨g, member, moved⟩ := List.any_eq_true.1 (moves n).symm
    obtain ⟨i, rfl⟩ := List.get_of_mem member
    exact ⟨i.cast (gathered n), Bool.or_eq_true _ _ ▸ moved⟩

/-- The exchanges of routers stop if each router gets quiet, whatever the others send. -/
theorem exchange_stops (start : ∀ r ∈ routers, Inv r)
    (keeps : ∀ routers, (∀ r ∈ routers, Inv r) →
      ∀ r ∈ routers, ∀ g, gather routers r = .ok g → Inv (commit g.1).1)
    (settles : ∀ (R : Nat → List Router) (ρ : Nat → Router) (γ : Nat → Router × Bool),
      (∀ n, ∀ r ∈ R n, Inv r) → (∀ n, ρ n ∈ R n) → (∀ n, gather (R n) (ρ n) = .ok (γ n)) →
      (∀ n, ρ (n + 1) = (commit (γ n).1).1) →
      ∀ᶠ n in atTop, (γ n).2 = false ∧ (commit (γ n).1).2 = false) :
    Stops (exchange gather commit) routers := by
  rcases stops_or_endless (exchange gather commit) routers with stops | endless
  · exact stops
  exfalso
  have run (n : Nat) := endless (n + 1) n n.lt_succ_self
  have inv (n : Nat) : ∀ r ∈ stateAfter (exchange gather commit) routers n, Inv r := by
    induction n with
    | zero => exact start
    | succ n ih => exact exchange_keeps (keeps _ ih) (run n)
  obtain ⟨places, ρ, γ, member, outcome, next, moves⟩ := history_of_place run
  have quiet : ∀ᶠ n in atTop, ∀ i, (γ n i).2 = false ∧ (commit (γ n i).1).2 = false :=
    eventually_all.2 fun i => settles _ (fun n => ρ n i) (fun n => γ n i) inv
      (fun n => member n i) (fun n => outcome n i) fun n => next n i
  obtain ⟨n, still⟩ := quiet.exists
  obtain ⟨i, moved⟩ := moves n
  rw [(still i).1, (still i).2] at moved
  simp at moved

theorem total_exchange_stops {gather : List Router → Router → Router × Bool}
    (start : ∀ r ∈ routers, Inv r)
    (keeps : ∀ routers, (∀ r ∈ routers, Inv r) →
      ∀ r ∈ routers, Inv (commit (gather routers r).1).1)
    (settles : ∀ (R : Nat → List Router) (ρ : Nat → Router),
      (∀ n, ∀ r ∈ R n, Inv r) → (∀ n, ρ n ∈ R n) →
      (∀ n, ρ (n + 1) = (commit (gather (R n) (ρ n)).1).1) →
      ∀ᶠ n in atTop, (gather (R n) (ρ n)).2 = false ∧
        (commit (gather (R n) (ρ n)).1).2 = false) :
    Stops (exchange (fun routers r => .ok (gather routers r)) commit) routers := by
  refine exchange_stops start ?_ ?_
  · intro routers all r member g gathered
    cases gathered
    exact keeps routers all r member
  · intro R ρ γ all member gathered next
    have outcome (n : Nat) : γ n = gather (R n) (ρ n) := (Except.ok.inj (gathered n)).symm
    simp only [outcome] at next ⊢
    exact settles R ρ all member next

end RoutePlane.Schedule
