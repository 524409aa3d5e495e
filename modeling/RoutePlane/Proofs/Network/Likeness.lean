import RoutePlane.Proofs.Network.Exchange

/-! Routers that look alike. A look is what can be seen of a router; moves that treat routers with one
look alike take lists that look alike to lists that look alike, with the same flags and in the same
number of steps. -/
namespace RoutePlane

open Fallible

/-- Related states go through a repetition in step. -/
theorem repeatUntilStable_simulates {σ : Type} {phase : Phase}
    {step step' : σ → Except NetworkError (σ × Bool)} {s s' t : σ} {limit steps : Nat}
    {R : σ → σ → Prop}
    (simulates : ∀ s s' t changed, R s s' → step s = .ok (t, changed) →
      ∃ t', step' s' = .ok (t', changed) ∧ R t t')
    (related : R s s') (ended : repeatUntilStable phase limit step s = .ok (t, steps)) :
    ∃ t', repeatUntilStable phase limit step' s' = .ok (t', steps) ∧ R t t' := by
  rw [repeatUntilStable] at ended ⊢
  generalize 0 = done at ended ⊢
  induction limit generalizing s s' done with
  | zero => cases ended
  | succ left ih =>
    obtain ⟨⟨u, changed⟩, moved, rest⟩ := bind_eq_ok.1 ended
    obtain ⟨u', moved', related'⟩ := simulates s s' u changed related moved
    rw [repeatFrom, moved']
    cases changed with
    | true => exact ih related' _ rest
    | false =>
      cases rest
      exact ⟨u', rfl, related'⟩

namespace Schedule

variable {κ κ' : Type} {look : Router → κ} {look' : Router → κ'} {routers routers' moved : List Router}
  {flag : Bool}

/-- Routers of one look move to routers of one look, with the same flag. -/
def Respects (look : Router → κ) (look' : Router → κ')
    (move move' : Router → Except NetworkError (Router × Bool)) : Prop :=
  ∀ r r' m, look r = look r' → move r = .ok m →
    ∃ m', move' r' = .ok m' ∧ look' m.1 = look' m'.1 ∧ m.2 = m'.2

theorem forall₂_of_look {α : Type} {move move' : Router → Except NetworkError α}
    {alike : α → α → Prop} {outcomes : List α}
    (respects : ∀ r r' m, look r = look r' → move r = .ok m → ∃ m', move' r' = .ok m' ∧ alike m m')
    (same : routers.map look = routers'.map look)
    (all : List.Forall₂ (fun r m => move r = .ok m) routers outcomes) :
    ∃ outcomes', List.Forall₂ (fun r m => move' r = .ok m) routers' outcomes' ∧
      List.Forall₂ alike outcomes outcomes' := by
  induction all generalizing routers' with
  | nil =>
    obtain rfl : routers' = [] := by simpa using same.symm
    exact ⟨[], .nil, .nil⟩
  | @cons r m routers outcomes outcome others ih =>
    cases routers' with
    | nil => simp at same
    | cons r' routers' =>
      rw [List.map_cons, List.map_cons, List.cons.injEq] at same
      obtain ⟨m', outcome', here⟩ := respects r r' m same.1 outcome
      obtain ⟨outcomes', others', rest⟩ := ih same.2
      exact ⟨m' :: outcomes', .cons outcome' others', .cons here rest⟩

theorem map_eq_iff_forall₂ {α β γ : Type} {see : α → γ} {see' : β → γ} {l : List α} {l' : List β} :
    l.map see = l'.map see' ↔ List.Forall₂ (fun a a' => see a = see' a') l l' := by
  rw [← List.forall₂_eq_eq_eq, List.forall₂_map_left_iff, List.forall₂_map_right_iff]

theorem map_pair_eq_iff {α β γ : Type} {see : α → β} {see' : α → γ} {l l' : List α} :
    l.map (fun a => (see a, see' a)) = l'.map (fun a => (see a, see' a)) ↔
      l.map see = l'.map see ∧ l.map see' = l'.map see' := by
  induction l generalizing l' with
  | nil => cases l' <;> simp
  | cons a l ih =>
    cases l' with
    | nil => simp
    | cons a' l' =>
      simp only [List.map_cons, List.cons.injEq, Prod.mk.injEq, ih]
      exact and_and_and_comm

/-- Whoever has partners before and after, and looks the same after, has them together. -/
theorem partners_of_mem {α : Type} {P Q : α → Router → Prop} {l : List α} {r : Router}
    (before : List.Forall₂ P l routers) (after : List.Forall₂ Q l moved)
    (same : moved.map look = routers.map look) (member : r ∈ routers) :
    ∃ a ∈ l, ∃ m, P a r ∧ Q a m ∧ look m = look r := by
  induction before generalizing moved with
  | nil => exact absurd member List.not_mem_nil
  | @cons a first l rest here others ih =>
    obtain - | @⟨_, m, _, _, there, more⟩ := after
    rw [List.map_cons, List.map_cons, List.cons.injEq] at same
    rcases List.mem_cons.1 member with rfl | later
    · exact ⟨a, List.mem_cons_self, m, here, there, same.1⟩
    · obtain ⟨a', source, m', found⟩ := ih more same.2 later
      exact ⟨a', List.mem_cons_of_mem _ source, m', found⟩

theorem mapM_alike {move : Router → Except NetworkError Router}
    (respects : ∀ r r' m, look r = look r' → move r = .ok m →
      ∃ m', move r' = .ok m' ∧ look' m = look' m')
    (same : routers.map look = routers'.map look) (done : routers.mapM move = .ok moved) :
    ∃ moved', routers'.mapM move = .ok moved' ∧ moved.map look' = moved'.map look' := by
  obtain ⟨moved', all, alike⟩ := forall₂_of_look respects same (mapM_eq_ok.1 done)
  exact ⟨moved', mapM_eq_ok.2 all, map_eq_iff_forall₂.2 alike⟩

theorem everyRouter_alike {move : Router → Except NetworkError (Router × Bool)}
    (respects : Respects look look' move move) (same : routers.map look = routers'.map look)
    (done : everyRouter move routers = .ok (moved, flag)) :
    ∃ moved', everyRouter move routers' = .ok (moved', flag) ∧
      moved.map look' = moved'.map look' := by
  obtain ⟨outcomes, all, rfl, rfl⟩ := everyRouter_ok.1 done
  obtain ⟨outcomes', all', alike⟩ := forall₂_of_look respects same all
  have pairs : outcomes.map (fun m => (look' m.1, m.2)) =
      outcomes'.map fun m => (look' m.1, m.2) :=
    map_eq_iff_forall₂.2 (alike.imp fun m m' same => Prod.ext same.1 same.2)
  refine ⟨outcomes'.map (·.1), everyRouter_ok.2 ⟨outcomes', all', rfl, ?_⟩, ?_⟩
  · have flags := congrArg (fun l => l.any (·.2)) pairs
    simpa [List.any_map, Function.comp_def] using flags
  · have looks := congrArg (List.map Prod.fst) pairs
    simpa [Function.comp_def] using looks

theorem everyRouter_simulates {w : Router → Router}
    {move move' : Router → Except NetworkError (Router × Bool)}
    (simulates : ∀ r ∈ routers, ∀ m, move r = .ok m → move' (w r) = .ok (w m.1, m.2))
    (done : everyRouter move routers = .ok (moved, flag)) :
    everyRouter move' (routers.map w) = .ok (moved.map w, flag) := by
  obtain ⟨outcomes, all, same⟩ := bind_eq_ok.1 done
  cases same
  refine bind_eq_ok.2 ⟨outcomes.map fun m => (w m.1, m.2), mapM_simulates simulates all, ?_⟩
  simp [pure_eq_ok, Function.comp_def]

theorem exchange_simulates {w : Router → Router}
    {gather gather' : List Router → Router → Except NetworkError (Router × Bool)}
    {commit : Router → Router × Bool}
    (gathers : ∀ r ∈ routers, ∀ g, gather routers r = .ok g →
      gather' (routers.map w) (w r) = .ok (w g.1, g.2))
    (commits : ∀ r, commit (w r) = (w (commit r).1, (commit r).2))
    (done : exchange gather commit routers = .ok (moved, flag)) :
    exchange gather' commit (routers.map w) = .ok (moved.map w, flag) := by
  obtain ⟨⟨gathered, _⟩, first, rest⟩ := bind_eq_ok.1 done
  obtain ⟨⟨committed, committing⟩, second, same⟩ := bind_eq_ok.1 rest
  cases same
  have again : everyRouter (fun r => .ok (commit r)) (gathered.map w) =
      .ok (moved.map w, committing) := by
    refine everyRouter_simulates (fun r _ m outcome => ?_) second
    cases outcome
    exact congrArg Except.ok (commits r)
  exact bind_eq_ok.2 ⟨_, everyRouter_simulates gathers first, bind_eq_ok.2 ⟨_, again, rfl⟩⟩

/-- An exchange sees of the routers only their looks. -/
theorem exchange_alike {gather : List Router → Router → Except NetworkError (Router × Bool)}
    {commit : Router → Router × Bool}
    (gathers : routers.map look = routers'.map look →
      Respects look look' (gather routers) (gather routers'))
    (commits : ∀ r r', look' r = look' r' →
      look (commit r).1 = look (commit r').1 ∧ (commit r).2 = (commit r').2)
    (same : routers.map look = routers'.map look)
    (done : exchange gather commit routers = .ok (moved, flag)) :
    ∃ moved', exchange gather commit routers' = .ok (moved', flag) ∧
      moved.map look = moved'.map look := by
  obtain ⟨gathered, all, rfl, rfl⟩ := exchange_ok.1 done
  obtain ⟨gathered', all', alike⟩ := forall₂_of_look (gathers same) same all
  have pairs : gathered.map (fun g => (look (commit g.1).1, g.2 || (commit g.1).2)) =
      gathered'.map fun g => (look (commit g.1).1, g.2 || (commit g.1).2) := by
    refine map_eq_iff_forall₂.2 (alike.imp fun g g' same => ?_)
    obtain ⟨next, flags⟩ := commits g.1 g'.1 same.1
    rw [next, flags, same.2]
  refine ⟨gathered'.map fun g => (commit g.1).1, exchange_ok.2 ⟨gathered', all', rfl, ?_⟩, ?_⟩
  · have flags := congrArg (fun l => l.any (·.2)) pairs
    simpa [List.any_map, Function.comp_def] using flags
  · have looks := congrArg (List.map Prod.fst) pairs
    simpa [Function.comp_def] using looks

theorem repeatUntilStable_alike {phase : Phase} {limit steps : Nat}
    {step : List Router → Except NetworkError (List Router × Bool)}
    (alike : ∀ {routers routers' moved flag}, routers.map look = routers'.map look →
      step routers = .ok (moved, flag) →
      ∃ moved', step routers' = .ok (moved', flag) ∧ moved.map look = moved'.map look)
    (same : routers.map look = routers'.map look)
    (ended : repeatUntilStable phase limit step routers = .ok (moved, steps)) :
    ∃ moved', repeatUntilStable phase limit step routers' = .ok (moved', steps) ∧
      moved.map look = moved'.map look :=
  repeatUntilStable_simulates (R := fun s s' => s.map look = s'.map look)
    (fun _ _ _ _ => alike) same ended

/-- What a move does not change of any router. -/
theorem everyRouter_map {move : Router → Except NetworkError (Router × Bool)}
    (keeps : ∀ r m, move r = .ok m → look m.1 = look r)
    (done : everyRouter move routers = .ok (moved, flag)) : moved.map look = routers.map look := by
  obtain ⟨outcomes, all, rfl, -⟩ := everyRouter_ok.1 done
  rw [List.map_map]
  exact (map_eq_iff_forall₂.2 (all.imp fun r m moved => (keeps r m moved).symm)).symm

theorem repeatUntilStable_map {phase : Phase} {limit steps : Nat}
    {step : List Router → Except NetworkError (List Router × Bool)}
    (keeps : ∀ routers moved changed, step routers = .ok (moved, changed) →
      moved.map look = routers.map look)
    (ended : repeatUntilStable phase limit step routers = .ok (moved, steps)) :
    moved.map look = routers.map look :=
  repeatUntilStable_keeps (P := fun l => l.map look = routers.map look)
    (fun s t changed same step => (keeps s t changed step).trans same) rfl ended

theorem exchange_map {gather : List Router → Router → Except NetworkError (Router × Bool)}
    {commit : Router → Router × Bool}
    (keeps : ∀ r g, gather routers r = .ok g → look (commit g.1).1 = look r)
    (done : exchange gather commit routers = .ok (moved, flag)) :
    moved.map look = routers.map look := by
  obtain ⟨gathered, all, rfl, -⟩ := exchange_ok.1 done
  rw [List.map_map]
  exact (map_eq_iff_forall₂.2 (all.imp fun r g moved => (keeps r g moved).symm)).symm

theorem mapM_map {move : Router → Except NetworkError Router}
    (keeps : ∀ r m, move r = .ok m → look m = look r) (done : routers.mapM move = .ok moved) :
    moved.map look = routers.map look := by
  exact (map_eq_iff_forall₂.2 ((mapM_eq_ok.1 done).imp fun r m moved => (keeps r m moved).symm)).symm

end Schedule

end RoutePlane
