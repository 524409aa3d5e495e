import Mathlib.Data.List.Forall2
import Mathlib.Data.List.Perm.Basic

/-! Lists of computations that can fail. A traversal succeeds exactly if it does so on every member,
and fails as one of them. -/
namespace RoutePlane.Fallible

variable {ε α β : Type} {x : Except ε α} {f : α → Except ε β} {e : ε} {b : β}

theorem bind_eq_ok {f : α → Except ε β} : x >>= f = .ok b ↔ ∃ a, x = .ok a ∧ f a = .ok b := by
  cases x with
  | error e =>
    show Except.error e = .ok b ↔ _
    simp
  | ok a =>
    show f a = .ok b ↔ _
    simp

theorem bind_eq_error {f : α → Except ε β} :
    x >>= f = .error e ↔ x = .error e ∨ ∃ a, x = .ok a ∧ f a = .error e := by
  cases x with
  | error e' =>
    show Except.error e' = .error e ↔ _
    simp
  | ok a =>
    show f a = .error e ↔ _
    simp

theorem pure_eq_ok {a c : α} : (pure a : Except ε α) = .ok c ↔ a = c := by
  show Except.ok a = .ok c ↔ _
  simp

theorem pure_ne_error {a : α} : (pure a : Except ε α) ≠ .error e := by
  show Except.ok a ≠ .error e
  simp

theorem map_eq_ok {g : α → β} : g <$> x = .ok b ↔ ∃ a, x = .ok a ∧ g a = b := by
  cases x with
  | error e =>
    show Except.error e = .ok b ↔ _
    simp
  | ok a =>
    show Except.ok (g a) = .ok b ↔ _
    simp

theorem map_eq_error {g : α → β} : g <$> x = .error e ↔ x = .error e := by
  cases x with
  | error e' =>
    show Except.error e' = .error e ↔ _
    simp
  | ok a =>
    show Except.ok (g a) = .error e ↔ _
    simp

theorem toOption_eq_some {a : α} : x.toOption = some a ↔ x = .ok a := by
  cases x <;> simp [Except.toOption]

theorem toOption_eq_none : x.toOption = none ↔ ∃ e, x = .error e := by
  cases x <;> simp [Except.toOption]

theorem toOption_bind {f : α → Except ε β} :
    (x >>= f).toOption = x.toOption.bind fun a => (f a).toOption := by
  cases x <;> rfl

theorem toOption_foldlM {step : β → α → Except ε β} (l : List α) (b : β) :
    (l.foldlM step b).toOption =
      l.foldl (fun o a => o.bind fun b => (step b a).toOption) (some b) := by
  induction l generalizing b with
  | nil => rfl
  | cons a l ih =>
    rw [List.foldlM_cons, toOption_bind, List.foldl_cons, Option.bind_some]
    cases step b a with
    | ok c => exact ih c
    | error => exact (List.foldl_fixed' (fun _ => rfl) l).symm

theorem of_any {p : α → Bool} (passed : x.toOption.any p = true) : ∃ a, x = .ok a ∧ p a = true := by
  cases x with
  | error => cases passed
  | ok a => exact ⟨a, rfl, passed⟩

theorem source_of_mem {related : α → β → Prop} {l : List α} {m : List β}
    (all : List.Forall₂ related l m) (member : b ∈ m) : ∃ a ∈ l, related a b := by
  induction all with
  | nil => exact absurd member List.not_mem_nil
  | cons first rest ih =>
    rcases List.mem_cons.1 member with rfl | later
    · exact ⟨_, List.mem_cons_self, first⟩
    · obtain ⟨a, source, found⟩ := ih later
      exact ⟨a, List.mem_cons_of_mem _ source, found⟩

theorem mapM_eq_ok {l : List α} {m : List β} :
    l.mapM f = .ok m ↔ List.Forall₂ (fun a b => f a = .ok b) l m := by
  induction l generalizing m with
  | nil =>
    rw [List.mapM_nil, pure_eq_ok, List.forall₂_nil_left_iff]
    exact eq_comm
  | cons a l ih =>
    simp only [List.mapM_cons, bind_eq_ok, pure_eq_ok, List.forall₂_cons_left_iff, ih]
    constructor
    · rintro ⟨b, first, rest, later, rfl⟩
      exact ⟨b, rest, first, later, rfl⟩
    · rintro ⟨b, rest, first, later, rfl⟩
      exact ⟨b, first, rest, later, rfl⟩

theorem outcome_of_mapM {l : List α} {m : List β} (done : l.mapM f = .ok m) {a : α}
    (member : a ∈ l) : ∃ b ∈ m, f a = .ok b :=
  source_of_mem (List.Forall₂.flip (mapM_eq_ok.1 done)) member

theorem mem_mapM {l : List α} {m : List β} (done : l.mapM f = .ok m) :
    b ∈ m ↔ ∃ a ∈ l, f a = .ok b := by
  refine ⟨source_of_mem (mapM_eq_ok.1 done), fun found => ?_⟩
  obtain ⟨a, member, outcome⟩ := found
  obtain ⟨b', listed, outcome'⟩ := outcome_of_mapM done member
  cases outcome.symm.trans outcome'
  exact listed

/-- What a traversal collects that finds a list for each member. -/
theorem mem_flatten_of_mapM {found : α → Except ε (List β)} {l : List α} {m : List (List β)}
    (done : l.mapM found = .ok m) : b ∈ m.flatten ↔ ∃ a ∈ l, ∃ n, found a = .ok n ∧ b ∈ n := by
  simp only [List.mem_flatten, mem_mapM done]
  constructor
  · rintro ⟨n, ⟨a, source, outcome⟩, member⟩
    exact ⟨a, source, n, outcome, member⟩
  · rintro ⟨a, source, n, outcome, member⟩
    exact ⟨n, ⟨a, source, outcome⟩, member⟩

theorem error_of_mapM {l : List α} (failed : l.mapM f = .error e) : ∃ a ∈ l, f a = .error e := by
  induction l with
  | nil => exact absurd failed pure_ne_error
  | cons a l ih =>
    rw [List.mapM_cons, bind_eq_error] at failed
    rcases failed with here | ⟨b, -, failed⟩
    · exact ⟨a, by simp, here⟩
    · rcases bind_eq_error.1 failed with later | ⟨_, -, never⟩
      · obtain ⟨c, member, there⟩ := ih later
        exact ⟨c, by simp [member], there⟩
      · exact absurd never pure_ne_error

theorem mapM_total {l : List α} (all : ∀ a ∈ l, ∃ b, f a = .ok b) : ∃ m, l.mapM f = .ok m := by
  cases outcome : l.mapM f with
  | ok m => exact ⟨m, rfl⟩
  | error e =>
    obtain ⟨a, member, failed⟩ := error_of_mapM outcome
    obtain ⟨b, done⟩ := all a member
    cases failed.symm.trans done

/-- Computations in step with others have outcomes in step with theirs. -/
theorem mapM_simulates {γ δ : Type} {g : γ → Except ε δ} {see : α → γ} {see' : β → δ}
    {l : List α} {m : List β} (simulates : ∀ a ∈ l, ∀ b, f a = .ok b → g (see a) = .ok (see' b))
    (done : l.mapM f = .ok m) : (l.map see).mapM g = .ok (m.map see') := by
  induction l generalizing m with
  | nil =>
    cases done
    rfl
  | cons a l ih =>
    rw [List.mapM_cons] at done
    obtain ⟨b, first, rest⟩ := bind_eq_ok.1 done
    obtain ⟨m, later, same⟩ := bind_eq_ok.1 rest
    cases same
    rw [List.map_cons, List.mapM_cons]
    have others := ih (fun a member => simulates a (List.mem_cons_of_mem _ member)) later
    have here := simulates a List.mem_cons_self b first
    exact bind_eq_ok.2 ⟨see' b, here, bind_eq_ok.2 ⟨m.map see', others, rfl⟩⟩

theorem filterMapM_eq_map {f : α → Except ε (Option β)} (l : List α) :
    l.filterMapM f = (·.filterMap id) <$> l.mapM f := by
  induction l with
  | nil => rfl
  | cons a l ih =>
    rw [List.filterMapM_cons, List.mapM_cons, ih]
    cases f a with
    | error => rfl
    | ok outcome => cases l.mapM f <;> cases outcome <;> rfl

theorem mem_filterMapM {f : α → Except ε (Option β)} {l : List α} {m : List β}
    (kept : l.filterMapM f = .ok m) : b ∈ m ↔ ∃ a ∈ l, f a = .ok (some b) := by
  rw [filterMapM_eq_map] at kept
  obtain ⟨outcomes, all, rfl⟩ := map_eq_ok.1 kept
  simp [List.mem_filterMap, mem_mapM all]

theorem error_of_filterMapM {f : α → Except ε (Option β)} {l : List α}
    (failed : l.filterMapM f = .error e) : ∃ a ∈ l, f a = .error e := by
  rw [filterMapM_eq_map] at failed
  exact error_of_mapM (map_eq_error.1 failed)

theorem filterMapM_append {f : α → Except ε (Option β)} (l l' : List α) :
    (l ++ l').filterMapM f =
      l.filterMapM f >>= fun n => l'.filterMapM f >>= fun n' => pure (n ++ n') := by
  induction l with
  | nil => simp
  | cons a l ih =>
    rw [List.cons_append, List.filterMapM_cons, List.filterMapM_cons, ih, bind_assoc]
    refine bind_congr fun outcome => ?_
    cases outcome <;> simp

/-- A traversal that succeeds does so in any order. -/
theorem mapM_perm {l l' : List α} {m : List β} (same : l.Perm l') (done : l.mapM f = .ok m) :
    ∃ m', l'.mapM f = .ok m' ∧ m.Perm m' := by
  obtain ⟨m', all, order⟩ := List.perm_comp_forall₂ same.symm (mapM_eq_ok.1 done)
  exact ⟨m', mapM_eq_ok.2 all, order.symm⟩

theorem filterMapM_perm {f : α → Except ε (Option β)} {l l' : List α} {m : List β}
    (same : l.Perm l') (kept : l.filterMapM f = .ok m) :
    ∃ m', l'.filterMapM f = .ok m' ∧ m.Perm m' := by
  rw [filterMapM_eq_map] at kept ⊢
  obtain ⟨outcomes, all, rfl⟩ := map_eq_ok.1 kept
  obtain ⟨outcomes', all', order⟩ := mapM_perm same all
  exact ⟨_, map_eq_ok.2 ⟨outcomes', all', rfl⟩, order.filterMap id⟩

end RoutePlane.Fallible
