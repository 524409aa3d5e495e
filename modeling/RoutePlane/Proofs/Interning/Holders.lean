import Mathlib.Data.Multiset.AddSub
import RoutePlane.Interning.Holders
import RoutePlane.Proofs.Interning.Sweeps

/-! Slots and a heap as holders. All that they do is to ask the cache and to let go of cells, so what the
cache does to any holders it does to them. -/
namespace RoutePlane

variable {α : Type} [DecidableEq α]

namespace Interning

theorem exists_releases (s : Interning α) (keep : Cell α → Bool) : ∃ events,
    (s.run events).cache = s.cache ∧
      ∀ cell, cell ∈ (s.run events).held ↔ cell ∈ s.held ∧ keep cell = true := by
  have released (cells : List (Cell α)) :
      s.run (cells.map .release) = { s with held := s.held.diff cells } := by
    induction cells generalizing s with
    | nil => simp [run]
    | cons cell cells ih => exact (ih (s.step (.release cell))).trans (by rw [step, List.diff_cons])
  refine ⟨(s.held.filter (!keep ·)).map .release, by rw [released], fun cell => ?_⟩
  rw [released]
  have left : (s.held.diff (s.held.filter (!keep ·))).count cell =
      s.held.count cell - (s.held.filter (!keep ·)).count cell := by
    rw [← Multiset.coe_count, ← Multiset.coe_sub, Multiset.count_sub, Multiset.coe_count,
      Multiset.coe_count]
  rw [← List.count_pos_iff, left, ← List.count_pos_iff (l := s.held)]
  cases kept : keep cell with
  | false =>
    have all : (s.held.filter (!keep ·)).count cell = s.held.count cell :=
      List.count_filter (by simp [kept])
    simp [all]
  | true =>
    have none : (s.held.filter (!keep ·)).count cell = 0 :=
      List.count_eq_zero.2 fun member => by simp [kept] at member
    simp [none]

end Interning

inductive HolderAction (α : Type) where
  | internInto (slot : String) (value : α)
  | drop (slot : String)
  | internAll (keep : Bool) (values : List α)
  | release

namespace InternHolders

variable {h : InternHolders α} {s : Interning α}

def act (h : InternHolders α) : HolderAction α → InternHolders α
  | .internInto slot value => (h.internInto slot value).2
  | .drop slot => h.drop slot
  | .internAll keep values => h.internAll keep values
  | .release => h.release

def held (h : InternHolders α) : List (Cell α) := h.slots.values ++ h.heap

/-- The caches are the same, and the same cells are held. -/
structure Mirrors (h : InternHolders α) (s : Interning α) : Prop where
  cache : h.cache = s.cache
  held : ∀ cell, cell ∈ h.held ↔ cell ∈ s.held

/-- Holders that only let go of cells. -/
theorem Mirrors.exists_releases (mirrors : h.Mirrors s) {after : InternHolders α}
    (cache : after.cache = h.cache) (fewer : ∀ cell ∈ after.held, cell ∈ h.held) :
    ∃ events, after.Mirrors (s.run events) := by
  obtain ⟨events, same, held⟩ := s.exists_releases fun cell => cell ∈ after.held
  refine ⟨events, cache.trans (mirrors.cache.trans same.symm), fun cell => ?_⟩
  rw [held, ← mirrors.held, decide_eq_true_iff]
  exact (and_iff_right_of_imp (fewer cell)).symm

omit [DecidableEq α] in
theorem Mirrors.holds_eq (mirrors : h.Mirrors s) : h.holds = s.holds := by
  funext place
  have same : h.held.any (·.place == place) = s.held.any (·.place == place) := by
    rw [Bool.eq_iff_iff, List.any_eq_true, List.any_eq_true]
    simp only [mirrors.held]
  rw [holds, ← List.any_append]
  exact same

/-- One more cell is asked for, and whatever is not held afterwards is let go. -/
theorem Mirrors.exists_ask (mirrors : h.Mirrors s) (value : α) {after : InternHolders α}
    (cache : after.cache = (h.intern value).2.cache)
    (held : ∀ cell ∈ after.held, cell = (h.intern value).1 ∨ cell ∈ h.held) :
    ∃ events, after.Mirrors (s.run events) := by
  have asked : h.cache.intern h.holds value = s.intern value := by
    rw [mirrors.cache, mirrors.holds_eq, Interning.intern]
  -- in between, the new cell is on the heap
  let between : InternHolders α :=
    { (h.intern value).2 with heap := (h.intern value).1 :: h.heap }
  have between_held (cell : Cell α) :
      cell ∈ between.held ↔ cell = (h.intern value).1 ∨ cell ∈ h.held := by
    simp only [InternHolders.held, between, List.mem_append, List.mem_cons]
    exact or_left_comm
  have first : between.Mirrors (s.step (.ask value)) := by
    refine ⟨congrArg Prod.snd asked, fun cell => ?_⟩
    rw [between_held, mirrors.held, Interning.step, List.mem_cons]
    exact or_congr_left (by rw [← asked]; rfl)
  obtain ⟨events, mirrors⟩ := first.exists_releases cache fun cell member =>
    (between_held cell).2 (held cell member)
  exact ⟨.ask value :: events, mirrors⟩

theorem Mirrors.internAll (mirrors : h.Mirrors s) (keep : Bool) (values : List α) :
    ∃ events, (h.internAll keep values).Mirrors (s.run events) := by
  induction values generalizing h s with
  | nil => exact ⟨[], mirrors⟩
  | cons value values ih =>
    have once : ∃ events, (h.internAll keep [value]).Mirrors (s.run events) := by
      refine mirrors.exists_ask value ?_ ?_
      · cases keep <;> rfl
      · intro cell member
        cases keep with
        | false => exact .inr member
        | true =>
          rcases List.mem_append.1 member with slot | heap
          · exact .inr (List.mem_append_left _ slot)
          · exact (List.mem_cons.1 heap).imp_right (List.mem_append_right _)
    obtain ⟨first, here⟩ := once
    obtain ⟨rest, later⟩ := ih here
    exact ⟨first ++ rest, by rw [Interning.run, List.foldl_append]; exact later⟩

theorem Mirrors.act (mirrors : h.Mirrors s) (action : HolderAction α) :
    ∃ events, (h.act action).Mirrors (s.run events) := by
  cases action with
  | internInto slot value =>
    refine mirrors.exists_ask value rfl fun cell member => ?_
    rcases List.mem_append.1 member with slots | heap
    · obtain ⟨⟨_, _⟩, bound, rfl⟩ := List.mem_map.1 slots
      rcases SortedMap.key_of_mem_insertInto bound with same | old
      · exact .inl (Prod.mk.inj same).2
      · exact .inr (List.mem_append_left _ (List.mem_map.2 ⟨_, old, rfl⟩))
    · exact .inr (List.mem_append_right _ heap)
  | drop slot =>
    refine mirrors.exists_releases rfl fun cell member => ?_
    rcases List.mem_append.1 member with slots | heap
    · obtain ⟨b, bound, rfl⟩ := List.mem_map.1 slots
      exact List.mem_append_left _ (List.mem_map.2 ⟨b, (List.mem_filter.1 bound).1, rfl⟩)
    · exact List.mem_append_right _ heap
  | internAll keep values => exact mirrors.internAll keep values
  | release =>
    refine mirrors.exists_releases rfl fun cell member => ?_
    rcases List.mem_append.1 member with slots | heap
    · exact List.mem_append_left _ slots
    · cases heap

/-- Whatever slots and heap do, the cache has gone through events of its holders. -/
theorem exists_run (capacity : Nat) (actions : List (HolderAction α)) :
    ∃ events, (actions.foldl act (empty α capacity)).Mirrors
      ((Interning.start α capacity).run events) := by
  have all {h : InternHolders α} {s : Interning α} (mirrors : h.Mirrors s) :
      ∃ events, (actions.foldl act h).Mirrors (s.run events) := by
    induction actions generalizing h s with
    | nil => exact ⟨[], mirrors⟩
    | cons action actions ih =>
      obtain ⟨first, here⟩ := mirrors.act action
      obtain ⟨rest, later⟩ := ih here
      exact ⟨first ++ rest, by rw [Interning.run, List.foldl_append]; exact later⟩
  exact all ⟨rfl, fun _ => Iff.rfl⟩

end InternHolders

end RoutePlane
