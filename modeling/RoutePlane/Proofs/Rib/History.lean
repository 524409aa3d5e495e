import Mathlib.Data.List.Induction
import RoutePlane.Proofs.Rib.Merging

/-! Histories of a table: any calls of the two operations that add routes. The content after a
history depends only on the set of the routes that the calls brought, and every call reports a
change exactly if the content is another one than before it. -/
namespace RoutePlane.Rib

inductive Call where
  | merge (route : Route)
  | absorb (other : Rib)

namespace Call

/-- The routes that a call brings: a single one, or all that another table holds. -/
def routes : Call → Set Route
  | merge route => {route}
  | absorb other => {x | ∃ p, x ∈ other.held p}

def run (t : Rib) : Call → Rib × Bool
  | merge route => t.merge route
  | absorb other => t.absorb other

/-- They are merged one after the other. -/
theorem exists_mergeAll (t : Rib) (c : Call) :
    ∃ l : List Route, {x | x ∈ l} = c.routes ∧ c.run t = t.mergeAll l := by
  cases c with
  | merge route => exact ⟨[route], by simp [routes], by simp [run, mergeAll_cons]⟩
  | absorb other => exact ⟨other.routes, Set.ext fun _ => mem_routes_iff, rfl⟩

end Call

def broughtBy (calls : List Call) : Set Route := {x | ∃ c ∈ calls, x ∈ c.routes}

def after (k : RibKind) (calls : List Call) : Rib :=
  calls.foldl (fun t c => (c.run t).1) (.empty k)

variable {k : RibKind} {calls : List Call} {c : Call}

theorem broughtBy_append_singleton :
    broughtBy (calls ++ [c]) = broughtBy calls ∪ c.routes := by
  ext x
  simp only [broughtBy, List.mem_append, List.mem_singleton, Set.mem_union, Set.mem_ofPred_eq,
    or_and_right, exists_or, exists_eq_left]

@[simp] theorem after_append_singleton : after k (calls ++ [c]) = (c.run (after k calls)).1 := by
  simp [after]

@[simp] theorem kind_after : (after k calls).kind = k := by
  induction calls using List.reverseRecOn with
  | nil => rfl
  | append_singleton calls c ih =>
    obtain ⟨l, -, merged⟩ := c.exists_mergeAll (after k calls)
    rw [after_append_singleton, merged, kind_mergeAll, ih]

theorem selects_after (suits : ∀ x ∈ broughtBy calls, k.Suits x) :
    (after k calls).Selects (broughtBy calls) := by
  induction calls using List.reverseRecOn with
  | nil =>
    have nothing : broughtBy [] = ∅ := by simp [broughtBy]
    rw [nothing]
    exact Selects.empty k
  | append_singleton calls c ih =>
    obtain ⟨l, same, merged⟩ := c.exists_mergeAll (after k calls)
    rw [broughtBy_append_singleton, ← same] at suits ⊢
    rw [after_append_singleton, merged]
    refine (ih fun x member => suits x (.inl member)).mergeAll fun x member => ?_
    rw [kind_after]
    exact suits x (.inr member)

/-- After any history a table holds for each network exactly the routes that no other of the brought
ones beats, and they are equally good. Another history that brings the same routes ends with the
same content, and a further call returns true exactly if it changes the content. -/
theorem after_holds_best (k : RibKind) (calls : List Call)
    (suits : ∀ x ∈ broughtBy calls, k.Suits x) :
    (∀ p x, x ∈ (after k calls).held p ↔
      (x ∈ broughtBy calls ∧ k.Admits x ∧ x.network = p) ∧
        ∀ y ∈ broughtBy calls, k.Admits y → y.network = p → k.preference y x ≠ .lt) ∧
    (∀ p x y, x ∈ (after k calls).held p → y ∈ (after k calls).held p →
      k.preference x y = .eq) ∧
    (∀ others, broughtBy others = broughtBy calls →
      (after k others).sameRoutes (after k calls) = true) ∧
    ∀ c : Call, (∀ x ∈ c.routes, k.Suits x) →
      ((c.run (after k calls)).2 = true ↔
        (c.run (after k calls)).1.sameRoutes (after k calls) = false) := by
  have select := selects_after suits
  refine ⟨?_, ?_, ?_, ?_⟩
  · intro p x
    rw [select.mem_iff, kind_after]
    simp only [RibKind.best, RibKind.mem_candidates, Set.mem_ofPred_eq, and_imp]
  · intro p x y hx hy
    have tied := select.tied hx hy
    rwa [kind_after] at tied
  · intro others same
    rw [sameRoutes_iff]
    have second : (after k others).Selects (broughtBy others) := selects_after (same ▸ suits)
    rw [second.held_eq_iff select (by rw [kind_after, kind_after]), same]
    intro p
    rfl
  · intro c own
    obtain ⟨l, same, merged⟩ := c.exists_mergeAll (after k calls)
    rw [← same] at own
    have settled := select.mergeAll_flag_iff (l := l) (by rwa [kind_after])
    rw [merged, settled, ← Bool.not_eq_true, sameRoutes_iff]

def defaultOver (path : List AsNumber) : Route where
  network := .all
  protocol := .bgp
  distance := 20
  nextHop := .discard
  kind := .bgp { attributes := { asPath := .ofSequence path } }

/-- The shorter path wins, although the longer one is brought before it and again after it. -/
theorem after_holds_shorter_path :
    let calls := [.merge (defaultOver [1, 2]), .merge (defaultOver [3]),
      .absorb (after .bgp [.merge (defaultOver [1, 2])])]
    (∀ x ∈ broughtBy calls, RibKind.bgp.Suits x) ∧ defaultOver [3] ∈ (after .bgp calls).held .all ∧
      defaultOver [1, 2] ∉ (after .bgp calls).held .all := by
  intro calls
  have brought : ∀ x, x ∈ broughtBy calls → x = defaultOver [1, 2] ∨ x = defaultOver [3] := by
    have single : (after .bgp [.merge (defaultOver [1, 2])]).routes = [defaultOver [1, 2]] := by
      decide
    have again (x : Route) : (∃ p, x ∈ (after .bgp [.merge (defaultOver [1, 2])]).held p) ↔
        x = defaultOver [1, 2] := by
      rw [← mem_routes_iff, single, List.mem_singleton]
    intro x member
    simpa [calls, broughtBy, Call.routes, again, or_comm] using member
  have suits : ∀ x ∈ broughtBy calls, RibKind.bgp.Suits x := by
    intro x member _
    rcases brought x member with rfl | rfl <;> rfl
  have best := (after_holds_best .bgp calls suits).1 .all
  refine ⟨suits, (best _).2 ⟨⟨?_, ?_, rfl⟩, ?_⟩, fun held => ?_⟩
  · exact ⟨.merge (defaultOver [3]), by simp [calls], by simp [Call.routes]⟩
  · rintro ⟨main, -⟩
    cases main
  · intro y member _ _
    rcases brought y member with rfl | rfl <;> decide
  · refine ((best _).1 held).2 (defaultOver [3]) ?_ ?_ rfl (by decide)
    · exact ⟨.merge (defaultOver [3]), by simp [calls], by simp [Call.routes]⟩
    · rintro ⟨main, -⟩
      cases main

end RoutePlane.Rib
