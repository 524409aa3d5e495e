import RoutePlane.Proofs.RouteMap.References

/-! How deep policies may ask each other. More depth does not change a verdict that is conclusive, that is, one
that is reached before the depth is used up. A verdict that needs another level needs one more policy
for it, so the depth of a device settles all that any depth settles. What it leaves open are policies that
come back to themselves. -/
namespace RoutePlane

open Fallible

/-- No policy has come back to itself. -/
def Conclusive {α : Type} (x : Except PolicyError α) : Prop := ∀ name, x ≠ .error (.circular name)

def KeptBy {α : Type} (x y : Except PolicyError α) : Prop := Conclusive x → y = x

theorem conclusive_ok {α : Type} (a : α) : Conclusive (.ok a : Except PolicyError α) := nofun

namespace KeptBy

variable {α β : Type} {x y z : Except PolicyError α} {f g : α → Except PolicyError β}

theorem refl (x : Except PolicyError α) : KeptBy x x := fun _ => rfl

theorem trans (first : KeptBy x y) (second : KeptBy y z) : KeptBy x z := by
  intro conclusive
  obtain rfl := first conclusive
  exact second conclusive

theorem bind (first : KeptBy x y) (others : ∀ a, KeptBy (f a) (g a)) :
    KeptBy (x >>= f) (y >>= g) := by
  intro conclusive
  cases x with
  | error e =>
    have alike : y = .error e := first fun name same => conclusive name (by rw [same]; rfl)
    rw [alike]
    rfl
  | ok a =>
    have alike : y = .ok a := first (conclusive_ok a)
    rw [alike]
    exact others a conclusive

end KeptBy

namespace RouteMap

variable {permits permits' : String → Except PolicyError Bool} {r : Route}

theorem allHold_kept (kept : ∀ name, KeptBy (permits name) (permits' name))
    (conditions : List Condition) :
    KeptBy (allHold permits r conditions) (allHold permits' r conditions) := by
  induction conditions with
  | nil => exact .refl _
  | cons c rest ih =>
    have own : KeptBy (c.holds permits r) (c.holds permits' r) := by
      cases c with
      | policy name => exact kept name
      | _ => exact .refl _
    refine own.bind fun holds => ?_
    cases holds with
    | false => exact .refl _
    | true => exact ih

theorem walk_kept (kept : ∀ name, KeptBy (permits name) (permits' name)) (entries : List Entry)
    (sought : Option UInt16) (verdict : Verdict) :
    KeptBy (walk permits r sought verdict entries) (walk permits' r sought verdict entries) := by
  induction entries generalizing sought verdict with
  | nil => exact .refl _
  | cons e rest ih =>
    rw [walk, walk]
    split
    · exact ih sought verdict
    · refine (allHold_kept kept e.conditions).bind fun holds => ?_
      cases holds with
      | false => exact ih none verdict
      | true =>
        cases e.action with
        | reject => exact .refl _
        | accept =>
          cases e.next with
          | exit => exact .refl _
          | next => exact ih none _
          | goto sequence => exact ih (some sequence) _

end RouteMap

namespace PolicyContext

variable {c : PolicyContext} {r : Route} {name : String} {depth : Nat}

def decision (c : PolicyContext) (r : Route) (depth : Nat) (name : String) :
    Except PolicyError Bool := do
  pure (← c.evaluate r depth name).permitted

theorem evaluate_defined {m : RouteMap} (found : c.configuration.policy? name = some m) :
    c.evaluate r (depth + 1) name = m.evaluate (c.decision r depth) r := by
  rw [evaluate, found]
  rfl

theorem evaluate_undefined (missing : c.configuration.policy? name = none) :
    c.evaluate r depth name = .error (.undefined name) := by
  cases depth <;> rw [evaluate, missing]

theorem defines_of_open (inconclusive : ¬Conclusive (c.evaluate r depth name)) :
    c.configuration.Defines name := by
  cases found : c.configuration.policy? name with
  | none => exact absurd (by rw [evaluate_undefined found]; exact nofun) inconclusive
  | some m => exact Option.isSome_iff_exists.2 ⟨m, found⟩

/-- Verdicts are kept from one depth to another if the decisions that they ask for are. -/
theorem evaluate_kept {other : Nat}
    (kept : ∀ asked, KeptBy (c.evaluate r depth asked) (c.evaluate r other asked)) (name : String) :
    KeptBy (c.evaluate r (depth + 1) name) (c.evaluate r (other + 1) name) := by
  cases found : c.configuration.policy? name with
  | none =>
    rw [evaluate_undefined found, evaluate_undefined found]
    exact .refl _
  | some m =>
    rw [evaluate_defined found, evaluate_defined found]
    exact RouteMap.walk_kept (fun asked => (kept asked).bind fun _ => .refl _) _ _ _

theorem evaluate_succ (depth : Nat) (name : String) :
    KeptBy (c.evaluate r depth name) (c.evaluate r (depth + 1) name) := by
  induction depth generalizing name with
  | zero =>
    cases found : c.configuration.policy? name with
    | none =>
      rw [evaluate_undefined found, evaluate_undefined found]
      exact .refl _
    | some m =>
      intro conclusive
      exact absurd (by rw [evaluate, found]) (conclusive name)
  | succ depth ih => exact evaluate_kept ih name

theorem evaluate_deeper {deeper : Nat} (more : depth ≤ deeper) (name : String) :
    KeptBy (c.evaluate r depth name) (c.evaluate r deeper name) := by
  induction more with
  | refl => exact .refl _
  | step _ ih => exact ih.trans (evaluate_succ _ name)

/-- A verdict that is conclusive at a depth, but not before, has a policy for each level. -/
theorem exists_levels (late : ¬Conclusive (c.evaluate r depth name))
    (conclusive : Conclusive (c.evaluate r (depth + 1) name)) :
    ∃ names : List String, names.length = depth + 1 ∧ names.Nodup ∧
      ∀ level ∈ names, c.configuration.Defines level ∧ Conclusive (c.evaluate r (depth + 1) level) := by
  induction depth generalizing name with
  | zero =>
    have defined := defines_of_open late
    exact ⟨[name], rfl, List.nodup_singleton name, by simpa using ⟨defined, conclusive⟩⟩
  | succ depth ih =>
    -- If everything that was asked had been conclusive a level before, so would be what asked it.
    obtain ⟨other, before, now⟩ : ∃ other, ¬Conclusive (c.evaluate r depth other) ∧
        Conclusive (c.evaluate r (depth + 1) other) := by
      by_contra none
      push Not at none
      have kept (asked : String) :
          KeptBy (c.evaluate r (depth + 1) asked) (c.evaluate r depth asked) := by
        intro conclusive
        by_cases before : Conclusive (c.evaluate r depth asked)
        · exact (evaluate_succ depth asked before).symm
        · exact absurd conclusive (none asked before)
      exact late (by rwa [evaluate_kept kept name conclusive])
    obtain ⟨names, length, distinct, levels⟩ := ih before now
    refine ⟨name :: names, by rw [List.length_cons, length], ?_, ?_⟩
    · exact List.nodup_cons.2 ⟨fun again => late (levels name again).2, distinct⟩
    · refine List.forall_mem_cons.2 ⟨⟨defines_of_open late, conclusive⟩, fun level member => ?_⟩
      obtain ⟨defines, settles⟩ := levels level member
      exact ⟨defines, by rwa [evaluate_succ _ level settles]⟩

/-- No depth has a verdict that the depth of the device has not. -/
theorem evaluate_conclusive (conclusive : Conclusive (c.evaluate r depth name)) :
    c.evaluate r c.depth name = c.evaluate r depth name := by
  induction depth with
  | zero => exact evaluate_deeper (Nat.zero_le _) name conclusive
  | succ depth ih =>
    by_cases before : Conclusive (c.evaluate r depth name)
    · rw [ih before, evaluate_succ depth name before]
    · obtain ⟨names, length, distinct, levels⟩ := exists_levels before conclusive
      have enough := Configuration.length_le_of_defined distinct fun level member =>
        (levels level member).1
      exact evaluate_deeper (length ▸ enough) name conclusive

/-- Where the depth does not suffice, a policy comes back to itself. -/
theorem leadsBack_of_circular {way : List String} {circular : String}
    (ways : c.configuration.IsWay way name) (enough : c.depth ≤ way.length + depth)
    (failed : c.evaluate r depth name = .error (.circular circular)) :
    c.configuration.LeadsBack name := by
  induction depth generalizing name way with
  | zero =>
    -- The way has no repetition, so it is not longer than the policies that are defined.
    have bound := Configuration.length_le_of_defined ways.distinct ways.defined
    rw [List.length_cons] at bound
    rw [PolicyContext.depth] at enough
    omega
  | succ depth ih =>
    obtain ⟨m, found⟩ := Option.isSome_iff_exists.1 (ways.defined name List.mem_cons_self)
    rw [evaluate_defined found] at failed
    obtain ⟨other, asked, circle⟩ := RouteMap.walk_error failed
    have asks : c.configuration.Asks name other := ⟨m, found, asked⟩
    have failed : c.evaluate r depth other = .error (.circular circular) := map_eq_error.1 circle
    by_cases again : other ∈ name :: way
    · refine ⟨other, .single asks, ?_⟩
      rcases List.mem_cons.1 again with rfl | earlier
      · exact .single asks
      · exact (ways.leads other earlier).tail asks
    · have defined := defines_of_open fun conclusive => conclusive circular failed
      obtain ⟨again, reached, circle⟩ := ih (ways.longer asks defined again)
        (by rw [List.length_cons]; omega) failed
      exact ⟨again, .head asks reached, circle⟩

/-- A policy whose questions do not come back to themselves is evaluated to its end. -/
theorem conclusive_of_ends (ends : ¬c.configuration.LeadsBack name) :
    Conclusive (c.evaluate r c.depth name) := by
  intro circular failed
  have defined := defines_of_open fun conclusive => conclusive circular failed
  exact ends (leadsBack_of_circular (.start defined) (Nat.le_add_left _ _) failed)

/-- No depth is enough for the policy on this route: what it asks goes on for ever. -/
def Endless (c : PolicyContext) (r : Route) (name : String) : Prop :=
  ∀ depth, ¬Conclusive (c.evaluate r depth name)

theorem conclusive_of_not_endless (ends : ¬c.Endless r name) :
    Conclusive (c.evaluate r c.depth name) := by
  obtain ⟨depth, conclusive⟩ := not_forall_not.1 ends
  rwa [evaluate_conclusive conclusive]

theorem Endless.leadsBack (endless : c.Endless r name) : c.configuration.LeadsBack name := by
  by_contra ends
  exact endless c.depth (conclusive_of_ends ends)

/-- An evaluation that comes to its end fails only at a policy that is not defined. -/
theorem exists_undefined {error : PolicyError} (failed : c.evaluate r depth name = .error error)
    (conclusive : Conclusive (c.evaluate r depth name)) : ∃ missing,
      Relation.ReflTransGen c.configuration.Asks name missing ∧
        c.configuration.policy? missing = none ∧ error = .undefined missing := by
  induction depth generalizing name with
  | zero =>
    cases found : c.configuration.policy? name with
    | none =>
      rw [evaluate_undefined found] at failed
      exact ⟨name, .refl, found, (Except.error.inj failed).symm⟩
    | some m => exact absurd (by rw [evaluate, found]) (conclusive name)
  | succ depth ih =>
    cases found : c.configuration.policy? name with
    | none =>
      rw [evaluate_undefined found] at failed
      exact ⟨name, .refl, found, (Except.error.inj failed).symm⟩
    | some m =>
      rw [failed] at conclusive
      rw [evaluate_defined found] at failed
      obtain ⟨other, asked, fails⟩ := RouteMap.walk_error failed
      have fails : c.evaluate r depth other = .error error := map_eq_error.1 fails
      obtain ⟨missing, reached, rest⟩ := ih fails (by
        rw [fails]
        exact fun circular same => conclusive circular (congrArg _ (Except.error.inj same)))
      exact ⟨missing, .head ⟨m, found, asked⟩ reached, rest⟩

/-- A conclusive policy is evaluated with the decisions of the same depth. -/
theorem evaluate_eq {m : RouteMap} (found : c.configuration.policy? name = some m)
    (conclusive : Conclusive (c.evaluate r c.depth name)) :
    c.evaluate r c.depth name = m.evaluate (c.decision r c.depth) r := by
  rw [← evaluate_defined found, evaluate_succ c.depth name conclusive]

end PolicyContext

end RoutePlane
