import Mathlib.Data.List.Nodup
import Mathlib.Logic.Relation
import RoutePlane.Proofs.Order.Contents
import RoutePlane.Proofs.RouteMap.Effects

/-! Policies that refer to each other. A condition asks a policy by its name. If every name that is asked
is defined and no policy comes back to itself, then a chain of questions has as many names as there are
links, so it ends before the depth of the device is used up, and every policy has a verdict. -/
namespace RoutePlane

open Fallible

namespace RouteMap

def Condition.asked? : Condition → Option String
  | policy name => some name
  | _ => none

def asked (m : RouteMap) : List String :=
  m.entries.flatMap fun e => e.conditions.filterMap Condition.asked?

section Verdicts

variable {permits : String → Except PolicyError Bool} {r : Route}

theorem allHold_error {conditions : List Condition} {error : PolicyError}
    (failed : allHold permits r conditions = .error error) :
    ∃ name ∈ conditions.filterMap Condition.asked?, permits name = .error error := by
  induction conditions with
  | nil => cases failed
  | cons c rest ih =>
    rcases bind_eq_error.1 failed with own | ⟨holds, -, later⟩
    · cases c with
      | policy name => exact ⟨name, List.mem_filterMap.2 ⟨_, List.mem_cons_self, rfl⟩, own⟩
      | _ => cases own
    · cases holds with
      | false => cases later
      | true =>
        obtain ⟨name, asked, fails⟩ := ih later
        obtain ⟨d, listed, asks⟩ := List.mem_filterMap.1 asked
        exact ⟨name, List.mem_filterMap.2 ⟨d, List.mem_cons_of_mem _ listed, asks⟩, fails⟩

theorem walk_error {entries : List Entry} {sought : Option UInt16} {verdict : Verdict}
    {error : PolicyError} (failed : walk permits r sought verdict entries = .error error) :
    ∃ name ∈ entries.flatMap fun e => e.conditions.filterMap Condition.asked?,
      permits name = .error error := by
  induction entries generalizing sought verdict with
  | nil => cases failed
  | cons e rest ih =>
    have later {sought : Option UInt16} {verdict : Verdict}
        (failed : walk permits r sought verdict rest = .error error) :
        ∃ name ∈ (e :: rest).flatMap fun e => e.conditions.filterMap Condition.asked?,
          permits name = .error error := by
      obtain ⟨name, asked, fails⟩ := ih failed
      exact ⟨name, List.mem_append_right _ asked, fails⟩
    rw [walk] at failed
    split at failed
    · exact later failed
    · rcases bind_eq_error.1 failed with here | ⟨holds, -, failed⟩
      · obtain ⟨name, asked, fails⟩ := allHold_error here
        exact ⟨name, List.mem_append_left _ asked, fails⟩
      · cases holds with
        | false => exact later failed
        | true =>
          cases action : e.action with
          | reject =>
            rw [action] at failed
            cases failed
          | accept =>
            rw [action] at failed
            cases next : e.next with
            | exit =>
              rw [next] at failed
              cases failed
            | next =>
              rw [next] at failed
              exact later failed
            | goto sequence =>
              rw [next] at failed
              exact later failed

theorem walk_total {entries : List Entry} (sought : Option UInt16) (verdict : Verdict)
    (answers : ∀ e ∈ entries, ∀ name ∈ e.conditions.filterMap Condition.asked?,
      ∃ b, permits name = .ok b) :
    ∃ outcome, walk permits r sought verdict entries = .ok outcome := by
  cases walked : walk permits r sought verdict entries with
  | ok outcome => exact ⟨outcome, rfl⟩
  | error error =>
    obtain ⟨name, asked, fails⟩ := walk_error walked
    obtain ⟨e, listed, asks⟩ := List.mem_flatMap.1 asked
    obtain ⟨b, answered⟩ := answers e listed name asks
    rw [fails] at answered
    cases answered

end Verdicts

end RouteMap

namespace Configuration

def Asks (c : Configuration) (name other : String) : Prop :=
  ∃ m, c.policy? name = some m ∧ other ∈ m.asked

def Defines (c : Configuration) (name : String) : Prop := (c.policy? name).isSome = true

/-- The questions of a policy lead to one that comes back to itself. -/
def LeadsBack (c : Configuration) (name : String) : Prop :=
  ∃ again, Relation.ReflTransGen c.Asks name again ∧ Relation.TransGen c.Asks again again

theorem LeadsBack.exists_asked {c : Configuration} {name : String} (back : c.LeadsBack name) :
    ∃ other, c.Asks name other ∧ c.LeadsBack other := by
  obtain ⟨again, reached, circle⟩ := back
  rcases Relation.ReflTransGen.cases_head reached with rfl | ⟨other, asks, onward⟩
  · obtain ⟨other, asks, onward⟩ := Relation.TransGen.head'_iff.1 circle
    exact ⟨other, asks, name, onward, circle⟩
  · exact ⟨other, asks, again, onward, circle⟩

/-- What the policies of the device ask is defined there, and none of them asks itself, not even through
others. -/
structure HasSoundPolicies (c : Configuration) : Prop where
  defined : ∀ name other, c.Asks name other → c.Defines other
  acyclic : ∀ name, ¬Relation.TransGen c.Asks name name

instance (c : Configuration) (name : String) : Decidable (c.Defines name) :=
  inferInstanceAs (Decidable (_ = true))

/-- It is enough that policies ask only such of a lower rank. -/
theorem HasSoundPolicies.of_rank {c : Configuration} (rank : String → Nat)
    (lower : ∀ b ∈ c.policies.toList ++ c.routeMaps.toList, ∀ other ∈ b.2.asked,
      c.Defines other ∧ rank other < rank b.1) : c.HasSoundPolicies := by
  have asks {name other : String} (asks : c.Asks name other) :
      c.Defines other ∧ rank other < rank name := by
    obtain ⟨m, found, asked⟩ := asks
    refine lower (name, m) (List.mem_append.2 ?_) other asked
    rcases (Option.orElse_eq_some _ _ _).1 found with found | ⟨-, found⟩
    · exact .inl (SortedMap.mem_toList_iff.2 found)
    · exact .inr (SortedMap.mem_toList_iff.2 found)
  have descends {name other : String} (way : Relation.TransGen c.Asks name other) :
      rank other < rank name := by
    induction way with
    | single first => exact (asks first).2
    | tail _ last ih => exact (asks last).2.trans ih
  exact ⟨fun name other question => (asks question).1, fun name way => (descends way).false⟩

/-- No more distinct policies are defined than the depth of the device. -/
theorem length_le_of_defined {c : Configuration} {names : List String} (distinct : names.Nodup)
    (defined : ∀ name ∈ names, c.Defines name) :
    names.length ≤ c.policies.size + c.routeMaps.size := by
  have listed : names ⊆ c.policies.keys ++ c.routeMaps.keys := by
    intro name member
    obtain ⟨m, found⟩ := Option.isSome_iff_exists.1 (defined name member)
    rw [List.mem_append]
    rcases (Option.orElse_eq_some _ _ _).1 found with found | ⟨-, found⟩
    · exact .inl (List.mem_map.2 ⟨_, SortedMap.mem_toList_iff.2 found, rfl⟩)
    · exact .inr (List.mem_map.2 ⟨_, SortedMap.mem_toList_iff.2 found, rfl⟩)
  have fewer := (distinct.subperm listed).length_le
  simpa [SortedMap.keys, SortedMap.size] using fewer

/-- A chain of questions up to a policy: the names on the way to it, the latest first. -/
structure IsWay (c : Configuration) (way : List String) (name : String) : Prop where
  defined : ∀ earlier ∈ name :: way, c.Defines earlier
  distinct : (name :: way).Nodup
  leads : ∀ earlier ∈ way, Relation.TransGen c.Asks earlier name

theorem IsWay.start {c : Configuration} {name : String} (defined : c.Defines name) :
    c.IsWay [] name :=
  ⟨by simpa using defined, List.nodup_singleton name, by simp⟩

theorem IsWay.longer {c : Configuration} {way : List String} {name other : String}
    (ways : c.IsWay way name) (asks : c.Asks name other) (defined : c.Defines other)
    (fresh : other ∉ name :: way) : c.IsWay (name :: way) other where
  defined := List.forall_mem_cons.2 ⟨defined, ways.defined⟩
  distinct := List.nodup_cons.2 ⟨fresh, ways.distinct⟩
  leads := List.forall_mem_cons.2
    ⟨.single asks, fun earlier member => (ways.leads earlier member).tail asks⟩

theorem IsWay.next {c : Configuration} {way : List String} {name other : String}
    (sound : c.HasSoundPolicies) (ways : c.IsWay way name) (asks : c.Asks name other) :
    c.IsWay (name :: way) other := by
  refine ways.longer asks (sound.defined name other asks) fun again => ?_
  rcases List.mem_cons.1 again with rfl | earlier
  · exact sound.acyclic other (.single asks)
  · exact sound.acyclic other ((ways.leads other earlier).tail asks)

end Configuration

namespace PolicyContext

variable {c : PolicyContext} {r : Route}

/-- A policy has a verdict while the depth left is enough for the names that have not been on the way. -/
theorem evaluate_total (sound : c.configuration.HasSoundPolicies) {depth : Nat} {name : String}
    {way : List String} (ways : c.configuration.IsWay way name)
    (enough : c.depth ≤ way.length + depth) : ∃ verdict, c.evaluate r depth name = .ok verdict := by
  induction depth generalizing name way with
  | zero =>
    have bound := Configuration.length_le_of_defined ways.distinct ways.defined
    rw [List.length_cons] at bound
    rw [depth] at enough
    omega
  | succ depth ih =>
    obtain ⟨m, found⟩ := Option.isSome_iff_exists.1 (ways.defined name List.mem_cons_self)
    rw [evaluate, found]
    refine RouteMap.walk_total none _ fun e listed other asked => ?_
    have asks : c.configuration.Asks name other :=
      ⟨m, found, List.mem_flatMap.2 ⟨e, listed, asked⟩⟩
    obtain ⟨verdict, evaluated⟩ := ih (ways.next sound asks) (by rw [List.length_cons]; omega)
    exact ⟨verdict.permitted, bind_eq_ok.2 ⟨verdict, evaluated, rfl⟩⟩

theorem apply_total (sound : c.configuration.HasSoundPolicies) {policy : Option String}
    (defined : ∀ name ∈ policy, c.configuration.Defines name) (draft : RouteDraft) :
    ∃ outcome, c.apply policy r draft = .ok outcome := by
  cases policy with
  | none => exact ⟨_, rfl⟩
  | some name =>
    obtain ⟨verdict, evaluated⟩ := evaluate_total (r := r) sound (.start (defined name rfl))
      (Nat.le_add_left _ _)
    exact ⟨_, bind_eq_ok.2 ⟨verdict, evaluated, rfl⟩⟩

end PolicyContext

end RoutePlane
