import RoutePlane.Proofs.RouteMap.Effects

/-! What the actions of a policy leave behind. Of several actions that write one value the last one
counts, and without one the value stays. -/
namespace RoutePlane

open Fallible

def RouteDraft.preference? (d : RouteDraft) : Option UInt32 := d.attributes?.map (·.localPreference)

namespace RouteMap

variable {α : Type} {write : Action → Option α} {view : RouteDraft → Option α} {draft : RouteDraft}

/-- The last value that one of the actions writes. -/
def lastWrite? (write : Action → Option α) (actions : List Action) : Option α :=
  (actions.filterMap write).getLast?

theorem lastWrite?_cons (a : Action) (actions : List Action) :
    lastWrite? write (a :: actions) = (lastWrite? write actions).or (write a) := by
  rw [lastWrite?, lastWrite?, List.filterMap_cons]
  cases write a with
  | none => exact (Option.or_none).symm
  | some value =>
    rw [List.getLast?_cons]
    cases (actions.filterMap write).getLast? <;> rfl

/-- A value that a draft has is in the end the last one that was written. -/
theorem view_foldl (writes : ∀ (a : Action) d x, view d = some x →
      view (a.apply d) = some ((write a).getD x))
    {x : α} (start : view draft = some x) (actions : List Action) :
    view (actions.foldl Action.apply draft) = some ((lastWrite? write actions).getD x) := by
  induction actions generalizing draft x with
  | nil => exact start
  | cons a actions ih =>
    rw [List.foldl_cons, ih (writes a draft x start), lastWrite?_cons]
    cases lastWrite? write actions <;> rfl

def Action.preference? : Action → Option UInt32
  | localPreference p => some p
  | _ => none

def Action.hop? : Action → Option NextHop
  | nextHop hop => some hop
  | _ => none

namespace Verdict

theorem core_applyTo (v : Verdict) (draft : RouteDraft) : (v.applyTo draft).core = draft.core := by
  obtain ⟨permitted, actions⟩ := v
  show (actions.foldl Action.apply draft).core = draft.core
  induction actions generalizing draft with
  | nil => rfl
  | cons a actions ih => rw [List.foldl_cons, ih, RouteDraft.core_action]

def preference? (v : Verdict) : Option UInt32 := lastWrite? Action.preference? v.actions

def hop? (v : Verdict) : Option NextHop := lastWrite? Action.hop? v.actions

theorem preference_applyTo (v : Verdict) {p : UInt32} (start : draft.preference? = some p) :
    (v.applyTo draft).preference? = some (v.preference?.getD p) := by
  refine view_foldl ?_ start _
  rintro a ⟨_, _, _, _, _, _, _, _, kind⟩ p here
  cases kind with
  | bgp data =>
    cases here
    cases a <;> rfl
  | _ => cases here

theorem nextHop_applyTo (v : Verdict) {hop : NextHop} (start : draft.nextHop = some hop) :
    (v.applyTo draft).nextHop = some (v.hop?.getD hop) := by
  refine view_foldl ?_ start _
  rintro a ⟨_, _, _, _, _, _, _, _, kind⟩ h rfl
  cases a <;> cases kind <;> rfl

end Verdict

end RouteMap

/-- The verdict on a route; without a policy it is accepted as it is. -/
def PolicyContext.verdict (c : PolicyContext) (name : Option String) (r : Route) :
    Except PolicyError RouteMap.Verdict :=
  match name with
  | none => .ok ⟨true, []⟩
  | some name => c.evaluate r c.depth name

/-- A policy edits a draft as its verdict says. -/
theorem PolicyContext.apply_eq_ok {c : PolicyContext} {name : Option String} {r : Route}
    {draft edited : RouteDraft} {accepted : Bool} :
    c.apply name r draft = .ok (accepted, edited) ↔ ∃ v, c.verdict name r = .ok v ∧
      v.permitted = accepted ∧ c.resolveDraft (v.applyTo draft) = edited := by
  cases name with
  | none => simp [apply, verdict, RouteMap.Verdict.applyTo]
  | some name =>
    rw [apply, bind_eq_ok]
    simp only [verdict, pure, Except.pure, Except.ok.injEq, Prod.mk.injEq]

/-- What a policy lets through is built as its verdict says. -/
theorem Router.accepted_eq_some {c : PolicyContext} {policy : Option String} {source x : Route}
    {draft : RouteDraft} (accepted : accepted? c policy source draft = .ok (some x)) :
    ∃ v, c.verdict policy source = .ok v ∧ v.permitted = true ∧
      (c.resolveDraft (v.applyTo draft)).build = .ok x := by
  obtain ⟨⟨permits, edited⟩, applied, outcome⟩ := bind_eq_ok.1 accepted
  obtain ⟨v, verdict, rfl, rfl⟩ := PolicyContext.apply_eq_ok.1 (liftPolicy_eq_ok.1 applied)
  cases permitted : v.permitted with
  | false =>
    rw [permitted] at outcome
    cases outcome
  | true =>
    rw [permitted] at outcome
    obtain ⟨y, built, same⟩ := map_eq_ok.1 outcome
    cases same
    exact ⟨v, verdict, permitted, liftRoute_eq_ok.1 built⟩

end RoutePlane
