import RoutePlane.Proofs.Network.ShortestPaths
import RoutePlane.Proofs.Router.Gathering

/-! Routers that take turns. The loops move all routers at once, from the state before the step; here
they move one after the other in some order, each seeing what the ones before it have made of
themselves. A move that no other move disturbs has the same outcome either way, so routers may run in
any order, or at the same time. -/
namespace RoutePlane.Schedule

open Fallible

/-- The router at a place moves, among the others as they are by now, and is put back there. -/
def turn (move : List Router → Router → Except NetworkError (Router × Bool))
    (s : List Router × Bool) (place : Nat) : Except NetworkError (List Router × Bool) :=
  match s.1[place]? with
  | none => .ok s
  | some r => do
    let m ← move s.1 r
    pure (s.1.set place m.1, s.2 || m.2)

def inTurn (move : List Router → Router → Except NetworkError (Router × Bool)) (order : List Nat)
    (routers : List Router) : Except NetworkError (List Router × Bool) :=
  order.foldlM (turn move) (routers, false)

def Undisturbed (move : List Router → Router → Except NetworkError (Router × Bool)) : Prop :=
  ∀ routers place r m, routers[place]? = some r → move routers r = .ok m →
    ∀ r', move (routers.set place m.1) r' = move routers r'

section Turns

variable {move : List Router → Router → Except NetworkError (Router × Bool)}
  {routers : List Router} {order order' : List Nat}

/-- A move that reads of the others only what it leaves alone. -/
theorem undisturbed_of_look {κ : Type} (look : Router → κ)
    (reads : ∀ routers routers', routers.map look = routers'.map look →
      ∀ r, move routers r = move routers' r)
    (keeps : ∀ routers r m, move routers r = .ok m → look m.1 = look r) : Undisturbed move := by
  intro routers place r m found moved r'
  refine reads _ _ ?_ r'
  obtain ⟨bound, rfl⟩ := List.getElem?_eq_some_iff.1 found
  rw [List.map_set, keeps _ _ m moved, ← List.map_set, List.set_getElem_self]

section Turn

variable {s t : List Router × Bool} {place other : Nat} {r : Router}

theorem turn_of_place (found : s.1[place]? = some r) :
    turn move s place = move s.1 r >>= fun m => .ok (s.1.set place m.1, s.2 || m.2) := by
  rw [turn, found]
  rfl

theorem turn_of_no_place (none : s.1[place]? = none) : turn move s place = .ok s := by
  rw [turn, none]

theorem turn_length (moved : turn move s place = .ok t) : t.1.length = s.1.length := by
  cases found : s.1[place]? with
  | none =>
    rw [turn_of_no_place found] at moved
    cases moved
    rfl
  | some r =>
    rw [turn_of_place found] at moved
    obtain ⟨m, -, same⟩ := bind_eq_ok.1 moved
    cases same
    exact List.length_set

theorem turn_comm_of_no_place (none : s.1[place]? = none) :
    turn move s place >>= (turn move · other) = turn move s other >>= (turn move · place) := by
  rw [turn_of_no_place none]
  show turn move s other = _
  cases moved : turn move s other with
  | error => rfl
  | ok t =>
    refine (turn_of_no_place ?_).symm
    rw [List.getElem?_eq_none_iff, turn_length moved]
    exact List.getElem?_eq_none_iff.1 none

end Turn

section Undisturbed

variable (undisturbed : Undisturbed move)
include undisturbed

/-- In the order of the list, each router moves as if it were the first. -/
theorem turns_from (done rest : List Router) (changed : Bool)
    (same : ∀ r, move (done ++ rest) r = move routers r) :
    (List.range' done.length rest.length).foldlM (turn move) (done ++ rest, changed) =
      rest.mapM (move routers) >>= fun moved =>
        .ok (done ++ moved.map (·.1), changed || moved.any (·.2)) := by
  induction rest generalizing done changed with
  | nil =>
    show Except.ok _ = Except.ok _
    simp
  | cons r rest ih =>
    have here : (done ++ r :: rest)[done.length]? = some r := by simp
    rw [List.length_cons, List.range'_succ, List.foldlM_cons, List.mapM_cons, turn_of_place here, same]
    cases moved : move routers r with
    | error e => rfl
    | ok m =>
      have next : (done ++ r :: rest).set done.length m.1 = (done ++ [m.1]) ++ rest := by simp
      have still (r' : Router) : move ((done ++ [m.1]) ++ rest) r' = move routers r' := by
        rw [← next, undisturbed _ _ r m here ((same r).trans moved), same]
      have later := ih (done ++ [m.1]) (changed || m.2) still
      rw [List.length_append, List.length_singleton, ← next] at later
      refine later.trans ?_
      cases rest.mapM (move routers) with
      | error e => rfl
      | ok others =>
        show Except.ok _ = Except.ok _
        simp [Bool.or_assoc]

/-- Taking turns in the order of the list is moving at once. -/
theorem inTurn_range : inTurn move (List.range routers.length) routers =
    everyRouter (move routers) routers := by
  have turns := turns_from undisturbed [] routers false fun _ => rfl
  rw [List.length_nil, List.nil_append, ← List.range_eq_range'] at turns
  rw [inTurn, turns, everyRouter]
  rfl

/-- Of two routers that move one after the other, the second one moves as it would have moved first. -/
theorem turn_turn {s : List Router × Bool} {place other : Nat} (apart : place ≠ other)
    {r r' : Router} (found : s.1[place]? = some r) (found' : s.1[other]? = some r') :
    turn move s place >>= (turn move · other) = move s.1 r >>= fun m => move s.1 r' >>= fun m' =>
      .ok ((s.1.set place m.1).set other m'.1, (s.2 || m.2) || m'.2) := by
  rw [turn_of_place found]
  cases moved : move s.1 r with
  | error => rfl
  | ok m =>
    have there : (s.1.set place m.1)[other]? = some r' := by
      rw [List.getElem?_set_ne apart, found']
    refine (turn_of_place there).trans ?_
    rw [undisturbed _ _ r m found moved]
    rfl

/-- Two turns can be exchanged. If both routers fail, the error is that of the first one. -/
theorem turn_comm (s : List Router × Bool) (place other : Nat) :
    (turn move s place >>= (turn move · other)).toOption =
      (turn move s other >>= (turn move · place)).toOption := by
  by_cases apart : place = other
  · rw [apart]
  cases found : s.1[place]? with
  | none => rw [turn_comm_of_no_place found]
  | some r =>
    cases found' : s.1[other]? with
    | none => rw [turn_comm_of_no_place found']
    | some r' =>
      rw [turn_turn undisturbed apart found found',
        turn_turn undisturbed (Ne.symm apart) found' found]
      cases move s.1 r with
      | error => cases move s.1 r' <;> rfl
      | ok m =>
        cases move s.1 r' with
        | error => rfl
        | ok m' =>
          show some _ = some _
          rw [List.set_comm _ _ apart, Bool.or_assoc, Bool.or_comm m.2, ← Bool.or_assoc]

/-- The outcome of turns does not depend on their order, but for the error that is met first. -/
theorem inTurn_perm (same : order.Perm order') :
    (inTurn move order routers).toOption = (inTurn move order' routers).toOption := by
  rw [inTurn, inTurn, toOption_foldlM, toOption_foldlM]
  refine same.foldl_eq' ?_ _
  intro place _ other _ o
  cases o with
  | none => rfl
  | some s =>
    have turns := turn_comm undisturbed s place other
    rwa [toOption_bind, toOption_bind] at turns

end Undisturbed

end Turns

/-- The steps that the loops are made of, in which all routers move at once. -/
inductive LockStep where
  | gatherOspfInternal
  | commitOspfInternal
  | gatherOspfExternal
  | commitOspfExternal
  | gatherBgp
  | commitBgp

namespace LockStep

def move (f : Fabric) : LockStep → List Router → Router → Except NetworkError (Router × Bool)
  | gatherOspfInternal, routers, r => .ok (r.gatherOspfInternal f routers)
  | commitOspfInternal, _, r => .ok r.commitOspfInternal
  | gatherOspfExternal, routers, r => .ok (r.gatherOspfExternal f routers)
  | commitOspfExternal, _, r => .ok r.commitOspfExternal
  | gatherBgp, routers, r => r.gatherBgp f routers
  | commitBgp, _, r => .ok r.commitStagedBgp

def run (f : Fabric) (step : LockStep) (routers : List Router) :
    Except NetworkError (List Router × Bool) :=
  everyRouter (step.move f routers) routers

def andThen (f : Fabric) (first second : LockStep) (routers : List Router) :
    Except NetworkError (List Router × Bool) := do
  let (routers, gathered) ← first.run f routers
  let (routers, committed) ← second.run f routers
  pure (routers, gathered || committed)

/-- What is gathered is staged, where nobody else looks; a commit looks at nobody else. -/
theorem undisturbed (f : Fabric) (step : LockStep) : Undisturbed (step.move f) := by
  cases step with
  | gatherOspfInternal =>
    refine undisturbed_of_look Router.committed (fun _ _ same r => ?_) fun _ _ _ moved => ?_
    · exact congrArg Except.ok (Router.gatherOspfInternal_congr same r)
    · cases moved
      exact Router.gatherOspfInternal_committed _
  | gatherOspfExternal =>
    refine undisturbed_of_look Router.committed (fun _ _ same r => ?_) fun _ _ _ moved => ?_
    · exact congrArg Except.ok (Router.gatherOspfExternal_congr same r)
    · cases moved
      exact Router.gatherOspfExternal_committed _
  | gatherBgp =>
    exact undisturbed_of_look Router.committed (fun _ _ => Router.gatherBgp_congr)
      fun _ _ _ => Router.gatherBgp_committed
  | commitOspfInternal | commitOspfExternal | commitBgp => exact fun _ _ _ _ _ _ _ => rfl

/-- Routers that take turns in any order come to the tables and to the flag that they come to when they
all move from the state before the step, and a step that fails in one order fails in all of them. Each of the
loops gathers in one such step, and commits in the next. -/
theorem outcome_of_any_order (f : Fabric) (step : LockStep) (routers : List Router)
    {order : List Nat} (all : order.Perm (List.range routers.length)) :
    (∀ moved changed, inTurn (step.move f) order routers = .ok (moved, changed) ↔
      step.run f routers = .ok (moved, changed)) ∧
    ((∃ e, inTurn (step.move f) order routers = .error e) ↔
      ∀ order', order'.Perm (List.range routers.length) →
        ∃ e, inTurn (step.move f) order' routers = .error e) ∧
    ospfInternalStep f = andThen f gatherOspfInternal commitOspfInternal ∧
    ospfExternalStep f = andThen f gatherOspfExternal commitOspfExternal ∧
    bgpStep f = andThen f gatherBgp commitBgp := by
  have outcome {order' : List Nat} (all' : order'.Perm (List.range routers.length)) :
      (inTurn (step.move f) order' routers).toOption = (step.run f routers).toOption := by
    rw [inTurn_perm (step.undisturbed f) all', inTurn_range (step.undisturbed f), run]
  refine ⟨?_, ?_, rfl, rfl, rfl⟩
  · intro moved changed
    rw [← toOption_eq_some, outcome all, toOption_eq_some]
  · rw [← toOption_eq_none, outcome all]
    constructor
    · intro fails order' all'
      rw [← toOption_eq_none, outcome all', fails]
    · intro fails
      rw [← outcome all, toOption_eq_none]
      exact fails order all

/-- The second router of the pair gathers first, and the outcome is that of gathering at once. -/
theorem outcome_of_second_first : ∃ routers,
    Network.pair.fabric.freshRouters.mapM (prepare []) = .ok routers ∧
    [1, 0].Perm (List.range routers.length) ∧ ∃ moved,
      gatherOspfInternal.run Network.pair.fabric routers = .ok (moved, true) ∧
      inTurn (gatherOspfInternal.move Network.pair.fabric) [1, 0] routers = .ok (moved, true) := by
  obtain ⟨routers, prepared, two⟩ := of_any (p := fun routers => routers.length == 2 &&
      (gatherOspfInternal.run Network.pair.fabric routers).toOption.any (·.2))
    (x := Network.pair.fabric.freshRouters.mapM (prepare [])) (by decide +kernel)
  obtain ⟨length, gathers⟩ := Bool.and_eq_true_iff.1 two
  obtain ⟨⟨moved, changed⟩, done, rfl⟩ := of_any gathers
  have all : [1, 0].Perm (List.range routers.length) := by
    rw [beq_iff_eq.1 length]
    decide
  exact ⟨routers, prepared, all, moved, done,
    ((outcome_of_any_order Network.pair.fabric .gatherOspfInternal routers all).1 moved true).2 done⟩

end LockStep

end RoutePlane.Schedule
