import RoutePlane.Proofs.DataPlane.Journey

/-! The search for the traces of a flow, cut at the links that the flow crosses. A search that succeeds
has gone all ways on from where it starts: none comes back to a node and none fails, and the traces are
those with which they end. -/
namespace RoutePlane.DataPlane

open Fallible Relation

variable {d : DataPlane} {f : Flow} {j : Journey} {r : Router} {e : ForwardingEntry} {l : Link}
  {error : NetworkError} {traces : List Trace}
  {further : Journey → Except NetworkError (List Trace)}

/-- The traces of a flow that is sent over a link, if `further` finds those from its far end on. -/
def tracesOver (d : DataPlane) (f : Flow) (further : Journey → Except NetworkError (List Trace))
    (j : Journey) (e : ForwardingEntry) (l : Link) : Except NetworkError (List Trace) := do
  match ← d.arrival f l with
  | (some note, _) => pure [⟨.deniedIn, j.hops ++ [hop l e], note⟩]
  | (none, vrf) => further (j.across e l vrf)

def tracesThrough (d : DataPlane) (f : Flow) (further : Journey → Except NetworkError (List Trace))
    (j : Journey) (r : Router) (e : ForwardingEntry) : Except NetworkError (List Trace) := do
  match ← d.departure f r e with
  | .ends disposition notes =>
    pure [⟨disposition, j.hops ++ [hop ⟨⟨j.node, e.interface⟩, .null⟩ e], notes⟩]
  | .across links => do
    let onward ← links.mapM (d.tracesOver f further j e)
    pure onward.flatten

def tracesAt (d : DataPlane) (f : Flow) (further : Journey → Except NetworkError (List Trace))
    (j : Journey) (r : Router) : Except NetworkError (List Trace) :=
  if d.fabric.owners.ownsIn f.destination j.node j.vrf then pure [⟨.accepted, j.hops, ""⟩]
  else
    match r.forwarding.lookup? f.destination with
    | none => pure [⟨.noRoute, j.hops, ""⟩]
    | some (_, entries) => do
      let found ← entries.toList.mapM (d.tracesThrough f further j r)
      pure found.flatten

theorem tracesAt_owned (owned : d.fabric.owners.ownsIn f.destination j.node j.vrf = true) :
    d.tracesAt f further j r = pure [⟨.accepted, j.hops, ""⟩] :=
  if_pos owned

section Foreign

variable (foreign : d.fabric.owners.ownsIn f.destination j.node j.vrf = false)
include foreign

theorem tracesAt_unrouted (absent : r.forwarding.lookup? f.destination = none) :
    d.tracesAt f further j r = pure [⟨.noRoute, j.hops, ""⟩] := by
  rw [tracesAt, if_neg (by simp [foreign]), absent]

theorem tracesAt_routed {network : Prefix} {entries : SortedSet ForwardingEntry}
    (found : r.forwarding.lookup? f.destination = some (network, entries)) :
    d.tracesAt f further j r =
      entries.toList.mapM (d.tracesThrough f further j r) >>= fun found => pure found.flatten := by
  rw [tracesAt, if_neg (by simp [foreign]), found]

end Foreign

def tracesFrom (d : DataPlane) (f : Flow) (steps : Nat) (j : Journey) :
    Except NetworkError (List Trace) :=
  d.traceFrom f steps j.behind j.hops j.node j.vrf

theorem tracesFrom_succ (d : DataPlane) (f : Flow) (steps : Nat) (j : Journey) :
    d.tracesFrom f (steps + 1) j =
      if j.node ∈ j.behind then .error (.forwardingLoop j.visited)
      else d.router? j.node j.vrf >>= d.tracesAt f (d.tracesFrom f steps) j :=
  rfl

theorem tracesOver_eq_ok : d.tracesOver f further j e l = .ok traces ↔
    (∃ note vrf, d.FarEnd f l (some note) vrf ∧
      traces = [⟨.deniedIn, j.hops ++ [hop l e], note⟩]) ∨
    ∃ vrf, d.FarEnd f l none vrf ∧ further (j.across e l vrf) = .ok traces := by
  simp only [tracesOver, bind_eq_ok, farEnd_iff]
  constructor
  · rintro ⟨⟨_ | note, vrf⟩, arrival, rest⟩
    · exact .inr ⟨vrf, arrival, rest⟩
    · exact .inl ⟨note, vrf, arrival, (pure_eq_ok.1 rest).symm⟩
  · rintro (⟨note, vrf, arrival, rfl⟩ | ⟨vrf, arrival, rest⟩)
    · exact ⟨_, arrival, rfl⟩
    · exact ⟨_, arrival, rest⟩

theorem tracesOver_eq_error : d.tracesOver f further j e l = .error error ↔
    d.LacksEnd l error ∨ ∃ vrf, d.FarEnd f l none vrf ∧ further (j.across e l vrf) = .error error := by
  rw [lacksEnd_iff (f := f)]
  simp only [tracesOver, bind_eq_error, farEnd_iff]
  refine or_congr_right ⟨?_, ?_⟩
  · rintro ⟨⟨_ | note, vrf⟩, arrival, rest⟩
    · exact ⟨vrf, arrival, rest⟩
    · exact absurd rest pure_ne_error
  · rintro ⟨vrf, arrival, rest⟩
    exact ⟨_, arrival, rest⟩

def Yields (d : DataPlane) (f : Flow) (j : Journey) (t : Trace) : Prop :=
  ∃ j', ReflTransGen (d.Advances f) j j' ∧ d.Ends f j' t

/-- No way on from here comes back to a node, and none fails. -/
def Clear (d : DataPlane) (f : Flow) (j : Journey) : Prop :=
  ∀ j', ReflTransGen (d.Advances f) j j' → j'.node ∉ j'.behind ∧ ∀ error, ¬d.Fails f j' error

/-- The traces of all ways on from here, which are clear. -/
structure Explores (d : DataPlane) (f : Flow) (j : Journey) (traces : List Trace) : Prop where
  clear : d.Clear f j
  mem_iff : ∀ t, t ∈ traces ↔ d.Yields f j t
  nonempty : traces ≠ []

theorem yields_iff {t : Trace} :
    d.Yields f j t ↔ d.Ends f j t ∨ ∃ j', d.Advances f j j' ∧ d.Yields f j' t := by
  constructor
  · rintro ⟨last, ways, ends⟩
    rcases ways.cases_head with rfl | ⟨next, step, rest⟩
    · exact .inl ends
    · exact .inr ⟨next, step, last, rest, ends⟩
  · rintro (ends | ⟨next, step, last, rest, ends⟩)
    · exact ⟨j, .refl, ends⟩
    · exact ⟨last, .head step rest, ends⟩

theorem clear_iff : d.Clear f j ↔
    (j.node ∉ j.behind ∧ ∀ error, ¬d.Fails f j error) ∧
      ∀ j', d.Advances f j j' → d.Clear f j' := by
  constructor
  · intro clear
    exact ⟨clear j .refl, fun next step last rest => clear last (.head step rest)⟩
  · rintro ⟨here, later⟩ last ways
    rcases ways.cases_head with rfl | ⟨next, step, rest⟩
    · exact here
    · exact later next step last rest

/-- Where no entry can be chosen, a flow has only the trace with which it ends there. -/
theorem explores_of_still (fresh : j.node ∉ j.behind) (here : d.router? j.node j.vrf = .ok r)
    (still : ∀ r e, ¬d.Chooses f j r e) {last : Trace} (ends : ∀ t, d.Ends f j t ↔ t = last) :
    d.Explores f j [last] := by
  have stays (j' : Journey) : ¬d.Advances f j j' := by
    rintro ⟨chosen, -, -⟩
    exact still _ _ chosen
  refine ⟨clear_iff.2 ⟨⟨fresh, ?_⟩, fun j' step => absurd step (stays j')⟩, ?_, by simp⟩
  · rintro error (missing | ⟨chosen, -⟩ | ⟨chosen, -, -⟩)
    · rw [here] at missing
      cases missing
    · exact still _ _ chosen
    · exact still _ _ chosen
  · intro t
    rw [List.mem_singleton, yields_iff, ends, or_iff_left]
    rintro ⟨j', step, -⟩
    exact stays j' step

theorem explores_delivered (fresh : j.node ∉ j.behind) (here : d.router? j.node j.vrf = .ok r)
    (owned : d.fabric.owners.ownsIn f.destination j.node j.vrf = true) :
    d.Explores f j [⟨.accepted, j.hops, ""⟩] := by
  have passing (r' : Router) : ¬d.InTransit f j r' := by
    rintro ⟨-, foreign⟩
    rw [owned] at foreign
    cases foreign
  refine explores_of_still fresh here (fun r' e chosen => passing r' chosen.1) ?_
  intro t
  constructor
  · rintro (_ | ⟨transit, -⟩ | ⟨chosen, -⟩ | ⟨chosen, -, -⟩)
    · rfl
    · exact absurd transit (passing _)
    · exact absurd chosen.1 (passing _)
    · exact absurd chosen.1 (passing _)
  · rintro rfl
    exact .delivered here owned

theorem explores_unrouted (fresh : j.node ∉ j.behind) (transit : d.InTransit f j r)
    (absent : r.forwarding.lookup? f.destination = none) :
    d.Explores f j [⟨.noRoute, j.hops, ""⟩] := by
  have still (r' : Router) (e : ForwardingEntry) : ¬d.Chooses f j r' e := transit.not_chooses absent
  refine explores_of_still fresh transit.1 still ?_
  intro t
  constructor
  · rintro (⟨-, owned⟩ | _ | ⟨chosen, -⟩ | ⟨chosen, -, -⟩)
    · rw [transit.2] at owned
      cases owned
    · rfl
    · exact absurd chosen (still _ _)
    · exact absurd chosen (still _ _)
  · rintro rfl
    exact .unrouted transit (still _)

section Onward

variable (explores : ∀ j' traces, further j' = .ok traces → d.Explores f j' traces)
include explores

theorem mem_tracesOver (done : d.tracesOver f further j e l = .ok traces) {t : Trace} :
    t ∈ traces ↔
      (∃ note vrf, d.FarEnd f l (some note) vrf ∧ t = ⟨.deniedIn, j.hops ++ [hop l e], note⟩) ∨
        ∃ vrf, d.FarEnd f l none vrf ∧ d.Yields f (j.across e l vrf) t := by
  rcases tracesOver_eq_ok.1 done with ⟨note, vrf, denied, rfl⟩ | ⟨vrf, entered, onward⟩
  · rw [List.mem_singleton]
    constructor
    · rintro rfl
      exact .inl ⟨note, vrf, denied, rfl⟩
    · rintro (⟨note', vrf', denied', rfl⟩ | ⟨vrf', entered, -⟩)
      · obtain rfl := Option.some.inj (denied.unique denied').1
        rfl
      · cases (denied.unique entered).1
  · rw [(explores _ _ onward).mem_iff]
    constructor
    · intro yields
      exact .inr ⟨vrf, entered, yields⟩
    · rintro (⟨note, vrf', denied, -⟩ | ⟨vrf', entered', yields⟩)
      · cases (denied.unique entered).1
      · rw [(entered.unique entered').2]
        exact yields

theorem clear_of_tracesOver (done : d.tracesOver f further j e l = .ok traces) :
    (∀ error, ¬d.LacksEnd l error) ∧ (∀ vrf, d.FarEnd f l none vrf → d.Clear f (j.across e l vrf)) ∧
      traces ≠ [] := by
  have found (error : NetworkError) : ¬d.LacksEnd l error := by
    intro lacks
    rw [tracesOver_eq_error.2 (.inl lacks)] at done
    cases done
  rcases tracesOver_eq_ok.1 done with ⟨note, vrf, denied, rfl⟩ | ⟨vrf, entered, onward⟩
  · refine ⟨found, ?_, by simp⟩
    intro vrf' entered
    cases (denied.unique entered).1
  · refine ⟨found, ?_, (explores _ _ onward).nonempty⟩
    intro vrf' entered'
    rw [← (entered.unique entered').2]
    exact (explores _ _ onward).clear

theorem mem_tracesThrough (done : d.tracesThrough f further j r e = .ok traces) {t : Trace} :
    t ∈ traces ↔
      (∃ disposition note, d.StopsAt f r e disposition note ∧
        t = ⟨disposition, j.hops ++ [hop ⟨⟨j.node, e.interface⟩, .null⟩ e], note⟩) ∨
      ∃ l, d.Crosses f r e l ∧
        ((∃ note vrf, d.FarEnd f l (some note) vrf ∧
          t = ⟨.deniedIn, j.hops ++ [hop l e], note⟩) ∨
        ∃ vrf, d.FarEnd f l none vrf ∧ d.Yields f (j.across e l vrf) t) := by
  obtain ⟨outcome, departure, rest⟩ := bind_eq_ok.1 done
  cases outcome with
  | ends disposition note =>
    have stops := stopsAt_iff.2 departure
    obtain rfl := pure_eq_ok.1 rest
    rw [List.mem_singleton]
    constructor
    · rintro rfl
      exact .inl ⟨disposition, note, stops, rfl⟩
    · rintro (⟨disposition', note', stops', rfl⟩ | ⟨l, crosses, -⟩)
      · rw [stops'.departure_eq] at departure
        cases departure
        rfl
      · rw [crosses.departure_eq] at departure
        cases departure
  | across links =>
    obtain ⟨onward, all, same⟩ := bind_eq_ok.1 rest
    obtain rfl := pure_eq_ok.1 same
    rw [mem_flatten_of_mapM all]
    constructor
    · rintro ⟨l, member, traces, found, listed⟩
      exact .inr ⟨l, ((crosses_iff departure).2 l).1 member, (mem_tracesOver explores found).1 listed⟩
    · rintro (⟨disposition, note, stops, -⟩ | ⟨l, crosses, way⟩)
      · rw [stops.departure_eq] at departure
        cases departure
      · have member := ((crosses_iff departure).2 l).2 crosses
        obtain ⟨traces, -, found⟩ := outcome_of_mapM all member
        exact ⟨l, member, traces, found, (mem_tracesOver explores found).2 way⟩

theorem clear_of_tracesThrough (done : d.tracesThrough f further j r e = .ok traces) :
    (∀ error, ¬d.FailsAt f r e error) ∧
      (∀ l, d.Crosses f r e l → (∀ error, ¬d.LacksEnd l error) ∧
        ∀ vrf, d.FarEnd f l none vrf → d.Clear f (j.across e l vrf)) ∧ traces ≠ [] := by
  obtain ⟨outcome, departure, rest⟩ := bind_eq_ok.1 done
  have sound (error : NetworkError) : ¬d.FailsAt f r e error := by
    intro fails
    rw [fails.departure_eq] at departure
    cases departure
  cases outcome with
  | ends disposition note =>
    obtain rfl := pure_eq_ok.1 rest
    refine ⟨sound, ?_, by simp⟩
    intro l crosses
    rw [crosses.departure_eq] at departure
    cases departure
  | across links =>
    obtain ⟨onward, all, same⟩ := bind_eq_ok.1 rest
    obtain rfl := pure_eq_ok.1 same
    obtain ⟨some, crossed⟩ := crosses_iff departure
    refine ⟨sound, ?_, ?_⟩
    · intro l crosses
      obtain ⟨traces, -, found⟩ := outcome_of_mapM all ((crossed l).2 crosses)
      have clear := clear_of_tracesOver explores found
      exact ⟨clear.1, clear.2.1⟩
    · obtain ⟨l, member⟩ := List.exists_mem_of_ne_nil links some
      obtain ⟨traces, listed, found⟩ := outcome_of_mapM all member
      have nonempty := (clear_of_tracesOver explores found).2.2
      exact List.flatten_ne_nil_iff.2 ⟨traces, listed, nonempty⟩

/-- At a router with entries for its destination a flow goes on over each of them. -/
theorem explores_onward (fresh : j.node ∉ j.behind) (transit : d.InTransit f j r) {network : Prefix}
    {entries : SortedSet ForwardingEntry}
    (found : r.forwarding.lookup? f.destination = some (network, entries)) {m : List (List Trace)}
    (done : entries.toList.mapM (d.tracesThrough f further j r) = .ok m) :
    d.Explores f j m.flatten := by
  have chooses {r' : Router} {e : ForwardingEntry} : d.Chooses f j r' e ↔ r' = r ∧ e ∈ entries :=
    transit.chooses_iff found
  have each (e : ForwardingEntry) (member : e ∈ entries) :
      ∃ traces ∈ m, d.tracesThrough f further j r e = .ok traces := outcome_of_mapM done member
  have occupied : entries.toList ≠ [] := by
    have some := (ForwardingTable.lookup?_eq_some_iff.1 found).2
    simpa [SortedSet.isEmpty] using some
  refine ⟨clear_iff.2 ⟨⟨fresh, ?_⟩, ?_⟩, ?_, ?_⟩
  · rintro error (missing | ⟨chosen, fails⟩ | ⟨chosen, crosses, lacks⟩)
    · rw [transit.1] at missing
      cases missing
    · obtain ⟨rfl, member⟩ := chooses.1 chosen
      obtain ⟨traces, -, outcome⟩ := each _ member
      exact (clear_of_tracesThrough explores outcome).1 error fails
    · obtain ⟨rfl, member⟩ := chooses.1 chosen
      obtain ⟨traces, -, outcome⟩ := each _ member
      exact ((clear_of_tracesThrough explores outcome).2.1 _ crosses).1 error lacks
  · rintro j' ⟨chosen, crosses, entered⟩
    obtain ⟨rfl, member⟩ := chooses.1 chosen
    obtain ⟨traces, -, outcome⟩ := each _ member
    exact ((clear_of_tracesThrough explores outcome).2.1 _ crosses).2 _ entered
  · intro t
    rw [mem_flatten_of_mapM done, yields_iff]
    constructor
    · rintro ⟨e, member, traces, outcome, listed⟩
      have chosen : d.Chooses f j r e := chooses.2 ⟨rfl, member⟩
      rcases (mem_tracesThrough explores outcome).1 listed with
        ⟨disposition, note, stops, rfl⟩ | ⟨l, crosses, ⟨note, vrf, denied, rfl⟩ | ⟨vrf, entered, way⟩⟩
      · exact .inl (.stopped chosen stops)
      · exact .inl (.refused chosen crosses denied)
      · exact .inr ⟨_, .across chosen crosses entered, way⟩
    · have listed (e : ForwardingEntry) (member : e ∈ entries) {t : Trace}
          (way : ∀ traces, d.tracesThrough f further j r e = .ok traces → t ∈ traces) :
          ∃ e ∈ entries.toList, ∃ traces, d.tracesThrough f further j r e = .ok traces ∧
            t ∈ traces := by
        obtain ⟨traces, -, outcome⟩ := each e member
        exact ⟨e, member, traces, outcome, way traces outcome⟩
      rintro ((⟨-, owned⟩ | ⟨transit', none⟩ | ⟨chosen, stops⟩ | ⟨chosen, crosses, denied⟩) |
        ⟨j', ⟨chosen, crosses, entered⟩, way⟩)
      · rw [transit.2] at owned
        cases owned
      · obtain rfl := Except.ok.inj (transit.1.symm.trans transit'.1)
        obtain ⟨e, member⟩ := List.exists_mem_of_ne_nil _ occupied
        exact absurd (chooses.2 ⟨rfl, member⟩) (none e)
      · obtain ⟨rfl, member⟩ := chooses.1 chosen
        refine listed _ member fun traces outcome => (mem_tracesThrough explores outcome).2 ?_
        exact .inl ⟨_, _, stops, rfl⟩
      · obtain ⟨rfl, member⟩ := chooses.1 chosen
        refine listed _ member fun traces outcome => (mem_tracesThrough explores outcome).2 ?_
        exact .inr ⟨_, crosses, .inl ⟨_, _, denied, rfl⟩⟩
      · obtain ⟨rfl, member⟩ := chooses.1 chosen
        refine listed _ member fun traces outcome => (mem_tracesThrough explores outcome).2 ?_
        exact .inr ⟨_, crosses, .inr ⟨_, entered, way⟩⟩
  · obtain ⟨e, member⟩ := List.exists_mem_of_ne_nil _ occupied
    obtain ⟨traces, listed, outcome⟩ := each e member
    exact List.flatten_ne_nil_iff.2 ⟨traces, listed, (clear_of_tracesThrough explores outcome).2.2⟩

theorem explores_of_tracesAt (fresh : j.node ∉ j.behind) (here : d.router? j.node j.vrf = .ok r)
    (done : d.tracesAt f further j r = .ok traces) : d.Explores f j traces := by
  cases owned : d.fabric.owners.ownsIn f.destination j.node j.vrf with
  | true =>
    rw [tracesAt_owned owned] at done
    obtain rfl := pure_eq_ok.1 done
    exact explores_delivered fresh here owned
  | false =>
    cases found : r.forwarding.lookup? f.destination with
    | none =>
      rw [tracesAt_unrouted owned found] at done
      obtain rfl := pure_eq_ok.1 done
      exact explores_unrouted fresh ⟨here, owned⟩ found
    | some match' =>
      rw [tracesAt_routed owned found] at done
      obtain ⟨m, all, same⟩ := bind_eq_ok.1 done
      obtain rfl := pure_eq_ok.1 same
      exact explores_onward explores fresh ⟨here, owned⟩ found all

end Onward

/-- A search that succeeds has gone all ways. -/
theorem explores_of_tracesFrom {steps : Nat} (done : d.tracesFrom f steps j = .ok traces) :
    d.Explores f j traces := by
  induction steps generalizing j traces with
  | zero => cases done
  | succ steps ih =>
    rw [tracesFrom_succ] at done
    by_cases again : j.node ∈ j.behind
    · rw [if_pos again] at done
      cases done
    · rw [if_neg again] at done
      obtain ⟨r, here, rest⟩ := bind_eq_ok.1 done
      exact explores_of_tracesAt (fun j' traces onward => ih onward) again here rest

end RoutePlane.DataPlane
