import RoutePlane.Proofs.RouteMap.Depth

/-! What a route map means by the numbers of its entries, and that this is what a walk does. The rules
say nothing of the order in which the entries were given, and nothing of the draft: that gets the
actions of the accepting entries afterwards. -/
namespace RoutePlane

open Fallible

namespace RouteMap

/-- What conditions come to. The first of them that does not hold decides. -/
inductive Meets (permits : String → Except PolicyError Bool) (r : Route) :
    List Condition → Except PolicyError Bool → Prop
  | all : Meets permits r [] (.ok true)
  | onward {c : Condition} {rest : List Condition} {answer : Except PolicyError Bool}
      (holds : c.holds permits r = .ok true) (others : Meets permits r rest answer) :
      Meets permits r (c :: rest) answer
  | decided {c : Condition} {rest : List Condition} (fails : c.holds permits r ≠ .ok true) :
      Meets permits r (c :: rest) (c.holds permits r)

/-- Of all entries from a place on, the one with the lowest number. -/
structure Entry.IsNext (entries : List Entry) (place : Nat) (e : Entry) : Prop where
  listed : e ∈ entries
  ahead : place ≤ e.sequence.toNat
  lowest : ∀ d ∈ entries, place ≤ d.sequence.toNat → e.sequence.toNat ≤ d.sequence.toNat

inductive Ending where
  | finished
  | rejected
  | failed (error : PolicyError)

/-- The entries that accept a route from a place on, in their order, and how it ends. -/
inductive Passes (permits : String → Except PolicyError Bool) (r : Route) (entries : List Entry) :
    Nat → List Entry → Ending → Prop
  | past {place : Nat} (none : ∀ e ∈ entries, e.sequence.toNat < place) :
      Passes permits r entries place [] .finished
  | failed {place : Nat} {e : Entry} {error : PolicyError} (next : e.IsNext entries place)
      (fails : Meets permits r e.conditions (.error error)) :
      Passes permits r entries place [] (.failed error)
  | skipped {place : Nat} {e : Entry} {accepting : List Entry} {ending : Ending}
      (next : e.IsNext entries place) (differs : Meets permits r e.conditions (.ok false))
      (later : Passes permits r entries (e.sequence.toNat + 1) accepting ending) :
      Passes permits r entries place accepting ending
  | rejected {place : Nat} {e : Entry} (next : e.IsNext entries place)
      (matched : Meets permits r e.conditions (.ok true)) (rejects : e.action = .reject) :
      Passes permits r entries place [] .rejected
  | exited {place : Nat} {e : Entry} (next : e.IsNext entries place)
      (matched : Meets permits r e.conditions (.ok true)) (accepts : e.action = .accept)
      (onward : e.next = .exit) : Passes permits r entries place [e] .finished
  | continued {place : Nat} {e : Entry} {accepting : List Entry} {ending : Ending}
      (next : e.IsNext entries place) (matched : Meets permits r e.conditions (.ok true))
      (accepts : e.action = .accept) (onward : e.next = .next)
      (later : Passes permits r entries (e.sequence.toNat + 1) accepting ending) :
      Passes permits r entries place (e :: accepting) ending
  | jumped {place : Nat} {e target : Entry} {accepting : List Entry} {ending : Ending}
      (next : e.IsNext entries place) (matched : Meets permits r e.conditions (.ok true))
      (accepts : e.action = .accept) (onward : e.next = .goto target.sequence)
      (listed : target ∈ entries) (forward : e.sequence.toNat < target.sequence.toNat)
      (later : Passes permits r entries target.sequence.toNat accepting ending) :
      Passes permits r entries place (e :: accepting) ending
  | stopped {place : Nat} {e : Entry} {sequence : UInt16} (next : e.IsNext entries place)
      (matched : Meets permits r e.conditions (.ok true)) (accepts : e.action = .accept)
      (onward : e.next = .goto sequence)
      (none : ∀ d ∈ entries, d.sequence = sequence → d.sequence.toNat ≤ e.sequence.toNat) :
      Passes permits r entries place [e] .finished

def editedBy (accepting : List Entry) (draft : RouteDraft) : RouteDraft :=
  accepting.foldl (fun draft e => e.actions.foldl Action.apply draft) draft

namespace Ending

/-- A route is permitted if an entry has accepted it, and none has rejected it. -/
def outcome (accepting : List Entry) (draft : RouteDraft) :
    Ending → Except PolicyError (Bool × RouteDraft)
  | finished => .ok (!accepting.isEmpty, editedBy accepting draft)
  | rejected => .ok (false, editedBy accepting draft)
  | failed error => .error error

/-- The verdict at the end, from the one at the start. -/
def verdict (v : Verdict) (accepting : List Entry) : Ending → Except PolicyError Verdict
  | finished => .ok ⟨v.permitted || !accepting.isEmpty, v.actions ++ accepting.flatMap (·.actions)⟩
  | rejected => .ok ⟨false, v.actions ++ accepting.flatMap (·.actions)⟩
  | failed error => .error error

theorem outcome_eq (accepting : List Entry) (draft : RouteDraft) (ending : Ending) :
    ending.outcome accepting draft =
      (fun v => (v.permitted, v.applyTo draft)) <$> ending.verdict ⟨false, []⟩ accepting := by
  have edited : editedBy accepting draft =
      (accepting.flatMap (·.actions)).foldl Action.apply draft := List.foldl_flatMap.symm
  cases ending with
  | failed error => rfl
  | finished | rejected =>
    rw [outcome, edited]
    simp [verdict, Verdict.applyTo]

end Ending

variable {permits : String → Except PolicyError Bool} {r : Route} {entries : List Entry}

theorem meets_iff {conditions : List Condition} {answer : Except PolicyError Bool} :
    Meets permits r conditions answer ↔ allHold permits r conditions = answer := by
  constructor
  · intro meets
    induction meets with
    | all => rfl
    | onward holds _ ih => rw [allHold, holds, ← ih]; rfl
    | @decided c rest fails =>
      rw [allHold]
      cases own : c.holds permits r with
      | error => rfl
      | ok holds =>
        cases holds with
        | false => rfl
        | true => exact absurd own fails
  · rintro rfl
    induction conditions with
    | nil => exact .all
    | cons c rest ih =>
      by_cases own : c.holds permits r = .ok true
      · rw [allHold, own]
        exact .onward own ih
      · have same : allHold permits r (c :: rest) = c.holds permits r := by
          rw [allHold]
          cases holds : c.holds permits r with
          | error => rfl
          | ok b =>
            cases b with
            | false => rfl
            | true => exact absurd holds own
        rw [same]
        exact .decided own

def course (permits : String → Except PolicyError Bool) (r : Route) :
    Option UInt16 → List Entry → List Entry × Ending
  | _, [] => ([], .finished)
  | sought, e :: rest =>
    if sought.any (· ≠ e.sequence) then course permits r sought rest
    else
      match allHold permits r e.conditions with
      | .error error => ([], .failed error)
      | .ok false => course permits r none rest
      | .ok true =>
        match e.action with
        | .reject => ([], .rejected)
        | .accept =>
          match e.next with
          | .exit => ([e], .finished)
          | .next => (course permits r none rest).map (e :: ·) id
          | .goto sequence => (course permits r (some sequence) rest).map (e :: ·) id

theorem Ending.verdict_cons (v : Verdict) (e : Entry) (accepting : List Entry) (ending : Ending) :
    ending.verdict ⟨true, v.actions ++ e.actions⟩ accepting = ending.verdict v (e :: accepting) := by
  cases ending <;> simp [verdict]

theorem walk_eq_course (sought : Option UInt16) (v : Verdict) (rest : List Entry) :
    walk permits r sought v rest =
      (course permits r sought rest).2.verdict v (course permits r sought rest).1 := by
  induction rest generalizing sought v with
  | nil => simp [walk, course, Ending.verdict]
  | cons e rest ih =>
    rw [walk, course]
    split
    · exact ih sought v
    · cases allHold permits r e.conditions with
      | error error => rfl
      | ok holds =>
        cases holds with
        | false => exact ih none v
        | true =>
          cases e.action with
          | reject =>
            show Except.ok _ = _
            simp [Ending.verdict]
          | accept =>
            cases e.next with
            | exit =>
              show Except.ok _ = _
              simp [Ending.verdict]
            | next => exact (ih none _).trans (Ending.verdict_cons v e _ _)
            | goto sequence => exact (ih (some sequence) _).trans (Ending.verdict_cons v e _ _)

structure IsAhead (entries : List Entry) (place : Nat) (rest : List Entry) : Prop where
  sorted : rest.Pairwise fun a b => a.sequence.toNat < b.sequence.toNat
  mem_iff : ∀ e, e ∈ rest ↔ e ∈ entries ∧ place ≤ e.sequence.toNat

namespace IsAhead

variable {place : Nat} {rest : List Entry} {e : Entry}

theorem nil (ahead : IsAhead entries place []) : ∀ e ∈ entries, e.sequence.toNat < place := by
  intro e listed
  by_contra later
  exact List.not_mem_nil ((ahead.mem_iff e).2 ⟨listed, not_lt.1 later⟩)

theorem isNext (ahead : IsAhead entries place (e :: rest)) : e.IsNext entries place := by
  obtain ⟨listed, later⟩ := (ahead.mem_iff e).1 List.mem_cons_self
  refine ⟨listed, later, fun d member beyond => ?_⟩
  rcases List.mem_cons.1 ((ahead.mem_iff d).2 ⟨member, beyond⟩) with rfl | after
  · exact le_rfl
  · exact (List.rel_of_pairwise_cons ahead.sorted after).le

theorem tail (ahead : IsAhead entries place (e :: rest)) :
    IsAhead entries (e.sequence.toNat + 1) rest := by
  obtain ⟨before, sorted⟩ := List.pairwise_cons.1 ahead.sorted
  refine ⟨sorted, fun d => ⟨fun after => ?_, fun ⟨listed, beyond⟩ => ?_⟩⟩
  · exact ⟨((ahead.mem_iff d).1 (List.mem_cons_of_mem _ after)).1, before d after⟩
  · have member := (ahead.mem_iff d).2 ⟨listed, by have := ahead.isNext.ahead; omega⟩
    rcases List.mem_cons.1 member with rfl | after
    · omega
    · exact after

theorem here (ahead : IsAhead entries place (e :: rest)) :
    IsAhead entries e.sequence.toNat (e :: rest) := by
  refine ⟨ahead.sorted, fun d => ⟨fun member => ?_, fun ⟨listed, beyond⟩ => ?_⟩⟩
  · obtain ⟨listed, later⟩ := (ahead.mem_iff d).1 member
    exact ⟨listed, ahead.isNext.lowest d listed later⟩
  · exact (ahead.mem_iff d).2 ⟨listed, ahead.isNext.ahead.trans beyond⟩

theorem eq_cons (ahead : IsAhead entries place rest) (next : e.IsNext entries place) :
    ∃ tail, rest = e :: tail := by
  have member := (ahead.mem_iff e).2 ⟨next.listed, next.ahead⟩
  cases rest with
  | nil => cases member
  | cons first tail =>
    refine ⟨tail, ?_⟩
    rcases List.mem_cons.1 member with rfl | after
    · rfl
    · have before := List.rel_of_pairwise_cons ahead.sorted after
      have lowest := next.lowest first ahead.isNext.listed ahead.isNext.ahead
      omega

theorem course_sought (permits : String → Except PolicyError Bool) (r : Route)
    (ahead : IsAhead entries place rest) {target : Entry}
    (member : target ∈ rest) : ∃ found, IsAhead entries target.sequence.toNat found ∧
      course permits r (some target.sequence) rest = course permits r none found := by
  induction rest generalizing place with
  | nil => cases member
  | cons e rest ih =>
    by_cases here : target.sequence = e.sequence
    · exact ⟨e :: rest, here ▸ ahead.here, by simp [course, here]⟩
    · have later : target ∈ rest := (List.mem_cons.1 member).resolve_left fun same => here (same ▸ rfl)
      obtain ⟨found, onward, same⟩ := ih ahead.tail later
      exact ⟨found, onward, by simpa [course, here] using same⟩

end IsAhead

theorem course_missing (permits : String → Except PolicyError Bool) (r : Route)
    {sequence : UInt16} {rest : List Entry} (missing : ∀ e ∈ rest, e.sequence ≠ sequence) :
    course permits r (some sequence) rest = ([], .finished) := by
  induction rest with
  | nil => rfl
  | cons e rest ih =>
    obtain ⟨here, later⟩ := List.forall_mem_cons.1 missing
    rw [course, if_pos (by simpa using here.symm)]
    exact ih later

variable {place : Nat} {rest accepting : List Entry} {ending : Ending}

/-- What the rules allow is the course of a walk. -/
theorem Passes.course_eq (passes : Passes permits r entries place accepting ending)
    (ahead : IsAhead entries place rest) : course permits r none rest = (accepting, ending) := by
  induction passes generalizing rest with
  | past none =>
    cases rest with
    | nil => rfl
    | cons e rest =>
      have before := none e ahead.isNext.listed
      have := ahead.isNext.ahead
      omega
  | failed next fails =>
    obtain ⟨tail, rfl⟩ := ahead.eq_cons next
    simp [course, meets_iff.1 fails]
  | skipped next differs _ ih =>
    obtain ⟨tail, rfl⟩ := ahead.eq_cons next
    simpa [course, meets_iff.1 differs] using ih ahead.tail
  | rejected next matched rejects =>
    obtain ⟨tail, rfl⟩ := ahead.eq_cons next
    simp [course, meets_iff.1 matched, rejects]
  | exited next matched accepts onward =>
    obtain ⟨tail, rfl⟩ := ahead.eq_cons next
    simp [course, meets_iff.1 matched, accepts, onward]
  | continued next matched accepts onward _ ih =>
    obtain ⟨tail, rfl⟩ := ahead.eq_cons next
    simp [course, meets_iff.1 matched, accepts, onward, ih ahead.tail]
  | jumped next matched accepts onward listed forward _ ih =>
    obtain ⟨tail, rfl⟩ := ahead.eq_cons next
    have member := (ahead.tail.mem_iff _).2 ⟨listed, forward⟩
    obtain ⟨found, later, same⟩ := ahead.tail.course_sought permits r member
    simp [course, meets_iff.1 matched, accepts, onward, same, ih later]
  | stopped next matched accepts onward none =>
    obtain ⟨tail, rfl⟩ := ahead.eq_cons next
    have missing := course_missing permits r fun e member same => by
      obtain ⟨listed, after⟩ := (ahead.tail.mem_iff e).1 member
      have before := none e listed same
      omega
    simp [course, meets_iff.1 matched, accepts, onward, missing]

/-- The rules allow the course of a walk, from the first entry and from a number that is sought. -/
theorem passes_course (ahead : IsAhead entries place rest) :
    Passes permits r entries place (course permits r none rest).1 (course permits r none rest).2 ∧
      ∀ target ∈ rest, Passes permits r entries target.sequence.toNat
        (course permits r (some target.sequence) rest).1
        (course permits r (some target.sequence) rest).2 := by
  induction rest generalizing place with
  | nil => exact ⟨.past ahead.nil, nofun⟩
  | cons e rest ih =>
    obtain ⟨tail, targets⟩ := ih ahead.tail
    have first {place : Nat} (next : e.IsNext entries place) : Passes permits r entries place
        (course permits r none (e :: rest)).1 (course permits r none (e :: rest)).2 := by
      rw [course, if_neg (by simp)]
      cases conditions : allHold permits r e.conditions with
      | error error => exact .failed next (meets_iff.2 conditions)
      | ok holds =>
        cases holds with
        | false => exact .skipped next (meets_iff.2 conditions) tail
        | true =>
          have matched := meets_iff.2 conditions
          cases accepts : e.action with
          | reject => exact .rejected next matched accepts
          | accept =>
            cases onward : e.next with
            | exit => exact .exited next matched accepts onward
            | next => exact .continued next matched accepts onward tail
            | goto sequence =>
              by_cases found : ∃ target ∈ rest, target.sequence = sequence
              · obtain ⟨target, member, rfl⟩ := found
                obtain ⟨listed, forward⟩ := (ahead.tail.mem_iff target).1 member
                exact .jumped next matched accepts onward listed forward (targets target member)
              · push Not at found
                dsimp only
                rw [course_missing permits r found]
                refine .stopped next matched accepts onward fun d listed same => ?_
                by_contra forward
                exact found d ((ahead.tail.mem_iff d).2 ⟨listed, not_le.1 forward⟩) same
    refine ⟨first ahead.isNext, fun target member => ?_⟩
    by_cases here : target.sequence = e.sequence
    · have same : course permits r (some target.sequence) (e :: rest) =
          course permits r none (e :: rest) := by simp [course, here]
      rw [same, here]
      exact first ahead.here.isNext
    · have later : target ∈ rest := (List.mem_cons.1 member).resolve_left fun same => here (same ▸ rfl)
      have same : course permits r (some target.sequence) (e :: rest) =
          course permits r (some target.sequence) rest := by simp [course, here]
      rw [same]
      exact targets target later

/-- The entries of a route map are all that it was made of, by increasing number. -/
theorem isAhead_ofEntries (name : String) (distinct : (entries.map (·.sequence)).Nodup) :
    IsAhead entries 0 (ofEntries name entries).entries := by
  have perm : (ofEntries name entries).entries.Perm entries := List.mergeSort_perm _ _
  have numbers : (ofEntries name entries).entries.Pairwise fun a b => a.sequence ≠ b.sequence :=
    List.pairwise_map.1 ((perm.map Entry.sequence).nodup_iff.2 distinct)
  have sorted : (ofEntries name entries).entries.Pairwise
      fun a b => decide (a.sequence ≤ b.sequence) = true :=
    List.pairwise_mergeSort (fun a b c => by simpa using UInt16.le_trans)
      (fun a b => by simpa using UInt16.le_total a.sequence b.sequence) entries
  refine ⟨sorted.imp₂ (fun a b le ne => ?_) numbers, fun e => by simp [perm.mem_iff]⟩
  have le : a.sequence.toNat ≤ b.sequence.toNat := UInt16.le_iff_toNat_le.1 (by simpa using le)
  exact lt_of_le_of_ne le fun same => ne (UInt16.toNat_inj.1 same)

/-- What a route map makes of a route and a draft, as other policies decide. -/
def apply (permits : String → Except PolicyError Bool) (m : RouteMap) (r : Route)
    (draft : RouteDraft) : Except PolicyError (Bool × RouteDraft) :=
  (fun v => (v.permitted, v.applyTo draft)) <$> m.evaluate permits r

/-- There is one way through the entries that the rules allow, and a route map goes it. -/
theorem exists_passes (label : String) (distinct : (entries.map (·.sequence)).Nodup)
    (permits : String → Except PolicyError Bool) (r : Route) : ∃ accepting ending,
      (∀ accepting' ending', Passes permits r entries 0 accepting' ending' ↔
        accepting' = accepting ∧ ending' = ending) ∧
      ∀ draft, (ofEntries label entries).apply permits r draft =
        ending.outcome accepting draft := by
  have ahead := isAhead_ofEntries label distinct
  let way := course permits r none (ofEntries label entries).entries
  refine ⟨way.1, way.2, fun accepting' ending' => ⟨fun passes => ?_, ?_⟩, fun draft => ?_⟩
  · exact Prod.mk.inj (passes.course_eq ahead).symm
  · rintro ⟨rfl, rfl⟩
    exact (passes_course ahead).1
  · rw [apply, evaluate, walk_eq_course, ← Ending.outcome_eq]

end RouteMap

namespace PolicyContext

variable {c : PolicyContext} {r : Route} {name : String} {m : RouteMap}

/-- Another policy learns nothing of one but its decision, whatever draft this writes to. -/
theorem decision_eq (ends : ¬c.Endless r name) (found : c.configuration.policy? name = some m)
    (draft : RouteDraft) :
    c.decision r c.depth name = Prod.fst <$> m.apply (c.decision r c.depth) r draft := by
  rw [RouteMap.apply, ← evaluate_eq found (conclusive_of_not_endless ends), decision]
  cases c.evaluate r c.depth name <;> rfl

theorem apply_eq (ends : ¬c.Endless r name) (found : c.configuration.policy? name = some m)
    (draft : RouteDraft) : c.apply (some name) r draft =
      Prod.map id c.resolveDraft <$> m.apply (c.decision r c.depth) r draft := by
  rw [RouteMap.apply, ← evaluate_eq found (conclusive_of_not_endless ends), apply]
  cases c.evaluate r c.depth name <;> rfl

/-- A route map fails only at a policy that asks for ever, or at one that is not defined. -/
theorem endless_or_undefined_of_apply {draft : RouteDraft} {error : PolicyError}
    (failed : m.apply (c.decision r c.depth) r draft = .error error) :
    ∃ name ∈ m.asked, c.Endless r name ∨ ∃ missing,
      Relation.ReflTransGen c.configuration.Asks name missing ∧
        c.configuration.policy? missing = none ∧ error = .undefined missing := by
  obtain ⟨name, asked, fails⟩ := RouteMap.walk_error (map_eq_error.1 failed)
  refine ⟨name, asked, or_iff_not_imp_left.2 fun ends => ?_⟩
  exact exists_undefined (map_eq_error.1 fails) (conclusive_of_not_endless ends)

end PolicyContext

open RouteMap in
/-- A route map means the same in whatever order its entries were given. There is one way of a route through
them that the rules allow, whatever other policies decide, and the draft gets the actions of the entries on
it. On a device the map goes this way with the decisions of the other policies there. It fails only at a
policy that is not defined, or at one that asks for ever, and that is only one from which questions lead to a
policy that comes back to itself. For any other all depths from that of the device on are alike: one that
is defined decides as it does on its own, and its actions are lost. -/
theorem RouteMap.ofEntries_follows_rules (label : String) {entries : List Entry}
    (distinct : (entries.map (·.sequence)).Nodup) (c : PolicyContext) (r : Route) :
    (∀ permits, ∃ accepting ending,
      (∀ accepting' ending', Passes permits r entries 0 accepting' ending' ↔
        accepting' = accepting ∧ ending' = ending) ∧
      ∀ draft, (ofEntries label entries).apply permits r draft = ending.outcome accepting draft) ∧
    (∃ accepting ending, Passes (c.decision r c.depth) r entries 0 accepting ending ∧
      (∀ error, ending = .failed error → ∃ name ∈ (ofEntries label entries).asked,
        c.Endless r name ∨ ∃ missing, Relation.ReflTransGen c.configuration.Asks name missing ∧
          c.configuration.policy? missing = none ∧ error = .undefined missing) ∧
      ∀ name, c.configuration.policy? name = some (ofEntries label entries) →
        c.Endless r name ∨ ∀ draft, c.apply (some name) r draft =
          Prod.map id c.resolveDraft <$> ending.outcome accepting draft) ∧
    ∀ name, (c.Endless r name → c.configuration.LeadsBack name) ∧
      (c.Endless r name ∨
        (∀ depth, c.depth ≤ depth → c.evaluate r depth name = c.evaluate r c.depth name) ∧
        (c.configuration.policy? name = none → c.decision r c.depth name = .error (.undefined name)) ∧
        ∀ m, c.configuration.policy? name = some m → ∀ draft,
          c.decision r c.depth name = Prod.fst <$> m.apply (c.decision r c.depth) r draft) := by
  refine ⟨fun permits => exists_passes label distinct permits r, ?_, fun name => ⟨?_, ?_⟩⟩
  · obtain ⟨accepting, ending, unique, applied⟩ :=
      exists_passes label distinct (c.decision r c.depth) r
    refine ⟨accepting, ending, (unique _ _).2 ⟨rfl, rfl⟩, ?_, fun name found => ?_⟩
    · rintro error rfl
      exact PolicyContext.endless_or_undefined_of_apply (applied {})
    · refine or_iff_not_imp_left.2 fun ends draft => ?_
      rw [PolicyContext.apply_eq ends found, applied]
  · exact PolicyContext.Endless.leadsBack
  · refine or_iff_not_imp_left.2 fun ends => ⟨fun depth deeper => ?_, fun missing => ?_, fun m found => ?_⟩
    · exact PolicyContext.evaluate_deeper deeper name (PolicyContext.conclusive_of_not_endless ends)
    · rw [PolicyContext.decision, PolicyContext.evaluate_undefined missing]
      rfl
    · exact PolicyContext.decision_eq ends found

namespace RouteMap

/-- A detour around the rejection of all routes, for those that another policy permits. Its entries are
not in order. -/
def detour : List Entry := [
  ⟨30, .accept, [.tag 5], [.tag none], .exit⟩,
  ⟨10, .accept, [.policy "local"], [.metric 7], .goto 30⟩,
  ⟨20, .reject, [], [], .exit⟩]

/-- A device with the detour. The policy that it asks has actions of its own. -/
def detouring : PolicyContext where
  configuration := {
    hostname := "r"
    routeMaps := .ofList [
      ("out", ofEntries "out" detour),
      ("local", ofEntries "local" [⟨10, .accept, [.protocol .static], [.metric 99], .exit⟩])] }
  vrf := defaultVrf
  direction := .outgoing

def tagged : Route where
  network := (InterfaceAddress.ofOctets 9 9 9 9 32).network
  protocol := .static
  distance := 1
  nextHop := .discard
  tag := some 5

/-- The tagged route takes the detour, and the other policy leaves its draft alone. -/
theorem tagged_passes_detour :
    (detour.map (·.sequence)).Nodup ∧ ¬detouring.configuration.LeadsBack "out" ∧
      ∃ accepting ending,
        Passes (detouring.decision tagged detouring.depth) tagged detour 0 accepting ending ∧
          detouring.apply (some "out") tagged (.ofRoute tagged) =
            Prod.map id detouring.resolveDraft <$> ending.outcome accepting (.ofRoute tagged) ∧
          detouring.apply (some "out") tagged (.ofRoute tagged) =
            .ok (true, { RouteDraft.ofRoute tagged with metric := 7, tag := none }) := by
  have distinct : (detour.map (·.sequence)).Nodup := by decide
  have found : detouring.configuration.policy? "out" = some (ofEntries "out" detour) := rfl
  have sorted : ofEntries "out" detour = ⟨"out", [detour[1], detour[2], detour[0]]⟩ := by
    simp [ofEntries, detour, List.mergeSort]
  have ends : ¬detouring.configuration.LeadsBack "out" := by
    intro back
    obtain ⟨name, ⟨m, known, listed⟩, back⟩ := back.exists_asked
    obtain rfl := Option.some.inj (found.symm.trans known)
    rw [sorted] at listed
    obtain rfl : name = "local" := List.mem_singleton.1 listed
    obtain ⟨other, ⟨m, known, listed⟩, -⟩ := back.exists_asked
    cases known
    simp [asked, ofEntries, Condition.asked?] at listed
  have evaluated : detouring.evaluate tagged detouring.depth "out" =
      .ok ⟨true, [.metric 7, .tag none]⟩ := by
    rw [show detouring.depth = 1 + 1 from rfl, PolicyContext.evaluate_defined found, sorted]
    decide +kernel
  obtain ⟨-, ⟨accepting, ending, passes, -, applied⟩, others⟩ :=
    ofEntries_follows_rules "out" distinct detouring tagged
  have applied := (applied "out" found).resolve_left fun endless => ends ((others "out").1 endless)
  refine ⟨distinct, ends, accepting, ending, passes, applied _, ?_⟩
  rw [PolicyContext.apply, evaluated]
  rfl

/-- A device with a policy that asks itself, and one that asks for a policy that is missing. -/
def heedless : PolicyContext where
  configuration := {
    hostname := "r"
    routeMaps := .ofList [
      ("a", ofEntries "a" [⟨10, .accept, [.policy "a"], [], .exit⟩]),
      ("b", ofEntries "b" [⟨10, .accept, [.policy "c", .protocol .bgp], [], .exit⟩])] }
  vrf := defaultVrf
  direction := .outgoing

/-- The policy that asks itself does so for ever. The other one fails at the missing policy, although its
only entry has a condition that does not hold of the route. -/
theorem heedless_questions :
    heedless.Endless tagged "a" ∧
    (∀ permits, (Condition.protocol .bgp).holds permits tagged = .ok false) ∧
      ∀ draft, heedless.apply (some "b") tagged draft = .error (.undefined "c") := by
  refine ⟨fun depth conclusive => conclusive "a" ?_, fun permits => rfl, fun draft => ?_⟩
  · clear conclusive
    induction depth with
    | zero => rfl
    | succ depth ih =>
      have found : heedless.configuration.policy? "a" =
          some ⟨"a", [⟨10, .accept, [.policy "a"], [], .exit⟩]⟩ := by decide +kernel
      have asked : heedless.decision tagged depth "a" = .error (.circular "a") := by
        rw [PolicyContext.decision, ih]
        rfl
      rw [PolicyContext.evaluate_defined found, evaluate, walk, allHold, Condition.holds, asked]
      rfl
  · rw [PolicyContext.apply]
    have evaluated : heedless.evaluate tagged heedless.depth "b" = .error (.undefined "c") := by
      decide +kernel
    rw [evaluated]
    rfl

end RouteMap

end RoutePlane
