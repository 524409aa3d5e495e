import RoutePlane.Proofs.Network.Fallible
import RoutePlane.Proofs.Route.Finiteness
import RoutePlane.Router.Basic

/-! What policies can do to a route. A policy applies actions of the route maps of its device, and none
of them changes the network, the protocol or the kind of a route. So an accepted draft is built again,
and the only error is one of the policy itself. -/
namespace RoutePlane

open Fallible

namespace RouteMap

def Action.names : Action → List String
  | nextHop h => h.names
  | _ => []

theorem walk_actions {permits : String → Except PolicyError Bool} {r : Route} {entries : List Entry}
    {sought : Option UInt16} {verdict outcome : Verdict}
    (walked : walk permits r sought verdict entries = .ok outcome) :
    ∀ a ∈ outcome.actions, a ∈ verdict.actions ∨ ∃ e ∈ entries, a ∈ e.actions := by
  induction entries generalizing sought verdict with
  | nil =>
    cases walked
    exact fun a member => .inl member
  | cons e rest ih =>
    have later {sought : Option UInt16} {verdict' : Verdict}
        (shorter : walk permits r sought verdict' rest = .ok outcome)
        (known : ∀ a ∈ verdict'.actions, a ∈ verdict.actions ∨ a ∈ e.actions) :
        ∀ a ∈ outcome.actions, a ∈ verdict.actions ∨ ∃ d ∈ e :: rest, a ∈ d.actions := by
      intro a member
      rcases ih shorter a member with early | ⟨d, late, own⟩
      · rcases known a early with before | here
        · exact .inl before
        · exact .inr ⟨e, by simp, here⟩
      · exact .inr ⟨d, by simp [late], own⟩
    have added : ∀ a ∈ verdict.actions ++ e.actions, a ∈ verdict.actions ∨ a ∈ e.actions :=
      fun a => List.mem_append.1
    rw [walk] at walked
    split at walked
    · exact later walked fun a => .inl
    · obtain ⟨holds, -, walked⟩ := bind_eq_ok.1 walked
      cases holds with
      | false => exact later walked fun a => .inl
      | true =>
        cases decision : e.action with
        | reject =>
          rw [decision] at walked
          cases walked
          exact fun a member => .inl member
        | accept =>
          rw [decision] at walked
          cases onward : e.next with
          | exit =>
            rw [onward] at walked
            cases walked
            intro a member
            rcases added a member with before | here
            · exact .inl before
            · exact .inr ⟨e, by simp, here⟩
          | next =>
            rw [onward] at walked
            exact later walked added
          | goto sequence =>
            rw [onward] at walked
            exact later walked added

end RouteMap

def Configuration.actions (c : Configuration) : List RouteMap.Action :=
  (c.policies.values ++ c.routeMaps.values).flatMap fun m => m.entries.flatMap (·.actions)

theorem Configuration.mem_actions {c : Configuration} {name : String} {m : RouteMap}
    {e : RouteMap.Entry} {a : RouteMap.Action} (found : c.policy? name = some m)
    (entry : e ∈ m.entries) (action : a ∈ e.actions) : a ∈ c.actions := by
  have listed : m ∈ c.policies.values ++ c.routeMaps.values := by
    rw [List.mem_append]
    rcases (Option.orElse_eq_some _ _ _).1 found with found | ⟨-, found⟩
    · exact .inl (List.mem_map.2 ⟨_, SortedMap.mem_toList_iff.2 found, rfl⟩)
    · exact .inr (List.mem_map.2 ⟨_, SortedMap.mem_toList_iff.2 found, rfl⟩)
  exact List.mem_flatMap.2 ⟨m, listed, List.mem_flatMap.2 ⟨e, entry, action⟩⟩

theorem PolicyContext.evaluate_actions {c : PolicyContext} {r : Route} {depth : Nat} {name : String}
    {verdict : RouteMap.Verdict} (evaluated : c.evaluate r depth name = .ok verdict) :
    ∀ a ∈ verdict.actions, a ∈ c.configuration.actions := by
  rw [evaluate] at evaluated
  cases found : c.configuration.policy? name with
  | none =>
    rw [found] at evaluated
    cases evaluated
  | some m =>
    rw [found] at evaluated
    cases depth with
    | zero => cases evaluated
    | succ depth =>
      intro a member
      rcases RouteMap.walk_actions evaluated a member with never | ⟨e, entry, own⟩
      · simp at never
      · exact Configuration.mem_actions found entry own

/-- A policy applies actions of its device, and replaces symbolic next hops. -/
theorem PolicyContext.apply_ok {c : PolicyContext} {name : Option String} {r : Route}
    {draft edited : RouteDraft} {accepted : Bool}
    (applied : c.apply name r draft = .ok (accepted, edited)) :
    ∃ actions : List RouteMap.Action, (∀ a ∈ actions, a ∈ c.configuration.actions) ∧
      edited = c.resolveDraft (actions.foldl RouteMap.Action.apply draft) := by
  cases name with
  | none =>
    cases applied
    exact ⟨[], fun a none => absurd none List.not_mem_nil, rfl⟩
  | some name =>
    obtain ⟨verdict, evaluated, same⟩ := bind_eq_ok.1 applied
    cases same
    exact ⟨verdict.actions, evaluate_actions evaluated, rfl⟩

/-- What no action of the device changes, and what does not depend on the next hop, policies keep. -/
theorem PolicyContext.apply_view {κ : Type} (view : RouteDraft → κ) {c : PolicyContext}
    {name : Option String} {r : Route} {draft edited : RouteDraft} {accepted : Bool}
    (blind : ∀ a ∈ c.configuration.actions, ∀ d, view (a.apply d) = view d)
    (hopless : ∀ d hop, view { d with nextHop := hop } = view d)
    (applied : c.apply name r draft = .ok (accepted, edited)) : view edited = view draft := by
  obtain ⟨actions, own, rfl⟩ := apply_ok applied
  rw [resolveDraft, hopless]
  clear applied
  induction actions generalizing draft with
  | nil => rfl
  | cons a actions ih =>
    rw [List.foldl_cons, ih fun b member => own b (List.mem_cons_of_mem _ member)]
    exact blind a (own a List.mem_cons_self) draft

namespace RouteDraft

variable {known : Set String} {d e f : RouteDraft} {r : Route}

/-- What an edit of a draft leaves alone, and where its next hop comes from. -/
structure EditedTo (known : Set String) (d e : RouteDraft) : Prop where
  network : e.network = d.network
  protocol : e.protocol = d.protocol
  rank : e.kind.rank = d.kind.rank
  nextHop : ∀ h, d.nextHop = some h →
    ∃ i, e.nextHop = some i ∧ (h.Within known → i.Within known)

namespace EditedTo

theorem refl (known : Set String) (d : RouteDraft) : d.EditedTo known d :=
  ⟨rfl, rfl, rfl, fun h some => ⟨h, some, id⟩⟩

theorem trans (first : d.EditedTo known e) (second : e.EditedTo known f) :
    d.EditedTo known f where
  network := second.network.trans first.network
  protocol := second.protocol.trans first.protocol
  rank := second.rank.trans first.rank
  nextHop := by
    intro h some
    obtain ⟨i, between, kept⟩ := first.nextHop h some
    obtain ⟨j, last, still⟩ := second.nextHop i between
    exact ⟨j, last, still ∘ kept⟩

theorem modifyBgp (known : Set String) (d : RouteDraft) (g : BgpData → BgpData) :
    d.EditedTo known (d.modifyBgp g) := by
  cases kind : d.kind with
  | bgp data =>
    simp only [RouteDraft.modifyBgp, kind]
    exact ⟨rfl, rfl, by rw [kind]; rfl, fun h some => ⟨h, some, id⟩⟩
  | _ =>
    simp only [RouteDraft.modifyBgp, kind]
    exact refl known d

theorem setNextHop {hop : NextHop} (within : hop.Within known) :
    d.EditedTo known (d.setNextHop hop) :=
  ⟨rfl, rfl, rfl, fun _ _ => ⟨hop, rfl, fun _ => within⟩⟩

theorem action {a : RouteMap.Action} (names : ∀ s ∈ a.names, s ∈ known) :
    d.EditedTo known (a.apply d) := by
  cases a with
  | nextHop hop => exact setNextHop names
  | metric | tag => exact ⟨rfl, rfl, rfl, fun h some => ⟨h, some, id⟩⟩
  | _ => exact modifyBgp known d _

theorem foldl {actions : List RouteMap.Action}
    (names : ∀ a ∈ actions, ∀ s ∈ a.names, s ∈ known) :
    d.EditedTo known (actions.foldl RouteMap.Action.apply d) := by
  induction actions generalizing d with
  | nil => exact refl known d
  | cons a actions ih =>
    have first : d.EditedTo known (a.apply d) := action (names a (by simp))
    exact first.trans (ih fun b member => names b (by simp [member]))

theorem resolve (c : PolicyContext) : d.EditedTo known (c.resolveDraft d) where
  network := rfl
  protocol := rfl
  rank := rfl
  nextHop := by
    intro h some
    refine ⟨c.resolve h, by simp [PolicyContext.resolveDraft, some], fun within => ?_⟩
    cases h with
    | self => cases own : c.localAddress <;> simp [PolicyContext.resolve, own, NextHop.Within,
        NextHop.names, NextHop.interface?]
    | peer => cases own : c.peerAddress <;> simp [PolicyContext.resolve, own, NextHop.Within,
        NextHop.names, NextHop.interface?]
    | _ => exact within

theorem apply {c : PolicyContext} {name : Option String} {accepted : Bool}
    (names : ∀ a ∈ c.configuration.actions, ∀ s ∈ a.names, s ∈ known)
    (applied : c.apply name r d = .ok (accepted, e)) : d.EditedTo known e := by
  obtain ⟨actions, own, rfl⟩ := PolicyContext.apply_ok applied
  exact (foldl fun a member => names a (own a member)).trans (resolve c)

end EditedTo

theorem build_eq_ok (built : d.build = .ok r) :
    d.network = some r.network ∧ d.protocol = some r.protocol ∧ d.nextHop = some r.nextHop ∧
      d.kind = r.kind ∧ r.kind.allows r.protocol = true := by
  rw [build] at built
  split at built <;> try cases built
  next network protocol hop =>
    split at built
    next allowed =>
      cases built
      exact ⟨network, protocol, hop, rfl, allowed⟩
    next => cases built

theorem nonRouting_of_build (built : d.build = .ok r) : r.nonRouting = d.nonRouting := by
  rw [build] at built
  split at built <;> try cases built
  split at built <;> cases built
  rfl

theorem nextHop_of_build {hop : NextHop} (built : d.build = .ok r) (leads : d.nextHop = some hop) :
    r.nextHop = hop := by
  obtain ⟨-, -, next, -⟩ := build_eq_ok built
  exact Option.some.inj (next.symm.trans leads)

end RouteDraft

theorem RouteKind.allows_congr {j k : RouteKind} (same : j.rank = k.rank) : j.allows = k.allows := by
  cases j <;> cases k <;> first | rfl | cases same

namespace RouteDraft.EditedTo

variable {known : Set String} {d e : RouteDraft} {r : Route}

theorem build (edited : d.EditedTo known e) (built : d.build = .ok r) :
    ∃ s, e.build = .ok s ∧ s.network = r.network ∧ s.protocol = r.protocol ∧
      s.kind.rank = r.kind.rank ∧ (r.nextHop.Within known → s.nextHop.Within known) := by
  obtain ⟨network, protocol, hop, kind, allowed⟩ := build_eq_ok built
  obtain ⟨i, edge, within⟩ := edited.nextHop _ hop
  have rank : e.kind.rank = r.kind.rank := by rw [edited.rank, kind]
  have suits : e.kind.allows r.protocol = true := by rwa [RouteKind.allows_congr rank]
  simp [RouteDraft.build, edited.network, network, edited.protocol, protocol, edge, suits]
  exact ⟨rank, within⟩

end RouteDraft.EditedTo

def RouteKind.core : RouteKind → RouteKind
  | .bgp data => .bgp { data with attributes := { data.attributes with
      asPath := .empty
      communities := .empty
      localPreference := defaultLocalPreference
      originType := .igp
      weight := 0 } }
  | k => k

@[simp] theorem RouteKind.ospf?_core (k : RouteKind) : k.core.ospf? = k.ospf? := by
  cases k <;> rfl

def RouteDraft.core (d : RouteDraft) : RouteDraft :=
  { d with metric := 0, nextHop := none, tag := none, kind := d.kind.core }

theorem RouteDraft.core_action (a : RouteMap.Action) (d : RouteDraft) :
    (a.apply d).core = d.core := by
  obtain ⟨_, _, _, _, _, _, _, _, kind⟩ := d
  cases a <;> cases kind <;> rfl

/-- BGP data that names no sender. -/
def RouteKind.IsOwn (k : RouteKind) : Prop := ∃ data, k = .bgp data ∧ data.receivedFrom = .unspecified

/-- No policy says from whom a route came. -/
theorem RouteKind.isOwn_core {k : RouteKind} : k.core.IsOwn ↔ k.IsOwn := by
  cases k <;> simp [IsOwn, core]

/-- A draft of a route that a router brings into BGP, before any policy. -/
structure RouteDraft.IsOwn (d : RouteDraft) : Prop where
  routing : d.nonRouting = false
  protocol : d.protocol = some .bgp ∨ d.protocol = some .aggregate
  kind : ∃ data, d.kind = .bgp data ∧ data.receivedFrom = .unspecified ∧
    data.attributes.asPath = .empty ∧ data.attributes.clusterList = .empty

namespace Router

variable {known : Set String} {context : PolicyContext} {policy : Option String} {r s : Route}
  {draft : RouteDraft}

theorem error_of_liftPolicy {α : Type} {x : Except PolicyError α} {e : NetworkError}
    (failed : liftPolicy x = .error e) : ∃ p, e = .policy p := by
  cases x with
  | ok a => cases failed
  | error p =>
    cases failed
    exact ⟨p, rfl⟩

theorem liftPolicy_eq_ok {α : Type} {x : Except PolicyError α} {a : α} :
    liftPolicy x = .ok a ↔ x = .ok a := by
  cases x <;> simp [liftPolicy]

theorem liftRoute_eq_ok {α : Type} {x : Except RouteError α} {a : α} :
    liftRoute x = .ok a ↔ x = .ok a := by
  cases x <;> simp [liftRoute]

/-- What a policy lets through is built of a draft that looks as before. -/
theorem accepted_view {κ : Type} (view : RouteDraft → κ)
    (blind : ∀ a ∈ context.configuration.actions, ∀ d, view (a.apply d) = view d)
    (hopless : ∀ d hop, view { d with nextHop := hop } = view d)
    (accepted : accepted? context policy r draft = .ok (some s)) :
    ∃ edited : RouteDraft, edited.build = .ok s ∧ view edited = view draft := by
  obtain ⟨⟨verdict, edited⟩, applied, outcome⟩ := bind_eq_ok.1 accepted
  have same := PolicyContext.apply_view view blind hopless (liftPolicy_eq_ok.1 applied)
  cases verdict with
  | false => cases outcome
  | true =>
    obtain ⟨s', built, found⟩ := map_eq_ok.1 outcome
    cases found
    exact ⟨edited, liftRoute_eq_ok.1 built, same⟩

theorem accepted_core (accepted : accepted? context policy r draft = .ok (some s)) :
    ∃ edited : RouteDraft, edited.build = .ok s ∧ edited.core = draft.core :=
  accepted_view RouteDraft.core (fun a _ d => d.core_action a) (fun _ _ => rfl) accepted

/-- What a policy lets through is a route for the same network, of the same protocol and kind. -/
theorem accepted_some (known : Set String)
    (names : ∀ a ∈ context.configuration.actions, ∀ n ∈ a.names, n ∈ known)
    {b : Route} (built : draft.build = .ok b)
    (accepted : accepted? context policy r draft = .ok (some s)) :
    s.network = b.network ∧ s.protocol = b.protocol ∧ s.kind.rank = b.kind.rank ∧
      (b.nextHop.Within known → s.nextHop.Within known) := by
  obtain ⟨⟨verdict, edited⟩, applied, outcome⟩ := bind_eq_ok.1 accepted
  have edits := RouteDraft.EditedTo.apply names (liftPolicy_eq_ok.1 applied)
  obtain ⟨c, rebuilt, kept⟩ := edits.build built
  cases verdict with
  | false => cases outcome
  | true =>
    obtain ⟨c', again, same⟩ := map_eq_ok.1 outcome
    rw [liftRoute_eq_ok, rebuilt] at again
    cases again
    cases same
    exact kept

theorem error_of_accepted {e : NetworkError} {b : Route} (built : draft.build = .ok b)
    (failed : accepted? context policy r draft = .error e) : ∃ p, e = .policy p := by
  rcases bind_eq_error.1 failed with unlifted | ⟨⟨verdict, edited⟩, applied, outcome⟩
  · exact error_of_liftPolicy unlifted
  · have edits : draft.EditedTo Set.univ edited :=
      RouteDraft.EditedTo.apply (fun _ _ _ _ => trivial) (liftPolicy_eq_ok.1 applied)
    obtain ⟨c, rebuilt, -⟩ := edits.build built
    cases verdict with
    | false => cases outcome
    | true =>
      have unbuilt := map_eq_error.1 outcome
      rw [rebuilt] at unbuilt
      cases unbuilt

end Router

end RoutePlane
