import Mathlib.Logic.Relation
import RoutePlane.DataPlane.Tracing
import RoutePlane.Proofs.Network.Fallible
import RoutePlane.Proofs.Rib.LongestMatch

/-! The ways of a flow through a network. A journey goes on from a router over any entry of the longest
match of the destination and any link that this entry leads to. It ends at an owner of the
destination, without an entry, at an entry that drops it or sends it out of the network, or at a
filter; and it fails where a node, a VRF, an interface or a link is missing. -/
namespace RoutePlane

/-- How far a flow has come: the nodes behind it, its hops, and the node and VRF it is in. -/
structure Journey where
  behind : List String
  hops : List Hop
  node : String
  vrf : String

namespace Journey

def start (f : Flow) : Journey := ⟨[], [], f.ingressNode, f.ingressVrf⟩

def across (j : Journey) (e : ForwardingEntry) (l : Link) (vrf : String) : Journey :=
  ⟨j.behind ++ [j.node], j.hops ++ [DataPlane.hop l e], l.target.node, vrf⟩

def visited (j : Journey) : List String := j.behind ++ [j.node]

end Journey

namespace DataPlane

open Fallible

/-- The flow is at a router that does not own its destination. -/
def InTransit (d : DataPlane) (f : Flow) (j : Journey) (r : Router) : Prop :=
  d.router? j.node j.vrf = .ok r ∧ d.fabric.owners.ownsIn f.destination j.node j.vrf = false

def Chooses (d : DataPlane) (f : Flow) (j : Journey) (r : Router) (e : ForwardingEntry) : Prop :=
  d.InTransit f j r ∧
    ∃ found, IsLongest (· ∈ r.forwarding.entries.toList) (.host f.destination) found ∧ e ∈ found.2

/-- The interface of the entry exists, and its filter lets the flow out. -/
def LetsOut (f : Flow) (r : Router) (e : ForwardingEntry) : Prop :=
  e.isDiscard = false ∧ ∃ i, r.configuration.interfaces.get? e.interface = some i ∧
    deniedBy? r.configuration i.outgoingFilter f .deniedOut = none

def GoesOut (d : DataPlane) (f : Flow) (r : Router) (e : ForwardingEntry) : Prop :=
  LetsOut f r e ∧ d.sinks.contains ⟨r.hostname, e.interface⟩ = false ∧
    d.fabric.topology.hasLinks ⟨r.hostname, e.interface⟩ = true

inductive StopsAt (d : DataPlane) (f : Flow) (r : Router) (e : ForwardingEntry) :
    Disposition → String → Prop
  | discarded (discard : e.isDiscard = true) : d.StopsAt f r e .nullRouted ""
  | filtered {i : Interface} {note : String} (forwarded : e.isDiscard = false)
      (out : r.configuration.interfaces.get? e.interface = some i)
      (denied : deniedBy? r.configuration i.outgoingFilter f .deniedOut = some note) :
      d.StopsAt f r e .deniedOut note
  | sink (permitted : LetsOut f r e) (sink : d.sinks.contains ⟨r.hostname, e.interface⟩ = true) :
      d.StopsAt f r e .accepted ""
  | unmodelled (out : d.GoesOut f r e) (unowned : d.nextLinks f ⟨r.hostname, e.interface⟩ e = [])
      (free : e.node = none) : d.StopsAt f r e .accepted ""

inductive FailsAt (d : DataPlane) (f : Flow) (r : Router) (e : ForwardingEntry) :
    NetworkError → Prop
  | interface (forwarded : e.isDiscard = false)
      (missing : r.configuration.interfaces.get? e.interface = none) :
      d.FailsAt f r e (.interfaceNotFound ⟨r.hostname, e.interface⟩)
  | unlinked (permitted : LetsOut f r e)
      (inside : d.sinks.contains ⟨r.hostname, e.interface⟩ = false)
      (missing : d.fabric.topology.hasLinks ⟨r.hostname, e.interface⟩ = false) :
      d.FailsAt f r e (.missingLinks ⟨r.hostname, e.interface⟩)
  | unreachable (out : d.GoesOut f r e)
      (missing : d.nextLinks f ⟨r.hostname, e.interface⟩ e = []) (bound : e.node.isSome = true) :
      d.FailsAt f r e (.missingLinks ⟨r.hostname, e.interface⟩)

def Crosses (d : DataPlane) (f : Flow) (r : Router) (e : ForwardingEntry) (l : Link) : Prop :=
  d.GoesOut f r e ∧ l ∈ d.nextLinks f ⟨r.hostname, e.interface⟩ e

/-- The far end of the link exists, with what its filter says to the flow. -/
def FarEnd (d : DataPlane) (f : Flow) (l : Link) (denied : Option String) (vrf : String) : Prop :=
  ∃ c i, d.fabric.configurations.get? l.target.node = some c ∧
    c.interfaces.get? l.target.interface = some i ∧
    deniedBy? c i.incomingFilter f .deniedIn = denied ∧ i.vrf = vrf

inductive LacksEnd (d : DataPlane) (l : Link) : NetworkError → Prop
  | node (missing : d.fabric.configurations.get? l.target.node = none) :
      d.LacksEnd l (.nodeNotFound l.target.node)
  | interface {c : Configuration} (found : d.fabric.configurations.get? l.target.node = some c)
      (missing : c.interfaces.get? l.target.interface = none) :
      d.LacksEnd l (.interfaceNotFound l.target)

inductive Advances (d : DataPlane) (f : Flow) : Journey → Journey → Prop
  | across {j : Journey} {r : Router} {e : ForwardingEntry} {l : Link} {vrf : String}
      (chosen : d.Chooses f j r e) (crosses : d.Crosses f r e l) (entered : d.FarEnd f l none vrf) :
      d.Advances f j (j.across e l vrf)

/-- The flow ends here, with a trace. A filter at the far end of a link stops it before it enters. -/
inductive Ends (d : DataPlane) (f : Flow) : Journey → Trace → Prop
  | delivered {j : Journey} {r : Router} (here : d.router? j.node j.vrf = .ok r)
      (owned : d.fabric.owners.ownsIn f.destination j.node j.vrf = true) :
      d.Ends f j ⟨.accepted, j.hops, ""⟩
  | unrouted {j : Journey} {r : Router} (transit : d.InTransit f j r)
      (none : ∀ e, ¬d.Chooses f j r e) : d.Ends f j ⟨.noRoute, j.hops, ""⟩
  | stopped {j : Journey} {r : Router} {e : ForwardingEntry} {disposition : Disposition}
      {note : String} (chosen : d.Chooses f j r e) (stops : d.StopsAt f r e disposition note) :
      d.Ends f j ⟨disposition, j.hops ++ [hop ⟨⟨j.node, e.interface⟩, .null⟩ e], note⟩
  | refused {j : Journey} {r : Router} {e : ForwardingEntry} {l : Link} {note vrf : String}
      (chosen : d.Chooses f j r e) (crosses : d.Crosses f r e l)
      (denied : d.FarEnd f l (some note) vrf) :
      d.Ends f j ⟨.deniedIn, j.hops ++ [hop l e], note⟩

inductive Fails (d : DataPlane) (f : Flow) : Journey → NetworkError → Prop
  | router {j : Journey} {error : NetworkError} (missing : d.router? j.node j.vrf = .error error) :
      d.Fails f j error
  | entry {j : Journey} {r : Router} {e : ForwardingEntry} {error : NetworkError}
      (chosen : d.Chooses f j r e) (fails : d.FailsAt f r e error) : d.Fails f j error
  | link {j : Journey} {r : Router} {e : ForwardingEntry} {l : Link} {error : NetworkError}
      (chosen : d.Chooses f j r e) (crosses : d.Crosses f r e l) (lacks : d.LacksEnd l error) :
      d.Fails f j error

def Comes (d : DataPlane) (f : Flow) (j : Journey) : Prop :=
  Relation.ReflTransGen (d.Advances f) (.start f) j

variable {d : DataPlane} {f : Flow} {j : Journey} {r : Router} {e : ForwardingEntry} {l : Link}
  {error : NetworkError}

/-- One of three things happens to a flow at an entry. -/
theorem entry_cases (d : DataPlane) (f : Flow) (r : Router) (e : ForwardingEntry) :
    (∃ disposition note, d.StopsAt f r e disposition note) ∨ (∃ error, d.FailsAt f r e error) ∨
      ∃ l, d.Crosses f r e l := by
  cases discard : e.isDiscard with
  | true => exact .inl ⟨_, _, .discarded discard⟩
  | false =>
    cases out : r.configuration.interfaces.get? e.interface with
    | none => exact .inr (.inl ⟨_, .interface discard out⟩)
    | some i =>
      cases denied : deniedBy? r.configuration i.outgoingFilter f .deniedOut with
      | some note => exact .inl ⟨_, _, .filtered discard out denied⟩
      | none =>
        have permitted : LetsOut f r e := ⟨discard, i, out, denied⟩
        cases sink : d.sinks.contains ⟨r.hostname, e.interface⟩ with
        | true => exact .inl ⟨_, _, .sink permitted sink⟩
        | false =>
          cases linked : d.fabric.topology.hasLinks ⟨r.hostname, e.interface⟩ with
          | false => exact .inr (.inl ⟨_, .unlinked permitted sink linked⟩)
          | true =>
            have goes : d.GoesOut f r e := ⟨permitted, sink, linked⟩
            cases links : d.nextLinks f ⟨r.hostname, e.interface⟩ e with
            | cons l rest => exact .inr (.inr ⟨l, goes, by simp [links]⟩)
            | nil =>
              cases node : e.node with
              | none => exact .inl ⟨_, _, .unmodelled goes links node⟩
              | some n => exact .inr (.inl ⟨_, .unreachable goes links (by simp [node])⟩)

theorem StopsAt.departure_eq {disposition : Disposition} {note : String}
    (stops : d.StopsAt f r e disposition note) :
    d.departure f r e = .ok (.ends disposition note) := by
  cases stops with
  | discarded discard => simp [departure, discard]
  | filtered forwarded out denied => simp [departure, forwarded, out, denied]
  | sink permitted sink =>
    obtain ⟨forwarded, i, out, free⟩ := permitted
    simp [departure, forwarded, out, free, sink]
  | unmodelled goes unowned free =>
    obtain ⟨⟨forwarded, i, out, passed⟩, inside, linked⟩ := goes
    simp [departure, forwarded, out, passed, inside, linked, unowned, free]

theorem FailsAt.departure_eq (fails : d.FailsAt f r e error) :
    d.departure f r e = .error error := by
  cases fails with
  | interface forwarded missing => simp [departure, forwarded, missing]
  | unlinked permitted inside missing =>
    obtain ⟨forwarded, i, out, free⟩ := permitted
    simp [departure, forwarded, out, free, inside, missing]
  | unreachable goes missing bound =>
    obtain ⟨⟨forwarded, i, out, passed⟩, inside, linked⟩ := goes
    simp [departure, forwarded, out, passed, inside, linked, missing, bound]

theorem Crosses.departure_eq (crosses : d.Crosses f r e l) :
    d.departure f r e = .ok (.across (d.nextLinks f ⟨r.hostname, e.interface⟩ e)) := by
  obtain ⟨⟨⟨forwarded, i, out, passed⟩, inside, linked⟩, member⟩ := crosses
  cases links : d.nextLinks f ⟨r.hostname, e.interface⟩ e with
  | nil => simp [links] at member
  | cons first rest => simp [departure, forwarded, out, passed, inside, linked, links]

theorem stopsAt_iff {disposition : Disposition} {note : String} :
    d.StopsAt f r e disposition note ↔ d.departure f r e = .ok (.ends disposition note) := by
  refine ⟨StopsAt.departure_eq, ?_⟩
  intro outcome
  rcases entry_cases d f r e with ⟨disposition', note', stops⟩ | ⟨error, fails⟩ | ⟨l, crosses⟩
  · rw [stops.departure_eq] at outcome
    cases outcome
    exact stops
  · rw [fails.departure_eq] at outcome
    cases outcome
  · rw [crosses.departure_eq] at outcome
    cases outcome

theorem failsAt_iff : d.FailsAt f r e error ↔ d.departure f r e = .error error := by
  refine ⟨FailsAt.departure_eq, ?_⟩
  intro outcome
  rcases entry_cases d f r e with ⟨disposition, note, stops⟩ | ⟨error', fails⟩ | ⟨l, crosses⟩
  · rw [stops.departure_eq] at outcome
    cases outcome
  · rw [fails.departure_eq] at outcome
    cases outcome
    exact fails
  · rw [crosses.departure_eq] at outcome
    cases outcome

theorem crosses_iff {links : List Link} (outcome : d.departure f r e = .ok (.across links)) :
    links ≠ [] ∧ ∀ l, l ∈ links ↔ d.Crosses f r e l := by
  rcases entry_cases d f r e with ⟨disposition, note, stops⟩ | ⟨error, fails⟩ | ⟨l, crosses⟩
  · rw [stops.departure_eq] at outcome
    cases outcome
  · rw [fails.departure_eq] at outcome
    cases outcome
  · rw [crosses.departure_eq] at outcome
    cases outcome
    refine ⟨List.ne_nil_of_mem crosses.2, ?_⟩
    intro l'
    exact ⟨fun member => ⟨crosses.1, member⟩, fun other => other.2⟩

theorem farEnd_iff {denied : Option String} {vrf : String} :
    d.FarEnd f l denied vrf ↔ d.arrival f l = .ok (denied, vrf) := by
  simp only [FarEnd, arrival, configuration?]
  cases d.fabric.configurations.get? l.target.node with
  | none => simp [bind, Except.bind]
  | some c =>
    cases found : c.interfaces.get? l.target.interface with
    | none => simp [bind, Except.bind, found]
    | some i => simp [bind, Except.bind, found, pure, Except.pure]

theorem FarEnd.unique {denied denied' : Option String} {vrf vrf' : String}
    (found : d.FarEnd f l denied vrf) (found' : d.FarEnd f l denied' vrf') :
    denied = denied' ∧ vrf = vrf' := by
  rw [farEnd_iff] at found found'
  rw [found] at found'
  simpa using found'

theorem lacksEnd_iff : d.LacksEnd l error ↔ d.arrival f l = .error error := by
  constructor
  · rintro (missing | ⟨found, missing⟩)
    · simp [arrival, configuration?, missing, bind, Except.bind]
    · simp [arrival, configuration?, found, missing, bind, Except.bind]
  · intro outcome
    cases found : d.fabric.configurations.get? l.target.node with
    | none =>
      simp only [arrival, configuration?, found, bind, Except.bind, Except.error.injEq] at outcome
      exact outcome ▸ .node found
    | some c =>
      cases interface : c.interfaces.get? l.target.interface with
      | none =>
        simp only [arrival, configuration?, found, interface, bind, Except.bind,
          Except.error.injEq] at outcome
        exact outcome ▸ .interface found interface
      | some i =>
        simp [arrival, configuration?, found, interface, bind, Except.bind, pure, Except.pure]
          at outcome

/-- At a router on the way the entries of the look-up are what the flow can choose. -/
theorem InTransit.chooses_iff (transit : d.InTransit f j r) {network : Prefix}
    {entries : SortedSet ForwardingEntry}
    (found : r.forwarding.lookup? f.destination = some (network, entries)) {r' : Router} :
    d.Chooses f j r' e ↔ r' = r ∧ e ∈ entries := by
  have longest := (ForwardingTable.lookup?_eq_some_iff.1 found).1
  constructor
  · rintro ⟨⟨router, -⟩, other, match', member⟩
    rw [transit.1] at router
    obtain rfl := Except.ok.inj router
    have same := SortedMap.eq_of_key_eq match'.listed longest.listed (match'.network_eq longest)
    rw [same] at member
    exact ⟨rfl, member⟩
  · rintro ⟨rfl, member⟩
    exact ⟨transit, _, longest, member⟩

theorem InTransit.not_chooses (transit : d.InTransit f j r)
    (absent : r.forwarding.lookup? f.destination = none) {r' : Router} : ¬d.Chooses f j r' e := by
  rintro ⟨⟨router, -⟩, found, longest, member⟩
  rw [transit.1] at router
  obtain rfl := Except.ok.inj router
  have occupied : found.2.isEmpty = false := by
    rw [Bool.eq_false_iff]
    intro empty
    rw [SortedSet.isEmpty_iff.1 empty] at member
    exact SortedSet.not_mem_empty e member
  rw [ForwardingTable.lookup?_eq_some_iff.2 ⟨longest, occupied⟩] at absent
  cases absent

theorem InTransit.hostname_eq (transit : d.InTransit f j r) : r.hostname = j.node := by
  obtain ⟨-, -, found⟩ := bind_eq_ok.1 transit.1
  cases router : findRouter? d.routers j.node j.vrf with
  | none =>
    rw [router] at found
    cases found
  | some r' =>
    rw [router, pure_eq_ok] at found
    have selected := List.find?_some router
    simp only [Bool.and_eq_true, beq_iff_eq] at selected
    exact found ▸ selected.1

theorem Crosses.linked (crosses : d.Crosses f r e l) :
    l ∈ d.fabric.topology.linksFrom ⟨r.hostname, e.interface⟩ := by
  have member := crosses.2
  unfold nextLinks at member
  split at member
  · exact (List.mem_filter.1 member).1
  · exact (List.mem_filter.1 member).1

theorem Crosses.source_eq (crosses : d.Crosses f r e l) : l.source = ⟨r.hostname, e.interface⟩ := by
  have linked := crosses.linked
  rw [Topology.linksFrom, List.mem_reverse] at linked
  simpa using (List.mem_filter.1 linked).2

end DataPlane

end RoutePlane
