import RoutePlane.Proofs.Network.SessionPaths

/-! The routes of a phase in which one router alone brings a network into BGP. All that is heard for the
network has come from that router over a path of sessions, and never back to it. When the phase ends,
every router that such a path leads to holds what has come over the shortest ones. -/
namespace RoutePlane

open Fallible

def Router.origins (o : Router) (p : Prefix) : Set Route := RibKind.bgp.best {x | o.Originates x} p

theorem Router.suits_of_originates {o : Router} : ∀ x ∈ {x | o.Originates x}, RibKind.bgp.Suits x :=
  fun x originates => bgpRoutes_suits x (isBgpKind_of_own originates.own)

namespace Network

open Schedule

variable {n : Network} {entry : List Router} {e o r : Router} {p : Prefix} {x y : Route}
  {external : Bool} {k : ℕ} {l : List Session} {s : Session}

namespace IsPlainEbgp

variable {source : String × String} {origin route : Route} {data : BgpData} {a : BgpAttributes}
  (plain : n.IsPlainEbgp) (listed : s ∈ n.fabric.sessions.toList)
  (path : SessionPath n.fabric source l s.sender.place) (came : Router.CameOver origin l route)
  (kind : route.kind = .bgp data)
include plain listed path came kind

/-- No route comes back to its source, whose system is on every path away from it. -/
theorem leaves_source (bgp : origin.isBgpKind = true) (away : s.receiverAs ≠ s.senderAs)
    (fresh : data.attributes.asPath.contains s.receiverAs = false) : s.receiver.place ≠ source := by
  intro back
  by_cases first : s.sender.place = source
  · exact away ((plain.senderAs_eq_receiverAs_iff listed listed).2 (first.trans back.symm)).symm
  · obtain ⟨u, passed, sends⟩ := path.source_sends first
    have passes : s.receiverAs ∈ l.map (·.senderAs) := List.mem_map.2 ⟨u, passed,
      (plain.senderAs_eq_receiverAs_iff (path.sessions u passed) listed).2 (sends.trans back.symm)⟩
    have found := RibKind.attributes?_of_suits (r := origin) fun _ => bgp
    exact Bool.eq_false_iff.1 fresh ((came.contains_iff found kind).2 (.inl passes))

variable (shortest : ∀ l', SessionPath n.fabric source l' s.receiver.place → l.length < l'.length)
include shortest

/-- On a shortest path the receiver has not sent the route before. -/
theorem not_passed (found : origin.attributes? = some a)
    (clear : a.asPath.contains s.receiverAs = false) :
    data.attributes.asPath.contains s.receiverAs = false := by
  refine Bool.eq_false_iff.2 fun contains => ?_
  rcases (came.contains_iff found kind).1 contains with passed | before
  · obtain ⟨u, passed, same⟩ := List.mem_map.1 passed
    have back := (plain.senderAs_eq_receiverAs_iff (path.sessions u passed) listed).1 same
    obtain ⟨l', shorter, less⟩ := path.closer passed
    exact absurd (shortest l' (back ▸ shorter)) less.asymm
  · exact Bool.eq_false_iff.1 clear before

omit kind in
/-- On a shortest path the receiver is not where the route came from. -/
theorem not_sent_back (own : origin.kind.IsOwn) : route.receivedFrom ≠ s.receiverAddress := by
  intro same
  generalize here : s.sender.place = place at path
  cases path with
  | nil =>
    cases came
    exact (plain.addressed s listed).2 (same.symm.trans (beq_iff_eq.1 (Router.isLocal_of_own own)))
  | @cons t l member path =>
    rw [came.receivedFrom_eq] at same
    have back := plain.comes_back member listed here.symm same
    exact absurd (shortest l (back ▸ path)) (Nat.lt_succ_self _).asymm

end IsPlainEbgp

/-- The route has come from the source to the router over the sessions. -/
def CameTo (n : Network) (o : Router) (p : Prefix) (r : Router) (x : Route) (l : List Session) : Prop :=
  SessionPath n.fabric o.place l r.place ∧ ∃ origin ∈ o.origins p, Router.CameOver origin l x

theorem CameTo.network_eq (came : n.CameTo o p r x l) : x.network = p := by
  obtain ⟨-, origin, origins, came⟩ := came
  exact came.network_eq.trans origins.1.2.2

/-- Of two routes that have come to another router, a better one has not come over more sessions. -/
theorem CameTo.length_le (plain : n.IsPlainEbgp) (away : r.place ≠ o.place)
    {l' : List Session} (first : n.CameTo o p r x l) (second : n.CameTo o p r y l')
    (le : RibKind.bgp.rank x ≤ RibKind.bgp.rank y) : l.length ≤ l'.length := by
  obtain ⟨path, origin, origins, came⟩ := first
  obtain ⟨path', origin', origins', came'⟩ := second
  obtain ⟨s, l, rfl, listed⟩ := path.exists_last away
  obtain ⟨s', l', rfl, listed'⟩ := path'.exists_last away
  have tied := RibKind.rank_eq_of_best Router.suits_of_originates origins origins'
  exact Nat.succ_le_succ (came.length_le came'
    (Router.suits_of_originates _ (RibKind.best_subset origins) rfl)
    (Router.suits_of_originates _ (RibKind.best_subset origins') rfl) tied
    (plain.addressed _ listed).1 (plain.addressed _ listed').1 le)

/-- The best routes that the router brings into BGP name no system of another one. -/
def NamesNoOther (n : Network) (o : Router) (p : Prefix) : Prop :=
  ∀ origin ∈ o.origins p, ∀ a, origin.attributes? = some a → ∀ b ∈ n.processes, b.1 ≠ o.device →
    a.asPath.contains b.2.localAs = false

/-- Of the routers that enter a phase, one alone brings the network into BGP. -/
structure IsSoleSource (n : Network) (entry : List Router) (o : Router) (p : Prefix) : Prop where
  devices : n.HasDevices entry
  sound : ∀ e ∈ entry, e.IsSound n.announcements
  fresh : ∀ e ∈ entry, e.IsFresh
  member : o ∈ entry
  alone : ∀ e ∈ entry, ∀ x, e.Originates x → x.network = p → e = o
  unannounced : ∀ a ∈ n.announcements, a.network ≠ p

namespace IsSoleSource

variable (plain : n.IsPlainEbgp) (sole : n.IsSoleSource entry o p) (run : BgpRun n.fabric entry)

section Held

include sole

theorem of_offer (member : e ∈ entry) (offer : x ∈ e.offers n.announcements external)
    (network : x.network = p) : e = o ∧ o.Originates x := by
  rcases offer with ⟨_, -, a, listed, -, -, imported⟩ | ⟨-, originates⟩
  · exact absurd ((Router.importAnnouncement_some imported).1.symm.trans network)
      (sole.unannounced a listed)
  · obtain rfl := sole.alone e member x originates network
    exact ⟨rfl, originates⟩

theorem states_devices (le : k ≤ run.moves + 1) : n.HasDevices (run.states k) :=
  (run.map_device le).trans sole.devices

/-- Every router of a state has entered the phase. -/
theorem exists_entry (le : k ≤ run.moves + 1) (member : r ∈ run.states k) : ∃ e ∈ entry,
    r.device = e.device ∧ r.HasWeighed (e.offers n.announcements) (run.heardBefore e k) :=
  source_of_mem (run.weighed sole.sound sole.fresh le) member

variable (weighs : r.HasWeighed (e.offers n.announcements) (run.heardBefore e k))
include weighs

/-- The source holds what it brings into BGP, if it hears nothing for the network. -/
theorem mem_held_source (same : e = o)
    (silent : ∀ external, ∀ x ∈ run.heardBefore o k external, x.network ≠ p) :
    x ∈ r.bgp.combined.held p ↔ x ∈ o.origins p := by
  subst same
  rw [weighs.combined.mem_iff, Router.origins, RibKind.best_congr]
  ext y
  simp only [RibKind.mem_candidates, Set.mem_union, Set.mem_ofPred_eq]
  constructor
  · rintro ⟨(offer | heard) | offer | heard, admits, network⟩
    · exact ⟨(sole.of_offer sole.member offer network).2, admits, network⟩
    · exact absurd network (silent _ y heard)
    · exact ⟨(sole.of_offer sole.member offer network).2, admits, network⟩
    · exact absurd network (silent _ y heard)
  · rintro ⟨originates, rest⟩
    exact ⟨.inl (.inl (.inr ⟨rfl, originates⟩)), rest⟩

/-- The others hold what they have heard. -/
theorem heard_of_held (member : e ∈ entry) (other : e ≠ o) (held : x ∈ r.bgp.combined.held p) :
    ∃ external, x ∈ run.heardBefore e k external := by
  obtain ⟨⟨offered, -, network⟩, -⟩ := weighs.combined.mem_iff.1 held
  rcases offered with (offer | heard) | offer | heard
  · exact absurd (sole.of_offer member offer network).1 other
  · exact ⟨true, heard⟩
  · exact absurd (sole.of_offer member offer network).1 other
  · exact ⟨false, heard⟩

end Held

include plain sole

/-- All that is heard has come over a path, and the source hears nothing: its system is on every path
away from it. -/
theorem heard_came (le : k ≤ run.moves + 1) : ∀ e ∈ entry, ∀ external,
    ∀ x ∈ run.heardBefore e k external, x.network = p → e ≠ o ∧ ∃ l, n.CameTo o p e x l := by
  induction k with
  | zero =>
    intro e _ external x heard
    rw [run.heardBefore_zero] at heard
    exact absurd heard (Set.notMem_empty x)
  | succ k ih =>
    have before : k ≤ run.moves + 1 := by omega
    have earlier := ih before
    intro e member external x heard network
    rw [run.heardBefore_succ] at heard
    rcases heard with heard | hears
    · exact earlier e member external x heard network
    obtain ⟨r, here, device, -⟩ :=
      source_of_mem (run.weighed sole.sound sole.fresh before).flip member
    have place : r.place = e.place := Router.place_congr device
    rw [Set.mem_ofPred_eq, ← Router.hears_congr device] at hears
    obtain ⟨process, own, s, incoming, -, conveys⟩ := hears
    obtain ⟨listed, node, vrf⟩ := Sessions.mem_incoming_iff.1 incoming
    obtain ⟨sender, source, sends, process', own', senderProcess, senderNeighbor, neighbor, all⟩ :=
      plain.conveys_iff (sole.states_devices run before) here listed (Prod.ext node vrf)
    cases own.symm.trans own'
    obtain ⟨route, held, data, kind, -, ⟨away, fresh⟩, rfl⟩ := (all x).1 conveys
    obtain ⟨e', member', device', weighs⟩ := sole.exists_entry run before source
    obtain ⟨q, held⟩ := Rib.mem_routes_iff.1 held
    obtain rfl : q = p := (weighs.combined.mem_iff.1 held).1.2.2.symm.trans network
    -- The route of the sender has come over a path, be it the empty one.
    obtain ⟨l, path, origin, origins, came⟩ : ∃ l, n.CameTo o q e' route l := by
      by_cases same : e' = o
      · have silent : ∀ external, ∀ x ∈ run.heardBefore o k external, x.network ≠ q :=
          fun external x heard network => (earlier o sole.member external x heard network).1 rfl
        have origins := (sole.mem_held_source run weighs same silent).1 held
        exact ⟨[], same ▸ .nil, route, origins, .start⟩
      · obtain ⟨external, heard⟩ := sole.heard_of_held run weighs member' same held
        exact (earlier e' member' external route heard network).2
    rw [← Router.place_congr device', sends] at path
    have arrives : SessionPath n.fabric o.place (s :: l) e.place := by
      rw [← place, ← show s.receiver.place = r.place from Prod.ext node vrf]
      exact .cons listed path
    refine ⟨fun same => ?_, s :: l, arrives, origin, origins,
      .step came kind (plain.isExternal listed) ..⟩
    refine plain.leaves_source listed path came kind ?_ away fresh ?_
    · exact Router.isBgpKind_of_own (RibKind.best_subset origins).own
    · rw [← same, ← place]
      exact Prod.ext node vrf

theorem silent (le : k ≤ run.moves + 1) :
    ∀ external, ∀ x ∈ run.heardBefore o k external, x.network ≠ p :=
  fun external x heard network =>
    (sole.heard_came plain run le o sole.member external x heard network).1 rfl

theorem held_came (le : k ≤ run.moves + 1) (member : r ∈ run.states k)
    (held : x ∈ r.bgp.combined.held p) : ∃ l, n.CameTo o p r x l := by
  obtain ⟨e, source, device, weighs⟩ := sole.exists_entry run le member
  simp only [CameTo, Router.place_congr device]
  by_cases same : e = o
  · have origins := (sole.mem_held_source run weighs same (sole.silent plain run le)).1 held
    exact ⟨[], same ▸ .nil, x, origins, .start⟩
  · obtain ⟨external, heard⟩ := sole.heard_of_held run weighs source same held
    have network : x.network = p := (weighs.combined.mem_iff.1 held).1.2.2
    exact (sole.heard_came plain run le e source external x heard network).2

/-- A router does not refuse in the end what its neighbour on a shortest path holds. -/
theorem exists_sent (clear : n.NamesNoOther o p) {q : Router} (member : r ∈ run.final)
    (next : q ∈ run.final) (listed : s ∈ n.fabric.sessions.toList) (sends : q.place = s.sender.place)
    (here : s.receiver.place = r.place) (away : r.place ≠ o.place)
    (held : y ∈ q.bgp.combined.held p) (came : n.CameTo o p q y l)
    (shortest : ∀ l', SessionPath n.fabric o.place l' s.receiver.place → l.length < l'.length) :
    ∃ x, n.CameTo o p r x (s :: l) ∧ r.IsSent n.fabric run.final x := by
  obtain ⟨path, origin, origins, came⟩ := came
  rw [sends] at path
  have originates : o.Originates origin := RibKind.best_subset origins
  have found := RibKind.attributes?_of_suits (Router.suits_of_originates _ originates)
  obtain ⟨b, known, -⟩ := came.path_eq found
  obtain ⟨data, kind, rfl⟩ := Route.kind_of_attributes known
  obtain ⟨ends⟩ := joined listed
  have unknown := clear origin origins _ found _ ends.receives fun same =>
    away (here.symm.trans (ends.place_of_receiver same.symm).symm)
  rw [← ends.receiverAs_eq plain.oneNumber] at unknown
  have devices : n.HasDevices run.final := sole.states_devices run le_rfl
  obtain ⟨sender, source, place, process, own, senderProcess, senderNeighbor, neighbor, all⟩ :=
    plain.conveys_iff devices member listed here
  obtain ⟨hostname, vrf⟩ := Prod.mk.inj (place.trans sends.symm)
  obtain rfl := devices.eq_of_names source next hostname vrf
  have conveys := (all _).2 ⟨y, Rib.mem_routes_iff.2 ⟨p, held⟩, data, kind,
    ⟨plain.not_sent_back listed path came shortest originates.own,
      came.nonRouting_eq.trans originates.routing⟩,
    ⟨plain.receiverAs_ne listed, plain.not_passed listed path came kind shortest found unknown⟩, rfl⟩
  obtain ⟨node, vrf⟩ := Prod.mk.inj here
  exact ⟨_, ⟨here ▸ .cons listed path, origin, origins,
      came.step kind (plain.isExternal listed) senderProcess senderNeighbor neighbor⟩,
    _, process, own, s, Sessions.mem_incoming_iff.2 ⟨listed, node, vrf⟩, rfl, conveys⟩

/-- What is sent in the end has been heard in the idle step, so nothing worse is held. -/
theorem held_of_sent (member : r ∈ run.final) (away : r.place ≠ o.place) (came : n.CameTo o p r x l)
    (sent : r.IsSent n.fabric run.final x) :
    ∃ y ∈ r.bgp.combined.held p, ∃ l', n.CameTo o p r y l' ∧ l'.length ≤ l.length := by
  have idle := bgpStep_idle (run.sound sole.sound (Nat.le_succ _)) run.idle
  obtain ⟨external, hears⟩ := Router.isSent_congr idle sent
  obtain ⟨e, entered, device, weighs⟩ := sole.exists_entry run le_rfl member
  rw [Router.hears_congr device] at hears
  have heard : x ∈ run.heardBefore e (run.moves + 1) external :=
    ⟨run.moves, Nat.lt_succ_self _, hears⟩
  have candidate : x ∈ RibKind.bgp.candidates (e.offers n.announcements true ∪
      run.heardBefore e (run.moves + 1) true ∪ (e.offers n.announcements false ∪
        run.heardBefore e (run.moves + 1) false)) p := by
    refine ⟨?_, by simp [RibKind.Admits], came.network_eq⟩
    cases external with
    | true => exact .inl (.inr heard)
    | false => exact .inr (.inr heard)
  obtain ⟨y, held⟩ := weighs.combined.exists_held candidate
  obtain ⟨l', came'⟩ := sole.held_came plain run le_rfl member held
  exact ⟨y, held, l', came', came'.length_le plain away came (weighs.combined.rank_le held candidate)⟩

/-- A shortest path delivers. -/
theorem exists_held (clear : n.NamesNoOther o p) (origin : ∃ x, o.Originates x ∧ x.network = p)
    {place : String × String}
    (path : SessionPath n.fabric o.place l place)
    (shortest : ∀ l', SessionPath n.fabric o.place l' place → l.length ≤ l'.length) :
    ∀ r ∈ run.final, place = r.place →
      ∃ x ∈ r.bgp.combined.held p, ∃ l', n.CameTo o p r x l' ∧ l'.length ≤ l.length := by
  induction path with
  | nil =>
    intro r member here
    obtain ⟨e, entered, device, weighs⟩ := sole.exists_entry run le_rfl member
    obtain ⟨hostname, vrf⟩ := Prod.mk.inj (here.trans (Router.place_congr device))
    obtain rfl := sole.devices.eq_of_names sole.member entered hostname vrf
    obtain ⟨x, originates, network⟩ := origin
    obtain ⟨top, best⟩ := RibKind.exists_best Router.suits_of_originates
      (k := .bgp) ⟨originates, by simp [RibKind.Admits], network⟩
    exact ⟨top, (sole.mem_held_source run weighs rfl (sole.silent plain run le_rfl)).2 best, [],
      ⟨here ▸ .nil, top, best, .start⟩, le_rfl⟩
  | @cons s l listed path ih =>
    intro r member here
    obtain ⟨ends⟩ := joined listed
    obtain ⟨q, next, device, -⟩ := ends.senderOf (sole.states_devices run le_rfl)
    have sends : q.place = s.sender.place := ends.place_of_sender device
    have least : ∀ l', SessionPath n.fabric o.place l' s.sender.place → l.length ≤ l'.length :=
      fun l' other => Nat.le_of_succ_le_succ (shortest (s :: l') (.cons listed other))
    obtain ⟨y, held, l', came, le⟩ := ih least q next sends.symm
    have shorter : ∀ l'', SessionPath n.fabric o.place l'' s.receiver.place →
        l'.length < l''.length :=
      fun l'' other => Nat.lt_of_le_of_lt le (shortest l'' other)
    have away : r.place ≠ o.place := fun same =>
      absurd (shorter [] (by rw [here, same]; exact .nil)) (Nat.not_lt_zero _)
    obtain ⟨x, came', sent⟩ :=
      sole.exists_sent plain run clear member next listed sends here away held came shorter
    obtain ⟨z, holds, l'', came'', le'⟩ := sole.held_of_sent plain run member away came' sent
    exact ⟨z, holds, l'', came'', le'.trans (Nat.succ_le_succ le)⟩

end IsSoleSource

end Network

end RoutePlane
