import RoutePlane.Proofs.Network.CarriedRoutes

/-! Shortest AS paths. In a network of systems without policies on its sessions, the routes for a
network that one router brings into BGP reach exactly those routers to which sessions lead, and over as
few sessions as possible. The policy of that router can still put other systems on the path from the
start; these do not accept the route then. -/
namespace RoutePlane

open Fallible

def Router.ownRoutes (r : Router) : List Route :=
  (r.bgpProcess?.bind fun process => (r.originated process).toOption).getD []

theorem Router.mem_ownRoutes_iff {r : Router} {x : Route} : x ∈ r.ownRoutes ↔ r.Originates x := by
  cases own : r.bgpProcess? with
  | none => simp [ownRoutes, Originates, own]
  | some process =>
    cases brought : r.originated process <;>
      simp [ownRoutes, Originates, own, brought, Except.toOption]

namespace Network

open Schedule

variable {n : Network} {entry final : List Router} {o : Router} {p : Prefix}

/-- A BGP phase of a network of systems without policies on their sessions, in some round, from its
entry to its end. Of the routers, one alone brings the network into BGP, and nobody outside announces
it. -/
structure IsSolePhase (n : Network) (entry final : List Router) (o : Router) (p : Prefix) : Prop where
  plain : n.IsPlainEbgp
  entered : ∃ limit before, n.RoundStart before ∧ beforeBgp n.fabric limit before = .ok entry
  ended : ∃ limit steps, bgpPhase n.fabric limit entry = .ok (final, steps)
  member : o ∈ entry
  origin : ∃ x, o.Originates x ∧ x.network = p
  alone : ∀ e ∈ entry, ∀ x, e.Originates x → x.network = p → e = o
  unannounced : ∀ a ∈ n.announcements, a.network ≠ p

/-- When the phase ends, every other router holds a route for the network exactly if sessions lead to it
from the one that brings it into BGP. Each route it holds has come over the least number of sessions:
its path lists their senders, the latest first, and then what the path was at the origin. -/
theorem held_paths_shortest (phase : n.IsSolePhase entry final o p) (clear : n.NamesNoOther o p) :
    ∀ r ∈ final, r.place ≠ o.place →
      ((∃ x, x ∈ r.bgp.combined.held p) ↔ ∃ l, SessionPath n.fabric o.place l r.place) ∧
      ∀ x ∈ r.bgp.combined.held p, ∃ l, SessionPath n.fabric o.place l r.place ∧
        (∀ l', SessionPath n.fabric o.place l' r.place → l.length ≤ l'.length) ∧
        ∃ source ∈ o.origins p, ∃ a b, source.attributes? = some a ∧ x.attributes? = some b ∧
          b.asPath = a.asPath.prependAll (l.map (·.senderAs)) := by
  obtain ⟨plain, ⟨_, before, start, entered⟩, ⟨_, steps, ended⟩, member, origin, alone, unannounced⟩ :=
    phase
  obtain ⟨run, rfl, -⟩ := BgpRun.of_phase ended
  have sole : n.IsSoleSource entry o p := {
    devices := (beforeBgp_device entered).trans start.map_device
    sound := beforeBgp_entry start.bases entered
    fresh := beforeBgp_fresh entered
    member := member
    alone := alone
    unannounced := unannounced }
  intro r arrived away
  refine ⟨⟨fun held => ?_, fun path => ?_⟩, fun x held => ?_⟩
  · obtain ⟨x, held⟩ := held
    obtain ⟨l, path, -⟩ := sole.held_came plain run le_rfl arrived held
    exact ⟨l, path⟩
  · obtain ⟨l, path⟩ := path
    obtain ⟨least, path, shortest⟩ := path.exists_shortest
    obtain ⟨x, held, -⟩ := sole.exists_held plain run clear origin path shortest r arrived rfl
    exact ⟨x, held⟩
  · obtain ⟨l, path, source, origins, came⟩ := sole.held_came plain run le_rfl arrived held
    obtain ⟨a, found⟩ : ∃ a, source.attributes? = some a :=
      ⟨_, RibKind.attributes?_of_suits (Router.suits_of_originates _ (RibKind.best_subset origins))⟩
    obtain ⟨b, known, systems⟩ := came.path_eq found
    refine ⟨l, path, fun l' other => ?_, source, origins, a, b, found, known, systems⟩
    obtain ⟨least, path', shortest⟩ := other.exists_shortest
    obtain ⟨y, held', l'', came', le⟩ :=
      sole.exists_held plain run clear origin path' shortest r arrived rfl
    obtain ⟨e, -, -, weighs⟩ := sole.exists_entry run le_rfl arrived
    have tied := weighs.combined.rank_eq held held'
    calc l.length ≤ l''.length :=
          CameTo.length_le plain away ⟨path, source, origins, came⟩ came' tied.le
      _ ≤ least.length := le
      _ ≤ l'.length := shortest l' other

def remoteBlock : Prefix := (InterfaceAddress.ofOctets 20 0 0 0 8).network

/-- Three systems that all speak to each other. The first one redistributes its static route, with some
systems on the path. -/
def triangle (path : List AsNumber) : Network :=
  let first := ({
      hostname := "first"
      vrfs := .ofList [(defaultVrf, {
        staticRoutes := [{ network := remoteBlock, nextHop := .discard }]
        bgp := some {
          routerId := .ofOctets 1 1 1 1
          localAs := 65001
          neighbors := [
            { peer := .ofOctets 10 0 1 2, remoteAs := 65002 },
            { peer := .ofOctets 10 0 2 2, remoteAs := 65003 }]
          redistributionPolicy := some "static" } })]
      routeMaps := .ofList [("static", .ofEntries "static" [{
        sequence := 10
        action := .accept
        conditions := [.protocol .static]
        actions := [.prependAsPath path]
        next := .exit }])] } : Configuration)
    |>.withInterface "eth0" (.ofAddress (.ofOctets 10 0 1 1 30))
    |>.withInterface "eth1" (.ofAddress (.ofOctets 10 0 2 1 30))
  let second := (speaker "second" (.ofOctets 2 2 2 2) 65002 .empty [
      { peer := .ofOctets 10 0 1 1, remoteAs := 65001 },
      { peer := .ofOctets 10 0 3 2, remoteAs := 65003 }])
    |>.withInterface "eth0" (.ofAddress (.ofOctets 10 0 1 2 30))
    |>.withInterface "eth1" (.ofAddress (.ofOctets 10 0 3 1 30))
  let third := (speaker "third" (.ofOctets 3 3 3 3) 65003 .empty [
      { peer := .ofOctets 10 0 2 1, remoteAs := 65001 },
      { peer := .ofOctets 10 0 3 1, remoteAs := 65002 }])
    |>.withInterface "eth0" (.ofAddress (.ofOctets 10 0 2 2 30))
    |>.withInterface "eth1" (.ofAddress (.ofOctets 10 0 3 2 30))
  ofConfigurations [first, second, third]

theorem triangle_plain (path : List AsNumber)
    (systems : ((triangle path).processes.map (·.2.localAs)).Nodup)
    (neighbors : ∀ a ∈ (triangle path).processes, (a.2.neighbors.map (·.peer)).Nodup ∧
      ∀ neighbor ∈ a.2.neighbors,
        neighbor.localAs = none ∧ neighbor.importPolicy = none ∧ neighbor.exportPolicy = none)
    (addressed : ∀ s ∈ (triangle path).fabric.sessions.toList,
      s.senderAddress ≠ .unspecified ∧ s.receiverAddress ≠ .unspecified) :
    (triangle path).IsPlainEbgp where
  apart := fun _ runs _ runs' same => congrArg _ (List.inj_on_of_nodup_map systems runs runs' same)
  peers := fun a runs => (neighbors a runs).1
  unfiltered := fun a runs => (neighbors a runs).2
  addressed := addressed

def firstPhase (n : Network) (limit : ℕ) : Except NetworkError (List Router × List Router) := do
  let (before, _) ← independent n.fabric limit n.announcements
  let entry ← beforeBgp n.fabric limit before
  let (final, _) ← bgpPhase n.fabric limit entry
  pure (entry, final)

def headAlone (p : Prefix) : List Router → Bool
  | [] => false
  | o :: rest => o.ownRoutes.any (·.network == p) && rest.all fun e => e.ownRoutes.all (·.network != p)

def linked (n : Network) (o r : Router) : Bool :=
  n.fabric.sessions.toList.any fun s => s.sender.place == o.place && s.receiver.place == r.place

theorem path_of_linked {r : Router} (linked : n.linked o r = true) :
    ∃ s, SessionPath n.fabric o.place [s] r.place := by
  obtain ⟨s, listed, ends⟩ := List.any_eq_true.1 linked
  obtain ⟨sends, receives⟩ := Bool.and_eq_true_iff.1 ends
  rw [beq_iff_eq] at sends receives
  exact ⟨s, receives ▸ .cons listed (sends ▸ .nil)⟩

theorem exists_solePhase (limit : ℕ) (test : Router → List Router → Bool) (plain : n.IsPlainEbgp)
    (unannounced : ∀ a ∈ n.announcements, a.network ≠ p)
    (passed : (n.firstPhase limit).toOption.any (fun done =>
      headAlone p done.1 && done.1.head?.any (test · done.2)) = true) :
    ∃ entry final o, n.IsSolePhase entry final o p ∧ test o final = true := by
  obtain ⟨⟨entry, final⟩, phase, passed⟩ := of_any passed
  obtain ⟨⟨before, _⟩, first, phase⟩ := bind_eq_ok.1 phase
  obtain ⟨_, entered, phase⟩ := bind_eq_ok.1 phase
  obtain ⟨⟨_, steps⟩, ended, same⟩ := bind_eq_ok.1 phase
  cases same
  obtain ⟨alone, passed⟩ := Bool.and_eq_true_iff.1 passed
  cases entry with
  | nil => cases alone
  | cons o rest =>
    obtain ⟨own, others⟩ := Bool.and_eq_true_iff.1 alone
    obtain ⟨x, member, network⟩ := List.any_eq_true.1 own
    refine ⟨o :: rest, final, o, ⟨plain, ⟨limit, before, .first first, entered⟩,
      ⟨limit, steps, ended⟩, List.mem_cons_self,
      ⟨x, Router.mem_ownRoutes_iff.1 member, beq_iff_eq.1 network⟩, ?_, unannounced⟩, passed⟩
    intro e listed x originates network
    rcases List.mem_cons.1 listed with rfl | other
    · rfl
    · have elsewhere := List.all_eq_true.1 (List.all_eq_true.1 others e other) x
        (Router.mem_ownRoutes_iff.2 originates)
      simp [network] at elsewhere

/-- The routes of the third router in the triangle have come over the one session from the first, which
puts its system in front of that of its policy. -/
theorem triangle_direct : ∃ entry final o, (triangle [65100]).IsSolePhase entry final o remoteBlock ∧
    (triangle [65100]).NamesNoOther o remoteBlock ∧ ∃ r ∈ final, r.place ≠ o.place ∧
      ∃ x ∈ r.bgp.combined.held remoteBlock, ∃ l,
        SessionPath (triangle [65100]).fabric o.place l r.place ∧ l.length ≤ 1 ∧
        ∃ source ∈ o.origins remoteBlock, ∃ a b, source.attributes? = some a ∧
          x.attributes? = some b ∧ b.asPath = a.asPath.prependAll (l.map (·.senderAs)) := by
  have plain : (triangle [65100]).IsPlainEbgp :=
    triangle_plain _ (by decide +kernel) (by decide +kernel) (by decide +kernel)
  let test (o : Router) (final : List Router) : Bool :=
    (o.ownRoutes.all fun x => x.attributes?.all fun a =>
      (triangle [65100]).processes.all fun b => !a.asPath.contains b.2.localAs) &&
    final.any fun r => decide (r.place ≠ o.place) && (triangle [65100]).linked o r &&
      (r.bgp.combined.held remoteBlock).toList.any fun _ => true
  obtain ⟨entry, final, o, phase, passed⟩ :=
    exists_solePhase (p := remoteBlock) 10 test plain (by decide) (by decide +kernel)
  obtain ⟨names, passed⟩ := Bool.and_eq_true_iff.1 passed
  obtain ⟨r, arrived, passed⟩ := List.any_eq_true.1 passed
  obtain ⟨passed, some⟩ := Bool.and_eq_true_iff.1 passed
  obtain ⟨away, linked⟩ := Bool.and_eq_true_iff.1 passed
  obtain ⟨x, held, -⟩ := List.any_eq_true.1 some
  have clear : (triangle [65100]).NamesNoOther o remoteBlock := by
    intro origin origins a found b runs _
    have own := Router.mem_ownRoutes_iff.2 (RibKind.best_subset origins)
    have none := List.all_eq_true.1 names origin own
    rw [found] at none
    simpa using List.all_eq_true.1 none b runs
  have paths := held_paths_shortest phase clear r arrived (of_decide_eq_true away)
  obtain ⟨l, path, shortest, source⟩ := paths.2 x held
  obtain ⟨s, direct⟩ := path_of_linked linked
  exact ⟨entry, final, o, phase, clear, r, arrived, of_decide_eq_true away, x, held, l, path,
    shortest [s] direct, source⟩

/-- Where the policy puts the second system on the path, the second router holds nothing although a
session leads to it, and the path at the third is longer than the way. -/
theorem prepended_system_refuses :
    (¬∀ (n : Network) (entry final : List Router) (o : Router) (p : Prefix),
      n.IsSolePhase entry final o p → ∀ r ∈ final, r.place ≠ o.place →
        ((∃ x, x ∈ r.bgp.combined.held p) ↔ ∃ l, SessionPath n.fabric o.place l r.place)) ∧
    ¬∀ (n : Network) (entry final : List Router) (o : Router) (p : Prefix),
      n.IsSolePhase entry final o p → ∀ r ∈ final, r.place ≠ o.place →
        ∀ x ∈ r.bgp.combined.held p, ∃ l, SessionPath n.fabric o.place l r.place ∧
          (∀ l', SessionPath n.fabric o.place l' r.place → l.length ≤ l'.length) ∧
          ∃ b, x.attributes? = some b ∧ b.asPath = .ofSequence (l.map (·.senderAs)) := by
  have plain : (triangle [65002]).IsPlainEbgp :=
    triangle_plain _ (by decide +kernel) (by decide +kernel) (by decide +kernel)
  let test (o : Router) (final : List Router) : Bool :=
    (final.any fun r => decide (r.place ≠ o.place) && (triangle [65002]).linked o r &&
      (r.bgp.combined.held remoteBlock).isEmpty) &&
    final.any fun r => decide (r.place ≠ o.place) && (triangle [65002]).linked o r &&
      (r.bgp.combined.held remoteBlock).toList.any fun x =>
        x.attributes?.all fun a => a.asPath.length == 2
  obtain ⟨entry, final, o, phase, passed⟩ :=
    exists_solePhase (p := remoteBlock) 10 test plain (by decide) (by decide +kernel)
  obtain ⟨second, third⟩ := Bool.and_eq_true_iff.1 passed
  constructor
  · intro claim
    obtain ⟨r, arrived, passed⟩ := List.any_eq_true.1 second
    obtain ⟨passed, none⟩ := Bool.and_eq_true_iff.1 passed
    obtain ⟨away, linked⟩ := Bool.and_eq_true_iff.1 passed
    obtain ⟨s, direct⟩ := path_of_linked linked
    obtain ⟨x, held⟩ := (claim _ _ _ _ _ phase r arrived (of_decide_eq_true away)).2 ⟨[s], direct⟩
    exact SortedSet.not_mem_empty x (SortedSet.isEmpty_iff.1 none ▸ held)
  · intro claim
    obtain ⟨r, arrived, passed⟩ := List.any_eq_true.1 third
    obtain ⟨passed, some⟩ := Bool.and_eq_true_iff.1 passed
    obtain ⟨away, linked⟩ := Bool.and_eq_true_iff.1 passed
    obtain ⟨x, held, longer⟩ := List.any_eq_true.1 some
    obtain ⟨s, direct⟩ := path_of_linked linked
    obtain ⟨l, -, shortest, b, known, systems⟩ :=
      claim _ _ _ _ _ phase r arrived (of_decide_eq_true away) x held
    rw [known] at longer
    have two : b.asPath.length = 2 := beq_iff_eq.1 longer
    have length : b.asPath.length = l.length := by simp [systems, AsPath.ofSequence, AsPath.length]
    have le : l.length ≤ 1 := shortest [s] direct
    omega

end Network

end RoutePlane
