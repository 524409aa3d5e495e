import Mathlib.Data.List.Perm.Subperm
import RoutePlane.Network.Schedule
import RoutePlane.Proofs.DataPlane.Search

/-! A trace explores all ways of a flow. It succeeds exactly if no way comes back to a node and none
fails, and then it is the traces of these ways; otherwise it reports one of them. The search is
bounded by the number of nodes, because the nodes behind a flow are distinct. -/
namespace RoutePlane.DataPlane

open Fallible Relation

variable {d : DataPlane} {f : Flow} {j j' : Journey} {r : Router} {e : ForwardingEntry} {l : Link}
  {error : NetworkError} {further : Journey → Except NetworkError (List Trace)}

/-- The nodes behind a flow are distinct nodes of the network. -/
structure Fresh (d : DataPlane) (j : Journey) : Prop where
  nodup : j.behind.Nodup
  known : ∀ node ∈ j.behind, ∃ c, d.fabric.configurations.get? node = some c

/-- Some way on from here comes back to a node for the first time or fails, and this is the error. -/
def Spoiled (d : DataPlane) (f : Flow) (j : Journey) (error : NetworkError) : Prop :=
  ∃ last, ReflTransGen (d.Advances f) j last ∧ d.Fresh last ∧
    (last.node ∈ last.behind ∧ error = .forwardingLoop last.visited ∨ d.Fails f last error)

theorem Fresh.length_le (fresh : d.Fresh j) :
    j.behind.length ≤ d.fabric.configurations.size := by
  have listed : j.behind ⊆ d.fabric.configurations.toList.map Prod.fst := by
    intro node member
    obtain ⟨c, found⟩ := fresh.known node member
    exact List.mem_map_of_mem (SortedMap.mem_toList_iff.2 found)
  have bound := (fresh.nodup.subperm listed).length_le
  rwa [List.length_map] at bound

theorem Fresh.across (fresh : d.Fresh j) (new : j.node ∉ j.behind)
    (here : d.router? j.node j.vrf = .ok r) (e : ForwardingEntry) (l : Link) (vrf : String) :
    d.Fresh (j.across e l vrf) := by
  refine ⟨List.nodup_append.2 ⟨fresh.nodup, by simp, ?_⟩, ?_⟩
  · rintro a behind b there rfl
    exact new (List.mem_singleton.1 there ▸ behind)
  · intro node member
    rcases List.mem_append.1 member with behind | there
    · exact fresh.known node behind
    · obtain ⟨c, found, -⟩ := bind_eq_ok.1 here
      unfold configuration? at found
      split at found
      next c' known => exact ⟨c', List.mem_singleton.1 there ▸ known⟩
      next => cases found

theorem Spoiled.back (step : d.Advances f j j') (later : d.Spoiled f j' error) :
    d.Spoiled f j error := by
  obtain ⟨last, ways, fresh, spoils⟩ := later
  exact ⟨last, .head step ways, fresh, spoils⟩

section Onward

variable (fresh : d.Fresh j) (chosen : d.Chooses f j r e)
  (spoiled : ∀ l vrf error, further (j.across e l vrf) = .error error →
    d.Spoiled f (j.across e l vrf) error)
include fresh chosen spoiled

theorem spoiled_of_tracesOver (crosses : d.Crosses f r e l)
    (failed : d.tracesOver f further j e l = .error error) : d.Spoiled f j error := by
  rcases tracesOver_eq_error.1 failed with lacks | ⟨vrf, entered, onward⟩
  · exact ⟨j, .refl, fresh, .inr (.link chosen crosses lacks)⟩
  · exact (spoiled l vrf error onward).back (.across chosen crosses entered)

theorem spoiled_of_tracesThrough (failed : d.tracesThrough f further j r e = .error error) :
    d.Spoiled f j error := by
  rcases bind_eq_error.1 failed with fails | ⟨outcome, departure, rest⟩
  · exact ⟨j, .refl, fresh, .inr (.entry chosen (failsAt_iff.2 fails))⟩
  · cases outcome with
    | ends disposition note => exact absurd rest pure_ne_error
    | across links =>
      rcases bind_eq_error.1 rest with stuck | ⟨_, -, never⟩
      · obtain ⟨l, listed, stuck⟩ := error_of_mapM stuck
        exact spoiled_of_tracesOver fresh chosen spoiled (((crosses_iff departure).2 l).1 listed) stuck
      · exact absurd never pure_ne_error

end Onward

theorem spoiled_of_tracesAt (fresh : d.Fresh j) (here : d.router? j.node j.vrf = .ok r)
    (spoiled : ∀ e l vrf error, further (j.across e l vrf) = .error error →
      d.Spoiled f (j.across e l vrf) error)
    (failed : d.tracesAt f further j r = .error error) : d.Spoiled f j error := by
  cases owned : d.fabric.owners.ownsIn f.destination j.node j.vrf with
  | true =>
    rw [tracesAt_owned owned] at failed
    exact absurd failed pure_ne_error
  | false =>
    cases found : r.forwarding.lookup? f.destination with
    | none =>
      rw [tracesAt_unrouted owned found] at failed
      exact absurd failed pure_ne_error
    | some match' =>
      rw [tracesAt_routed owned found] at failed
      rcases bind_eq_error.1 failed with stuck | ⟨_, -, never⟩
      · obtain ⟨e, member, stuck⟩ := error_of_mapM stuck
        have transit : d.InTransit f j r := ⟨here, owned⟩
        exact spoiled_of_tracesThrough fresh ((transit.chooses_iff found).2 ⟨rfl, member⟩)
          (spoiled e) stuck
      · exact absurd never pure_ne_error

/-- A search that fails reports a way that it came upon. Before its steps are used up, some node has
come twice. -/
theorem spoiled_of_tracesFrom {steps : Nat} (fresh : d.Fresh j)
    (enough : d.fabric.configurations.size < steps + j.behind.length)
    (failed : d.tracesFrom f steps j = .error error) : d.Spoiled f j error := by
  induction steps generalizing j error with
  | zero =>
    have bound := fresh.length_le
    omega
  | succ steps ih =>
    rw [tracesFrom_succ] at failed
    by_cases again : j.node ∈ j.behind
    · rw [if_pos again] at failed
      cases failed
      exact ⟨j, .refl, fresh, .inl ⟨again, rfl⟩⟩
    · rw [if_neg again] at failed
      rcases bind_eq_error.1 failed with missing | ⟨r, here, rest⟩
      · exact ⟨j, .refl, fresh, .inr (.router missing)⟩
      · refine spoiled_of_tracesAt fresh here ?_ rest
        intro e l vrf error further
        have longer : (j.across e l vrf).behind.length = j.behind.length + 1 := by
          simp [Journey.across]
        exact ih (fresh.across again here e l vrf) (by omega) further

theorem Fails.ne_forwardingLoop {path : List String} : ¬d.Fails f j (.forwardingLoop path) := by
  rintro (missing | ⟨-, fails⟩ | ⟨-, -, lacks⟩)
  · unfold router? configuration? at missing
    split at missing
    · simp only [bind, Except.bind] at missing
      split at missing
      · cases missing
      · cases missing
    · cases missing
  · cases fails
  · cases lacks

/-- The hops lead from the ingress through the nodes behind the flow to the node that it is in. -/
theorem hops_of_comes (comes : d.Comes f j) :
    j.hops.map (·.link.source.node) = j.behind ∧
      f.ingressNode :: j.hops.map (·.link.target.node) = j.visited := by
  induction comes with
  | refl => exact ⟨rfl, rfl⟩
  | tail _ step ih =>
    obtain ⟨chosen, crosses, entered⟩ := step
    have source := congrArg InterfaceId.node crosses.source_eq
    rw [chosen.1.hostname_eq] at source
    obtain ⟨sources, targets⟩ := ih
    constructor
    · simp [Journey.across, hop, sources, source]
    · rw [Journey.across, List.map_append, ← List.cons_append, targets]
      rfl

/-- A trace adds at most one hop, out of the node that the flow is in. -/
theorem Ends.hops_eq {t : Trace} (ends : d.Ends f j t) :
    t.hops = j.hops ∨ ∃ last, last.link.source.node = j.node ∧ t.hops = j.hops ++ [last] := by
  cases ends with
  | delivered here owned => exact .inl rfl
  | unrouted transit none => exact .inl rfl
  | stopped chosen stops => exact .inr ⟨_, rfl, rfl⟩
  | refused chosen crosses denied =>
    have source := congrArg InterfaceId.node crosses.source_eq
    rw [chosen.1.hostname_eq] at source
    exact .inr ⟨_, source, rfl⟩

/-- The hops of a trace form a chain: each leaves a visited node in turn, and each visited node but the
ingress is where the hop before it leads. -/
structure IsChain (f : Flow) (visited : List String) (t : Trace) : Prop where
  starts : visited.head? = some f.ingressNode
  leaves : t.hops.map (·.link.source.node) <+: visited
  enters : visited.tail <+: t.hops.map (·.link.target.node)

theorem isChain_of_ends {t : Trace} (comes : d.Comes f j) (ends : d.Ends f j t) :
    IsChain f j.visited t := by
  obtain ⟨sources, targets⟩ := hops_of_comes comes
  have starts : j.visited.head? = some f.ingressNode := by rw [← targets, List.head?_cons]
  have entered : j.visited.tail = j.hops.map (·.link.target.node) := by
    rw [← targets, List.tail_cons]
  rcases ends.hops_eq with same | ⟨last, source, more⟩
  · refine ⟨starts, ?_, ?_⟩
    · rw [same, sources]
      exact List.prefix_append _ _
    · simp only [same, entered, List.prefix_rfl]
  · refine ⟨starts, ?_, ?_⟩
    · rw [more, List.map_append, sources]
      simp [Journey.visited, source]
    · rw [more, List.map_append, entered]
      exact List.prefix_append _ _

theorem Clear.visited_nodup (clear : d.Clear f (.start f)) (comes : d.Comes f j) :
    j.visited.Nodup := by
  induction comes with
  | refl => simp [Journey.visited, Journey.start]
  | tail before step ih =>
    have new := (clear _ (before.tail step)).1
    obtain ⟨chosen, crosses, entered⟩ := step
    exact List.nodup_append.2 ⟨ih, by simp, fun a behind b there same =>
      new (List.mem_singleton.1 there ▸ same ▸ behind)⟩

def startSteps (d : DataPlane) : Nat := d.fabric.configurations.size + 1

theorem trace_eq_ok {found : SortedSet Trace} : d.trace f = .ok found ↔
    ∃ traces, d.tracesFrom f d.startSteps (.start f) = .ok traces ∧ found = .ofList traces := by
  refine bind_eq_ok.trans ?_
  simp only [pure_eq_ok, eq_comm (a := found)]
  rfl

theorem trace_eq_error : d.trace f = .error error ↔
    d.tracesFrom f d.startSteps (.start f) = .error error := by
  refine bind_eq_error.trans ?_
  simp only [pure_ne_error, and_false, exists_false, or_false]
  rfl

theorem explores_of_trace {found : SortedSet Trace} (done : d.trace f = .ok found) :
    d.Clear f (.start f) ∧ (∃ t, t ∈ found) ∧ ∀ t, t ∈ found ↔ d.Yields f (.start f) t := by
  obtain ⟨traces, all, rfl⟩ := trace_eq_ok.1 done
  have explores := explores_of_tracesFrom all
  obtain ⟨t, listed⟩ := List.exists_mem_of_ne_nil traces explores.nonempty
  simp only [SortedSet.mem_ofList]
  exact ⟨explores.clear, ⟨t, listed⟩, explores.mem_iff⟩

theorem spoiled_of_trace (failed : d.trace f = .error error) : d.Spoiled f (.start f) error := by
  have fresh : d.Fresh (.start f) := ⟨List.nodup_nil, by simp [Journey.start]⟩
  exact spoiled_of_tracesFrom fresh (Nat.lt_succ_self _) (trace_eq_error.1 failed)

/-- A flow is traced over all its ways. The trace succeeds exactly if no way comes back to a node and
none fails. Then it is the traces of all ways, at least one, and their hops form chains through
nodes that are visited once; a node whose filter refuses the flow is not visited. Otherwise its error
is that of a way which has visited no node twice before; a loop ends with the node that it repeats. -/
theorem trace_explores_ways (d : DataPlane) (f : Flow) :
    ((∃ found, d.trace f = .ok found) ↔
      ∀ j, d.Comes f j → j.node ∉ j.behind ∧ ∀ error, ¬d.Fails f j error) ∧
    (∀ found, d.trace f = .ok found →
      (∃ t, t ∈ found) ∧ (∀ t, t ∈ found ↔ ∃ j, d.Comes f j ∧ d.Ends f j t) ∧
      ∀ j t, d.Comes f j → d.Ends f j t → j.visited.Nodup ∧ IsChain f j.visited t) ∧
    (∀ error, d.trace f = .error error → ∃ j, d.Comes f j ∧ j.behind.Nodup ∧
      (j.node ∈ j.behind ∧ error = .forwardingLoop j.visited ∨ d.Fails f j error)) ∧
    ∀ path, d.trace f = .error (.forwardingLoop path) →
      ∃ j, d.Comes f j ∧ path = j.visited ∧ j.behind.Nodup ∧ j.node ∈ j.behind := by
  refine ⟨⟨?_, ?_⟩, ?_, ?_, ?_⟩
  · rintro ⟨found, done⟩
    exact (explores_of_trace done).1
  · intro clear
    cases outcome : d.trace f with
    | ok found => exact ⟨found, rfl⟩
    | error error =>
      obtain ⟨j, comes, -, again | fails⟩ := spoiled_of_trace outcome
      · exact absurd again.1 (clear j comes).1
      · exact absurd fails ((clear j comes).2 error)
  · intro found done
    obtain ⟨clear, some, all⟩ := explores_of_trace done
    refine ⟨some, all, ?_⟩
    intro j t comes ends
    exact ⟨clear.visited_nodup comes, isChain_of_ends comes ends⟩
  · intro error failed
    obtain ⟨j, comes, fresh, spoils⟩ := spoiled_of_trace failed
    exact ⟨j, comes, fresh.nodup, spoils⟩
  · intro path failed
    obtain ⟨j, comes, fresh, ⟨again, same⟩ | fails⟩ := spoiled_of_trace failed
    · cases same
      exact ⟨j, comes, rfl, fresh.nodup, again⟩
    · exact absurd fails Fails.ne_forwardingLoop

/-- Two routers that send a flow to each other; the first lets none of it in. -/
def refusing : Network :=
  let via (hop : Address) : SortedMap String Vrf := .ofList [(defaultVrf, { staticRoutes := [{
    network := (InterfaceAddress.ofOctets 20 0 0 0 8).network, nextHop := .address hop }] })]
  let first := ({
      hostname := "first"
      accessLists := .ofList [("shut", ⟨"shut", []⟩)]
      vrfs := via (.ofOctets 10 0 0 2) } : Configuration)
    |>.withInterface "eth0" { Interface.ofAddress (.ofOctets 10 0 0 1 30) with
      incomingFilter := some "shut" }
  let second := ({ hostname := "second", vrfs := via (.ofOctets 10 0 0 1) } : Configuration)
    |>.withInterface "eth0" (.ofAddress (.ofOctets 10 0 0 2 30))
  .ofConfigurations [first, second]

def throughFirst : Flow where
  ingressNode := "first"
  source := .ofOctets 10 0 0 1
  destination := .ofOctets 20 0 0 1

/-- A trace that ends at a filter comes back to a node, though only up to its interface. -/
theorem refused_flow_comes_back : ¬∀ (n : Network) (d : DataPlane) (f : Flow)
    (found : SortedSet Trace), n.compute = .ok d → d.trace f = .ok found →
    ∀ t ∈ found, (f.ingressNode :: t.hops.map (·.link.target.node)).Nodup := by
  intro distinct
  have back : refusing.compute.toOption.any (fun d => (d.trace throughFirst).toOption.any
      fun found => found.toList.any fun t =>
        !decide (throughFirst.ingressNode :: t.hops.map (·.link.target.node)).Nodup) = true := by
    decide +kernel
  cases computed : refusing.compute with
  | error e =>
    rw [computed] at back
    cases back
  | ok d =>
    rw [computed] at back
    cases traced : d.trace throughFirst with
    | error e => simp [traced, Except.toOption] at back
    | ok found =>
      simp only [Except.toOption, Option.any_some, traced, List.any_eq_true] at back
      obtain ⟨t, member, repeated⟩ := back
      simp [distinct refusing d throughFirst found computed traced t member] at repeated

end RoutePlane.DataPlane
