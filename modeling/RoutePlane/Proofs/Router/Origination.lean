import RoutePlane.Proofs.Router.Arrivals
import RoutePlane.Proofs.Rib.Merging

/-! The ways of routes into BGP. A router makes its BGP routes from drafts of its own: for network
statements and redistributed routes it takes the next hop over from its main table, and aggregates drop
packets. Only redistributed routes pass a policy. -/
namespace RoutePlane.Router

open Fallible

variable {r : Router} {process : BgpProcess} {routes : List Route} {x : Route}

def redistributedDraft (process : BgpProcess) (source : Route) : RouteDraft :=
  { originatedDraft process source.network .redistribute .incomplete source.metric source.nextHop with
    tag := source.tag }.setSourceProtocol (some source.protocol)

inductive Brings (r : Router) (process : BgpProcess) (x : Route) : Prop where
  | network (p : Prefix) (source : Route) (listed : source ∈ r.main.routes)
      (foreign : source.protocol.isBgp = false)
      (built : (originatedDraft process p .network .igp source.metric source.nextHop).build = .ok x)
  | redistribution (policy : String) (source : Route)
      (named : process.redistributionPolicy = some policy) (listed : source ∈ r.main.routes)
      (foreign : source.protocol.isBgp = false)
      (accepted : accepted? r.policyContext (some policy) source
        (redistributedDraft process source) = .ok (some x))
  | aggregate (p : Prefix)
      (built : ((originatedDraft process p .generated .igp 0 .discard).setProtocol .aggregate).build =
        .ok x)

theorem brings_of_originated (originated : r.originated process = .ok routes) (member : x ∈ routes) :
    r.Brings process x := by
  obtain ⟨networks, first, rest⟩ := bind_eq_ok.1 originated
  obtain ⟨others, second, rest⟩ := bind_eq_ok.1 rest
  obtain ⟨aggregates, third, same⟩ := bind_eq_ok.1 rest
  cases same
  rcases List.mem_append.1 member with member | member
  · rcases List.mem_append.1 member with member | member
    · obtain ⟨d, drafted, outcome⟩ := source_of_mem (mapM_eq_ok.1 first) member
      obtain ⟨p, -, found⟩ := List.mem_filterMap.1 drafted
      obtain ⟨held, entry, found⟩ := Option.bind_eq_some_iff.1 found
      obtain ⟨source, search, same⟩ := Option.bind_eq_some_iff.1 found
      cases same
      have stored : r.main.entries.get? p = some held := (Option.filter_eq_some_iff.1 entry).1
      have listed : source ∈ r.main.held p := by
        rw [Rib.held, stored]
        exact List.mem_of_find?_eq_some search
      have foreign : source.protocol.isBgp = false := by simpa using List.find?_some search
      exact .network p source (Rib.mem_routes_iff.2 ⟨p, listed⟩) foreign (liftRoute_eq_ok.1 outcome)
    · rw [redistributed] at second
      split at second
      next =>
        cases second
        exact absurd member List.not_mem_nil
      next policy named =>
        obtain ⟨source, listed, accepted⟩ := (mem_filterMapM second).1 member
        obtain ⟨listed, foreign⟩ := List.mem_filter.1 listed
        rw [Bool.and_eq_true, Bool.not_eq_true'] at foreign
        exact .redistribution policy source named listed foreign.1 accepted
  · obtain ⟨d, drafted, outcome⟩ := source_of_mem (mapM_eq_ok.1 third) member
    obtain ⟨p, -, found⟩ := List.mem_filterMap.1 drafted
    dsimp only at found
    split at found <;> cases found
    exact .aggregate p (liftRoute_eq_ok.1 outcome)

end RoutePlane.Router
