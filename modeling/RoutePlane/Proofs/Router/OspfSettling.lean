import RoutePlane.Proofs.Network.Exchange
import RoutePlane.Proofs.Rib.Settling
import RoutePlane.Proofs.Router.Adjacencies

/-! The OSPF loops of a network settle. Every route that arrives over an adjacency names an interface
of its receiver and an advertiser that was known before, and it has no AS path; of such routes there
are finitely many. -/
namespace RoutePlane

open Filter

namespace Router

variable {f : Fabric} {routers : List Router} {r : Router} {a : Adjacency} {x : Route}
  {known : Set String}

-- Tables are compared by what is merged into them, never by their entries.
attribute [local irreducible] Rib.mergeAll

def ownNames (r : Router) : List String := r.hostname :: r.interfaces.map (·.1)

theorem mem_adjacencies (member : a ∈ r.adjacencies f routers) :
    a.interface ∈ r.ownNames ∧ a.neighbor ∈ routers := by
  obtain ⟨-, i, o, l, own, -, -, -, -, -, remote⟩ := mem_adjacencies_iff.1 member
  obtain ⟨_, _, _, _, _, _, _, found, _, _⟩ := ospfNeighbor?_eq_some_iff.1 remote
  obtain ⟨listed, -⟩ := mem_ospfInterfaces_iff.1 own
  exact ⟨List.mem_cons_of_mem _ (List.mem_map.2 ⟨_, listed, rfl⟩),
    List.mem_of_find?_eq_some found⟩

/-- An OSPF route through a known interface, with a known advertiser. -/
theorem pathless_of_names {route : Route} {data : OspfData} {name : String}
    {address : Option Address} (interface : name ∈ known)
    (hop : route.nextHop = .interface name address) (kind : route.kind = .ospf data)
    (advertiser : data.advertiser ∈ known) : route ∈ pathless known := by
  have found : route.ospf? = some data := by rw [Route.ospf?, kind, RouteKind.ospf?]
  have none : route.attributes? = none := by rw [Route.attributes?, Route.bgp?, kind]; rfl
  refine ⟨Route.within_iff.2 ⟨?_, ?_⟩, ?_⟩
  · rw [hop]
    intro s named
    obtain rfl : s = name := by simpa [NextHop.names, NextHop.interface?] using named
    exact interface
  · rintro d other
    cases found.symm.trans other
    exact advertiser
  · rw [Route.pathLength, none]
    exact le_rfl

theorem advertiser_known {t : Rib} {k : RibKind} (draws : t.DrawsFrom k (pathless known))
    {route : Route} {data : OspfData} (offer : (route, data) ∈ r.ospfOffers t) :
    data.advertiser ∈ known := by
  obtain ⟨held, found, -⟩ := mem_ospfOffers_iff.1 offer
  exact (Route.within_iff.1 (draws.mem held).1).2 data found

structure KnowsInternal (known : Set String) (r : Router) : Prop where
  names : ∀ s ∈ r.ownNames, s ∈ known
  intra : r.ospf.intra.DrawsFrom .ospfIntra (pathless known)
  inter : r.ospf.inter.DrawsFrom .ospfInter (pathless known)
  stagedIntra : r.staging.intra.DrawsFrom .ospfIntra (pathless known)
  stagedInter : r.staging.inter.DrawsFrom .ospfInter (pathless known)

theorem intraCandidates_pathless (adjacent : a.interface ∈ known)
    (neighbor : a.neighbor.KnowsInternal known) (member : x ∈ r.intraCandidates a) :
    x ∈ pathless known := by
  obtain ⟨route, data, offer, -, rfl⟩ := mem_intraCandidates_iff.1 member
  have advertiser : data.advertiser ∈ known := advertiser_known neighbor.intra offer
  exact pathless_of_names adjacent rfl rfl advertiser

theorem summaryCandidates_pathless (adjacent : a.interface ∈ known)
    (neighbor : a.neighbor.KnowsInternal known) (member : x ∈ r.summaryCandidates a) :
    x ∈ pathless known := by
  obtain ⟨_, _, -, -, rfl⟩ := mem_summaryCandidates_iff.1 member
  exact pathless_of_names adjacent rfl rfl (neighbor.names _ List.mem_cons_self)

theorem interCandidates_pathless (adjacent : a.interface ∈ known)
    (neighbor : a.neighbor.KnowsInternal known) (member : x ∈ r.interCandidates a) :
    x ∈ pathless known := by
  obtain ⟨route, data, advertiser, offer, choice, rfl⟩ := mem_interCandidates_iff.1 member
  have brought : advertiser ∈ known := by
    rcases choice with ⟨-, rfl⟩ | ⟨-, -, rfl⟩
    · exact advertiser_known neighbor.inter offer
    · exact neighbor.names _ List.mem_cons_self
  exact pathless_of_names adjacent rfl rfl brought

/-- What is gathered inside OSPF has known names, if all routers know them. -/
theorem internalArrivals_pathless (all : ∀ r ∈ routers, r.KnowsInternal known)
    (knows : r.KnowsInternal known) :
    (∀ x ∈ r.intraArrivals f routers, x ∈ pathless known) ∧
      ∀ x ∈ r.interArrivals f routers, x ∈ pathless known := by
  constructor
  · intro x member
    obtain ⟨a, adjacent, candidate⟩ := mem_intraArrivals_iff.1 member
    obtain ⟨interface, neighbor⟩ := mem_adjacencies adjacent
    exact intraCandidates_pathless (knows.names _ interface) (all _ neighbor) candidate
  · intro x member
    obtain ⟨a, adjacent, candidate | candidate⟩ := mem_interArrivals_iff.1 member
    all_goals obtain ⟨interface, neighbor⟩ := mem_adjacencies adjacent
    · exact summaryCandidates_pathless (knows.names _ interface) (all _ neighbor) candidate
    · exact interCandidates_pathless (knows.names _ interface) (all _ neighbor) candidate

theorem KnowsInternal.step (all : ∀ r ∈ routers, r.KnowsInternal known)
    (knows : r.KnowsInternal known) :
    (r.gatherOspfInternal f routers).1.commitOspfInternal.1.KnowsInternal known := by
  obtain ⟨first, second⟩ := internalArrivals_pathless (f := f) all knows
  have intra := knows.stagedIntra.mergeAll first
  have inter := knows.stagedInter.mergeAll second
  exact ⟨knows.names, knows.intra.absorb intra, knows.inter.absorb inter, intra, inter⟩

structure KnowsExternal (known : Set String) (r : Router) : Prop where
  names : ∀ s ∈ r.ownNames, s ∈ known
  exports : ∀ x ∈ r.ospf.exports.routes, ∀ d, x.ospf? = some d → d.advertiser ∈ known
  e1 : r.ospf.e1.DrawsFrom .ospfE1 (pathless known)
  e2 : r.ospf.e2.DrawsFrom .ospfE2 (pathless known)
  stagedE1 : r.staging.e1.DrawsFrom .ospfE1 (pathless known)
  stagedE2 : r.staging.e2.DrawsFrom .ospfE2 (pathless known)

theorem externalArrivals_pathless (all : ∀ r ∈ routers, r.KnowsExternal known)
    (knows : r.KnowsExternal known) (type : Protocol) :
    ∀ x ∈ r.externalArrivals f routers type, x ∈ pathless known := by
  intro x member
  obtain ⟨a, adjacent, candidate⟩ := mem_externalArrivals_iff.1 member
  obtain ⟨interface, neighbor⟩ := mem_adjacencies adjacent
  obtain ⟨route, data, offer, -, rfl⟩ := mem_externalCandidates_iff.1 candidate
  have advertiser : data.advertiser ∈ known := by
    rcases offer with offer | offer | offer
    · obtain ⟨held, found, -⟩ := mem_ospfOffers_iff.1 offer
      exact (all _ neighbor).exports route held data found
    · exact advertiser_known (all _ neighbor).e1 offer
    · exact advertiser_known (all _ neighbor).e2 offer
  exact pathless_of_names (knows.names _ interface) rfl rfl advertiser

theorem KnowsExternal.step (all : ∀ r ∈ routers, r.KnowsExternal known)
    (knows : r.KnowsExternal known) :
    (r.gatherOspfExternal f routers).1.commitOspfExternal.1.KnowsExternal known := by
  have e1 := knows.stagedE1.mergeAll (externalArrivals_pathless (f := f) all knows .ospfE1)
  have e2 := knows.stagedE2.mergeAll (externalArrivals_pathless (f := f) all knows .ospfE2)
  exact ⟨knows.names, knows.exports, knows.e1.absorb e1, knows.e2.absorb e2, e1, e2⟩

end Router

namespace Schedule

variable {f : Fabric} {routers : List Router} {known : Set String}

theorem ospfInternal_stops (finite : known.Finite) (start : ∀ r ∈ routers, r.KnowsInternal known) :
    Stops (ospfInternalStep f) routers := by
  refine total_exchange_stops start (fun routers all r member => (all r member).step all) ?_
  intro R ρ all member step
  have candidates (n : Nat) :=
    Router.internalArrivals_pathless (f := f) (all n) (all n _ (member n))
  have ties := finite_pathless_ties finite
  have own := all 0 _ (member 0)
  have intra := own.stagedIntra.staged_settles (S := fun n => (ρ n).staging.intra)
    (T := fun n => (ρ n).ospf.intra) (l := fun n => (ρ n).intraArrivals f (R n)) own.intra
    (fun n => by rw [step]; rfl) (fun n => by rw [step]; rfl) (fun n => (candidates n).1) (ties _)
  have inter := own.stagedInter.staged_settles (S := fun n => (ρ n).staging.inter)
    (T := fun n => (ρ n).ospf.inter) (l := fun n => (ρ n).interArrivals f (R n)) own.inter
    (fun n => by rw [step]; rfl) (fun n => by rw [step]; rfl) (fun n => (candidates n).2) (ties _)
  filter_upwards [intra, inter] with n quietIntra quietInter
  obtain ⟨gatheredIntra, committedIntra⟩ := quietIntra
  obtain ⟨gatheredInter, committedInter⟩ := quietInter
  rw [step] at committedIntra committedInter
  exact ⟨Bool.or_eq_false_iff.2 ⟨gatheredIntra, gatheredInter⟩,
    Bool.or_eq_false_iff.2 ⟨committedIntra, committedInter⟩⟩

theorem ospfExternal_stops (finite : known.Finite) (start : ∀ r ∈ routers, r.KnowsExternal known) :
    Stops (ospfExternalStep f) routers := by
  refine total_exchange_stops start (fun routers all r member => (all r member).step all) ?_
  intro R ρ all member step
  have candidates (type : Protocol) (n : Nat) :=
    Router.externalArrivals_pathless (f := f) (all n) (all n _ (member n)) type
  have ties := finite_pathless_ties finite
  have own := all 0 _ (member 0)
  have e1 := own.stagedE1.staged_settles (S := fun n => (ρ n).staging.e1)
    (T := fun n => (ρ n).ospf.e1) (l := fun n => (ρ n).externalArrivals f (R n) .ospfE1) own.e1
    (fun n => by rw [step]; rfl) (fun n => by rw [step]; rfl) (candidates .ospfE1) (ties _)
  have e2 := own.stagedE2.staged_settles (S := fun n => (ρ n).staging.e2)
    (T := fun n => (ρ n).ospf.e2) (l := fun n => (ρ n).externalArrivals f (R n) .ospfE2) own.e2
    (fun n => by rw [step]; rfl) (fun n => by rw [step]; rfl) (candidates .ospfE2) (ties _)
  filter_upwards [e1, e2] with n quietE1 quietE2
  obtain ⟨gatheredE1, committedE1⟩ := quietE1
  obtain ⟨gatheredE2, committedE2⟩ := quietE2
  rw [step] at committedE1 committedE2
  exact ⟨Bool.or_eq_false_iff.2 ⟨gatheredE1, gatheredE2⟩,
    Bool.or_eq_false_iff.2 ⟨committedE1, committedE2⟩⟩

end Schedule

end RoutePlane
