import RoutePlane.Proofs.Router.Vouching

/-! Routers of one name. All VRFs of a device have its name, and a router refuses the routes that were
brought up under its own name. So a route inside an area has come from a router with its network over a
chain of adjacencies, and past no other router of that name. -/
namespace RoutePlane.Router

variable {f : Fabric} {routers : List Router} {r o : Router} {a : Adjacency} {x : Route}
  {network : Prefix} {goal further : Router → Prop} {names more : Set String} {look : Router → Router}

def Serves (r : Router) (network : Prefix) : Prop :=
  r.ospfProcess?.isSome = true ∧ ∃ b ∈ r.ospfInterfaces, b.2.1.network? = some network

instance : Decidable (r.Serves network) :=
  inferInstanceAs (Decidable (_ ∧ ∃ b ∈ r.ospfInterfaces, _))

/-- Chains of adjacencies to a goal, with none of the names in front of it. -/
inductive LeadsTo (f : Fabric) (routers : List Router) (goal : Router → Prop) (names : Set String) :
    Router → Router → Prop
  | here {r : Router} (there : goal r) : LeadsTo f routers goal names r r
  | across {r o : Router} {a : Adjacency} (adjacent : a ∈ r.adjacencies f routers)
    (other : r.hostname ∉ names) (onward : LeadsTo f routers goal names a.neighbor o) :
    LeadsTo f routers goal names r o

def Finds (f : Fabric) (routers : List Router) (network : Prefix) (r : Router) : Prop :=
  ∃ o, LeadsTo f routers (·.Serves network) ∅ r o

def IsNear (f : Fabric) (routers : List Router) (network : Prefix) (r : Router) : Prop :=
  r.Serves network ∨
    ∃ a ∈ r.adjacencies f routers, a.neighbor.Serves network ∧ a.neighbor.hostname ≠ r.hostname

def servers (routers : List Router) (network : Prefix) : Set String :=
  {name | ∃ o ∈ routers, o.Serves network ∧ o.hostname = name}

/-- The routes of an area of the router that come from a router with their network, past no other router
of its name. -/
def carried (f : Fabric) (routers : List Router) (r : Router) : Set Route :=
  {x | ∃ data, x.ospf? = some data ∧ (∃ b ∈ r.ospfInterfaces, b.2.2.area = data.area) ∧
    ∃ o, LeadsTo f routers (·.Serves x.network) {data.advertiser} r o ∧ o.hostname = data.advertiser}

theorem serves_congr (same : r.bare = o.bare) : r.Serves network ↔ o.Serves network :=
  iff_of_eq (seen_of_bare (fun r => r.Serves network) (fun _ => rfl) same)

namespace LeadsTo

theorem there (leads : LeadsTo f routers goal names r o) : goal o := by
  induction leads with
  | here there => exact there
  | across _ _ _ ih => exact ih

theorem end_mem (member : r ∈ routers) (leads : LeadsTo f routers goal names r o) : o ∈ routers := by
  induction leads with
  | here => exact member
  | across adjacent _ _ ih => exact ih (mem_adjacencies adjacent).2

theorem mono (leads : LeadsTo f routers goal more r o) (wider : ∀ r, goal r → further r)
    (fewer : names ⊆ more) : LeadsTo f routers further names r o := by
  induction leads with
  | here there => exact .here (wider _ there)
  | across adjacent other _ ih => exact .across adjacent (fun never => other (fewer never)) ih

theorem stop (leads : LeadsTo f routers goal ∅ r o) (member : r ∈ routers)
    (wider : ∀ r, goal r → further r)
    (stops : ∀ r ∈ routers, r.hostname ∈ names → (∃ o, LeadsTo f routers goal ∅ r o) → further r) :
    ∃ m, LeadsTo f routers further names r m := by
  induction leads with
  | here there => exact ⟨_, .here (wider _ there)⟩
  | @across r o a adjacent other onward ih =>
    by_cases named : r.hostname ∈ names
    · exact ⟨r, .here (stops r member named ⟨o, .across adjacent other onward⟩)⟩
    · obtain ⟨m, leads⟩ := ih (mem_adjacencies adjacent).2
      exact ⟨m, .across adjacent named leads⟩

theorem eq_of_named (leads : LeadsTo f routers goal names r o) (named : r.hostname ∈ names) : r = o := by
  cases leads with
  | here => rfl
  | across _ other => exact absurd named other

theorem map (keeps : ∀ r, (look r).bare = r.bare) (shown : ∀ r, goal r → goal (look r))
    (leads : LeadsTo f routers goal names r o) :
    LeadsTo f (routers.map look) goal names (look r) (look o) := by
  have name := seen_of_keeps keeps hostname fun _ => rfl
  induction leads with
  | here there => exact .here (shown _ there)
  | @across r o a adjacent other _ ih =>
    have seen : a.map look ∈ (look r).adjacencies f (routers.map look) := by
      rw [adjacencies_map keeps]
      exact List.mem_map_of_mem adjacent
    exact .across (a := a.map look) seen (name r ▸ other) ih

end LeadsTo

theorem carried_map (keeps : ∀ r, (look r).bare = r.bare) (carry : x ∈ carried f routers r) :
    x ∈ carried f (routers.map look) (look r) := by
  obtain ⟨data, known, inside, o, leads, name⟩ := carry
  have interfaces := seen_of_keeps keeps ospfInterfaces fun _ => rfl
  refine ⟨data, known, interfaces r ▸ inside, look o,
    leads.map keeps fun r => (serves_congr (keeps r)).2, ?_⟩
  rw [seen_of_keeps keeps hostname fun _ => rfl, name]

theorem IsNear.of_map (keeps : ∀ r, (look r).bare = r.bare)
    (near : (look r).IsNear f (routers.map look) network) : r.IsNear f routers network := by
  have name := seen_of_keeps keeps hostname fun _ => rfl
  rcases near with serves | ⟨a, adjacent, serves, other⟩
  · exact .inl ((serves_congr (keeps r)).1 serves)
  · rw [adjacencies_map keeps] at adjacent
    obtain ⟨a, before, rfl⟩ := List.mem_map.1 adjacent
    exact .inr ⟨a, before, (serves_congr (keeps _)).1 serves, name r ▸ name a.neighbor ▸ other⟩

theorem carried_base (base : x ∈ r.ospfBaseRoutes) : x ∈ carried f routers r := by
  obtain ⟨runs, name, i, o, network, cost, running, place, -, rfl⟩ := mem_ospfBaseRoutes_iff.1 base
  exact ⟨_, rfl, ⟨_, running, rfl⟩, r, .here ⟨runs, _, running, place⟩, rfl⟩

theorem carried_candidate (adjacent : a ∈ r.adjacencies f routers)
    (neighbor : ∀ x ∈ a.neighbor.ospf.intra.routes, x ∈ carried f routers a.neighbor)
    (candidate : x ∈ r.intraCandidates a) : x ∈ carried f routers r := by
  obtain ⟨route, data, offer, -, rfl⟩ := mem_intraCandidates_iff.1 candidate
  obtain ⟨held, known, other⟩ := mem_ospfOffers_iff.1 offer
  obtain ⟨data', known', -, o, leads, name⟩ := neighbor route held
  obtain rfl := Option.some.inj (known'.symm.trans known)
  exact ⟨_, rfl, area_of_adjacent adjacent, o, .across adjacent (Ne.symm other) leads, name⟩

end RoutePlane.Router
