import Mathlib.Data.Finite.Prod
import Mathlib.Data.Fintype.Option
import Mathlib.Data.Fintype.Powerset
import Mathlib.Data.Set.Finite.List
import RoutePlane.Proofs.Order.Contents
import RoutePlane.Proofs.Rib.Rank

/-! How many routes there are. Two parts of a route have no bound of their own: the names in it, which
are those of an interface and of an OSPF advertiser, and the length of its AS path. Among routes with
names from a finite set, finitely many have one path length. -/
namespace RoutePlane

section Types

variable {α β : Type}

theorem finite_of_key (key : α → β) (injective : Function.Injective key) {s : Set α} {t : Set β}
    (finite : t.Finite) (into : ∀ a ∈ s, key a ∈ t) : s.Finite :=
  (finite.preimage injective.injOn).subset into

instance finite_word : Finite UInt32 := Finite.of_injective UInt32.toFin fun _ _ => UInt32.toFin_inj.1

instance : Finite Address := Finite.of_injective Address.bits Address.bits_injective

instance : Finite Prefix :=
  Finite.of_injective
    (fun p : Prefix => (p.network, (⟨p.length, Nat.lt_succ_of_le p.length_le⟩ : Fin 33)))
    fun p q same => by
      simp only [Prod.mk.injEq, Fin.mk.injEq] at same
      exact Prefix.key_injective p q (Prod.ext same.1 same.2)

instance : Finite Protocol :=
  Finite.of_injective (fun p : Protocol => (⟨p.rank, by cases p <;> decide⟩ : Fin 9))
    fun p q same => Protocol.rank_injective p q (Fin.mk.inj same)

instance : Finite OriginType :=
  Finite.of_injective (fun t : OriginType => (⟨t.rank, by cases t <;> decide⟩ : Fin 3))
    fun t u same => OriginType.rank_injective t u (Fin.mk.inj same)

instance : Finite OriginMechanism :=
  Finite.of_injective (fun m : OriginMechanism => (⟨m.rank, by cases m <;> decide⟩ : Fin 4))
    fun m n same => OriginMechanism.rank_injective m n (Fin.mk.inj same)

instance : Finite Community := Finite.of_injective Community.value Community.value_injective

instance : Finite Area := Finite.of_injective Area.id Area.id_injective

instance [Ord α] [Std.TransOrd α] [Finite α] : Finite (SortedSet α) :=
  Finite.of_injective (fun s : SortedSet α => {x | x ∈ s}) fun _ _ same =>
    SortedSet.ext (Set.ext_iff.1 same)

theorem finite_option {s : Set α} (finite : s.Finite) :
    {o : Option α | ∀ a, o = some a → a ∈ s}.Finite := by
  refine ((finite.image some).insert none).subset ?_
  rintro (_ | a) member
  · exact .inl rfl
  · exact .inr ⟨a, member a rfl, rfl⟩

end Types

/-- The hops of an AS path; other routes have none. -/
def Route.pathLength (r : Route) : Nat := (r.attributes?.getD {}).asPath.length

def NextHop.names (h : NextHop) : List String := h.interface?.toList

def Route.names (r : Route) : List String :=
  r.nextHop.names ++ (r.ospf?.map (·.advertiser)).toList

def NextHop.Within (known : Set String) (h : NextHop) : Prop := ∀ s ∈ h.names, s ∈ known

def Route.Within (known : Set String) (r : Route) : Prop := ∀ s ∈ r.names, s ∈ known

variable {known : Set String}

theorem Route.within_iff {r : Route} :
    r.Within known ↔ r.nextHop.Within known ∧ ∀ d, r.ospf? = some d → d.advertiser ∈ known := by
  simp [Route.Within, Route.names, NextHop.Within, or_imp, forall_and]

theorem finite_paths (bound : Nat) : {p : AsPath | p.length ≤ bound}.Finite :=
  finite_of_key AsPath.sets AsPath.sets_injective (List.finite_length_le _ bound) fun _ => id

theorem finite_nextHops (finite : known.Finite) : {h : NextHop | h.Within known}.Finite := by
  refine finite_of_key NextHop.key NextHop.key_injective
    ((Set.finite_le_nat 4).prod ((finite.insert "").prod Set.finite_univ)) fun h within => ?_
  cases h with
  | interface name a =>
    exact ⟨by simp [NextHop.key], .inr (within name (by simp [NextHop.names, NextHop.interface?])),
      trivial⟩
  | _ => exact ⟨by simp [NextHop.key], .inl rfl, trivial⟩

theorem finite_ospfData (finite : known.Finite) : {d : OspfData | d.advertiser ∈ known}.Finite :=
  finite_of_key OspfData.key OspfData.key_injective
    (Set.finite_univ.prod (Set.finite_univ.prod finite)) fun _ member => ⟨trivial, trivial, member⟩

theorem finite_bgpData (bound : Nat) :
    {d : BgpData | d.attributes.asPath.length ≤ bound}.Finite := by
  have attributes : {a : BgpAttributes | a.asPath.length ≤ bound}.Finite :=
    finite_of_key BgpAttributes.key BgpAttributes.key_injective
      ((finite_paths bound).prod Set.finite_univ) fun _ short => ⟨short, trivial⟩
  exact finite_of_key BgpData.key BgpData.key_injective (attributes.prod Set.finite_univ)
    fun _ short => ⟨short, trivial⟩

theorem finite_kinds (finite : known.Finite) (bound : Nat) :
    {k : RouteKind | (∀ d, k.ospf? = some d → d.advertiser ∈ known) ∧
      ∀ d, k.bgp? = some d → d.attributes.asPath.length ≤ bound}.Finite := by
  refine finite_of_key RouteKind.key RouteKind.key_injective ((Set.finite_le_nat 2).prod
    ((finite_option (finite_ospfData finite)).prod (finite_option (finite_bgpData bound))))
    fun k small => ⟨?_, small.1, small.2⟩
  cases k <;> simp [RouteKind.key, RouteKind.rank]

theorem finite_routes (finite : known.Finite) (bound : Nat) :
    {r : Route | r.Within known ∧ r.pathLength ≤ bound}.Finite := by
  refine finite_of_key Route.key Route.key_injective
    (Set.finite_univ.prod (Set.finite_univ.prod (Set.finite_univ.prod (Set.finite_univ.prod
      ((finite_nextHops finite).prod (Set.finite_univ.prod (Set.finite_univ.prod
        (Set.finite_univ.prod (finite_kinds finite bound)))))))))
    fun r small => ?_
  obtain ⟨within, short⟩ := small
  obtain ⟨hop, advertiser⟩ := Route.within_iff.1 within
  refine ⟨trivial, trivial, trivial, trivial, hop, trivial, trivial, trivial, advertiser, ?_⟩
  intro d found
  have attributes : r.attributes?.getD {} = d.attributes := by
    rw [Route.attributes?, show r.bgp? = some d from found]
    rfl
  rwa [Route.pathLength, attributes] at short

def pathless (known : Set String) : Set Route := {r | r.Within known ∧ r.pathLength ≤ 0}

theorem finite_pathless_ties (finite : known.Finite) (k : RibKind) (rank : Rank) :
    {r | r ∈ pathless known ∧ k.rank r = rank}.Finite :=
  (finite_routes finite 0).subset fun _ member => member.1

/-- A table of BGP routes has finitely many choices between equally good routes, though their paths
can have any length. -/
theorem finite_bgp_ties (finite : known.Finite) (rank : Rank) :
    {r : Route | r.Within known ∧ RibKind.rank .bgp r = rank}.Finite := by
  rcases Set.eq_empty_or_nonempty {r : Route | r.Within known ∧ RibKind.rank .bgp r = rank} with
    none | ⟨top, -, best⟩
  · rw [none]
    exact Set.finite_empty
  · refine (finite_routes finite top.pathLength).subset ?_
    rintro r ⟨within, tied⟩
    exact ⟨within, (RibKind.length_eq_of_rank_eq (tied.trans best.symm)).le⟩

end RoutePlane
