import RoutePlane.Proofs.Order.Contents
import RoutePlane.Topology.Basic

/-! Links come in pairs: two interfaces are linked because they are on one network, so there is a link
each way. -/
namespace RoutePlane.Topology

variable {configurations : List Configuration} {l : Link}

theorem mem_linksAmong_iff {members : List InterfaceId} : l ∈ linksAmong members ↔
    l.source ∈ members ∧ l.target ∈ members ∧ l.target.node ≠ l.source.node := by
  simp only [linksAmong, List.mem_flatMap, List.mem_map, List.mem_filter, decide_eq_true_eq]
  constructor
  · rintro ⟨a, source, b, ⟨target, apart⟩, rfl⟩
    exact ⟨source, target, apart⟩
  · rintro ⟨source, target, apart⟩
    exact ⟨l.source, source, l.target, ⟨target, apart⟩, rfl⟩

theorem mem_links_iff : l ∈ (ofConfigurations configurations).links ↔
    ∃ members ∈ (segments configurations).values,
      l.source ∈ members ∧ l.target ∈ members ∧ l.target.node ≠ l.source.node := by
  rw [ofConfigurations, mem_foldl_new, or_iff_right List.not_mem_nil, List.mem_flatMap]
  exact exists_congr fun members => and_congr_right fun _ => mem_linksAmong_iff

theorem reverse_mem_links (member : l ∈ (ofConfigurations configurations).links) :
    l.reverse ∈ (ofConfigurations configurations).links := by
  obtain ⟨members, segment, source, target, apart⟩ := mem_links_iff.1 member
  exact mem_links_iff.2 ⟨members, segment, target, source, apart.symm⟩

theorem mem_of_segment {l : List (Prefix × InterfaceId)} {P : InterfaceId → Prop}
    {start : SortedMap Prefix (List InterfaceId)}
    (before : ∀ members ∈ start.values, ∀ i ∈ members, P i) (all : ∀ b ∈ l, P b.2) :
    ∀ members ∈ (l.foldl (fun segments b => segments.alter b.1 (·.getD [] ++ [b.2])) start).values,
      ∀ i ∈ members, P i := by
  induction l generalizing start with
  | nil => exact before
  | cons b l ih =>
    refine ih ?_ fun b later => all b (List.mem_cons_of_mem _ later)
    intro members listed i member
    obtain ⟨entry, bound, rfl⟩ := List.mem_map.1 listed
    rcases SortedMap.key_of_mem_insertInto bound with rfl | old
    · rcases List.mem_append.1 member with earlier | here
      · cases found : start.get? b.1 with
        | none => simp [found] at earlier
        | some held =>
          rw [found] at earlier
          exact before held (List.mem_map.2 ⟨_, SortedMap.mem_toList_iff.2 found, rfl⟩) i earlier
      · rw [List.mem_singleton.1 here]
        exact all b List.mem_cons_self
    · exact before _ (List.mem_map.2 ⟨entry, old, rfl⟩) i member

theorem exists_target (member : l ∈ (ofConfigurations configurations).links) :
    ∃ c ∈ configurations, ∃ name i, (name, i) ∈ c.interfaces.toList ∧
      l.target = ⟨c.hostname, name⟩ := by
  obtain ⟨members, segment, -, target, -⟩ := mem_links_iff.1 member
  refine mem_of_segment (P := fun t => ∃ c ∈ configurations, ∃ name i,
    (name, i) ∈ c.interfaces.toList ∧ t = ⟨c.hostname, name⟩) (fun _ never => ?_) ?_ members segment
      _ target
  · cases never
  · intro b attached
    obtain ⟨c, listed, own⟩ := List.mem_flatMap.1 attached
    obtain ⟨⟨name, i⟩, interface, found⟩ := List.mem_filterMap.1 own
    obtain ⟨network, -, rfl⟩ := Option.map_eq_some_iff.1 found
    exact ⟨c, listed, name, i, interface, rfl⟩

theorem mem_linksFrom_iff {t : Topology} {i : InterfaceId} :
    l ∈ t.linksFrom i ↔ l ∈ t.links ∧ l.source = i := by
  simp [linksFrom]

end RoutePlane.Topology
