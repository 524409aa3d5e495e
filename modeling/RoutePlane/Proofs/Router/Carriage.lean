import RoutePlane.Proofs.Rib.Rank
import RoutePlane.Proofs.Router.Transit

/-! Routes carried from system to system where no policy has a say. Each session on the way puts the
system of its sender in front of the path and resets most of what the decision process looks at. So of
two carried routes the one that came over fewer sessions is preferred, if their paths were equally long
at the start. -/
namespace RoutePlane

namespace AsPath

variable {p : AsPath} {as other : AsNumber} {l : List AsNumber}

@[simp] theorem length_prependAll : (p.prependAll l).length = l.length + p.length := by
  induction l with
  | nil => simp [prependAll]
  | cons as l ih =>
    show (p.prependAll l).length + 1 = l.length + 1 + p.length
    rw [ih]
    omega

theorem contains_iff : p.contains as = true ↔ ∃ set ∈ p.sets, as ∈ set := by
  simp only [contains, List.any_eq_true, SortedSet.contains_iff]

@[simp] theorem contains_prepend :
    (p.prepend as).contains other = true ↔ other = as ∨ p.contains other = true := by
  simp [contains_iff, prepend]

@[simp] theorem contains_prependAll :
    (p.prependAll l).contains other = true ↔ other ∈ l ∨ p.contains other = true := by
  induction l with
  | nil => simp [prependAll]
  | cons as l ih =>
    show ((p.prependAll l).prepend as).contains other = true ↔ _
    rw [contains_prepend, ih, List.mem_cons, or_assoc]

end AsPath

theorem Rank.le_of_ofKeys_le {a b c d e e' f f' g g' h h' i i' j j' : ℕ}
    (le : Rank.ofKeys a b c d e f g h i j ≤ .ofKeys a b c d e' f' g' h' i' j') : e ≤ e' := by
  simp only [Rank.ofKeys, Prod.Lex.toLex_le_toLex, lt_irrefl, true_and, false_or] at le
  rcases le with less | same
  · exact less.le
  · exact same.1.le

namespace Router

variable {route x y origin origin' : Route} {data : BgpData} {s s' : Session} {l l' : List Session}
  {process senderProcess : BgpProcess} {neighbor senderNeighbor : Neighbor} {a : BgpAttributes}

section External

variable (external : s.type.isExternal = true)
include external

theorem maySend_external : maySend route a s neighbor = true ↔
    route.receivedFrom ≠ s.receiverAddress ∧ route.nonRouting = false := by
  simp [maySend, SessionType.isInternal, external]

theorem hasLooped_external : hasLooped s process (arrivedAttributes neighbor
    (sentAttributes route s senderProcess senderNeighbor a)) = false ↔
      s.receiverAs ≠ s.senderAs ∧ a.asPath.contains s.receiverAs = false := by
  have path : (arrivedAttributes neighbor (sentAttributes route s senderProcess senderNeighbor a)).asPath
      = a.asPath.prepend s.senderAs :=
    (sentAttributes_external external).1
  rw [hasLooped, if_pos external, path, ← Bool.not_eq_true, ← Bool.not_eq_true, AsPath.contains_prepend,
    not_or]

end External

/-- The route has come from its origin over the sessions, the latest first. -/
inductive CameOver (origin : Route) : List Session → Route → Prop where
  | start : CameOver origin [] origin
  | step {l : List Session} {route : Route} {data : BgpData} (came : CameOver origin l route)
      (kind : route.kind = .bgp data) {s : Session} (external : s.type.isExternal = true)
      (senderProcess : BgpProcess) (senderNeighbor neighbor : Neighbor) :
      CameOver origin (s :: l) (arrivedRoute route data s senderProcess senderNeighbor neighbor)

namespace CameOver

theorem network_eq (came : CameOver origin l x) : x.network = origin.network := by
  induction came with
  | start => rfl
  | step came kind external senderProcess senderNeighbor neighbor ih => exact ih

theorem nonRouting_eq (came : CameOver origin l x) : x.nonRouting = origin.nonRouting := by
  induction came with
  | start => rfl
  | step came kind external senderProcess senderNeighbor neighbor ih => exact ih

/-- The systems of the senders are in front of the path. -/
theorem path_eq (came : CameOver origin l x) (found : origin.attributes? = some a) :
    ∃ b, x.attributes? = some b ∧ b.asPath = a.asPath.prependAll (l.map (·.senderAs)) := by
  induction came with
  | start => exact ⟨a, found, rfl⟩
  | @step l route data came kind s external senderProcess senderNeighbor neighbor ih =>
    obtain ⟨b, known, path⟩ := ih
    rw [Route.attributes?, Route.bgp?, kind] at known
    cases known
    refine ⟨_, rfl, ?_⟩
    rw [List.map_cons]
    show (sentAttributes route s senderProcess senderNeighbor data.attributes).asPath = _
    rw [(sentAttributes_external external).1, path]
    rfl

theorem contains_iff (came : CameOver origin l x) (found : origin.attributes? = some a)
    (kind : x.kind = .bgp data) {as : AsNumber} : data.attributes.asPath.contains as = true ↔
      as ∈ l.map (·.senderAs) ∨ a.asPath.contains as = true := by
  obtain ⟨b, known, path⟩ := came.path_eq found
  rw [Route.attributes?, Route.bgp?, kind] at known
  cases known
  rw [path, AsPath.contains_prependAll]

theorem receivedFrom_eq (came : CameOver origin (s :: l) x) : x.receivedFrom = s.senderAddress := by
  cases came
  rfl

/-- What the decision process looks at before the length of the path is the same for all of them. -/
theorem rank_eq (came : CameOver origin (s :: l) x) (found : x.attributes? = some a)
    (addressed : s.senderAddress ≠ .unspecified) :
    RibKind.bgp.rank x = .ofKeys (Protocol.defaultDistance .bgp).toNat (countDown 0)
      (countDown defaultLocalPreference) 1 a.asPath.length a.originType.rank x.metric.toNat
      (x.protocol == .ibgp).toNat a.originator.toNat x.receivedFrom.toNat := by
  have remote : x.isLocal = false := by
    rw [Route.isLocal, came.receivedFrom_eq]
    exact beq_false_of_ne addressed
  rw [RibKind.rank, RibKind.decisionRank, remote, found]
  cases came with
  | step came kind external senderProcess senderNeighbor neighbor =>
    cases found
    show Rank.ofKeys _ _ (countDown (sentAttributes ..).localPreference) _ _ _ _ _ _ _ = _
    rw [(sentAttributes_external external).2.1]
    rfl

theorem length_le (first : CameOver origin (s :: l) x) (second : CameOver origin' (s' :: l') y)
    (bgp : origin.isBgpKind = true) (bgp' : origin'.isBgpKind = true)
    (tied : RibKind.bgp.rank origin = RibKind.bgp.rank origin')
    (addressed : s.senderAddress ≠ .unspecified) (addressed' : s'.senderAddress ≠ .unspecified)
    (le : RibKind.bgp.rank x ≤ RibKind.bgp.rank y) : l.length ≤ l'.length := by
  obtain ⟨b, found, path⟩ := first.path_eq (RibKind.attributes?_of_suits fun _ => bgp)
  obtain ⟨b', found', path'⟩ := second.path_eq (RibKind.attributes?_of_suits fun _ => bgp')
  rw [first.rank_eq found addressed, second.rank_eq found' addressed'] at le
  have lengths := Rank.le_of_ofKeys_le le
  rw [path, path', AsPath.length_prependAll, AsPath.length_prependAll, List.length_map,
    List.length_map, List.length_cons, List.length_cons, RibKind.length_eq_of_rank_eq tied] at lengths
  omega

end CameOver

end Router

end RoutePlane
