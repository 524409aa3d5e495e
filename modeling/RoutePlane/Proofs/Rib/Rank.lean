import Mathlib.Data.Prod.Lex
import Mathlib.Order.Compare
import RoutePlane.Rib.Preference

/-! The comparison of every kind of table as an order of numbers. The rank of a route lists the
keys that the kind looks at, most significant first; keys of which the greater one is preferred
are counted down. So each comparison is a total preorder, and no route is beaten for ever by ever
better ones, although the paths of BGP routes have no greatest length. -/
namespace RoutePlane

section Comparisons

open Ordering

theorem compares_word (a b : UInt32) : (compare a b).Compares a.toNat b.toNat := by
  cases h : compare a b with
  | lt => exact UInt32.lt_iff_toNat_lt.1 (Std.compare_eq_lt.1 h)
  | eq => exact congrArg UInt32.toNat (compare_eq_iff.1 h)
  | gt => exact UInt32.lt_iff_toNat_lt.1 (Std.compare_eq_gt.1 h)

/-- A greater word leaves less up to the greatest word. -/
def countDown (a : UInt32) : ℕ := UInt32.size - 1 - a.toNat

theorem compares_countDown (a b : UInt32) : (compare b a).Compares (countDown a) (countDown b) := by
  have order := compares_word b a
  have ha := a.toNat_lt_size
  have hb := b.toNat_lt_size
  cases h : compare b a <;> rw [h] at order <;> simp only [Compares, countDown] at order ⊢ <;> omega

theorem compares_bool (a b : Bool) : (compare a b).Compares a.toNat b.toNat := by
  cases a <;> cases b
  exacts [rfl, Nat.zero_lt_one, Nat.zero_lt_one, rfl]

theorem compares_number (a b : ℕ) : (compare a b).Compares a b := by
  cases h : compare a b with
  | lt => exact Nat.compare_eq_lt.1 h
  | eq => exact Nat.compare_eq_eq.1 h
  | gt => exact Nat.compare_eq_gt.1 h

variable {α β : Type} [Preorder α] [Preorder β] {o o' : Ordering} {a b : α} {x y z : β}

/-- The first key decides, and the others only where it is equal. -/
theorem Compares.lex (first : o.Compares a b) (others : o'.Compares x y) :
    (o.then o').Compares (toLex (a, x)) (toLex (b, y)) := by
  cases o with
  | lt => exact Prod.Lex.toLex_lt_toLex.2 (.inl first)
  | gt => exact Prod.Lex.toLex_lt_toLex.2 (.inl first)
  | eq =>
    obtain rfl : a = b := first
    cases o' with
    | lt => exact Prod.Lex.toLex_lt_toLex.2 (.inr ⟨rfl, others⟩)
    | gt => exact Prod.Lex.toLex_lt_toLex.2 (.inr ⟨rfl, others⟩)
    | eq => exact congrArg (fun z => toLex (a, z)) others

/-- Keys that are the same for all routes change nothing. -/
theorem Compares.pad (keys : o.Compares a b) : o.Compares (toLex (a, z)) (toLex (b, z)) := by
  have padded := Compares.lex keys (show Compares .eq z z from rfl)
  rwa [Ordering.then_eq] at padded

end Comparisons

abbrev Rank := ℕ ×ₗ ℕ ×ₗ ℕ ×ₗ ℕ ×ₗ ℕ ×ₗ ℕ ×ₗ ℕ ×ₗ ℕ ×ₗ ℕ ×ₗ ℕ

def Rank.ofKeys (a b c d e f g h i j : ℕ) : Rank :=
  toLex (a, toLex (b, toLex (c, toLex (d, toLex (e, toLex (f, toLex (g, toLex (h,
    toLex (i, j)))))))))

namespace RibKind

/-- A table of BGP routes compares attributes, so only routes that have them suit it. -/
def Suits (k : RibKind) (r : Route) : Prop := k = .bgp → r.isBgpKind = true

def distanceRank (r : Route) : Rank :=
  .ofKeys r.distance.toNat r.metric.toNat 0 0 0 0 0 0 0 0

def decisionRank (r : Route) (a : BgpAttributes) : Rank :=
  .ofKeys r.distance.toNat (countDown a.weight) (countDown a.localPreference) (!r.isLocal).toNat
    a.asPath.length a.originType.rank r.metric.toNat (r.protocol == .ibgp).toNat
    a.originator.toNat r.receivedFrom.toNat

def rank : RibKind → Route → Rank
  | main, r | connected, r | static, r | generated, r => distanceRank r
  | ospfIntra, r | ospfInter, r | ospfE1, r => .ofKeys r.metric.toNat 0 0 0 0 0 0 0 0 0
  | ospfE2, r => .ofKeys r.metric.toNat (costToAdvertiser r).toNat 0 0 0 0 0 0 0 0
  | ospf, r =>
    .ofKeys r.distance.toNat (Ospf.precedence r.protocol) r.metric.toNat 0 0 0 0 0 0 0
  | bgp, r => decisionRank r (r.attributes?.getD {})

theorem attributes?_of_suits {r : Route} (h : bgp.Suits r) :
    r.attributes? = some (r.attributes?.getD {}) := by
  have known : r.bgp?.isSome = true := h rfl
  obtain ⟨data, found⟩ := Option.isSome_iff_exists.1 known
  simp [Route.attributes?, found]

theorem byBgp_eq {a b : Route} (ha : bgp.Suits a) (hb : bgp.Suits b) :
    byBgp a b = byDecision (a, a.attributes?.getD {}) (b, b.attributes?.getD {}) := by
  rw [byBgp, attributes?_of_suits ha, attributes?_of_suits hb]
  rfl

theorem byDistance_compares (a b : Route) :
    (byDistance a b).Compares (distanceRank a) (distanceRank b) :=
  Compares.lex (compares_word _ _) (Compares.pad (compares_word _ _))

theorem byOspf_compares (a b : Route) : (byOspf a b).Compares (rank .ospf a) (rank .ospf b) :=
  Compares.lex (compares_word _ _)
    (Compares.lex (compares_number _ _) (Compares.pad (compares_word _ _)))

theorem byDecision_compares (a b : Route × BgpAttributes) :
    (byDecision a b).Compares (decisionRank a.1 a.2) (decisionRank b.1 b.2) := by
  simp only [byDecision, Ordering.then_assoc]
  apply Compares.lex (compares_word _ _)
  apply Compares.lex (compares_countDown _ _)
  apply Compares.lex (compares_countDown _ _)
  apply Compares.lex (compares_bool _ _)
  apply Compares.lex (compares_number _ _)
  apply Compares.lex (compares_number _ _)
  apply Compares.lex (compares_word _ _)
  apply Compares.lex (compares_bool _ _)
  exact Compares.lex (compares_word _ _) (compares_word _ _)

/-- The comparison of every kind is that of the ranks. -/
theorem preference_compares {k : RibKind} {a b : Route} (ha : k.Suits a) (hb : k.Suits b) :
    (k.preference a b).Compares (k.rank a) (k.rank b) := by
  cases k with
  | main | connected | static | generated => exact byDistance_compares a b
  | ospfIntra | ospfInter | ospfE1 => exact Compares.pad (compares_word _ _)
  | ospfE2 => exact Compares.lex (compares_word _ _) (Compares.pad (compares_word _ _))
  | ospf => exact byOspf_compares a b
  | bgp =>
    show (byBgp a b).Compares _ _
    rw [byBgp_eq ha hb]
    exact byDecision_compares _ _

theorem preference_lt_iff {k : RibKind} {a b : Route} (ha : k.Suits a) (hb : k.Suits b) :
    k.preference a b = .lt ↔ k.rank a < k.rank b :=
  (preference_compares ha hb).eq_lt

theorem preference_eq_iff {k : RibKind} {a b : Route} (ha : k.Suits a) (hb : k.Suits b) :
    k.preference a b = .eq ↔ k.rank a = k.rank b :=
  (preference_compares ha hb).eq_eq

/-- BGP routes between which the decision process does not choose have equally long paths. -/
theorem length_eq_of_rank_eq {a b : Route} (same : rank .bgp a = rank .bgp b) :
    (a.attributes?.getD {}).asPath.length = (b.attributes?.getD {}).asPath.length := by
  simp only [rank, decisionRank, Rank.ofKeys, EmbeddingLike.apply_eq_iff_eq, Prod.mk.injEq] at same
  exact same.2.2.2.2.1

end RibKind

end RoutePlane
