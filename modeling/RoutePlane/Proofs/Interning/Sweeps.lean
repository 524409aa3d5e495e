import Mathlib.Data.List.Nodup
import Mathlib.Order.Lattice
import RoutePlane.Interning.Cache

/-! A cache among holders that take cells, hand them on and let go of them at any time. Its kept cells have
different values, a held one is given out again, and a sweep removes all that nobody holds. How often
there is a sweep follows from a count that every miss raises by one, wherever the cache counts it. -/
namespace RoutePlane

namespace InternCache

variable {α : Type} {c : InternCache α} {held : Nat → Bool} {value : α}

def Misses (c : InternCache α) (value : α) : Prop := ∀ cell ∈ c.cells, cell.value ≠ value

def IsDue (c : InternCache α) : Prop := c.sweepAt ≤ c.size + c.uncached

instance (c : InternCache α) : Decidable c.IsDue := inferInstanceAs (Decidable (_ ≤ _))

instance [DecidableEq α] (c : InternCache α) (value : α) : Decidable (c.Misses value) :=
  inferInstanceAs (Decidable (∀ cell ∈ c.cells, cell.value ≠ value))

def sweepInterval (survivors capacity : Nat) : Nat :=
  max (max survivors (min minSweepInterval capacity)) 1

theorem sweepInterval_pos (survivors capacity : Nat) : 0 < sweepInterval survivors capacity :=
  Nat.le_max_right _ _

theorem sweepInterval_le {survivors capacity : Nat} (few : survivors ≤ capacity) :
    sweepInterval survivors capacity ≤ max capacity 1 := by
  unfold sweepInterval
  omega

@[simp] theorem capacity_sweepIfDue : (c.sweepIfDue held).capacity = c.capacity := by
  unfold sweepIfDue
  split <;> rfl

@[simp] theorem fresh_sweepIfDue : (c.sweepIfDue held).fresh = c.fresh := by
  unfold sweepIfDue
  split <;> rfl

theorem sweepIfDue_of_due (due : c.IsDue) : c.sweepIfDue held = c.sweep held := if_pos due

theorem sweepIfDue_of_early (early : ¬c.IsDue) : c.sweepIfDue held = c := if_neg early

theorem mem_sweepIfDue {cell : Cell α} : cell ∈ (c.sweepIfDue held).cells ↔
    cell ∈ c.cells ∧ (c.IsDue → held cell.place = true) := by
  by_cases due : c.IsDue
  · simp [sweepIfDue_of_due due, sweep, due]
  · simp [sweepIfDue_of_early due, due]

theorem cells_sweepIfDue : (c.sweepIfDue held).cells.Sublist c.cells := by
  by_cases due : c.IsDue
  · rw [sweepIfDue_of_due due]
    exact List.filter_sublist
  · rw [sweepIfDue_of_early due]

@[simp] theorem capacity_add : (c.add value).2.capacity = c.capacity := by
  unfold add
  split <;> rfl

@[simp] theorem fresh_add : (c.add value).2.fresh = c.fresh + 1 := by
  unfold add
  split <;> rfl

@[simp] theorem sweepAt_add : (c.add value).2.sweepAt = c.sweepAt := by
  unfold add
  split <;> rfl

@[simp] theorem cell_add : (c.add value).1 = ⟨c.fresh, value⟩ := by
  unfold add
  split <;> rfl

theorem cells_add : (c.add value).2.cells =
    if c.size < c.capacity then ⟨c.fresh, value⟩ :: c.cells else c.cells := by
  unfold add
  split <;> rfl

theorem count_add : (c.add value).2.size + (c.add value).2.uncached = c.size + c.uncached + 1 := by
  unfold add size
  split
  · simp only [List.length_cons]
    omega
  · simp only
    omega

variable [DecidableEq α]

theorem find?_eq_none : c.find? value = none ↔ c.Misses value := by
  simp [find?, Misses]

theorem of_find? {cell : Cell α} (found : c.find? value = some cell) :
    cell ∈ c.cells ∧ cell.value = value :=
  ⟨List.mem_of_find?_eq_some found, by simpa using List.find?_some found⟩

theorem find?_value (distinct : (c.cells.map (·.value)).Nodup) {cell : Cell α}
    (kept : cell ∈ c.cells) : c.find? cell.value = some cell := by
  cases found : c.find? cell.value with
  | none => exact absurd rfl (find?_eq_none.1 found cell kept)
  | some other =>
    obtain ⟨listed, same⟩ := of_find? found
    rw [List.inj_on_of_nodup_map distinct listed kept same]

theorem intern_hit {cell : Cell α} (found : c.find? value = some cell) :
    c.intern held value = (cell, c) := by
  rw [intern, found]

theorem intern_miss (misses : c.Misses value) :
    c.intern held value = (c.sweepIfDue held).add value := by
  rw [intern, find?_eq_none.2 misses]

theorem value_intern : (c.intern held value).1.value = value := by
  cases found : c.find? value with
  | some cell => rw [intern_hit found, (of_find? found).2]
  | none =>
    rw [intern_miss (find?_eq_none.1 found), add]
    split <;> rfl

/-- A miss keeps its cell if there is room, after a sweep if one is due. -/
theorem kept_intern (misses : c.Misses value) :
    (c.intern held value).1 ∈ (c.intern held value).2.cells ↔
      (c.sweepIfDue held).size < c.capacity := by
  rw [intern_miss misses, cell_add, cells_add, fresh_sweepIfDue, capacity_sweepIfDue]
  split
  next room => simpa using room
  next full =>
    exact iff_of_false (fun member => misses _ (cells_sweepIfDue.subset member) rfl) full

/-- A miss as a record: what a sweep has left, if there was one, and whether the new cell was kept. -/
structure Miss where
  survivors : Option Nat
  kept : Bool

def miss? (held : Nat → Bool) (c : InternCache α) (value : α) : Option Miss :=
  match c.find? value with
  | some _ => none
  | none => some
    { survivors := if c.IsDue then some (c.sweep held).size else none
      kept := (c.intern held value).1 ∈ (c.intern held value).2.cells }

theorem of_miss? {m : Miss} {survivors : Nat} (record : c.miss? held value = some m)
    (swept : m.survivors = some survivors) :
    c.IsDue ∧ survivors = (c.sweep held).size ∧ (m.kept = true ↔ survivors < c.capacity) := by
  cases found : c.find? value with
  | some hit =>
    rw [miss?, found] at record
    cases record
  | none =>
    rw [miss?, found] at record
    cases record
    obtain ⟨due, same⟩ := Option.ite_none_right_eq_some.1 swept
    obtain rfl := Option.some.inj same
    refine ⟨due, rfl, ?_⟩
    rw [decide_eq_true_iff, kept_intern (find?_eq_none.1 found), sweepIfDue_of_due due]

end InternCache

open InternCache

/-- The cells that the last sweep has left, and the misses since, the one included that ran it. The latest
record comes first. -/
def sinceSweep : List Miss → Nat × Nat
  | [] => (0, 0)
  | ⟨some survivors, _⟩ :: _ => (survivors, 1)
  | ⟨none, _⟩ :: earlier => ((sinceSweep earlier).1, (sinceSweep earlier).2 + 1)

/-- Misses without a sweep. -/
theorem sinceSweep_append {recent : List Miss} (quiet : ∀ m ∈ recent, m.survivors = none)
    (earlier : List Miss) : sinceSweep (recent ++ earlier) =
      ((sinceSweep earlier).1, (sinceSweep earlier).2 + recent.length) := by
  induction recent with
  | nil => rfl
  | cons m recent ih =>
    obtain ⟨survivors, kept⟩ := m
    obtain ⟨here, before⟩ := List.forall_mem_cons.1 quiet
    obtain rfl : survivors = none := here
    rw [List.cons_append, sinceSweep, ih before, List.length_cons, Nat.add_assoc]

structure Interning (α : Type) where
  cache : InternCache α
  /-- One cell for each holder. -/
  held : List (Cell α)
  /-- The latest first. -/
  misses : List Miss

inductive InternEvent (α : Type) where
  /-- Somebody asks for a value, and holds the cell. -/
  | ask (value : α)
  /-- A holder hands the cell on. -/
  | share (cell : Cell α)
  /-- A holder lets go of the cell. -/
  | release (cell : Cell α)

namespace Interning

variable {α : Type} {s : Interning α}

def start (α : Type) (capacity : Nat) : Interning α := ⟨.empty α capacity, [], []⟩

def holds (s : Interning α) (place : Nat) : Bool := s.held.any (·.place == place)

def cells (s : Interning α) : List (Cell α) := s.cache.cells ++ s.held

structure Sound (s : Interning α) : Prop where
  size_le : s.cache.size ≤ s.cache.capacity
  distinct : (s.cache.cells.map (·.value)).Nodup
  used : ∀ cell ∈ s.cells, cell.place < s.cache.fresh
  placed : ∀ a ∈ s.cells, ∀ b ∈ s.cells, a.place = b.place → a = b
  counted : s.cache.size + s.cache.uncached = (sinceSweep s.misses).1 + (sinceSweep s.misses).2
  scheduled : s.cache.sweepAt =
    (sinceSweep s.misses).1 + sweepInterval (sinceSweep s.misses).1 s.cache.capacity
  survivors_le : (sinceSweep s.misses).1 ≤ s.cache.capacity
  since_le : (sinceSweep s.misses).2 ≤ sweepInterval (sinceSweep s.misses).1 s.cache.capacity
  since_pos : s.cache.cells ≠ [] → 0 < (sinceSweep s.misses).2

theorem sound_start (capacity : Nat) : (start α capacity).Sound where
  size_le := Nat.zero_le _
  distinct := List.nodup_nil
  used := nofun
  placed := nofun
  counted := rfl
  scheduled := rfl
  survivors_le := Nat.zero_le _
  since_le := Nat.zero_le _
  since_pos := fun kept => absurd rfl kept

namespace Sound

/-- Nobody holds the place of a kept cell but by holding the cell. -/
theorem holds_iff (sound : s.Sound) {cell : Cell α} (kept : cell ∈ s.cache.cells) :
    s.holds cell.place = true ↔ cell ∈ s.held := by
  rw [holds, List.any_eq_true]
  constructor
  · rintro ⟨other, member, same⟩
    have same : other.place = cell.place := by simpa using same
    have found := sound.placed other (List.mem_append_right _ member) cell
      (List.mem_append_left _ kept) same
    rwa [← found]
  · exact fun member => ⟨cell, member, by simp⟩

theorem size_sweepIfDue [DecidableEq α] (sound : s.Sound) : (s.cache.sweepIfDue s.holds).size =
    (s.cache.cells.filter fun cell => s.cache.IsDue → cell ∈ s.held).length := by
  rw [size]
  by_cases due : s.cache.IsDue
  · rw [sweepIfDue_of_due due, sweep]
    refine congrArg List.length (List.filter_congr fun cell kept => ?_)
    rw [Bool.eq_iff_iff, sound.holds_iff kept, decide_eq_true_iff]
    exact (imp_iff_right due).symm
  · rw [sweepIfDue_of_early due, List.filter_eq_self.2 fun cell _ => by simp [due]]

theorem isDue_iff (sound : s.Sound) : s.cache.IsDue ↔
    (sinceSweep s.misses).2 = sweepInterval (sinceSweep s.misses).1 s.cache.capacity := by
  have counted := sound.counted
  have bound := sound.since_le
  rw [IsDue, sound.scheduled]
  omega

theorem of_held (sound : s.Sound) {held : List (Cell α)} (known : held ⊆ s.cells) :
    Sound { s with held := held } := by
  have cells : s.cache.cells ++ held ⊆ s.cells :=
    List.append_subset.2 ⟨List.subset_append_left _ _, known⟩
  exact ⟨sound.size_le, sound.distinct, fun cell member => sound.used cell (cells member),
    fun a first b second => sound.placed a (cells first) b (cells second), sound.counted,
    sound.scheduled, sound.survivors_le, sound.since_le, sound.since_pos⟩

end Sound

section Events

variable [DecidableEq α]

def intern (s : Interning α) (value : α) : Cell α × InternCache α := s.cache.intern s.holds value

def step (s : Interning α) : InternEvent α → Interning α
  | .ask value =>
    ⟨(s.intern value).2, (s.intern value).1 :: s.held,
      (s.cache.miss? s.holds value).toList ++ s.misses⟩
  | .share cell => if cell ∈ s.held then { s with held := cell :: s.held } else s
  | .release cell => { s with held := s.held.erase cell }

def run (s : Interning α) (events : List (InternEvent α)) : Interning α := events.foldl step s

namespace Sound

/-- What is left after a miss of the cells that were kept. -/
theorem mem_intern (sound : s.Sound) {value : α} (misses : s.cache.Misses value) {cell : Cell α}
    (kept : cell ∈ s.cache.cells) :
    cell ∈ (s.intern value).2.cells ↔ (s.cache.IsDue → cell ∈ s.held) := by
  have old : cell ≠ ⟨s.cache.fresh, value⟩ := fun same => misses cell kept (by rw [same])
  have swept : cell ∈ (s.cache.sweepIfDue s.holds).cells ↔ (s.cache.IsDue → cell ∈ s.held) := by
    rw [mem_sweepIfDue, sound.holds_iff kept]
    exact and_iff_right kept
  rw [intern, intern_miss misses, cells_add, fresh_sweepIfDue]
  split
  · rw [List.mem_cons, or_iff_right old, swept]
  · exact swept

variable {value : α}

theorem sinceSweep_due (misses : s.cache.Misses value) (due : s.cache.IsDue) :
    sinceSweep (s.step (.ask value)).misses = ((s.cache.sweep s.holds).size, 1) := by
  rw [step, miss?, find?_eq_none.2 misses, if_pos due]
  rfl

theorem sinceSweep_early (misses : s.cache.Misses value) (early : ¬s.cache.IsDue) :
    sinceSweep (s.step (.ask value)).misses =
      ((sinceSweep s.misses).1, (sinceSweep s.misses).2 + 1) := by
  rw [step, miss?, find?_eq_none.2 misses, if_neg early]
  rfl

theorem of_hit (sound : s.Sound) {cell : Cell α} (found : s.cache.find? value = some cell) :
    (s.step (.ask value)).Sound := by
  rw [step, intern, intern_hit found, miss?, found]
  refine sound.of_held (List.cons_subset.2 ⟨?_, List.subset_append_right _ _⟩)
  exact List.mem_append_left _ (of_find? found).1

theorem cache_miss (misses : s.cache.Misses value) :
    (s.step (.ask value)).cache = ((s.cache.sweepIfDue s.holds).add value).2 := by
  rw [Interning.step, intern, intern_miss misses]

/-- The only new cell after a miss is in a place of its own. -/
theorem cells_miss (misses : s.cache.Misses value) :
    (s.step (.ask value)).cells ⊆ ⟨s.cache.fresh, value⟩ :: s.cells := by
  have given : (s.step (.ask value)).held = ⟨s.cache.fresh, value⟩ :: s.held := by
    rw [Interning.step, intern, intern_miss misses, cell_add, fresh_sweepIfDue]
  have swept : (s.cache.sweepIfDue s.holds).cells ⊆ s.cache.cells := cells_sweepIfDue.subset
  rw [cells, given, cache_miss misses, cells_add, fresh_sweepIfDue]
  intro cell member
  rcases List.mem_append.1 member with kept | held
  · split at kept
    · rcases List.mem_cons.1 kept with rfl | old
      · exact List.mem_cons_self
      · exact List.mem_cons_of_mem _ (List.mem_append_left _ (swept old))
    · exact List.mem_cons_of_mem _ (List.mem_append_left _ (swept kept))
  · rcases List.mem_cons.1 held with rfl | old
    · exact List.mem_cons_self
    · exact List.mem_cons_of_mem _ (List.mem_append_right _ old)

/-- A miss adds one to the cells and the uncached misses, after a sweep and without one. -/
theorem counted_miss (sound : s.Sound) (misses : s.cache.Misses value) :
    (s.step (.ask value)).cache.size + (s.step (.ask value)).cache.uncached =
      (sinceSweep (s.step (.ask value)).misses).1 + (sinceSweep (s.step (.ask value)).misses).2 := by
  rw [cache_miss misses, count_add]
  by_cases due : s.cache.IsDue
  · rw [sweepIfDue_of_due due, sinceSweep_due misses due]
    rfl
  · rw [sweepIfDue_of_early due, sinceSweep_early misses due, sound.counted]
    rfl

/-- The next sweep is set when one runs. -/
theorem scheduled_miss (sound : s.Sound) (misses : s.cache.Misses value) :
    (s.step (.ask value)).cache.sweepAt = (sinceSweep (s.step (.ask value)).misses).1 +
      sweepInterval (sinceSweep (s.step (.ask value)).misses).1 s.cache.capacity := by
  rw [cache_miss misses, sweepAt_add]
  by_cases due : s.cache.IsDue
  · rw [sweepIfDue_of_due due, sinceSweep_due misses due]
    rfl
  · rw [sweepIfDue_of_early due, sinceSweep_early misses due, sound.scheduled]

theorem of_miss (sound : s.Sound) (misses : s.cache.Misses value) :
    (s.step (.ask value)).Sound := by
  have swept : (s.cache.sweepIfDue s.holds).cells.Sublist s.cache.cells := cells_sweepIfDue
  have capacity : (s.step (.ask value)).cache.capacity = s.cache.capacity := by
    rw [cache_miss misses, capacity_add, capacity_sweepIfDue]
  have used : ∀ cell ∈ s.cells, cell.place ≠ s.cache.fresh := fun cell member =>
    (sound.used cell member).ne
  have since : (sinceSweep (s.step (.ask value)).misses).1 ≤ s.cache.capacity ∧
      0 < (sinceSweep (s.step (.ask value)).misses).2 ∧
      (sinceSweep (s.step (.ask value)).misses).2 ≤
        sweepInterval (sinceSweep (s.step (.ask value)).misses).1 s.cache.capacity := by
    by_cases due : s.cache.IsDue
    · rw [sinceSweep_due misses due]
      rw [sweepIfDue_of_due due] at swept
      exact ⟨swept.length_le.trans sound.size_le, Nat.one_pos, sweepInterval_pos _ _⟩
    · rw [sinceSweep_early misses due]
      have before := mt sound.isDue_iff.2 due
      exact ⟨sound.survivors_le, Nat.succ_pos _, lt_of_le_of_ne sound.since_le before⟩
  refine ⟨?_, ?_, ?_, ?_, counted_miss sound misses, ?_, ?_, ?_, fun _ => since.2.1⟩
  · rw [capacity, cache_miss misses, size, cells_add, capacity_sweepIfDue]
    split
    next room => exact room
    next => exact swept.length_le.trans sound.size_le
  · have old := sound.distinct.sublist (swept.map (·.value))
    rw [cache_miss misses, cells_add]
    split
    · refine List.nodup_cons.2 ⟨fun listed => ?_, old⟩
      obtain ⟨cell, member, same⟩ := List.mem_map.1 listed
      exact misses cell (swept.subset member) same
    · exact old
  · intro cell member
    rw [cache_miss misses, fresh_add, fresh_sweepIfDue]
    rcases List.mem_cons.1 (cells_miss misses member) with rfl | old
    · exact Nat.lt_succ_self _
    · exact (sound.used cell old).trans (Nat.lt_succ_self _)
  · intro a first b second same
    rcases List.mem_cons.1 (cells_miss misses first) with rfl | oldFirst <;>
      rcases List.mem_cons.1 (cells_miss misses second) with rfl | oldSecond
    · rfl
    · exact absurd same.symm (used b oldSecond)
    · exact absurd same (used a oldFirst)
    · exact sound.placed a oldFirst b oldSecond same
  · rw [capacity, scheduled_miss sound misses]
  · rw [capacity]
    exact since.1
  · rw [capacity]
    exact since.2.2

theorem step (sound : s.Sound) (e : InternEvent α) : (s.step e).Sound := by
  cases e with
  | ask value =>
    cases found : s.cache.find? value with
    | some cell => exact sound.of_hit found
    | none => exact sound.of_miss (find?_eq_none.1 found)
  | share cell =>
    rw [Interning.step]
    split
    next member =>
      exact sound.of_held (List.cons_subset.2
        ⟨List.mem_append_right _ member, List.subset_append_right _ _⟩)
    next => exact sound
  | release cell =>
    exact sound.of_held fun other member =>
      List.mem_append_right _ (List.mem_of_mem_erase member)

theorem run (sound : s.Sound) (events : List (InternEvent α)) : (s.run events).Sound := by
  induction events generalizing s with
  | nil => exact sound
  | cons e events ih => exact ih (sound.step e)

end Sound

theorem capacity_step (e : InternEvent α) : (s.step e).cache.capacity = s.cache.capacity := by
  cases e with
  | ask value =>
    cases found : s.cache.find? value with
    | some cell => rw [step, intern, intern_hit found]
    | none =>
      rw [Sound.cache_miss (find?_eq_none.1 found), capacity_add, capacity_sweepIfDue]
  | share cell =>
    rw [step]
    split <;> rfl
  | release cell => rfl

theorem capacity_run (events : List (InternEvent α)) :
    (s.run events).cache.capacity = s.cache.capacity := by
  induction events generalizing s with
  | nil => rfl
  | cons e events ih => exact ih.trans (capacity_step e)

/-- Only a sweep removes cells, and it removes those that nobody holds. -/
theorem Sound.removed_iff (sound : s.Sound) (e : InternEvent α) {cell : Cell α}
    (kept : cell ∈ s.cache.cells) : cell ∉ (s.step e).cache.cells ↔
      (∃ value, e = .ask value ∧ s.cache.Misses value ∧ s.cache.IsDue) ∧ cell ∉ s.held := by
  cases e with
  | ask value =>
    cases found : s.cache.find? value with
    | some hit =>
      have stays : cell ∈ (s.step (.ask value)).cache.cells := by
        rw [Interning.step, intern, intern_hit found]
        exact kept
      refine iff_of_false (not_not.2 stays) ?_
      rintro ⟨⟨_, same, misses, -⟩, -⟩
      cases same
      rw [find?_eq_none.2 misses] at found
      cases found
    | none =>
      have misses := find?_eq_none.1 found
      rw [Interning.step, sound.mem_intern misses kept, Classical.not_imp]
      constructor
      · rintro ⟨due, free⟩
        exact ⟨⟨value, rfl, misses, due⟩, free⟩
      · rintro ⟨⟨_, -, -, due⟩, free⟩
        exact ⟨due, free⟩
  | share other =>
    have stays : cell ∈ (s.step (.share other)).cache.cells := by
      rw [Interning.step]
      split <;> exact kept
    exact iff_of_false (not_not.2 stays) fun ⟨⟨_, same, _⟩, _⟩ => nomatch same
  | release other => exact iff_of_false (not_not.2 kept) fun ⟨⟨_, same, _⟩, _⟩ => nomatch same

/-- A kept cell stays while somebody holds it. -/
theorem Sound.mem_cells_run (sound : s.Sound) {cell : Cell α} (kept : cell ∈ s.cache.cells)
    {later : List (InternEvent α)} (held : ∀ p, p <+: later → cell ∈ (s.run p).held) :
    cell ∈ (s.run later).cache.cells := by
  induction later generalizing s with
  | nil => exact kept
  | cons e later ih =>
    refine ih (sound.step e) ?_ fun p front => held (e :: p) (List.cons_prefix_cons.2 ⟨rfl, front⟩)
    by_contra removed
    exact ((sound.removed_iff e kept).1 removed).2 (held [] List.nil_prefix)

/-- What a sweep removes makes room for the cell of its miss. -/
theorem Sound.kept_of_swept (sound : s.Sound) {value : α} {m : Miss}
    (record : s.cache.miss? s.holds value = some m) (swept : m.survivors ≠ none)
    (free : ∃ cell ∈ s.cache.cells, cell ∉ s.held) : m.kept = true := by
  obtain ⟨survivors, swept⟩ := Option.ne_none_iff_exists'.1 swept
  obtain ⟨due, rfl, kept⟩ := of_miss? record swept
  refine kept.2 (lt_of_lt_of_le ?_ sound.size_le)
  obtain ⟨cell, listed, free⟩ := free
  rw [← sweepIfDue_of_due due]
  refine lt_of_le_of_ne cells_sweepIfDue.length_le fun same => free ?_
  rw [← cells_sweepIfDue.eq_of_length same] at listed
  obtain ⟨listed, held⟩ := mem_sweepIfDue.1 listed
  exact (sound.holds_iff listed).1 (held due)

theorem step_misses (e : InternEvent α) : ∃ recent, (s.step e).misses = recent ++ s.misses ∧
    ∀ m ∈ recent, ∃ value, s.cache.miss? s.holds value = some m := by
  cases e with
  | ask value => exact ⟨_, rfl, fun m member => ⟨value, Option.mem_toList.1 member⟩⟩
  | share cell =>
    refine ⟨[], ?_, nofun⟩
    rw [step]
    split <;> rfl
  | release cell => exact ⟨[], rfl, nofun⟩

theorem run_misses (events : List (InternEvent α)) :
    ∃ recent, (s.run events).misses = recent ++ s.misses := by
  induction events generalizing s with
  | nil => exact ⟨[], rfl⟩
  | cons e events ih =>
    obtain ⟨first, here, -⟩ := step_misses (s := s) e
    obtain ⟨recent, later⟩ := ih (s := s.step e)
    exact ⟨recent ++ first, by rw [List.append_assoc, ← here]; exact later⟩

/-- What a run records comes from its first event and from the others. -/
theorem of_run_cons {e : InternEvent α} {later : List (InternEvent α)} {recent : List Miss}
    (recorded : (s.run (e :: later)).misses = recent ++ s.misses) : ∃ others first,
      recent = others ++ first ∧ ((s.step e).run later).misses = others ++ (s.step e).misses ∧
        ∀ m ∈ first, ∃ value, s.cache.miss? s.holds value = some m := by
  obtain ⟨first, here, records⟩ := step_misses (s := s) e
  obtain ⟨others, rest⟩ := run_misses (s := s.step e) later
  refine ⟨others, first, List.append_cancel_right (recorded.symm.trans ?_), rest, records⟩
  rw [List.append_assoc, ← here]
  exact rest

/-- While something could be removed before each event, but no miss keeps its cell, there is no sweep. -/
theorem Sound.quiet_run (sound : s.Sound) {later : List (InternEvent α)}
    (free : ∀ p e, p ++ [e] <+: later → ∃ cell ∈ (s.run p).cache.cells, cell ∉ (s.run p).held)
    {recent : List Miss} (recorded : (s.run later).misses = recent ++ s.misses)
    (unkept : ∀ m ∈ recent, m.kept = false) : ∀ m ∈ recent, m.survivors = none := by
  induction later generalizing s recent with
  | nil =>
    obtain rfl : recent = [] := List.self_eq_append_left.1 recorded
    exact nofun
  | cons e later ih =>
    obtain ⟨others, first, rfl, rest, records⟩ := of_run_cons recorded
    have onward := ih (sound.step e)
      (fun p next front => free (e :: p) next (List.cons_prefix_cons.2 ⟨rfl, front⟩)) rest
      fun m member => unkept m (List.mem_append_left _ member)
    intro m member
    rcases List.mem_append.1 member with late | now
    · exact onward m late
    · obtain ⟨value, record⟩ := records m now
      by_contra swept
      have before := free [] e (List.cons_prefix_cons.2 ⟨rfl, List.nil_prefix⟩)
      have kept := sound.kept_of_swept record swept before
      rw [unkept m member] at kept
      cases kept

/-- Cells that nobody holds do not keep new ones out for long. -/
theorem Sound.length_lt_of_unkept (sound : s.Sound) {later : List (InternEvent α)}
    (free : ∀ p e, p ++ [e] <+: later → ∃ cell ∈ (s.run p).cache.cells, cell ∉ (s.run p).held)
    {recent : List Miss} (recorded : (s.run later).misses = recent ++ s.misses)
    (unkept : ∀ m ∈ recent, m.kept = false) : recent.length < max s.cache.capacity 1 := by
  have quiet := sound.quiet_run free recorded unkept
  have bound := (sound.run later).since_le
  rw [recorded, sinceSweep_append quiet, capacity_run] at bound
  cases later with
  | nil =>
    obtain rfl : recent = [] := List.self_eq_append_left.1 recorded
    exact Nat.le_max_right _ 1
  | cons e later =>
    obtain ⟨cell, kept, -⟩ := free [] e (List.cons_prefix_cons.2 ⟨rfl, List.nil_prefix⟩)
    have counting := sound.since_pos (List.ne_nil_of_mem kept)
    have short := sweepInterval_le sound.survivors_le
    simp only at bound
    omega

theorem kept_iff_of_run {later : List (InternEvent α)} {recent : List Miss}
    (recorded : (s.run later).misses = recent ++ s.misses) : ∀ m ∈ recent, ∀ survivors,
      m.survivors = some survivors → (m.kept = true ↔ survivors < s.cache.capacity) := by
  induction later generalizing s recent with
  | nil =>
    obtain rfl : recent = [] := List.self_eq_append_left.1 recorded
    exact nofun
  | cons e later ih =>
    obtain ⟨others, first, rfl, rest, records⟩ := of_run_cons recorded
    intro m member survivors swept
    rcases List.mem_append.1 member with late | now
    · rw [← capacity_step e]
      exact ih rest m late survivors swept
    · obtain ⟨value, record⟩ := records m now
      exact (of_miss? record swept).2.2

/-- So many misses do not go by without a sweep. -/
theorem Sound.exists_sweep (sound : s.Sound) {later : List (InternEvent α)} {recent : List Miss}
    (recorded : (s.run later).misses = recent ++ s.misses)
    (many : max s.cache.capacity 1 < recent.length) : ∃ m ∈ recent, m.survivors ≠ none := by
  by_contra quiet
  push Not at quiet
  have bound := (sound.run later).since_le
  rw [recorded, sinceSweep_append quiet, capacity_run] at bound
  have short := sweepInterval_le sound.survivors_le
  simp only at bound
  omega

/-- What a cache does to its holders, whatever they do. It gives out cells of the values asked for. It keeps
no more cells than it may, no two of one value, and gives a kept cell out again while somebody holds it.
A miss keeps its cell exactly if there is room for it, after a sweep if one is due. Only sweeps remove
cells, and they remove those that nobody holds. A miss runs a sweep when the interval that the last sweep
set is over. Among more misses than the cache may keep cells one runs a sweep, and keeps its cell but
where the sweep has left the cache full. So cells that nobody holds keep new ones out for fewer misses than
the cache may keep cells. -/
theorem run_shares_and_sweeps (capacity : Nat) (events : List (InternEvent α)) :
    let s := (start α capacity).run events
    (∀ value, (s.intern value).1.value = value) ∧
    (s.cache.size ≤ capacity ∧ (s.cache.cells.map (·.value)).Nodup) ∧
    (∀ cell ∈ s.cache.cells, ∀ later, (∀ p, p <+: later → cell ∈ (s.run p).held) →
      ((s.run later).intern cell.value).1 = cell) ∧
    (∀ value, s.cache.Misses value → ((s.intern value).1 ∈ (s.intern value).2.cells ↔
      (s.cache.cells.filter fun cell => s.cache.IsDue → cell ∈ s.held).length < capacity)) ∧
    (∀ e, ∀ cell ∈ s.cache.cells, cell ∉ (s.step e).cache.cells ↔
      (∃ value, e = .ask value ∧ s.cache.Misses value ∧ s.cache.IsDue) ∧ cell ∉ s.held) ∧
    (s.cache.IsDue ↔
      (sinceSweep s.misses).2 = sweepInterval (sinceSweep s.misses).1 capacity) ∧
    (∀ later recent, (s.run later).misses = recent ++ s.misses →
      max capacity 1 < recent.length → ∃ m ∈ recent, ∃ survivors,
        m.survivors = some survivors ∧ (m.kept = true ↔ survivors < capacity)) ∧
    ∀ later recent, (s.run later).misses = recent ++ s.misses →
      (∀ p e, p ++ [e] <+: later → ∃ cell ∈ (s.run p).cache.cells, cell ∉ (s.run p).held) →
      (∀ m ∈ recent, m.kept = false) → recent.length < max capacity 1 := by
  intro s
  have sound : s.Sound := (sound_start capacity).run events
  have bounded : s.cache.capacity = capacity := capacity_run events
  refine ⟨fun value => value_intern, ⟨bounded ▸ sound.size_le, sound.distinct⟩, ?_, ?_,
    fun e cell => sound.removed_iff e, bounded ▸ sound.isDue_iff, ?_, ?_⟩
  · intro cell kept later held
    have stays := sound.mem_cells_run kept held
    rw [intern, intern_hit (find?_value (sound.run later).distinct stays)]
  · intro value misses
    rw [intern, kept_intern misses, bounded, sound.size_sweepIfDue]
  · intro later recent recorded many
    obtain ⟨m, member, swept⟩ := sound.exists_sweep recorded (bounded.symm ▸ many)
    obtain ⟨survivors, left⟩ := Option.ne_none_iff_exists'.1 swept
    exact ⟨m, member, survivors, left, bounded ▸ kept_iff_of_run recorded m member survivors left⟩
  · intro later recent recorded free unkept
    exact bounded ▸ sound.length_lt_of_unkept free recorded unkept

/-- In a cache for two cells, a value keeps its cell while one of two holders is left. When both are gone,
a third value gets room. -/
theorem released_makes_room :
    let s := (start Nat 2).run [.ask 5, .ask 6, .share ⟨0, 5⟩, .release ⟨0, 5⟩]
    let t := (start Nat 2).run [.ask 5, .ask 6, .share ⟨0, 5⟩, .release ⟨0, 5⟩, .release ⟨0, 5⟩]
    ⟨0, 5⟩ ∈ s.cache.cells ∧ (s.intern 5).1 = ⟨0, 5⟩ ∧
      ⟨0, 5⟩ ∉ (t.step (.ask 7)).cache.cells ∧ (t.intern 7).1 ∈ (t.intern 7).2.cells := by
  intro s t
  obtain ⟨-, -, shares, -⟩ :=
    run_shares_and_sweeps 2 [.ask 5, .ask 6, .share (⟨0, 5⟩ : Cell Nat), .release ⟨0, 5⟩]
  obtain ⟨-, -, -, keeps, sweeps, -⟩ := run_shares_and_sweeps 2
    [.ask 5, .ask 6, .share (⟨0, 5⟩ : Cell Nat), .release ⟨0, 5⟩, .release ⟨0, 5⟩]
  have kept : ⟨0, 5⟩ ∈ s.cache.cells := by decide
  refine ⟨kept, ?_, ?_, ?_⟩
  · refine shares ⟨0, 5⟩ kept [] fun p front => ?_
    obtain rfl := List.prefix_nil.1 front
    decide
  · exact (sweeps (.ask 7) ⟨0, 5⟩ (by decide)).2 ⟨⟨7, rfl, by decide, by decide⟩, by decide⟩
  · exact (keeps 7 (by decide)).2 (by decide)

end Events

end Interning

end RoutePlane
