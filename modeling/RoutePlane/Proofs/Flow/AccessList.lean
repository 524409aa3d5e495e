import Mathlib.Data.List.Basic
import RoutePlane.Flow.AccessList

/-! Access lists and the spelling of protocols. The first line that holds the flow decides, and among its
protocols a line looks for the spelling of the flow, although a number with a name has two. So a line can
miss a flow with a number that it lists, and the verdict is the one by number only if the first line with
the number has the spelling, too. -/
namespace RoutePlane

open IpProtocol (ofNumber)

namespace IpProtocol

def SameNumber (p q : IpProtocol) : Prop := p.number = q.number

def numbered (p : IpProtocol) : IpProtocol := .other p.number

theorem numbered_inj {p q : IpProtocol} : p.numbered = q.numbered ↔ p.SameNumber q :=
  other.injEq _ _ ▸ Iff.rfl

/-- The spelling with a name, where the number has one. -/
def named (p : IpProtocol) : IpProtocol := ofNumber p.number

theorem number_ofNumber (n : UInt8) : (ofNumber n).number = n := by
  unfold ofNumber
  split_ifs with icmp tcp udp
  · exact icmp.symm
  · exact tcp.symm
  · exact udp.symm
  · rfl

theorem eq_of_nameless {p q : IpProtocol} (nameless : p.named = p.numbered) (same : q.SameNumber p) :
    q = p := by
  have single (r : IpProtocol) (nameless : r.named = r.numbered) : r = r.numbered := by
    cases r with
    | other n => rfl
    | icmp | tcp | udp => cases nameless
  have other : q.named = q.numbered := by
    rw [named, numbered, same]
    exact nameless
  rw [single q other, single p nameless, numbered_inj.2 same]

end IpProtocol

open IpProtocol (SameNumber)

def Flow.numbered (f : Flow) : Flow := { f with protocol := f.protocol.numbered }

namespace HeaderSpace

variable {same : IpProtocol → IpProtocol → Prop} {h : HeaderSpace} {f : Flow}

/-- Every field is empty or has a choice for the flow, which is a protocol that counts as the same. -/
structure Holds (same : IpProtocol → IpProtocol → Prop) (h : HeaderSpace) (f : Flow) : Prop where
  source : h.sources = [] ∨ ∃ p ∈ h.sources, p.containsAddress f.source = true
  destination : h.destinations = [] ∨ ∃ p ∈ h.destinations, p.containsAddress f.destination = true
  protocol : h.protocols = [] ∨ ∃ p ∈ h.protocols, same p f.protocol
  destinationPort : h.destinationPorts = [] ∨ ∃ r ∈ h.destinationPorts,
    r.first ≤ f.destinationPort.toNat ∧ f.destinationPort.toNat ≤ r.last
  sourcePort : h.sourcePorts = [] ∨ ∃ r ∈ h.sourcePorts,
    r.first ≤ f.sourcePort.toNat ∧ f.sourcePort.toNat ≤ r.last

theorem anyOrNone_iff {α : Type} {choices : List α} {test : α → Bool} :
    anyOrNone choices test = true ↔ choices = [] ∨ ∃ c ∈ choices, test c = true := by
  simp [anyOrNone]

theorem covers_iff : h.covers f = true ↔ h.Holds (· = ·) f := by
  simp only [covers, Bool.and_eq_true, anyOrNone_iff, beq_iff_eq, Range.contains, decide_eq_true_eq]
  constructor
  · rintro ⟨⟨⟨⟨source, destination⟩, protocol⟩, destinationPort⟩, sourcePort⟩
    exact ⟨source, destination, protocol, destinationPort, sourcePort⟩
  · rintro ⟨source, destination, protocol, destinationPort, sourcePort⟩
    exact ⟨⟨⟨⟨source, destination⟩, protocol⟩, destinationPort⟩, sourcePort⟩

/-- No protocols are listed, or the one of the flow is, as it is spelled. -/
def Spells (h : HeaderSpace) (f : Flow) : Prop := h.protocols = [] ∨ f.protocol ∈ h.protocols

theorem holds_spelled_iff : h.Holds (· = ·) f ↔ h.Holds SameNumber f ∧ h.Spells f := by
  have listed : f.protocol ∈ h.protocols ↔ ∃ p ∈ h.protocols, p = f.protocol := by simp
  constructor
  · intro held
    refine ⟨{ held with protocol := held.protocol.imp_right ?_ }, held.protocol.imp_right listed.2⟩
    rintro ⟨p, member, same⟩
    exact ⟨p, member, congrArg IpProtocol.number same⟩
  · rintro ⟨held, spelled⟩
    exact { held with protocol := spelled.imp_right listed.1 }

def respelled (respell : IpProtocol → IpProtocol) (h : HeaderSpace) : HeaderSpace :=
  { h with protocols := h.protocols.map respell }

end HeaderSpace

namespace AccessList

variable {same : IpProtocol → IpProtocol → Prop} {list list' : AccessList} {f f' : Flow} {i j : Nat}
  {line line' : Line} {v w : Verdict} {respell : IpProtocol → IpProtocol}

def Line.respelled (respell : IpProtocol → IpProtocol) (line : Line) : Line :=
  { line with headers := line.headers.respelled respell }

def respelled (respell : IpProtocol → IpProtocol) (list : AccessList) : AccessList :=
  { list with lines := list.lines.map (·.respelled respell) }

/-- Two lists with the same numbered form differ in the spelling of protocols only. -/
def numbered (list : AccessList) : AccessList := list.respelled IpProtocol.numbered

theorem numbered_respelled (keeps : ∀ p, (respell p).number = p.number) :
    (list.respelled respell).numbered = list.numbered := by
  have one (p : IpProtocol) : (respell p).numbered = p.numbered :=
    congrArg IpProtocol.other (keeps p)
  simp [numbered, respelled, Line.respelled, HeaderSpace.respelled, one]

structure IsFirst (list : AccessList) (same : IpProtocol → IpProtocol → Prop) (f : Flow) (i : Nat)
    (line : Line) : Prop where
  here : list.lines[i]? = some line
  holds : line.headers.Holds same f
  before : ∀ j < i, ∀ other, list.lines[j]? = some other → ¬other.headers.Holds same f

/-- The verdict is that of the first line that holds the flow, or a rejection without one. -/
inductive Judges (list : AccessList) (same : IpProtocol → IpProtocol → Prop) (f : Flow) :
    Verdict → Prop
  | line {i : Nat} {line : Line} (first : list.IsFirst same f i line) :
      Judges list same f ⟨line.action, some i⟩
  | noLine (free : ∀ line ∈ list.lines, ¬line.headers.Holds same f) :
      Judges list same f ⟨.reject, none⟩

theorem IsFirst.eq (first : list.IsFirst same f i line) (other : list.IsFirst same f j line') :
    i = j ∧ line = line' := by
  obtain rfl : i = j := by
    rcases Nat.lt_trichotomy i j with lt | eq | gt
    · exact absurd first.holds (other.before i lt _ first.here)
    · exact eq
    · exact absurd other.holds (first.before j gt _ other.here)
  exact ⟨rfl, Option.some.inj (first.here.symm.trans other.here)⟩

theorem IsFirst.mem (first : list.IsFirst same f i line) : line ∈ list.lines :=
  List.mem_of_getElem? first.here

theorem Judges.eq (first : list.Judges same f v) (second : list.Judges same f w) : v = w := by
  cases first with
  | line first =>
    cases second with
    | line other =>
      obtain ⟨rfl, rfl⟩ := first.eq other
      rfl
    | noLine free => exact absurd first.holds (free _ first.mem)
  | noLine free =>
    cases second with
    | line first => exact absurd first.holds (free _ first.mem)
    | noLine _ => rfl

/-- A list has the verdict of the first line, as protocols are spelled. -/
theorem judges_filter (list : AccessList) (f : Flow) : list.Judges (· = ·) f (list.filter f) := by
  unfold filter
  cases found : list.lines.findIdx? (·.headers.covers f) with
  | none =>
    refine .noLine fun line member holds => ?_
    have missed := List.findIdx?_eq_none_iff.1 found line member
    exact Bool.false_ne_true (missed.symm.trans (HeaderSpace.covers_iff.2 holds))
  | some i =>
    obtain ⟨bound, covered, before⟩ := List.findIdx?_eq_some_iff_getElem.1 found
    have here : list.lines[i]? = some list.lines[i] := List.getElem?_eq_getElem bound
    show list.Judges (· = ·) f ⟨((list.lines[i]?).map (·.action)).getD .reject, some i⟩
    rw [here]
    refine .line ⟨here, HeaderSpace.covers_iff.1 covered, fun j lt other at_ holds => ?_⟩
    obtain ⟨within, rfl⟩ := List.getElem?_eq_some_iff.1 at_
    exact before j lt (HeaderSpace.covers_iff.2 holds)

theorem judges_iff : list.Judges (· = ·) f v ↔ v = list.filter f :=
  ⟨fun judged => judged.eq (list.judges_filter f), fun same => same ▸ list.judges_filter f⟩

/-- The first line by number is the first one by spelling, if it has the spelling. -/
theorem IsFirst.spelled (first : list.IsFirst SameNumber f i line) (spells : line.headers.Spells f) :
    list.IsFirst (· = ·) f i line where
  here := first.here
  holds := HeaderSpace.holds_spelled_iff.2 ⟨first.holds, spells⟩
  before j lt other here holds :=
    first.before j lt other here (HeaderSpace.holds_spelled_iff.1 holds).1

theorem holds_numbered_iff : (line.respelled IpProtocol.numbered).headers.Holds (· = ·) f.numbered ↔
    line.headers.Holds SameNumber f := by
  have protocols : (∃ p ∈ line.headers.protocols.map IpProtocol.numbered, p = f.protocol.numbered) ↔
      ∃ p ∈ line.headers.protocols, p.SameNumber f.protocol := by
    simp only [List.mem_map, exists_exists_and_eq_and, IpProtocol.numbered_inj]
  have empty : line.headers.protocols.map IpProtocol.numbered = [] ↔ line.headers.protocols = [] :=
    List.map_eq_nil_iff
  constructor
  · intro held
    exact { held with protocol := held.protocol.imp empty.1 protocols.1 }
  · intro held
    exact { held with protocol := held.protocol.imp empty.2 protocols.2 }

/-- By number the lines decide like those of the numbered form by spelling. -/
theorem isFirst_numbered_iff : list.numbered.IsFirst (· = ·) f.numbered i line' ↔
    ∃ line, list.IsFirst SameNumber f i line ∧ line' = line.respelled IpProtocol.numbered := by
  have lookup (k : Nat) : list.numbered.lines[k]? =
      (list.lines[k]?).map (·.respelled IpProtocol.numbered) := List.getElem?_map ..
  constructor
  · rintro ⟨here, holds, before⟩
    rw [lookup] at here
    obtain ⟨line, found, rfl⟩ := Option.map_eq_some_iff.1 here
    refine ⟨line, ⟨found, holds_numbered_iff.1 holds, fun j lt other place held => ?_⟩, rfl⟩
    exact before j lt _ (by rw [lookup, place, Option.map_some]) (holds_numbered_iff.2 held)
  · rintro ⟨line, ⟨here, holds, before⟩, rfl⟩
    refine ⟨by rw [lookup, here, Option.map_some], holds_numbered_iff.2 holds, ?_⟩
    intro j lt other place held
    rw [lookup] at place
    obtain ⟨other, found, rfl⟩ := Option.map_eq_some_iff.1 place
    exact before j lt other found (holds_numbered_iff.1 held)

theorem judges_number_iff : list.Judges SameNumber f v ↔ v = list.numbered.filter f.numbered := by
  rw [← judges_iff]
  constructor
  · rintro (@⟨i, line, first⟩ | free)
    · have judged := Judges.line (isFirst_numbered_iff.2 ⟨line, first, rfl⟩)
      exact judged
    · refine .noLine fun form member => ?_
      obtain ⟨line, listed, rfl⟩ := List.mem_map.1 member
      exact mt holds_numbered_iff.1 (free line listed)
  · rintro (first | free)
    · obtain ⟨line, own, rfl⟩ := isFirst_numbered_iff.1 first
      have judged := Judges.line own
      exact judged
    · refine .noLine fun line member holds => ?_
      exact free _ (List.mem_map_of_mem member) (holds_numbered_iff.2 holds)

theorem Judges.exists_isFirst (judged : list.Judges same f v) (place : v.line = some i) :
    ∃ line, list.IsFirst same f i line := by
  cases judged with
  | line first =>
    obtain rfl := Option.some.inj place
    exact ⟨_, first⟩
  | noLine => cases place

/-- The verdict is the one by number exactly if the first line by number has the spelling. -/
theorem judges_filter_by_number_iff : list.Judges SameNumber f (list.filter f) ↔
    ∀ i line, list.IsFirst SameNumber f i line → line.headers.Spells f := by
  constructor
  · intro judged i line first
    have verdict := judged.eq (.line first)
    obtain ⟨spelled, own⟩ :=
      (list.judges_filter f).exists_isFirst (congrArg Verdict.line verdict)
    obtain rfl := Option.some.inj (first.here.symm.trans own.here)
    exact (HeaderSpace.holds_spelled_iff.1 own.holds).2
  · intro spells
    obtain ⟨v, number⟩ : ∃ v, list.Judges SameNumber f v := ⟨_, judges_number_iff.2 rfl⟩
    have spelled : list.Judges (· = ·) f v := by
      cases number with
      | line first => exact .line (first.spelled (spells _ _ first))
      | noLine free =>
        exact .noLine fun line member holds =>
          free line member (HeaderSpace.holds_spelled_iff.1 holds).1
    exact judges_iff.1 spelled ▸ number

/-- The verdict stays the same however the protocols of the lines and of the flow are spelled. -/
def IgnoresSpelling (list : AccessList) (f : Flow) : Prop :=
  ∀ (other : AccessList) (g : Flow), other.numbered = list.numbered → g.numbered = f.numbered →
    other.filter g = list.filter f

/-- Every spelling has the first line by number in the same place. -/
theorem IsFirst.respelled (first : list.IsFirst SameNumber f i line)
    (lists : list.numbered = list'.numbered) (flows : f.numbered = f'.numbered) :
    ∃ line', list'.IsFirst SameNumber f' i line' ∧
      line.respelled IpProtocol.numbered = line'.respelled IpProtocol.numbered := by
  refine isFirst_numbered_iff.1 ?_
  rw [← lists, ← flows]
  exact isFirst_numbered_iff.2 ⟨line, first, rfl⟩

/-- If the number has a name, the first line by number lists no protocols, for the flow by number passes a
line of names. -/
theorem IgnoresSpelling.protocols (ignores : list.IgnoresSpelling f)
    (first : list.IsFirst SameNumber f i line) (name : f.protocol.named ≠ f.protocol.numbered) :
    line.headers.protocols = [] := by
  have lists : (list.respelled IpProtocol.named).numbered = list.numbered :=
    numbered_respelled fun p => IpProtocol.number_ofNumber p.number
  have flows : f.numbered.numbered = f.numbered := rfl
  have again : list.numbered.numbered = list.numbered := numbered_respelled fun _ => rfl
  have same := (ignores _ _ lists flows).trans (ignores _ _ again flows).symm
  have number : (list.respelled IpProtocol.named).Judges SameNumber f.numbered
      ((list.respelled IpProtocol.named).filter f.numbered) := by
    rw [judges_number_iff, lists, flows]
    exact same
  obtain ⟨line', first', -⟩ := first.respelled lists.symm flows.symm
  have place : (list.respelled IpProtocol.named).lines[i]? =
      some (line.respelled IpProtocol.named) := by
    rw [AccessList.respelled, List.getElem?_map, first.here, Option.map_some]
  obtain rfl := Option.some.inj (place.symm.trans first'.here)
  rcases judges_filter_by_number_iff.1 number i _ first' with none | listed
  · exact List.map_eq_nil_iff.1 none
  · obtain ⟨p, -, spelled⟩ := List.mem_map.1 listed
    refine absurd ?_ name
    have number : f.protocol.number = p.number := by
      have same := congrArg IpProtocol.number spelled
      exact same.symm.trans (IpProtocol.number_ofNumber p.number)
    rw [IpProtocol.named, number]
    exact spelled

/-- Spelling does not matter exactly if the first line by number lists no protocols, or the number of the
flow has no name. -/
theorem ignoresSpelling_iff : list.IgnoresSpelling f ↔ ∀ i line,
    list.IsFirst SameNumber f i line → line.headers.protocols = [] ∨
      f.protocol.named = f.protocol.numbered := by
  refine ⟨fun ignores i line first => or_iff_not_imp_right.2 (ignores.protocols first),
    fun decided => ?_⟩
  suffices all : ∀ (other : AccessList) (g : Flow), other.numbered = list.numbered →
      g.numbered = f.numbered → other.filter g = list.numbered.filter f.numbered by
    intro other g lists flows
    rw [all other g lists flows, all list f rfl rfl]
  intro other g lists flows
  rw [← lists, ← flows, ← judges_number_iff, judges_filter_by_number_iff]
  intro i line first
  obtain ⟨line', own, same⟩ := first.respelled lists flows
  have protocols : line.headers.protocols.map IpProtocol.numbered =
      line'.headers.protocols.map IpProtocol.numbered :=
    congrArg (fun line : Line => line.headers.protocols) same
  have number : g.protocol.SameNumber f.protocol :=
    IpProtocol.numbered_inj.1 (congrArg Flow.protocol flows)
  rcases decided i line' own with none | nameless
  · rw [none, List.map_nil, List.map_eq_nil_iff] at protocols
    exact .inl protocols
  · refine first.holds.protocol.imp_right ?_
    rintro ⟨p, listed, same⟩
    rw [IpProtocol.eq_of_nameless nameless number,
      ← IpProtocol.eq_of_nameless nameless (Eq.trans same number)]
    exact listed

/-- An access list gives a flow the verdict of the first line that holds it with its protocol as spelled.
That is the verdict by number exactly if the first line by number lists no protocols or lists that of the
flow as spelled, and it is that for all spellings exactly if this line lists no protocols or the number
of the flow has no name. -/
theorem verdict_goes_by_spelling (list : AccessList) (f : Flow) :
    (∀ v, list.Judges (· = ·) f v ↔ v = list.filter f) ∧
    ((∀ v, list.Judges SameNumber f v ↔ v = list.filter f) ↔
      ∀ i line, list.IsFirst SameNumber f i line →
        line.headers.protocols = [] ∨ f.protocol ∈ line.headers.protocols) ∧
    (list.IgnoresSpelling f ↔ ∀ i line, list.IsFirst SameNumber f i line →
      line.headers.protocols = [] ∨ f.protocol.named = f.protocol.numbered) := by
  refine ⟨fun v => judges_iff, ?_, ignoresSpelling_iff⟩
  refine Iff.trans ?_ judges_filter_by_number_iff
  refine ⟨fun all => (all _).2 rfl, fun judged v => ?_⟩
  exact ⟨fun other => other.eq judged, fun same => same ▸ judged⟩

def sixth : AccessList where
  name := "sixth"
  lines := [{ action := .accept, headers := { protocols := [.other 6] } }]

/-- A flow of that protocol is rejected, other than by the list with the name. -/
theorem number_goes_unseen :
    (¬∀ (list : AccessList) (f : Flow), list.IgnoresSpelling f) ∧
      ¬∀ (list : AccessList) (f : Flow), list.Judges SameNumber f (list.filter f) := by
  let flow : Flow :=
    { ingressNode := "r", source := .ofOctets 1 1 1 1, destination := .ofOctets 2 2 2 2 }
  refine ⟨fun all => ?_, fun all => ?_⟩
  · have same := all sixth flow (sixth.respelled IpProtocol.named) flow rfl rfl
    revert same
    decide
  · have same := judges_number_iff.1 (all sixth flow)
    revert same
    decide

end AccessList

end RoutePlane
