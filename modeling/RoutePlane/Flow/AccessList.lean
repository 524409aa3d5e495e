import RoutePlane.Address.Prefix
import RoutePlane.Flow.Basic

/-!
Access lists: lines of header spaces, of which the first that matches a flow decides. A flow that no
line matches is rejected.
-/
namespace RoutePlane

/-- What happens to what matches; also the action of route maps. -/
inductive LineAction where
  | accept
  | reject
  deriving DecidableEq, Inhabited

/-- Headers a line matches. Every field is a choice, and an empty field matches everything. -/
structure HeaderSpace where
  sources : List Prefix := []
  destinations : List Prefix := []
  protocols : List IpProtocol := []
  destinationPorts : List Range := []
  sourcePorts : List Range := []
  deriving DecidableEq, Inhabited

namespace HeaderSpace

def anyOrNone {α : Type} (choices : List α) (test : α → Bool) : Bool :=
  choices.isEmpty || choices.any test

def covers (h : HeaderSpace) (f : Flow) : Bool :=
  anyOrNone h.sources (·.containsAddress f.source)
    && anyOrNone h.destinations (·.containsAddress f.destination)
    && anyOrNone h.protocols (· == f.protocol)
    && anyOrNone h.destinationPorts (·.contains f.destinationPort.toNat)
    && anyOrNone h.sourcePorts (·.contains f.sourcePort.toNat)

end HeaderSpace

namespace AccessList

structure Line where
  name : Option String := none
  action : LineAction
  headers : HeaderSpace := {}
  deriving DecidableEq

/-- The action on a flow and the line that decided, if one did. -/
structure Verdict where
  action : LineAction
  line : Option Nat
  deriving DecidableEq

end AccessList

structure AccessList where
  name : String
  lines : List AccessList.Line
  deriving DecidableEq

namespace AccessList

def filter (list : AccessList) (f : Flow) : Verdict :=
  match list.lines.findIdx? (·.headers.covers f) with
  | none => ⟨.reject, none⟩
  | some i => ⟨((list.lines[i]?).map (·.action)).getD .reject, some i⟩

def describe (list : AccessList) : Option Nat → String
  | none => "no-match"
  | some i => (list.lines[i]?.bind (·.name)).getD s!"line:{Numeral.render i}"

end AccessList

end RoutePlane
