import RoutePlane.Configuration.Basic
import RoutePlane.Flow.Link

/-!
What follows from the configurations alone: which interfaces are linked, which addresses belong to
whom, and through which interfaces flows leave the network. None of it changes while routes
converge.
-/
namespace RoutePlane

/-- The links, in the order of their discovery and without repeats. -/
structure Topology where
  links : List Link
  deriving DecidableEq

namespace Topology

/-- The network of an interface that can have links: it is up, no loopback, and its network has room
for others. -/
def sharedNetwork? (i : Interface) : Option Prefix :=
  if i.active && !i.loopback then i.network?.filter (·.length ≠ 32) else none

/-- The linkable interfaces of a device with their networks. -/
def attachments (c : Configuration) : List (Prefix × InterfaceId) :=
  c.interfaces.toList.filterMap fun (name, i) =>
    (sharedNetwork? i).map fun network => (network, ⟨c.hostname, name⟩)

/-- The interfaces on each network, in the order of the configurations. -/
def segments (configurations : List Configuration) : SortedMap Prefix (List InterfaceId) :=
  (configurations.flatMap attachments).foldl
    (fun segments (network, i) => segments.alter network (·.getD [] ++ [i])) .empty

def linksAmong (members : List InterfaceId) : List Link :=
  members.flatMap fun a => (members.filter (·.node ≠ a.node)).map fun b => ⟨a, b⟩

/-- Two interfaces of different nodes are linked, both ways, if they are on one network. -/
def ofConfigurations (configurations : List Configuration) : Topology :=
  ⟨((segments configurations).values.flatMap linksAmong).foldl
    (fun links l => if l ∈ links then links else links ++ [l]) []⟩

/-- The links that leave an interface, the latest first. -/
def linksFrom (t : Topology) (i : InterfaceId) : List Link :=
  (t.links.filter (·.source == i)).reverse

def hasLinks (t : Topology) (i : InterfaceId) : Bool := t.links.any (·.source == i)

def size (t : Topology) : Nat := t.links.length

end Topology

/-- For each address the nodes that own it, with the VRFs that they own it in. -/
structure Owners where
  byAddress : SortedMap Address (SortedMap String (SortedSet String))
  deriving DecidableEq

namespace Owners

def record (o : Owners) (a : Address) (node vrf : String) : Owners :=
  ⟨o.byAddress.alter a fun nodes =>
    (nodes.getD .empty).alter node fun vrfs => (vrfs.getD .empty).insert vrf⟩

/-- The addresses of a device, with their VRFs; interfaces that are down own nothing. -/
def holdings (c : Configuration) : List (Address × String) :=
  c.interfaces.values.filterMap fun i =>
    if i.active then i.host?.map fun a => (a, i.vrf) else none

def ofConfigurations (configurations : List Configuration) : Owners :=
  configurations.foldl
    (fun o c => (holdings c).foldl (fun o (a, vrf) => o.record a c.hostname vrf) o) ⟨.empty⟩

/-- The VRFs of each node that owns the address. -/
def holders (o : Owners) (a : Address) : List (String × SortedSet String) :=
  ((o.byAddress.get? a).map (·.toList)).getD []

def nodes (o : Owners) (a : Address) : List String := (o.holders a).map (·.1)

def nodesAndVrfs (o : Owners) (a : Address) : List (String × String) :=
  (o.holders a).flatMap fun (node, vrfs) => vrfs.toList.map fun vrf => (node, vrf)

def owns (o : Owners) (a : Address) (node : String) : Bool := (o.nodes a).contains node

def ownsIn (o : Owners) (a : Address) (node vrf : String) : Bool :=
  (o.nodesAndVrfs a).contains (node, vrf)

end Owners

/-- The interfaces through which flows leave the network: up, no loopback, with an address, and without
links. -/
def flowSinks (configurations : List Configuration) (t : Topology) : SortedSet InterfaceId :=
  .ofList (configurations.flatMap fun c =>
    c.interfaces.toList.filterMap fun (name, i) =>
      if i.active && !i.loopback && i.address.isSome && !t.hasLinks ⟨c.hostname, name⟩ then
        some ⟨c.hostname, name⟩
      else none)

end RoutePlane
