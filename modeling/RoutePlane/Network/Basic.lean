import RoutePlane.Router.Basic

/-!
The input of a computation: devices, announcements from outside, and limits for its loops.
-/
namespace RoutePlane

structure ComputeSettings where
  /-- Limit of the loop over rounds of dependent routes. -/
  maxOuter : Nat := 100
  /-- Limit of every other loop. -/
  maxInner : Nat := 10000
  /-- Whether the routers of a step may run at the same time. Results do not depend on it. -/
  parallel : Bool := true
  threads : Option Nat := none
  deriving DecidableEq, Inhabited

/-- Devices under their names. -/
@[ext]
structure Network where
  configurations : SortedMap String Configuration := .empty
  named : ∀ b ∈ configurations.toList, b.2.hostname = b.1 := by nofun
  announcements : List Announcement := []
  settings : ComputeSettings := {}
  deriving DecidableEq

namespace Network

theorem named_insert (n : Network) (c : Configuration) :
    ∀ b ∈ (n.configurations.insert c.hostname c).toList, b.2.hostname = b.1 := by
  intro b member
  rcases SortedMap.key_of_mem_insertInto member with rfl | old
  · rfl
  · exact n.named b old

def addConfiguration (n : Network) (c : Configuration) : Network :=
  { n with
    configurations := n.configurations.insert c.hostname c
    named := n.named_insert c }

def addAnnouncement (n : Network) (a : Announcement) : Network :=
  { n with announcements := n.announcements ++ [a] }

/-- Of several devices with one name the last one counts. -/
def ofConfigurations (configurations : List Configuration) : Network :=
  configurations.foldl addConfiguration {}

end Network

/-- How often the loops ran, and how many routes the main tables hold. -/
structure Statistics where
  ospfInternal : Nat := 0
  rounds : Nat := 0
  /-- Steps of the BGP loop, by the number of the round. -/
  bgp : List (Nat × Nat) := []
  totalRoutes : Nat := 0
  deriving DecidableEq

/-- The converged network. -/
structure DataPlane where
  fabric : Fabric
  sinks : SortedSet InterfaceId
  routers : List Router
  statistics : Statistics
  deriving DecidableEq

end RoutePlane
