import RoutePlane.Configuration.Format
import RoutePlane.Network.Basic

/-!
Snapshots: networks as JSON texts. A snapshot lists the devices and the announcements from outside;
the settings of a computation are not part of it.
-/
namespace RoutePlane

namespace Network

def toSnapshot (n : Network) : Json := .object [
  ("configurations", toJson n.configurations.values),
  ("external_announcements", toJson n.announcements)]

def ofSnapshot? (j : Json) : Option Network := do
  let r ← j.record? ["configurations", "external_announcements"]
  let configurations : List Configuration ← r.required "configurations"
  let announcements : List Announcement ← r.withDefault "external_announcements" []
  pure { ofConfigurations configurations with announcements := announcements }

def snapshotText (n : Network) : String := n.toSnapshot.pretty

def ofText? (text : String) : Option Network := (Json.parse? text).bind ofSnapshot?

end Network

namespace Statistics

def toJson (s : Statistics) : Json := .object [
  ("ospf_internal_iterations", .nat s.ospfInternal),
  ("dependent_routes_iterations", .nat s.rounds),
  ("bgp_iterations", RoutePlane.toJson s.bgp),
  ("total_routes", .nat s.totalRoutes)]

end Statistics

end RoutePlane
