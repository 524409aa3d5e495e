import RoutePlane.DataPlane.Report
import RoutePlane.Interning.Holders
import RoutePlane.Main
import RoutePlane.Proofs.DataPlane.Exploration
import RoutePlane.Proofs.Network.Displacement
import RoutePlane.Proofs.Network.NextRound
import RoutePlane.Proofs.Network.ShortestPaths
import RoutePlane.Proofs.Network.Support
import RoutePlane.Proofs.Router.Previous
import RoutePlane.Proofs.Rib.Exits
import RoutePlane.Proofs.Rib.Emptied
import RoutePlane.Proofs.RouteMap.Effects
import RoutePlane.Proofs.Router.BgpSettling
import RoutePlane.Proofs.Router.Effects
import RoutePlane.Proofs.Router.OspfSettling
import RoutePlane.Route.Edit
import RoutePlane.RouteMap.Edit
import RoutePlane.Proofs.Network.Devices
import RoutePlane.Proofs.Router.ExternalWays
import RoutePlane.Proofs.Network.ExternalRoutes
import RoutePlane.Proofs.Network.Sessions
import RoutePlane.Proofs.Router.Transit
import RoutePlane.Proofs.Network.SessionPaths
import RoutePlane.Proofs.Network.CarriedRoutes
import RoutePlane.Proofs.Network.ShortestAsPaths
import RoutePlane.Proofs.Network.History
import RoutePlane.Proofs.Router.Spared
import RoutePlane.Proofs.Network.SimplePaths
import RoutePlane.Proofs.Network.Reflection
import RoutePlane.Proofs.Network.Reversal
import RoutePlane.Proofs.Network.InterArea
import RoutePlane.Proofs.Network.Coverage
import RoutePlane.Proofs.Network.CombinedTables
import RoutePlane.Proofs.Network.Exports
import RoutePlane.Proofs.Network.Turns
import RoutePlane.Proofs.Network.TypedRuns
import RoutePlane.Proofs.Network.References
import RoutePlane.Proofs.Network.AnyOrder
import RoutePlane.Proofs.Network.UsableInterfaces
import RoutePlane.Proofs.Network.Snapshots
import RoutePlane.Proofs.Router.Exposure
import RoutePlane.Proofs.RouteMap.Reference
import RoutePlane.Proofs.Interning.Holders
import RoutePlane.Proofs.Router.Boundary
import RoutePlane.Proofs.Network.SymbolicHops
import RoutePlane.Proofs.Network.Namesakes
import RoutePlane.Proofs.Address.Blocks
import RoutePlane.Proofs.Rib.ForwardingSearch
import RoutePlane.Proofs.Flow.AccessList
import RoutePlane.Proofs.Network.GeneratedRoutes
