import RoutePlane.Route.Draft
import RoutePlane.Route.Format

/-!
Edits of route drafts in written form: an edit has a name and a value. The value of an edit that can
also clear what was set may be missing or null.
-/
namespace RoutePlane.RouteDraft

def editBy? {α : Type} [JsonFormat α] (value : Option Json) (set : RouteDraft → α → RouteDraft) :
    Option (RouteDraft → RouteDraft) := do
  let v ← value.bind ofJson?
  pure (set · v)

/-- The edit that sets what a value holds, or clears it. -/
def editByOption? {α : Type} [JsonFormat α] (value : Option Json)
    (set : RouteDraft → Option α → RouteDraft) : Option (RouteDraft → RouteDraft) :=
  editBy? (some (value.getD .null)) set

def edit? (name : String) (value : Option Json) : Option (RouteDraft → RouteDraft) :=
  match name with
  | "network" => editBy? value fun d network => { d with network := some network }
  | "protocol" => editBy? value setProtocol
  | "admin" => editBy? value setDistance
  | "metric" => editBy? value fun d metric => { d with metric := metric }
  | "next_hop" => editBy? value setNextHop
  | "tag" => editByOption? value fun d tag => { d with tag := tag }
  | "non_routing" => editBy? value fun d flag => { d with nonRouting := flag }
  | "non_forwarding" => editBy? value fun d flag => { d with nonForwarding := flag }
  | "cost_to_advertiser" => editBy? value setCostToAdvertiser
  | "as_path" => editBy? value setAsPath
  | "prepend_as" => editBy? value prependAs
  | "communities" => editBy? value setCommunities
  | "add_community" => editBy? value addCommunity
  | "remove_community" => editBy? value removeCommunity
  | "local_preference" => editBy? value setLocalPreference
  | "origin_type" => editBy? value setOriginType
  | "origin_mechanism" => editBy? value setOriginMechanism
  | "cluster_list" => editBy? value setClusterList
  | "add_cluster_id" => editBy? value addCluster
  | "weight" => editBy? value setWeight
  | "originator_ip" => editBy? value setOriginator
  | "from_client" => editBy? value setFromReflectorClient
  | "src_protocol" => editByOption? value setSourceProtocol
  | "tunnel_encapsulation" =>
    editByOption? value fun d (tunnel : Option Tunnel) =>
      d.setTunnelEndpoint (tunnel.map (·.endpoint))
  | "path_id" => editByOption? value setPathId
  | "received_from_ip" => editBy? value setReceivedFrom
  | _ => none

end RoutePlane.RouteDraft
