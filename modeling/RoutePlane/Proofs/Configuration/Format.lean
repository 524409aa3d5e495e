import RoutePlane.Configuration.Format
import RoutePlane.Proofs.RouteMap.Format

/-! Configurations and announcements are kept by their JSON form. A configuration must have finite
numbers for its bandwidths, ranges of the width of their fields, and no policies that no snapshot
holds. Most of their fields may be left out. -/
namespace RoutePlane

open JsonFormat (Kept)
open Schema

instance : FaithfulFormat OspfInterface := .of_kept fun o => by
  refine .record rfl (fun _ => rfl) rfl (by simp [Json.distinct]) ?_ ?_
  · simp
  · simp

instance : NonNullFormat OspfInterface := ⟨rfl⟩

theorem Interface.kept {i : Interface} (bandwidth : Kept i.bandwidth) : Kept i := by
  refine .record rfl (fun _ => rfl) rfl (by simp [Json.distinct]) ?_ ?_
  · simp [bandwidth.legible]
  · simp [bandwidth.read]

instance : FaithfulFormat StaticRoute := .of_kept fun s => by
  refine .record rfl (fun _ => rfl) rfl (by simp [Json.distinct]) ?_ ?_
  · simp
  · simp

instance : FaithfulFormat GeneratedRoute := .of_kept fun g => by
  refine .record rfl (fun _ => rfl) rfl (by simp [Json.distinct]) ?_ ?_
  · simp
  · simp

instance : FaithfulFormat MetricType := .of_kept fun t => by
  cases t <;> exact ⟨.text _, rfl⟩

theorem OspfProcess.kept {p : OspfProcess} (bandwidth : Kept p.referenceBandwidth) : Kept p := by
  refine .record rfl (fun _ => rfl) rfl (by simp [Json.distinct]) ?_ ?_
  · simp [bandwidth.legible]
  · simp [bandwidth.read]

instance : NonNullFormat OspfProcess := ⟨rfl⟩

instance : FaithfulFormat Neighbor := .of_kept fun n => by
  refine .record rfl (fun _ => rfl) rfl (by simp [Json.distinct]) ?_ ?_
  · simp
  · simp

instance : FaithfulFormat BgpProcess := .of_kept fun p => by
  refine .record rfl (fun _ => rfl) rfl (by simp [Json.distinct]) ?_ ?_
  · simp
  · simp

instance : NonNullFormat BgpProcess := ⟨rfl⟩

theorem Vrf.kept {v : Vrf} (processes : ∀ p ∈ v.ospf, Kept p.referenceBandwidth) : Kept v := by
  obtain ⟨legible, read⟩ := Kept.option fun p member => OspfProcess.kept (processes p member)
  refine .record rfl (fun _ => rfl) rfl (by simp [Json.distinct]) ?_ ?_
  · simp [legible]
  · simp [read]

instance : FaithfulFormat Announcement := .of_kept fun a => by
  refine .record rfl (fun _ => rfl) rfl (by simp [Json.distinct]) ?_ ?_
  · simp
  · simp

/-! ### Defaults -/

theorem ofJson?_toJson_float {x : Float} (finite : x.isFinite = true) :
    ofJson? (toJson x) = some x := by
  have written : toJson x = .number (.float x) := if_pos finite
  rw [written]
  rfl

instance : Fillable OspfInterface where
  schema := .record [defaultField "area" Area.backbone, defaultField "cost" (none : Option UInt32),
    defaultField "passive" false]
  ofJson?_eq step := by
    refine Json.ofJson?_writesOut (fun _ => rfl) rfl (by simp [Json.distinct]) ?_ step
    intro r r' alike
    simp [alike.withDefault]

instance : Fillable Interface where
  schema := .record [defaultField "vrf" defaultVrf,
    defaultField "address" (none : Option InterfaceAddress), defaultField "active" true,
    defaultField "loopback" false, defaultField "bandwidth" (1000000000.0 : Float),
    defaultField "incoming_filter" (none : Option String),
    defaultField "outgoing_filter" (none : Option String),
    defaultField "ospf" (none : Option OspfInterface)]
  ofJson?_eq step := by
    have bandwidth := ofJson?_toJson_float (x := 1000000000.0) (by decide +kernel)
    refine Json.ofJson?_writesOut (fun _ => rfl) rfl (by simp [Json.distinct]) ?_ step
    intro r r' alike
    simp [alike.withDefault, bandwidth]

instance : Fillable StaticRoute where
  schema := .record [requiredField Prefix "network", requiredField NextHop "next_hop",
    defaultField "admin" (Protocol.defaultDistance .static), defaultField "tag" (none : Option UInt32)]
  ofJson?_eq step := by
    refine Json.ofJson?_writesOut (fun _ => rfl) rfl (by simp [Json.distinct]) ?_ step
    intro r r' alike
    simp [alike.required, alike.withDefault]

instance : Fillable GeneratedRoute where
  schema := .record [requiredField Prefix "network", defaultField "discard" true,
    defaultField "generation_policy" (none : Option String),
    defaultField "admin" (Protocol.defaultDistance .aggregate), defaultField "metric" (0 : UInt32)]
  ofJson?_eq step := by
    refine Json.ofJson?_writesOut (fun _ => rfl) rfl (by simp [Json.distinct]) ?_ step
    intro r r' alike
    simp [alike.required, alike.withDefault]

instance : Fillable MetricType := .plain _

instance : Fillable OspfProcess where
  schema := .record [requiredField Address "router_id",
    defaultField "reference_bandwidth" Ospf.defaultReferenceBandwidth,
    defaultField "export_policy" (none : Option String),
    defaultField "export_metric" Ospf.defaultExportMetric,
    defaultField "export_metric_type" MetricType.type2]
  ofJson?_eq step := by
    have bandwidth := ofJson?_toJson_float (x := Ospf.defaultReferenceBandwidth) (by decide +kernel)
    refine Json.ofJson?_writesOut (fun _ => rfl) rfl (by simp [Json.distinct]) ?_ step
    intro r r' alike
    simp [alike.required, alike.withDefault, bandwidth]

instance : Fillable Neighbor where
  schema := .record [requiredField Address "peer_ip",
    defaultField "local_ip" (none : Option Address), defaultField "local_as" (none : Option AsNumber),
    requiredField AsNumber "remote_as", defaultField "import_policy" (none : Option String),
    defaultField "export_policy" (none : Option String), defaultField "route_reflector_client" false,
    defaultField "send_community" true, defaultField "next_hop_self" false]
  ofJson?_eq step := by
    refine Json.ofJson?_writesOut (fun _ => rfl) rfl (by simp [Json.distinct]) ?_ step
    intro r r' alike
    simp [alike.required, alike.withDefault]

instance : Fillable BgpProcess where
  schema := .record [requiredField Address "router_id", requiredField AsNumber "local_as",
    defaultField "cluster_id" (none : Option UInt32), defaultField "neighbors" ([] : List Neighbor),
    defaultField "networks" (.empty : SortedSet Prefix),
    defaultField "aggregates" (.empty : SortedSet Prefix),
    defaultField "redistribution_policy" (none : Option String)]
  ofJson?_eq step := by
    refine Json.ofJson?_writesOut (fun _ => rfl) rfl (by simp [Json.distinct]) ?_ step
    intro r r' alike
    simp [alike.required, alike.withDefault]

instance : Fillable Vrf where
  schema := .record [defaultField "static_routes" ([] : List StaticRoute),
    defaultField "generated_routes" ([] : List GeneratedRoute),
    defaultField "ospf" (none : Option OspfProcess), defaultField "bgp" (none : Option BgpProcess)]
  ofJson?_eq step := by
    refine Json.ofJson?_writesOut (fun _ => rfl) rfl (by simp [Json.distinct]) ?_ step
    intro r r' alike
    simp [alike.withDefault]

instance : Fillable Configuration where
  schema := .record [requiredField String "hostname",
    defaultField "interfaces" (.empty : SortedMap String Interface),
    defaultField "vrfs" (.empty : SortedMap String Vrf),
    defaultField "acls" (.empty : SortedMap String AccessList),
    defaultField "route_maps" (.empty : SortedMap String RouteMap)]
  ofJson?_eq step := by
    refine Json.ofJson?_writesOut (fun _ => rfl) rfl (by simp [Json.distinct]) ?_ step
    intro r r' alike
    have interfaces : r.withDefault "interfaces" (.empty : SortedMap String Interface) =
        r'.withDefault "interfaces" .empty := alike.withDefault (by simp) rfl
    have vrfs : r.withDefault "vrfs" (.empty : SortedMap String Vrf) =
        r'.withDefault "vrfs" .empty := alike.withDefault (by simp) rfl
    have accessLists : r.withDefault "acls" (.empty : SortedMap String AccessList) =
        r'.withDefault "acls" .empty := alike.withDefault (by simp) rfl
    have routeMaps : r.withDefault "route_maps" (.empty : SortedMap String RouteMap) =
        r'.withDefault "route_maps" .empty := alike.withDefault (by simp) rfl
    simp [alike.required, interfaces, vrfs, accessLists, routeMaps]

instance : Fillable Announcement where
  schema := .record [requiredField String "node", defaultField "vrf" defaultVrf,
    requiredField Address "peer_ip", requiredField Prefix "network",
    defaultField "as_path" ([] : List AsNumber),
    defaultField "communities" (.empty : SortedSet UInt32), defaultField "med" (0 : UInt32),
    defaultField "local_preference" (none : Option UInt32),
    defaultField "origin_type" OriginType.igp, defaultField "next_hop" (none : Option Address)]
  ofJson?_eq step := by
    refine Json.ofJson?_writesOut (fun _ => rfl) rfl (by simp [Json.distinct]) ?_ step
    intro r r' alike
    simp [alike.required, alike.withDefault]

namespace Configuration

def bandwidths (c : Configuration) : List Float :=
  c.interfaces.values.map (·.bandwidth) ++
    c.vrfs.values.filterMap fun v => v.ospf.map (·.referenceBandwidth)

/-- The ranges of access lists and route maps have the width of their fields. -/
def Fits (c : Configuration) : Prop :=
  (∀ a ∈ c.accessLists.values, a.HasPorts) ∧ ∀ m ∈ c.routeMaps.values, m.Fits

instance (c : Configuration) : Decidable c.Fits := inferInstanceAs (Decidable (_ ∧ _))

theorem kept {c : Configuration} (bandwidths : ∀ x ∈ c.bandwidths, Kept x) (fits : c.Fits)
    (plain : c.policies = .empty) : Kept c := by
  obtain ⟨links, processes⟩ := List.forall_mem_append.1 bandwidths
  have interfaces : Kept c.interfaces := .map fun i member =>
    Interface.kept (links _ (List.mem_map_of_mem member))
  have vrfs : Kept c.vrfs := .map fun v member => Vrf.kept fun p runs =>
    processes _ (List.mem_filterMap.2 ⟨v, member, by rw [Option.mem_def.1 runs]; rfl⟩)
  have accessLists : Kept c.accessLists := .map fun a member => (fits.1 a member).kept
  have routeMaps : Kept c.routeMaps := .map fun m member => (fits.2 m member).kept
  refine .record rfl (fun _ => rfl) rfl (by simp [Json.distinct]) ?_ ?_
  · simp [interfaces.legible, vrfs.legible, accessLists.legible, routeMaps.legible]
  · simp [interfaces.read, vrfs.read, accessLists.read, routeMaps.read, ← plain]

end Configuration

end RoutePlane
