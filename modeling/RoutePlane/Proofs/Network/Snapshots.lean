import Mathlib.Logic.Relation
import RoutePlane.Network.Snapshot
import RoutePlane.Proofs.Configuration.Format
import RoutePlane.Proofs.Network.Devices

/-! Snapshots keep networks. A network is read back from its snapshot, but for its settings, and a
snapshot that leaves out defaults is read as one in which they are written out. -/
namespace RoutePlane.Network

open JsonFormat (Kept)
open Schema

/-- The bandwidths of all devices, which are the only numbers of a network that are not whole. -/
def bandwidths (n : Network) : List Float := n.configurations.values.flatMap (·.bandwidths)

def Fits (n : Network) : Prop := ∀ c ∈ n.configurations.values, c.Fits

instance (n : Network) : Decidable n.Fits :=
  inferInstanceAs (Decidable (∀ c ∈ n.configurations.values, c.Fits))

variable {n : Network}

theorem ofConfigurations_values :
    ofConfigurations n.configurations.values = { n with announcements := [], settings := {} } := by
  have folded (l : List (String × Configuration)) (all : ∀ b ∈ l, b.2.hostname = b.1) (m : Network) :
      let made := (l.map Prod.snd).foldl addConfiguration m
      made.configurations = l.foldl (fun m b => m.insert b.1 b.2) m.configurations ∧
        made.announcements = m.announcements ∧ made.settings = m.settings := by
    induction l generalizing m with
    | nil => exact ⟨rfl, rfl, rfl⟩
    | cons b l ih =>
      obtain ⟨here, later⟩ := List.forall_mem_cons.1 all
      have first : (m.addConfiguration b.2).configurations = m.configurations.insert b.1 b.2 := by
        rw [← here]
        rfl
      obtain ⟨made, others⟩ := ih later (m.addConfiguration b.2)
      exact ⟨by rw [List.foldl_cons, ← first]; exact made, others⟩
  obtain ⟨made, announcements, settings⟩ := folded n.configurations.toList n.named (ofConfigurations [])
  exact Network.ext (made.trans (SortedMap.ofList_toList _)) announcements settings

theorem ofSnapshot?_toSnapshot (kept : ∀ c ∈ n.configurations.values, Kept c) :
    ofSnapshot? n.toSnapshot = some { n with settings := {} } := by
  have configurations := (Kept.list kept).read
  have fields : Json.record? ["configurations", "external_announcements"] n.toSnapshot =
      some ⟨_, false⟩ := Json.record?_object rfl (by simp [Json.distinct])
  rw [ofSnapshot?, fields]
  simp [configurations, ofConfigurations_values]

theorem legible_toSnapshot (kept : ∀ c ∈ n.configurations.values, Kept c) :
    n.toSnapshot.Legible := by
  have configurations := (Kept.list kept).legible
  exact .object (by simp [configurations])

def snapshotSchema : Schema := .record [requiredField (List Configuration) "configurations",
  defaultField "external_announcements" ([] : List Announcement)]

/-- The second value is the first one with any defaults written out that were left out there. -/
def Completes : Json → Json → Prop := Relation.ReflTransGen (WritesOut snapshotSchema)

/-- Writing out one default does not change the network. -/
theorem ofSnapshot?_writesOut {j j' : Json} (step : WritesOut snapshotSchema j j') :
    ofSnapshot? j = ofSnapshot? j' := by
  refine Json.bind_record?_writesOut rfl (by simp [Json.distinct]) ?_ step
  intro r r' alike
  simp [alike.required, alike.withDefault]

theorem Completes.ofSnapshot?_eq {j j' : Json} (completes : Completes j j') :
    ofSnapshot? j = ofSnapshot? j' := by
  induction completes with
  | refl => rfl
  | tail _ step ih => rw [ih, ofSnapshot?_writesOut step]

/-- A network is read back from the text of its snapshot with all its devices and announcements, and
texts of snapshots are read alike, of which one has defaults written out that the other leaves out.
Numbers that are not whole must be finite and be read back from their own texts. -/
theorem snapshots_faithful :
    (∀ n : Network, (∀ c ∈ n.configurations.values, c.policies = .empty) →
      (∀ x ∈ n.bandwidths, x.isFinite = true) →
      (∀ x ∈ n.bandwidths, x.isFinite = true → (JsonNumber.float x).ReadsBack) → n.Fits →
      ofText? n.snapshotText = some { n with settings := {} }) ∧
    ∀ (brief full : String) (j j' : Json), Json.parse? brief = some j → Json.parse? full = some j' →
      Completes j j' → ofText? brief = ofText? full := by
  constructor
  · intro n plain finite readsBack fits
    have kept : ∀ c ∈ n.configurations.values, Kept c := by
      intro c listed
      refine Configuration.kept (fun x member => ?_) (fits c listed) (plain c listed)
      have bandwidth : x ∈ n.bandwidths := List.mem_flatMap.2 ⟨c, listed, member⟩
      exact .float (finite x bandwidth) (readsBack x bandwidth (finite x bandwidth))
    rw [ofText?, snapshotText, (legible_toSnapshot kept).parse?_pretty, Option.bind_some,
      ofSnapshot?_toSnapshot kept]
  · intro brief full j j' read read' completes
    rw [ofText?, ofText?, read, read', Option.bind_some, Option.bind_some, completes.ofSnapshot?_eq]

def guardedEdge : Configuration where
  hostname := "edge"
  interfaces := .ofList [("uplink",
    { Interface.ofAddress (.ofOctets 10 0 0 7 24) with incomingFilter := some "web", ospf := some {} })]
  vrfs := .ofList [(defaultVrf, { ospf := some { routerId := .ofOctets 10 0 0 7 } })]
  accessLists := .ofList [("web", ⟨"web", [{
    action := .accept
    headers := { protocols := [.tcp, .other 47], destinationPorts := [⟨80, 443⟩] } }]⟩)]
  routeMaps := .ofList [("in", ⟨"in", [{
    sequence := 10
    action := .accept
    conditions := [.prefixList [⟨.all, ⟨8, 24⟩⟩], .asPathLength ⟨0, 5⟩]
    actions := [.tag none, .nextHop (.interface "uplink" none)]
    next := .goto 20 }]⟩)]

def guarded : Network where
  configurations := (ofConfigurations [guardedEdge]).configurations
  named := (ofConfigurations [guardedEdge]).named
  announcements := [{
    node := "edge"
    peer := .ofOctets 10 0 0 1
    network := .all
    asPath := [65001] }]

def bareSnapshot : Json :=
  .object [("configurations", .list [.object [("hostname", .text "edge")]])]

/-- The same snapshot with the interfaces of the device and the announcements written out. -/
def filledSnapshot : Json := .object [
  ("configurations", .list [.object [("hostname", .text "edge"), ("interfaces", .object [])]]),
  ("external_announcements", .list [])]

theorem bareSnapshot_completes : Completes bareSnapshot filledSnapshot := by
  have interfaces : WritesOut (Fillable.schema Configuration)
      (.object ([("hostname", .text "edge")] ++ []))
      (.object ([("hostname", .text "edge")] ++ ("interfaces", .object []) :: [])) :=
    .named (List.mem_cons_of_mem _ List.mem_cons_self) rfl (by simp)
  have device := @WritesOut.item _ [] [] _ _ interfaces
  have devices : WritesOut snapshotSchema _ _ :=
    @WritesOut.field _ "configurations" _ _ [] [] _ _ List.mem_cons_self device
  have announcements : WritesOut snapshotSchema _ _ :=
    @WritesOut.named _ "external_announcements" _ _ [("configurations", .list [.object
      [("hostname", .text "edge"), ("interfaces", .object [])]])] [] _
      (List.mem_cons_of_mem _ List.mem_cons_self) rfl (by simp)
  exact .tail (.single devices) announcements

theorem guarded_faithful :
    ofText? guarded.snapshotText = some guarded ∧
      ofText? bareSnapshot.pretty = ofText? filledSnapshot.pretty := by
  have bare : bareSnapshot.Legible := by simp [bareSnapshot]
  have filled : filledSnapshot.Legible := by simp [filledSnapshot]
  refine ⟨snapshots_faithful.1 guarded (by decide +kernel) (by decide +kernel) (by decide +kernel)
    (by decide +kernel), ?_⟩
  exact snapshots_faithful.2 _ _ _ _ bare.parse?_pretty filled.parse?_pretty bareSnapshot_completes

end RoutePlane.Network
