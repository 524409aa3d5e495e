import RoutePlane.Proofs.Network.Fallible
import RoutePlane.Proofs.Router.Adjacencies
import RoutePlane.Router.Bgp

/-! What a router reads when it gathers. Of itself it reads the device and the costs of its interfaces,
and of the others the committed tables of the protocol too; what anyone has staged it does not read.
So a router that has gathered already looks to the others as it did before. -/
namespace RoutePlane

/-- What a session reads of a process: the process without its entries, and which entry is for a peer. -/
def BgpProcess.face (p : BgpProcess) : BgpProcess × (Address → Option Neighbor) :=
  ({ p with neighbors := [] }, p.neighbor?)

namespace Router

variable {f f' : Fabric} {routers routers' : List Router} {r : Router} {process process' : BgpProcess}
  {look : Router → Router}

section Ospf

variable (leaves : LeavesOspf look) (links : f.LinksLike f')
include leaves

theorem LeavesOspf.ospfOffers (t : Rib) : (look r).ospfOffers t = r.ospfOffers t := by
  rw [Router.ospfOffers, Router.ospfOffers, leaves.hostname]

theorem LeavesOspf.isAreaBorder (r : Router) : (look r).isAreaBorder = r.isAreaBorder := by
  rw [Router.isAreaBorder, Router.isAreaBorder, leaves.interfaces]

include links

theorem LeavesOspf.intraArrivals (intra : ∀ r, (look r).ospf.intra = r.ospf.intra) :
    (look r).intraArrivals f' (routers.map look) = r.intraArrivals f routers := by
  rw [Router.intraArrivals, Router.intraArrivals, leaves.adjacencies links, List.flatMap_map]
  refine List.flatMap_congr fun a _ => ?_
  rw [intraCandidates, intraCandidates, leaves.ospfOffers, Adjacency.map, intra]
  rfl

theorem LeavesOspf.interArrivals (intra : ∀ r, (look r).ospf.intra = r.ospf.intra)
    (inter : ∀ r, (look r).ospf.inter = r.ospf.inter) :
    (look r).interArrivals f' (routers.map look) = r.interArrivals f routers := by
  rw [Router.interArrivals, Router.interArrivals, leaves.adjacencies links, List.flatMap_map]
  refine List.flatMap_congr fun a _ => ?_
  simp only [summaryCandidates, interCandidates, leaves.ospfOffers, Adjacency.map, intra, inter,
    leaves.isAreaBorder, leaves.hostname]
  rfl

theorem LeavesOspf.externalArrivals (exports : ∀ r, (look r).ospf.exports = r.ospf.exports)
    (e1 : ∀ r, (look r).ospf.e1 = r.ospf.e1) (e2 : ∀ r, (look r).ospf.e2 = r.ospf.e2)
    (type : Protocol) :
    (look r).externalArrivals f' (routers.map look) type = r.externalArrivals f routers type := by
  rw [Router.externalArrivals, Router.externalArrivals, leaves.adjacencies links, List.flatMap_map]
  refine List.flatMap_congr fun a _ => ?_
  simp only [externalCandidates, externalOffers, leaves.ospfOffers, Adjacency.map, exports, e1, e2]
  rfl

end Ospf

structure LeavesBgp (look : Router → Router) : Prop extends LeavesNames look where
  process : ∀ r, (look r).bgpProcess?.map BgpProcess.face = r.bgpProcess?.map BgpProcess.face
  send : ∀ r, (look r).send? = r.send?
  receive : ∀ r, (look r).receive? = r.receive?

theorem LeavesBgp.of_bare (keeps : ∀ r, (look r).bare = r.bare) : LeavesBgp look where
  toLeavesNames := (LeavesOspf.of_bare keeps).toLeavesNames
  process := seen_of_keeps keeps (fun r => r.bgpProcess?.map BgpProcess.face) fun _ => rfl
  send := seen_of_keeps keeps send? fun _ => rfl
  receive := seen_of_keeps keeps receive? fun _ => rfl

section Bgp

def senderFace? (routers : List Router) (s : Session) : Option (Router × BgpProcess × Neighbor) :=
  (senderOf? routers s).map fun k => (k.1, k.2.1.face.1, k.2.2)

theorem arrivals_eq (s : Session) : r.arrivals routers process s =
    match senderFace? routers s, process.face.2 s.receiver.peer with
    | some (sender, senderProcess, senderNeighbor), some neighbor =>
      sender.bgp.combined.routes.filterMapM fun route => do
        match ← sender.send? route s senderNeighbor senderProcess with
        | none => pure none
        | some draft => r.receive? draft s neighbor process.face.1
    | _, _ => .ok [] := by
  have entries : process.face.2 s.receiver.peer = process.neighbor? s.receiver.peer := rfl
  rw [arrivals, senderFace?, entries]
  cases senderOf? routers s with
  | none => rfl
  | some k => cases process.neighbor? s.receiver.peer <;> rfl

variable (leaves : LeavesBgp look)
include leaves

theorem LeavesBgp.senderFace (s : Session) :
    senderFace? (routers.map look) s = (senderFace? routers s).map fun k => (look k.1, k.2) := by
  have faces (r : Router) : (r.bgpProcess?.bind fun process =>
      (process.neighbor? s.sender.peer).map fun neighbor => (process.face.1, neighbor)) =
      (r.bgpProcess?.map BgpProcess.face).bind fun face =>
        (face.2 s.sender.peer).map fun neighbor => (face.1, neighbor) := by
    rw [Option.bind_map]
    rfl
  have ends (routers : List Router) : senderFace? routers s =
      (findRouter? routers s.sender.node s.sender.vrf).bind fun sender =>
        ((sender.bgpProcess?.map BgpProcess.face).bind fun face =>
          (face.2 s.sender.peer).map fun neighbor => (face.1, neighbor)).map fun k => (sender, k) := by
    simp only [← faces, senderFace?, senderOf?, Option.bind_eq_bind, Option.map_bind, Option.pure_def,
      Function.comp_def, Option.map_some, Option.map_map]
    congr
    funext sender
    congr
    funext process
    cases process.neighbor? s.sender.peer <;> rfl
  rw [ends, ends, leaves.findRouter]
  cases findRouter? routers s.sender.node s.sender.vrf with
  | none => rfl
  | some sender =>
    simp only [Option.map_some, Option.bind_some, leaves.process, Option.map_map, Function.comp_def]

theorem LeavesBgp.arrivals (combined : ∀ r, (look r).bgp.combined = r.bgp.combined)
    (same : process'.face = process.face) (s : Session) :
    (look r).arrivals (routers.map look) process' s = r.arrivals routers process s := by
  rw [arrivals_eq, arrivals_eq, leaves.senderFace, same]
  cases senderFace? routers s with
  | none => rfl
  | some k =>
    cases process.face.2 s.receiver.peer with
    | none => rfl
    | some neighbor =>
      dsimp only [Option.map_some]
      rw [combined, leaves.send, leaves.receive]

theorem LeavesBgp.bgpArrivals (combined : ∀ r, (look r).bgp.combined = r.bgp.combined) :
    (look r).bgpArrivals f (routers.map look) process = r.bgpArrivals f routers process := by
  simp only [Router.bgpArrivals, leaves.arrivals combined rfl, leaves.hostname, leaves.vrf]

end Bgp

/-- A router without what it has staged: all that the others read of it. -/
def committed (r : Router) : Router := { r with staging := {} }

theorem committed_bare (r : Router) : r.committed.bare = r.bare := rfl

theorem gatherOspfInternal_committed (r : Router) :
    (r.gatherOspfInternal f routers).1.committed = r.committed := rfl

theorem gatherOspfExternal_committed (r : Router) :
    (r.gatherOspfExternal f routers).1.committed = r.committed := rfl

theorem gatherBgp_committed {g : Router × Bool} (gathered : r.gatherBgp f routers = .ok g) :
    g.1.committed = r.committed := by
  rw [gatherBgp] at gathered
  split at gathered
  · cases gathered
    rfl
  · obtain ⟨arrived, -, rfl⟩ := Fallible.map_eq_ok.1 gathered
    rfl

section Same

variable (same : routers.map committed = routers'.map committed) (r : Router)
include same

/-- OSPF inside and between areas reads only committed tables. -/
theorem gatherOspfInternal_congr : r.gatherOspfInternal f routers = r.gatherOspfInternal f routers' := by
  have intra : r.intraArrivals f routers = r.intraArrivals f routers' := by
    have seen (routers : List Router) : r.committed.intraArrivals f (routers.map committed) =
        r.intraArrivals f routers :=
      (LeavesOspf.of_bare committed_bare).intraArrivals (.refl f) fun _ => rfl
    rw [← seen routers, same, seen]
  have inter : r.interArrivals f routers = r.interArrivals f routers' := by
    have seen (routers : List Router) : r.committed.interArrivals f (routers.map committed) =
        r.interArrivals f routers :=
      (LeavesOspf.of_bare committed_bare).interArrivals (.refl f) (fun _ => rfl) fun _ => rfl
    rw [← seen routers, same, seen]
  rw [gatherOspfInternal, gatherOspfInternal, intra, inter]

theorem gatherOspfExternal_congr : r.gatherOspfExternal f routers = r.gatherOspfExternal f routers' := by
  have arrivals (type : Protocol) :
      r.externalArrivals f routers type = r.externalArrivals f routers' type := by
    have seen (routers : List Router) : r.committed.externalArrivals f (routers.map committed) type =
        r.externalArrivals f routers type :=
      (LeavesOspf.of_bare committed_bare).externalArrivals (.refl f) (fun _ => rfl) (fun _ => rfl)
        (fun _ => rfl) type
    rw [← seen routers, same, seen]
  rw [gatherOspfExternal, gatherOspfExternal, arrivals, arrivals]

/-- BGP reads only the committed table of the sender, whatever the policies of the two ends. -/
theorem gatherBgp_congr : r.gatherBgp f routers = r.gatherBgp f routers' := by
  have arrivals (process : BgpProcess) :
      r.bgpArrivals f routers process = r.bgpArrivals f routers' process := by
    have seen (routers : List Router) : r.committed.bgpArrivals f (routers.map committed) process =
        r.bgpArrivals f routers process :=
      (LeavesBgp.of_bare committed_bare).bgpArrivals fun _ => rfl
    rw [← seen routers, same, seen]
  simp only [gatherBgp, arrivals]

end Same

end Router

end RoutePlane
