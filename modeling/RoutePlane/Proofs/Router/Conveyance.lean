import RoutePlane.Proofs.Router.Previous

/-! What a session conveys, taken apart: the sender must hold a route, and the session must make another
one of it. The first depends on the tables of the sender, the second on the devices only. -/
namespace RoutePlane

namespace Router

variable {f : Fabric} {routers routers' : List Router} {r r' sender : Router} {s : Session}
  {process senderProcess : BgpProcess} {senderNeighbor : Neighbor} {route x : Route}
  {node vrf : String} {external : Bool} {κ : Type} {view : Router → κ}

/-- A session conveys the route in a state of the routers. -/
def IsSent (f : Fabric) (routers : List Router) (r : Router) (x : Route) : Prop :=
  ∃ external, r.Hears f routers external x

def SenderHolds (routers : List Router) (s : Session) (route : Route) : Prop :=
  ∃ sender process neighbor, senderOf? routers s = some (sender, process, neighbor) ∧
    route ∈ sender.bgp.combined.routes

def Makes (routers : List Router) (r : Router) (process : BgpProcess) (s : Session)
    (route x : Route) : Prop :=
  ∃ sender senderProcess senderNeighbor neighbor draft,
    senderOf? routers s = some (sender, senderProcess, senderNeighbor) ∧
    process.neighbor? s.receiver.peer = some neighbor ∧
    sender.send? route s senderNeighbor senderProcess = .ok (some draft) ∧
    r.receive? draft s neighbor process = .ok (some x)

theorem conveys_iff : Conveys routers r process s x ↔
    ∃ route, SenderHolds routers s route ∧ Makes routers r process s route x := by
  constructor
  · rintro ⟨sender, senderProcess, senderNeighbor, neighbor, route, draft, found, own, held, sent,
      received⟩
    exact ⟨route, ⟨sender, senderProcess, senderNeighbor, found, held⟩,
      sender, senderProcess, senderNeighbor, neighbor, draft, found, own, sent, received⟩
  · rintro ⟨route, ⟨holder, _, _, found, held⟩, sender, senderProcess, senderNeighbor, neighbor, draft,
      again, own, sent, received⟩
    have same : holder = sender := congrArg Prod.fst (Option.some.inj (found.symm.trans again))
    exact ⟨sender, senderProcess, senderNeighbor, neighbor, route, draft, again, own, same ▸ held,
      sent, received⟩

def bgpView (r : Router) : (Configuration × String) × List (Prefix × RouteSet) :=
  (r.device, r.bgp.combined.bindings)

theorem findRouter_alike (devices : ∀ r r', view r = view r' → r.device = r'.device)
    (same : routers.map view = routers'.map view) (found : findRouter? routers node vrf = some r) :
    ∃ r', findRouter? routers' node vrf = some r' ∧ view r = view r' := by
  induction routers generalizing routers' with
  | nil => cases found
  | cons first rest ih =>
    cases routers' with
    | nil => simp at same
    | cons first' rest' =>
      rw [List.map_cons, List.map_cons, List.cons.injEq] at same
      obtain ⟨configuration, own⟩ := Prod.mk.inj (devices _ _ same.1)
      have sought : (first'.hostname == node && first'.vrf == vrf) =
          (first.hostname == node && first.vrf == vrf) := by
        rw [hostname, hostname, configuration, own]
      rw [findRouter?, List.find?_cons] at found ⊢
      rw [sought]
      cases here : first.hostname == node && first.vrf == vrf with
      | true =>
        rw [here] at found
        cases found
        exact ⟨first', rfl, same.1⟩
      | false =>
        rw [here] at found
        exact ih same.2 found

theorem senderOf_alike (devices : ∀ r r', view r = view r' → r.device = r'.device)
    (same : routers.map view = routers'.map view)
    (found : senderOf? routers s = some (sender, senderProcess, senderNeighbor)) :
    ∃ sender', senderOf? routers' s = some (sender', senderProcess, senderNeighbor) ∧
      view sender = view sender' := by
  obtain ⟨first, search, rest⟩ := Option.bind_eq_some_iff.1 found
  obtain ⟨process, own, rest⟩ := Option.bind_eq_some_iff.1 rest
  obtain ⟨neighbor, peer, equal⟩ := Option.bind_eq_some_iff.1 rest
  cases equal
  obtain ⟨sender', search', alike⟩ := findRouter_alike devices same search
  obtain ⟨configuration, vrf⟩ := Prod.mk.inj (devices _ _ alike)
  have own' : sender'.bgpProcess? = some senderProcess := by
    rw [← own, bgpProcess?, bgpProcess?, configuration, vrf]
  exact ⟨sender', by simp [senderOf?, search', own', peer], alike⟩

theorem senderHolds_congr (same : routers.map bgpView = routers'.map bgpView)
    (holds : SenderHolds routers s route) : SenderHolds routers' s route := by
  obtain ⟨sender, process, neighbor, found, held⟩ := holds
  obtain ⟨sender', found', alike⟩ :=
    senderOf_alike (fun _ _ alike => congrArg Prod.fst alike) same found
  have routes : sender.bgp.combined.routes = sender'.bgp.combined.routes :=
    Rib.routes_congr (congrArg Prod.snd alike)
  exact ⟨sender', process, neighbor, found', routes ▸ held⟩

/-- What a session makes of a route depends on no table. -/
theorem makes_congr (same : routers.map device = routers'.map device)
    (makes : Makes routers r process s route x) : Makes routers' r process s route x := by
  obtain ⟨sender, senderProcess, senderNeighbor, neighbor, draft, found, own, sent, received⟩ := makes
  obtain ⟨sender', found', alike⟩ := senderOf_alike (fun _ _ alike => alike) same found
  obtain ⟨configuration, vrf⟩ := Prod.mk.inj alike
  refine ⟨sender', senderProcess, senderNeighbor, neighbor, draft, found', own, ?_, received⟩
  rw [← sent]
  simp only [send?, sessionContext, configuration, vrf]

theorem isSent_iff : r.IsSent f routers x ↔ ∃ process, r.bgpProcess? = some process ∧
    ∃ s ∈ f.sessions.incoming r.hostname r.vrf, ∃ route,
      SenderHolds routers s route ∧ Makes routers r process s route x := by
  simp only [IsSent, Hears, conveys_iff]
  constructor
  · rintro ⟨external, process, own, s, incoming, -, conveyed⟩
    exact ⟨process, own, s, incoming, conveyed⟩
  · rintro ⟨process, own, s, incoming, conveyed⟩
    exact ⟨_, process, own, s, incoming, rfl, conveyed⟩

theorem isSent_congr (same : routers.map bgpView = routers'.map bgpView)
    (sent : r.IsSent f routers x) : r.IsSent f routers' x := by
  have devices : routers.map device = routers'.map device := by
    have first := congrArg (List.map Prod.fst) same
    rwa [List.map_map, List.map_map] at first
  rw [isSent_iff] at sent ⊢
  obtain ⟨process, own, s, incoming, route, holds, makes⟩ := sent
  exact ⟨process, own, s, incoming, route, senderHolds_congr same holds, makes_congr devices makes⟩

end Router

end RoutePlane
