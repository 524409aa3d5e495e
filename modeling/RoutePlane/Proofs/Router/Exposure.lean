import RoutePlane.Proofs.Router.Transit

/-! What another system gets to know of a route. Conditions of route maps do not read what matters inside
a system only, the sender or the receiver overwrites all of it, and a policy writes the same whatever was
there before. So two routes that differ in nothing else are sent, rejected and received alike. -/
namespace RoutePlane

open Fallible

/-- What the conditions of route maps read of a route. -/
def Route.evident (r : Route) :
    Prefix × Protocol × Option Address × Option UInt32 × Option (AsPath × SortedSet Community) :=
  (r.network, r.protocol, r.nextHop.address?, r.tag,
    r.attributes?.map fun a => (a.asPath, a.communities))

namespace RouteMap

variable {x y : Route} {permits : String → Except PolicyError Bool}

theorem Condition.holds_congr (same : x.evident = y.evident) (c : Condition) :
    c.holds permits x = c.holds permits y := by
  obtain ⟨network, protocol, hop, tag, attributes⟩ := by
    simpa only [Route.evident, Prod.mk.injEq] using same
  have reads (ask : AsPath × SortedSet Community → Bool) :
      x.attributes?.any (fun a => ask (a.asPath, a.communities)) =
        y.attributes?.any fun a => ask (a.asPath, a.communities) := by
    have any := congrArg (Option.any ask) attributes
    simpa only [Option.any_map] using any
  cases c with
  | prefixList | protocol | nextHop | tag => simp only [holds, network, protocol, hop, tag]
  | asPathContains as => exact congrArg Except.ok (reads fun a => a.1.contains as)
  | asPathLength lengths => exact congrArg Except.ok (reads fun a => lengths.contains a.1.length)
  | community c => exact congrArg Except.ok (reads fun a => a.2.contains c)
  | missingCommunity c => exact congrArg (fun b => Except.ok !b) (reads fun a => a.2.contains c)
  | policy => rfl

theorem allHold_congr (same : x.evident = y.evident) (conditions : List Condition) :
    allHold permits x conditions = allHold permits y conditions := by
  induction conditions with
  | nil => rfl
  | cons c rest ih => rw [allHold, allHold, c.holds_congr same, ih]

theorem walk_congr (same : x.evident = y.evident) (entries : List Entry) (sought : Option UInt16)
    (verdict : Verdict) : walk permits x sought verdict entries =
      walk permits y sought verdict entries := by
  induction entries generalizing sought verdict with
  | nil => rfl
  | cons e rest ih => simp only [walk, allHold_congr same, ih]

end RouteMap

/-- The verdict of a policy is one on what conditions read. -/
theorem PolicyContext.evaluate_congr {x y : Route} (same : x.evident = y.evident) (c : PolicyContext)
    (depth : Nat) : c.evaluate x depth = c.evaluate y depth := by
  induction depth with
  | zero =>
    funext name
    rw [evaluate, evaluate]
  | succ depth ih =>
    funext name
    rw [evaluate, evaluate]
    cases c.configuration.policy? name with
    | none => rfl
    | some policy =>
      dsimp only
      rw [ih]
      exact RouteMap.walk_congr same _ _ _

def BgpAttributes.exposed (a : BgpAttributes) : BgpAttributes :=
  { a with
    clusterList := .empty
    localPreference := defaultLocalPreference
    originator := .unspecified
    originMechanism := .learned
    fromReflectorClient := false
    weight := 0 }

def RouteKind.exposed : RouteKind → RouteKind
  | .bgp data => .bgp { data with attributes := data.attributes.exposed }
  | k => k

/-- What another system may get to know of a route. The metric is told only of routes that the sender has
brought up itself. -/
def Route.exposed (r : Route) : Route :=
  { r with
    distance := 0
    metric := if r.isLocal then r.metric else 0
    kind := r.kind.exposed }

namespace Router

variable {sender receiver : Router} {s : Session} {process senderProcess : BgpProcess}
  {neighbor senderNeighbor : Neighbor} {route x y : Route} {draft : RouteDraft}

theorem evident_exposed (r : Route) : r.exposed.evident = r.evident := by
  obtain ⟨_, _, _, _, _, _, _, _, kind⟩ := r
  cases kind <;> rfl

section Arriving

/-- The receiver overwrites the weight, and everything else is written without a look at what it
overwrites. -/
theorem arriving_action (a : RouteMap.Action) (draft : RouteDraft) :
    arrivingDraft s neighbor (a.apply (arrivingDraft s neighbor draft)) =
      arrivingDraft s neighbor (a.apply draft) := by
  obtain ⟨_, _, _, _, _, _, _, _, kind⟩ := draft
  cases a <;> cases kind <;> rfl

theorem arriving_resolve (c : PolicyContext) (draft : RouteDraft) :
    arrivingDraft s neighbor (c.resolveDraft (arrivingDraft s neighbor draft)) =
      arrivingDraft s neighbor (c.resolveDraft draft) := by
  obtain ⟨_, _, _, _, _, _, _, _, kind⟩ := draft
  cases kind <;> rfl

/-- Drafts that arrive alike still do so after a policy has edited both. -/
theorem arriving_edited {d e : RouteDraft} (same : arrivingDraft s neighbor d = arrivingDraft s neighbor e)
    (v : RouteMap.Verdict) (c : PolicyContext) :
    arrivingDraft s neighbor (c.resolveDraft (v.applyTo d)) =
      arrivingDraft s neighbor (c.resolveDraft (v.applyTo e)) := by
  have folded (actions : List RouteMap.Action) :
      arrivingDraft s neighbor (actions.foldl RouteMap.Action.apply d) =
        arrivingDraft s neighbor (actions.foldl RouteMap.Action.apply e) := by
    induction actions generalizing d e with
    | nil => exact same
    | cons a actions ih =>
      apply ih
      rw [← arriving_action, same, arriving_action]
  rw [← arriving_resolve, RouteMap.Verdict.applyTo, folded, arriving_resolve, RouteMap.Verdict.applyTo]

/-- Before the policy of the sender, what is not exposed is as good as overwritten. -/
theorem arriving_sent (external : s.type.isExternal = true) (route : Route) :
    arrivingDraft s neighbor (sentDraft route s senderProcess senderNeighbor) =
      arrivingDraft s neighbor (sentDraft route.exposed s senderProcess senderNeighbor) := by
  have own : route.exposed.isLocal = route.isLocal := by
    obtain ⟨_, _, _, _, _, _, _, _, kind⟩ := route
    cases kind <;> rfl
  rw [sentDraft, sentDraft, if_pos external, if_pos external, externalDraft, externalDraft, own]
  obtain ⟨_, _, _, _, _, _, _, _, kind⟩ := route
  cases here : Route.isLocal _ <;> cases kind <;> split <;> simp [Route.exposed, here] <;> rfl

/-- A policy treats alike what its conditions read alike and what arrives alike. -/
theorem arriving_apply {d e : RouteDraft} (evident : x.evident = y.evident)
    (same : arrivingDraft s neighbor d = arrivingDraft s neighbor e) (c : PolicyContext)
    (policy : Option String) :
    Prod.map id (arrivingDraft s neighbor) <$> c.apply policy x d =
      Prod.map id (arrivingDraft s neighbor) <$> c.apply policy y e := by
  cases policy with
  | none => exact congrArg (fun f => Except.ok (true, f)) (arriving_edited same ⟨true, []⟩ c)
  | some name =>
    rw [PolicyContext.apply, PolicyContext.apply, c.evaluate_congr evident]
    cases c.evaluate y c.depth name with
    | error => rfl
    | ok verdict =>
      exact congrArg (fun f => Except.ok (verdict.permitted, f)) (arriving_edited same verdict c)

theorem maySend_exposed (external : s.type.isExternal = true) {a b : BgpAttributes} :
    maySend route.exposed a s senderNeighbor = maySend route b s senderNeighbor := by
  have peer : route.exposed.receivedFrom = route.receivedFrom := by
    obtain ⟨_, _, _, _, _, _, _, _, kind⟩ := route
    cases kind <;> rfl
  have routing : route.exposed.nonRouting = route.nonRouting := rfl
  simp only [maySend, peer, routing, SessionType.isInternal, external, Bool.not_true, Bool.false_and]

end Arriving

/-- What a session makes of a route of its sender: nothing if either side rejects it. -/
def convey? (sender receiver : Router) (s : Session) (senderNeighbor : Neighbor)
    (senderProcess : BgpProcess) (neighbor : Neighbor) (process : BgpProcess) (route : Route) :
    Except NetworkError (Option Route) := do
  match ← sender.send? route s senderNeighbor senderProcess with
  | none => pure none
  | some draft => receiver.receive? draft s neighbor process

/-- What the receiver gets to work on, if the sender lets something out. -/
def arriving? (sender : Router) (s : Session) (senderNeighbor : Neighbor)
    (senderProcess : BgpProcess) (neighbor : Neighbor) (route : Route) :
    Except NetworkError (Option RouteDraft) :=
  (·.map (arrivingDraft s neighbor)) <$> sender.send? route s senderNeighbor senderProcess

/-- Policies with outcomes that arrive alike let through what arrives alike. -/
theorem arriving_accepted {o o' : Except PolicyError (Bool × RouteDraft)}
    (same : Prod.map id (arrivingDraft s neighbor) <$> o =
      Prod.map id (arrivingDraft s neighbor) <$> o') :
    (Option.map (arrivingDraft s neighbor) <$>
        (liftPolicy o >>= fun p => pure (if p.1 then some p.2 else none)) :
      Except NetworkError (Option RouteDraft)) =
    Option.map (arrivingDraft s neighbor) <$>
        (liftPolicy o' >>= fun p => pure (if p.1 then some p.2 else none)) := by
  cases o with
  | error e =>
    cases o' with
    | error e' =>
      cases same
      rfl
    | ok => cases same
  | ok p =>
    cases o' with
    | error => cases same
    | ok p' =>
      obtain ⟨accepted, d⟩ := p
      obtain ⟨accepted', e⟩ := p'
      obtain ⟨verdict, arrived⟩ := Prod.mk.inj (Except.ok.inj same)
      obtain rfl : accepted = accepted' := verdict
      cases accepted with
      | false => rfl
      | true => exact congrArg (fun f => Except.ok (some f)) arrived

theorem arriving_exposed (external : s.type.isExternal = true) (route : Route) :
    arriving? sender s senderNeighbor senderProcess neighbor route =
      arriving? sender s senderNeighbor senderProcess neighbor route.exposed := by
  have attributes : route.exposed.attributes? = route.attributes?.map BgpAttributes.exposed := by
    obtain ⟨_, _, _, _, _, _, _, _, kind⟩ := route
    cases kind <;> rfl
  rw [arriving?, arriving?, send?, send?, attributes]
  cases route.attributes? with
  | none => rfl
  | some a =>
    dsimp only [Option.map_some]
    rw [maySend_exposed external (b := a)]
    split
    next =>
      apply arriving_accepted
      exact arriving_apply (evident_exposed route).symm (arriving_sent external route) _ _
    next => rfl

/-- The receiver does not look at a draft before it has overwritten its part of it. -/
theorem convey_of_arriving
    (same : arriving? sender s senderNeighbor senderProcess neighbor x =
      arriving? sender s senderNeighbor senderProcess neighbor y) :
    convey? sender receiver s senderNeighbor senderProcess neighbor process x =
      convey? sender receiver s senderNeighbor senderProcess neighbor process y := by
  rw [arriving?, arriving?] at same
  rw [convey?, convey?]
  generalize sender.send? x s senderNeighbor senderProcess = o at same ⊢
  generalize sender.send? y s senderNeighbor senderProcess = o' at same ⊢
  cases o with
  | error e =>
    cases o' with
    | error e' =>
      cases same
      rfl
    | ok => cases same
  | ok sent =>
    cases o' with
    | error => cases same
    | ok sent' =>
      cases sent <;> cases sent'
      case none.none => rfl
      case some.some d e =>
        have arrived : arrivingDraft s neighbor d = arrivingDraft s neighbor e :=
          Option.some.inj (Except.ok.inj same)
        show receiver.receive? d s neighbor process = receiver.receive? e s neighbor process
        rw [receive?, receive?, arrived]
      all_goals cases same

/-- Another system gets to see no more of a route than what is exposed: two routes of which the same is
exposed are rejected alike, fail alike, or arrive as one and the same route. -/
theorem other_systems_see_exposed (sender receiver : Router) (s : Session)
    (senderNeighbor neighbor : Neighbor) (senderProcess process : BgpProcess) (x y : Route)
    (external : s.type.isExternal = true) (same : x.exposed = y.exposed) :
    arriving? sender s senderNeighbor senderProcess neighbor x =
        arriving? sender s senderNeighbor senderProcess neighbor y ∧
      convey? sender receiver s senderNeighbor senderProcess neighbor process x =
        convey? sender receiver s senderNeighbor senderProcess neighbor process y := by
  have arriving : arriving? sender s senderNeighbor senderProcess neighbor x =
      arriving? sender s senderNeighbor senderProcess neighbor y := by
    rw [arriving_exposed external x, same, ← arriving_exposed external y]
  exact ⟨arriving, convey_of_arriving arriving⟩

def policed (name : String) (maps : List RouteMap) : Router where
  configuration := {
    hostname := name
    routeMaps := .ofList (maps.map fun m => (m.name, m)) }
  vrf := defaultVrf

/-- Lets out what its customers sent, with a metric and a weight of its own. -/
def outlet : Router :=
  let customers : RouteMap.Entry := ⟨10, .accept, [.community ⟨7⟩], [.localPreference 300], .exit⟩
  let out : RouteMap.Entry := ⟨10, .accept, [.policy "customers"], [.metric 70, .weight 9], .exit⟩
  policed "outlet" [.ofEntries "customers" [customers], .ofEntries "out" [out]]

def intake : Router := policed "intake" [.ofEntries "in" [⟨10, .accept, [], [.localPreference 200], .exit⟩]]

def crossing : Session where
  sender := ⟨"outlet", defaultVrf, .ofOctets 10 0 0 2⟩
  receiver := ⟨"intake", defaultVrf, .ofOctets 10 0 0 1⟩
  type := .external
  senderAddress := .ofOctets 10 0 0 1
  receiverAddress := .ofOctets 10 0 0 2
  senderAs := 65001
  receiverAs := 65002

def learnedWith (distance metric : UInt32) (attributes : BgpAttributes) : Route where
  network := (InterfaceAddress.ofOctets 9 9 9 9 32).network
  protocol := .ibgp
  distance := distance
  metric := metric
  nextHop := .address (.ofOctets 3 3 3 3)
  kind := .bgp {
    attributes := { attributes with asPath := .ofSequence [65100], communities := .ofList [⟨7⟩] }
    receivedFrom := .ofOctets 10 0 1 2 }

/-- The intake makes one route of two that the outlet tells apart. -/
theorem crossing_arrives_alike :
    let first := learnedWith 200 40 { localPreference := 300, clusterList := .ofList [1], weight := 5 }
    let second := learnedWith 20 0 { fromReflectorClient := true, originator := .ofOctets 4 4 4 4 }
    let sending : Neighbor :=
      { peer := .ofOctets 10 0 0 2, remoteAs := 65002, exportPolicy := some "out" }
    let receiving : Neighbor :=
      { peer := .ofOctets 10 0 0 1, remoteAs := 65001, importPolicy := some "in" }
    let conveyed := convey? outlet intake crossing sending
      { routerId := .ofOctets 1 1 1 1, localAs := 65001 } receiving
      { routerId := .ofOctets 2 2 2 2, localAs := 65002 }
    first ≠ second ∧ crossing.type.isExternal = true ∧ first.exposed = second.exposed ∧
      conveyed first = conveyed second ∧ (·.map Route.metric) <$> conveyed first = .ok (some 70) := by
  refine ⟨by decide, rfl, by decide, ?_, ?_⟩
  · exact (other_systems_see_exposed _ _ _ _ _ _ _ _ _ rfl (by decide)).2
  · decide +kernel

end Router

end RoutePlane
