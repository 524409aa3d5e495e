import RoutePlane.Network.Basic
import RoutePlane.Network.Error
import RoutePlane.Router.Bgp
import RoutePlane.Router.Ospf

/-!
The schedule of a computation. In a step all routers move at once: what a router gathers is what the
others held before the step. First come the routes that depend on no others, and OSPF between
the routers. Then rounds follow until the tables are what they were after the round before: static
and generated routes, external OSPF routes, and BGP. Last the forwarding tables are compiled.

All loops have a limit. A step tells whether it changed anything; a loop ends after the first step
that did not, and fails if the limit comes first.
-/
namespace RoutePlane

/-- Repeat a step that has been done a number of times already. -/
def repeatFrom {σ : Type} (phase : Phase) (step : σ → Except NetworkError (σ × Bool)) :
    Nat → Nat → σ → Except NetworkError (σ × Nat)
  | 0, done, _ => .error (.noConvergence phase done)
  | left + 1, done, s => do
    let (s, changed) ← step s
    if changed then repeatFrom phase step left (done + 1) s else pure (s, done + 1)

/-- Repeat a step until it changes nothing. The answer has the number of steps, the idle one
included. -/
def repeatUntilStable {σ : Type} (phase : Phase) (limit : Nat)
    (step : σ → Except NetworkError (σ × Bool)) (s : σ) : Except NetworkError (σ × Nat) :=
  repeatFrom phase step limit 0 s

namespace Schedule

/-- One move of every router. The flag tells whether any of them changed. -/
def everyRouter (move : Router → Except NetworkError (Router × Bool)) (routers : List Router) :
    Except NetworkError (List Router × Bool) := do
  let moved ← routers.mapM move
  pure (moved.map (·.1), moved.any (·.2))

/-- Gather from the routers as they are, then commit. -/
def exchange (gather : List Router → Router → Except NetworkError (Router × Bool))
    (commit : Router → Router × Bool) (routers : List Router) :
    Except NetworkError (List Router × Bool) := do
  let (routers, gathered) ← everyRouter (gather routers) routers
  let (routers, committed) ← everyRouter (fun r => .ok (commit r)) routers
  pure (routers, gathered || committed)

def prepare (announcements : List Announcement) (r : Router) : Except NetworkError Router :=
  r.initConnected.initStatic.initOspfCosts.initOspf.initBgp announcements

def ospfInternalStep (f : Fabric) : List Router → Except NetworkError (List Router × Bool) :=
  exchange (fun routers r => .ok (r.gatherOspfInternal f routers)) Router.commitOspfInternal

def ospfExternalStep (f : Fabric) : List Router → Except NetworkError (List Router × Bool) :=
  exchange (fun routers r => .ok (r.gatherOspfExternal f routers)) Router.commitOspfExternal

def bgpStep (f : Fabric) : List Router → Except NetworkError (List Router × Bool) :=
  exchange (fun routers r => r.gatherBgp f routers) Router.commitStagedBgp

def staticStep : List Router → Except NetworkError (List Router × Bool) :=
  everyRouter fun r => .ok r.activateStatic

def generatedStep : List Router → Except NetworkError (List Router × Bool) :=
  everyRouter fun r =>
    let activated := r.activateGenerated
    activated.2.map (activated.1, ·)

/-- Static and generated routes of a round, and what the routers announce as external. -/
def beforeOspf (limit : Nat) (routers : List Router) : Except NetworkError (List Router) := do
  let routers := routers.map Router.startRound
  let (routers, _) ← repeatUntilStable .staticRoutes limit staticStep routers
  let (routers, _) ← repeatUntilStable .generatedRoutes limit generatedStep routers
  routers.mapM Router.initOspfExports

/-- All of a round that does not come from BGP. -/
def beforeBgp (f : Fabric) (limit : Nat) (routers : List Router) :
    Except NetworkError (List Router) := do
  let routers ← beforeOspf limit routers
  let (routers, _) ← repeatUntilStable .ospfExternal limit (ospfExternalStep f) routers
  pure (routers.map Router.importOspfExternal)

/-- The routes that the routers bring into BGP, and what they learn from each other, with the number
of steps. -/
def bgpPhase (f : Fabric) (limit : Nat) (routers : List Router) :
    Except NetworkError (List Router × Nat) := do
  let routers ← routers.mapM Router.originateBgp
  repeatUntilStable .bgp limit (bgpStep f) routers

/-- One round of dependent routes, with the number of BGP steps. -/
def round (f : Fabric) (limit : Nat) (routers : List Router) :
    Except NetworkError (List Router × Nat) := do
  let routers ← beforeBgp f limit routers
  bgpPhase f limit routers

/-- Rounds until nothing has moved, after some that are done already. -/
def roundsFrom (f : Fabric) (limit : Nat) :
    Nat → List (Nat × Nat) → List Router → Except NetworkError (List Router × List (Nat × Nat))
  | 0, done, _ => .error (.noConvergence .dependentRoutes done.length)
  | left + 1, done, routers => do
    let (routers, steps) ← round f limit routers
    let done := done ++ [(done.length + 1, steps)]
    if routers.any Router.hasMoved then roundsFrom f limit left done routers
    else pure (routers, done)

/-- The routers with everything that stays the same in all rounds, and the number of OSPF steps. -/
def independent (f : Fabric) (limit : Nat) (announcements : List Announcement) :
    Except NetworkError (List Router × Nat) := do
  let routers ← f.freshRouters.mapM (prepare announcements)
  let (routers, steps) ← repeatUntilStable .ospfInternal limit (ospfInternalStep f) routers
  pure (routers.map Router.importOspfInternal, steps)

end Schedule

namespace Network

def fabric (n : Network) : Fabric := .ofConfigurations n.configurations

/-- The converged tables of a network. -/
def compute (n : Network) : Except NetworkError DataPlane := do
  let f := n.fabric
  let (routers, ospfSteps) ← Schedule.independent f n.settings.maxInner n.announcements
  let (routers, rounds) ← Schedule.roundsFrom f n.settings.maxInner n.settings.maxOuter [] routers
  let routers := routers.map (Router.compileForwarding f.owners)
  pure {
    fabric := f
    sinks := flowSinks n.configurations.values f.topology
    routers := routers
    statistics := {
      ospfInternal := ospfSteps
      rounds := rounds.length
      bgp := rounds
      totalRoutes := routers.foldl (· + ·.main.size) 0 } }

end Network

end RoutePlane
