import Veyra.Application.Observability
import Veyra.Application.ProjectionClosure
import Veyra.Application.ProxyRouting
import Veyra.Storage.Store

/-!
# Veyra.Application.RoutingSnapshot

What `ProxyRoutingManager` shows of a state: `buildSnapshot` turns the state,
the runtime observation and what is known of applies and selectors into one
`ProxyRoutingSnapshot`.

A branch of the source that panics is `none` here, so a snapshot that is
`some` is one that `build_snapshot` returns.  `snapshot_returns_iff` says for
which states that is.
-/

namespace Veyra.ProxyRouting

open Check

/-! ## The snapshot -/

inductive RuntimeState
  | stopped
  | ready
  | transitioning
  | recoveryRequired
deriving DecidableEq, Repr

inductive ApplyFailure
  | configurationFailed
  | stateChanged
  | stopFailed
  | startFailed
  | recoveryRequired
deriving DecidableEq, Repr

inductive ApplyState
  | applied
  | savedPendingApply
  | applying (operationId : String)
  | savedApplyFailed (operationId : String) (error : ApplyFailure)
  | applyUnknown (operationId : String)
deriving DecidableEq, Repr

structure ProviderSnapshot where
  id : String
  subscriptionId : String
  name : String

structure NodeSnapshot where
  id : String
  providerId : String
  name : String
  protocol : ProxyProtocol

structure PoolSnapshot where
  id : String
  name : String
  kind : PoolKind
  enabled : Bool
  sources : List PoolSourceDto
  selection : SelectionDto
  resolvedNodeIds : List String

structure RouteSnapshot where
  id : String
  name : String
  enabled : Bool
  priority : Int32
  matcher : MatcherDto
  target : RouteTargetDto

inductive SelectorState
  | inSync
  | savedOnly
  | notApplied
  | unknown
deriving DecidableEq, Repr

structure SelectorSnapshot where
  poolId : String
  desiredNodeId : Option String
  runtimeNodeId : Option String
  state : SelectorState
deriving DecidableEq, Repr

structure ProxyRoutingSnapshot where
  revision : UInt64
  desiredGeneration : UInt64
  appliedGeneration : Option UInt64
  runtimeState : RuntimeState
  applyState : ApplyState
  activeSubscriptionId : Option String
  appliedSubscriptionId : Option String
  providers : List ProviderSnapshot
  nodes : List NodeSnapshot
  defaultTarget : DefaultTargetDto
  pools : List PoolSnapshot
  routes : List RouteSnapshot
  selectors : List SelectorSnapshot

/-! ## From the domain to the interface -/


def NodeFilterDto.of (filter : NodeFilter) : NodeFilterDto :=
  { regions := filter.regions
    protocols := filter.protocols
    includeKeywords := filter.includeKeywords
    excludeKeywords := filter.excludeKeywords
    includeNodeIds := filter.includeNodeIds.map (·.val)
    excludeNodeIds := filter.excludeNodeIds.map (·.val) }

def PoolSourceDto.of (source : PoolSource) : PoolSourceDto :=
  { providerId := source.providerId.val, filter := .of source.filter }

def SelectionDto.of : SelectionPolicy → SelectionDto
  | .manual selectedNodeId => .manual (selectedNodeId.map (·.val))
  | .urlTest probeUrl intervalSecs toleranceMs => .urlTest probeUrl intervalSecs toleranceMs

def DefaultTargetDto.of : RouteTarget → DefaultTargetDto
  | .unconfigured => .followActiveSubscription
  | .pool id => .pool id.val
  | .direct => .direct
  | .block => .block

/-- The conversion panics on an unconfigured target. -/
def RouteTargetDto.of : RouteTarget → Option RouteTargetDto
  | .pool id => some (.pool id.val)
  | .direct => some .direct
  | .block => some .block
  | .unconfigured => none

def MatcherDto.of : TrafficMatcher → MatcherDto
  | .domain values => .domain values
  | .domainSuffix values => .domainSuffix values
  | .application values => .application values
  | .ipCidr values => .ipCidr values
  | .port values => .port values
  | .protocol values => .protocol values

def RouteSnapshot.of (route : RoutePolicy) : Option RouteSnapshot := do
  let target ← RouteTargetDto.of route.target
  some
    { id := route.id.val
      name := route.name
      enabled := route.enabled
      priority := route.priority
      matcher := .of route.matcher
      target }

def PoolSnapshot.of (state : AppState) (pool : NodePool) : PoolSnapshot :=
  { id := pool.id.val
    name := pool.name
    kind := pool.kind
    enabled := pool.enabled
    sources := pool.sources.map .of
    selection := .of pool.selection
    resolvedNodeIds := (state.resolvePoolMembers pool).map (·.val) }

/-! ## The state of an apply -/

inductive RoutingApplyTerminalFailure
  | configurationFailed
  | stateChanged
deriving DecidableEq, Repr

/-- The failure of a routing apply that the process remembers, with the tuple it was for. -/
structure RoutingApplyTerminal where
  operationId : String
  activeSubscriptionId : Option String
  desiredGeneration : UInt64
  failure : RoutingApplyTerminalFailure
deriving DecidableEq, Repr

/-- The lifecycle as the snapshot shows it. -/
def RuntimeState.of : ObservedSidecarLifecycle → RuntimeState
  | .ready => .ready
  | .recoveryRequired => .recoveryRequired
  | .stopped | .notObserved => .stopped

def RoutingApplyTerminalFailure.toApplyFailure : RoutingApplyTerminalFailure → ApplyFailure
  | .configurationFailed => .configurationFailed
  | .stateChanged => .stateChanged

/-- The terminal is about the tuple that the state desires. -/
def RoutingApplyTerminal.isFor (terminal : RoutingApplyTerminal) (state : AppState) : Bool :=
  terminal.activeSubscriptionId = state.activeSubscriptionId.map (·.val) &&
    terminal.desiredGeneration = state.activeConfigurationGeneration

/-- What a failed switch says of the current apply attempt. -/
def failedSwitch (observedRuntime : RuntimeState) (operation : SubscriptionSwitch) :
    RuntimeState × ApplyState :=
  match operation.errorCode with
  | some .configurationFailed | some .saveFailed =>
    (observedRuntime, .savedApplyFailed operation.operationId .configurationFailed)
  | some .stopFailed =>
    (.recoveryRequired, .savedApplyFailed operation.operationId .stopFailed)
  | some .startFailed => (.stopped, .savedApplyFailed operation.operationId .startFailed)
  | some .recoveryRequired =>
    (.recoveryRequired, .savedApplyFailed operation.operationId .recoveryRequired)
  | some .operationTimedOut => (.transitioning, .applyUnknown operation.operationId)
  | some .cancelled | some .busy | some .stateUnavailable | none =>
    (observedRuntime, .savedApplyFailed operation.operationId .stateChanged)

/-- The runtime is ready with exactly the tuple that the state desires. -/
def appliedAsDesired (observation : RuntimeObservationSnapshot) (observedRuntime : RuntimeState)
    (state : AppState) : Bool :=
  observedRuntime = .ready &&
    observation.appliedConfigurationGeneration = some state.activeConfigurationGeneration &&
    observation.appliedSubscriptionId = state.activeSubscriptionId.map (·.val)

/-- The verdict when no failure is remembered and no switch is under way. -/
def settledApplyState (observation : RuntimeObservationSnapshot) (observedRuntime : RuntimeState)
    (state : AppState) : RuntimeState × ApplyState :=
  if appliedAsDesired observation observedRuntime state then (.ready, .applied)
  else (observedRuntime, .savedPendingApply)

/-- The verdict by the switch record. -/
def switchApplyState (observation : RuntimeObservationSnapshot) (observedRuntime : RuntimeState)
    (state : AppState) (applyAttemptIsCurrent : Bool) : RuntimeState × ApplyState :=
  match observation.subscriptionSwitch with
  | none => settledApplyState observation observedRuntime state
  | some operation =>
    match operation.status with
    | .queued | .checking | .prepared | .persisted | .applying =>
      if !applyAttemptIsCurrent then (observedRuntime, .savedPendingApply)
      else (.transitioning, .applying operation.operationId)
    | .cancelled =>
      if !applyAttemptIsCurrent then (observedRuntime, .savedPendingApply)
      else (observedRuntime, .savedApplyFailed operation.operationId .stateChanged)
    | .failed =>
      if !applyAttemptIsCurrent then (observedRuntime, .savedPendingApply)
      else failedSwitch observedRuntime operation
    | .ready => settledApplyState observation observedRuntime state

/-- `canonical_runtime_apply_state`. -/
def canonicalRuntimeApplyState (observation : RuntimeObservationSnapshot)
    (observedRuntime : RuntimeState) (state : AppState) (applyAttemptIsCurrent : Bool)
    (routingTerminal : Option RoutingApplyTerminal) : RuntimeState × ApplyState :=
  match routingTerminal with
  | none => switchApplyState observation observedRuntime state applyAttemptIsCurrent
  | some terminal =>
    if terminal.isFor state then
      (observedRuntime, .savedApplyFailed terminal.operationId terminal.failure.toApplyFailure)
    else if observation.subscriptionSwitch.any (·.operationId = terminal.operationId) then
      (observedRuntime, .savedPendingApply)
    else switchApplyState observation observedRuntime state applyAttemptIsCurrent

/-! ## Selectors -/

/-- The state of a selector, from the desired node and the one that was read back. -/
def selectorState (desired runtime : Option NodeId) (runtimeState : RuntimeState) :
    SelectorState :=
  match desired, runtime with
  | some desired, some runtime => if desired = runtime then .inSync else .notApplied
  | _, none => if runtimeState = .ready then .unknown else .savedOnly
  | none, some _ => .savedOnly

/-- `selectors`: the pools that are selected by hand. -/
def selectors (state : AppState) (runtimeNodes : PoolId → Option NodeId)
    (runtimeState : RuntimeState) : List SelectorSnapshot :=
  state.pools.filterMap fun pool =>
    match pool.selection with
    | .manual selectedNodeId =>
      let runtimeNodeId := if runtimeState = .ready then runtimeNodes pool.id else none
      some
        { poolId := pool.id.val
          desiredNodeId := selectedNodeId.map (·.val)
          runtimeNodeId := runtimeNodeId.map (·.val)
          state := selectorState selectedNodeId runtimeNodeId runtimeState }
    | .urlTest .. => none

/-! ## Building the snapshot -/

/-- What `build_snapshot` asks the manager and its runtime for. -/
structure SnapshotSources where
  observation : RuntimeObservationSnapshot
  applyTuple : Option (Option String × UInt64)
  routingTerminal : Option RoutingApplyTerminal
  runtimeNodes : PoolId → Option NodeId

/-- The last apply was asked for the tuple that the state desires. -/
def SnapshotSources.applyAttemptIsCurrent (sources : SnapshotSources) (state : AppState) : Bool :=
  sources.applyTuple =
    some (state.activeSubscriptionId.map (·.val), state.activeConfigurationGeneration)

/-- The runtime state and the apply state that a snapshot shows. -/
def SnapshotSources.runtimeApplyState (sources : SnapshotSources) (state : AppState) :
    RuntimeState × ApplyState :=
  canonicalRuntimeApplyState sources.observation (.of sources.observation.sidecarLifecycle) state
    (sources.applyAttemptIsCurrent state) sources.routingTerminal

/-- `build_snapshot`. -/
def buildSnapshot (sources : SnapshotSources) (state : AppState) (revision : UInt64) :
    Option ProxyRoutingSnapshot := do
  let (runtimeState, applyState) := sources.runtimeApplyState state
  let routes ← state.routes.mapM RouteSnapshot.of
  some
    { revision
      desiredGeneration := state.activeConfigurationGeneration
      appliedGeneration := sources.observation.appliedConfigurationGeneration
      runtimeState
      applyState
      activeSubscriptionId := state.activeSubscriptionId.map (·.val)
      appliedSubscriptionId := sources.observation.appliedSubscriptionId
      providers := state.providers.map fun p => ⟨p.id.val, p.subscriptionId.val, p.name⟩
      nodes := state.nodes.map fun n => ⟨n.id.val, n.providerId.val, n.name, n.protocol⟩
      defaultTarget := .of state.defaultTarget
      pools := state.pools.map (PoolSnapshot.of state)
      routes
      selectors := selectors state sources.runtimeNodes runtimeState }

/-! ## When it returns -/

theorem RouteTargetDto.of_isSome {target : RouteTarget} :
    (RouteTargetDto.of target).isSome ↔ target ≠ .unconfigured := by
  cases target <;> simp [RouteTargetDto.of]

theorem RouteSnapshot.of_isSome {route : RoutePolicy} :
    (RouteSnapshot.of route).isSome ↔ route.target ≠ .unconfigured := by
  rw [← RouteTargetDto.of_isSome, RouteSnapshot.of]
  cases RouteTargetDto.of route.target <;> simp

/-- Mapping a partial function over a list returns when it does on every element. -/
theorem mapM_isSome {α β : Type} {f : α → Option β} {xs : List α} :
    (xs.mapM f).isSome ↔ ∀ x ∈ xs, (f x).isSome := by
  induction xs with
  | nil => simp
  | cons x xs ih =>
    rw [List.mapM_cons, List.forall_mem_cons, ← ih]
    cases f x <;> cases xs.mapM f <;> simp

/-- Only the routes can keep a snapshot from being built. -/
theorem buildSnapshot_isSome {sources : SnapshotSources} {state : AppState} {revision : UInt64} :
    (buildSnapshot sources state revision).isSome ↔
      (state.routes.mapM RouteSnapshot.of).isSome := by
  rw [buildSnapshot]
  cases state.routes.mapM RouteSnapshot.of <;> simp

/-- **When a state can be shown.**  A state has a snapshot, whatever is observed of the runtime,
exactly when none of its routes, enabled or not, is unconfigured. -/
theorem snapshot_returns_iff (sources : SnapshotSources) (state : AppState) (revision : UInt64) :
    (buildSnapshot sources state revision).isSome ↔
      ∀ route ∈ state.routes, route.target ≠ .unconfigured := by
  rw [buildSnapshot_isSome, mapM_isSome]
  exact forall₂_congr fun route _ => RouteSnapshot.of_isSome

/-- What is known right after the start. -/
def SnapshotSources.fresh : SnapshotSources :=
  { observation := .mock, applyTuple := none, routingTerminal := none, runtimeNodes := fun _ => none }

/-- An accepted state with an unconfigured route, which the store loads from its own snapshot,
cannot be shown. -/
theorem unconfigured_not_shown :
    (routedState .unconfigured).validate = .ok () ∧
    decodeDocument (encodeState (routedState .unconfigured)) =
      .ok (routedState .unconfigured, false) ∧
    ¬ (buildSnapshot .fresh (routedState .unconfigured) 1).isSome := by
  have hvalid : (routedState .unconfigured).validate = .ok () := by decide +kernel
  refine ⟨hvalid, decodeDocument_encodeState hvalid, fun hshown => ?_⟩
  exact absurd (buildSnapshot_isSome.mp hshown) (by decide)

end Veyra.ProxyRouting
