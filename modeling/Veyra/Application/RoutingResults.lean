import Veyra.Application.ManagedRuntime
import Veyra.Application.RoutingManager
import Veyra.Application.RoutingWire
import Veyra.Application.SubscriptionResponses
import Veyra.Lib.Browser

/-!
# Veyra.Application.RoutingResults

What `ProxyRoutingManager` answers: the rest of `mutate` once it let go of the gate, and the
answers in JSON.

After a selection by hand the runtime is asked, and the state is loaded once more; after an apply
it is loaded too.  By then the state on disk may be another one.
-/

namespace Veyra.ProxyRouting

open Browser (ofOption)

/-! ## Answers -/

/-- `SelectorSavedOnlyReason`. -/
abbrev SelectorSavedOnlyReason := ManualSelectionSavedOnlyReason

/-- `SelectorApplyUnknownReason`: what the worker can say, or that the selection is no longer the
one that is desired. -/
inductive SelectorApplyUnknownReason
  | runtime (reason : ManualSelectionUnknownReason)
  | superseded
deriving DecidableEq, Repr

/-- `MutationOutcome`, as it is answered. -/
inductive Outcome
  | saved
  | selectorApplied (poolId nodeId : String)
  | selectorNotApplied (poolId nodeId runtimeNodeId : String)
  | selectorSavedOnly (poolId nodeId : String) (reason : SelectorSavedOnlyReason)
  | selectorApplyUnknown (poolId nodeId : String) (reason : SelectorApplyUnknownReason)
  | applyStarted (operationId : String)
  | applyCompleted (operationId : String)
deriving DecidableEq, Repr

/-- `SnapshotResult`. -/
inductive SnapshotResult
  | ok (snapshot : ProxyRoutingSnapshot)
  | error (error : QueryError)

/-- The snapshot shows a pool that selects the node by hand. -/
def ProxyRoutingSnapshot.selects (snapshot : ProxyRoutingSnapshot) (poolId nodeId : String) :
    Bool :=
  snapshot.pools.any fun pool =>
    pool.id = poolId && match pool.selection with
      | .manual (some id) => id = nodeId
      | _ => false

/-- `MutationResult`. -/
inductive MutationResult
  | ok (outcome : Outcome) (snapshot : ProxyRoutingSnapshot)
  | error (error : MutationError) (revision : Option UInt64)

/-! ## The rest of a mutation -/

/-- `map_query_error`. -/
def QueryError.toMutationError : QueryError → MutationError
  | .busy => .busy
  | .stateUnavailable => .stateUnavailable
  | .runtimeUnavailable => .runtimeUnavailable

/-- `map_activation_error`. -/
def mapActivationError : ActivationError → MutationError
  | .invalidInput | .identityFailed => .invalidInput
  | .busy => .busy
  | .notFound => .notFound
  | .stateUnavailable => .stateUnavailable
  | .stateChanged => .stateChanged
  | .selectionConflict => .conflict
  | .configurationFailed => .configurationFailed
  | .saveFailed => .saveFailed
  | .stopFailed => .stopFailed
  | .startFailed => .startFailed
  | .recoveryRequired => .recoveryRequired

/-- `map_manual_result`. -/
def mapManualResult (poolId nodeId : String) : ManualSelectionRuntimeResult → Outcome
  | .applied => .selectorApplied poolId nodeId
  | .notApplied runtimeNodeId => .selectorNotApplied poolId nodeId runtimeNodeId.val
  | .savedOnly reason => .selectorSavedOnly poolId nodeId reason
  | .applyUnknown reason => .selectorApplyUnknown poolId nodeId (.runtime reason)

/-- The pool is to select the node. -/
def stillDesired (state : AppState) (poolId nodeId : String) : Bool :=
  state.pools.any fun pool =>
    pool.id.val = poolId && match pool.selection with
      | .manual (some id) => id.val = nodeId
      | _ => false

/-- `settle_manual_outcome`. -/
def settleManualOutcome (poolId nodeId : String) (result : ManualSelectionRuntimeResult)
    (state : AppState) (reloadProvedLatest : Bool) : Outcome :=
  if stillDesired state poolId nodeId || !reloadProvedLatest then
    mapManualResult poolId nodeId result
  else .selectorApplyUnknown poolId nodeId .superseded

/-- What `mutate` finds once it let go of the gate: what the runtime answers, how the state is
loaded again, and what a snapshot is built from. -/
structure FinishAnswers where
  manual : ManualSelectionRuntimeResult
  activation : ActivationResult
  reload : StoreAnswers
  disk : Option AppState
  sources : SnapshotSources

namespace RoutingManager

/-- `finish_manual_selection`; `none` is a snapshot that panics. -/
def finishManualSelection (m : RoutingManager) (poolId nodeId : String) (committed : AppState)
    (committedRevision : UInt64) (a : FinishAnswers) : Option MutationResult × RoutingManager :=
  let reloaded := m.loadObserved a.reload a.disk
  let (state, revision, latest) :=
    match reloaded.1 with
    | .ok (state, revision) => (state, revision, true)
    | .error _ => (committed, committedRevision, false)
  ((buildSnapshot a.sources state revision).map
    (.ok (settleManualOutcome poolId nodeId a.manual state latest)), reloaded.2)

/-- The outcome of an apply, unless it failed. -/
def applyOutcome : ActivationResult → Except ActivationError Outcome
  | .activated operationId _ _ | .reactivated operationId _ _ | .alreadyCurrent operationId _ _ =>
    .ok (.applyCompleted operationId)
  | .pending operationId => .ok (.applyStarted operationId)
  | .error _ error => .error error

/-- `apply_configuration`. -/
def applyConfiguration (m : RoutingManager) (activeId : SubscriptionId)
    (desiredGeneration revision : UInt64) (a : FinishAnswers) :
    Option MutationResult × RoutingManager :=
  let m := m.trackApply activeId desiredGeneration
  match applyOutcome a.activation with
  | .error e => (some (.error (mapActivationError e) (some revision)), m)
  | .ok outcome =>
    let reloaded := m.loadObserved a.reload a.disk
    match reloaded.1 with
    | .error e => (some (.error e.toMutationError reloaded.2.knownRevision), reloaded.2)
    | .ok (state, latest) => ((buildSnapshot a.sources state latest).map (.ok outcome), reloaded.2)

/-- What `mutate` does after it let go of the gate. -/
def finish (m : RoutingManager) (next : MutateNext) (a : FinishAnswers) :
    Option MutationResult × RoutingManager :=
  match next with
  | .error e revision => (some (.error e revision), m)
  | .applyConfiguration activeId desiredGeneration revision =>
    m.applyConfiguration activeId desiredGeneration revision a
  | .finishManualSelection poolId nodeId state revision =>
    m.finishManualSelection poolId nodeId state revision a
  | .buildSnapshot outcome state revision =>
    ((buildSnapshot a.sources state revision).map
      (.ok (match outcome with
        | .saved => .saved
        | .selectorSavedOnly poolId nodeId =>
          .selectorSavedOnly poolId nodeId .runtimeNotReady)), m)

/-- `mutate` to its answer, with the file as it leaves it; `none` is a panic. -/
def respond (env : Env) (m : RoutingManager) (request : MutateRequest) (a : StoreAnswers)
    (disk : Option AppState) (f : FinishAnswers) :
    (Option MutationResult × RoutingManager) × Option AppState :=
  let ((next, m), disk) := m.mutate env request a disk
  (m.finish next f, disk)

/-- `execution_unavailable`. -/
def executionUnavailable (m : RoutingManager) : MutationResult :=
  .error .runtimeUnavailable m.knownRevision

/-- The command `mutate_proxy_routing`: a call that panics is answered too. -/
def mutateProxyRouting (env : Env) (m : RoutingManager) (request : MutateRequest)
    (a : StoreAnswers) (disk : Option AppState) (f : FinishAnswers) :
    (MutationResult × RoutingManager) × Option AppState :=
  let ((result, m), disk) := m.respond env request a disk f
  ((result.getD m.executionUnavailable, m), disk)

/-- `snapshot`. -/
def snapshot (m : RoutingManager) (a : StoreAnswers) (sources : SnapshotSources)
    (disk : Option AppState) : Option (SnapshotResult × RoutingManager) :=
  let observed := m.loadObserved a disk
  match observed.1 with
  | .error e => some (.error e, observed.2)
  | .ok (state, revision) =>
    (buildSnapshot sources state revision).map fun snapshot => (.ok snapshot, observed.2)

end RoutingManager

/-! ## Answers in JSON -/

def RuntimeState.name : RuntimeState → String
  | .stopped => "stopped"
  | .ready => "ready"
  | .transitioning => "transitioning"
  | .recoveryRequired => "recoveryRequired"

def ApplyFailure.name : ApplyFailure → String
  | .configurationFailed => "configurationFailed"
  | .stateChanged => "stateChanged"
  | .stopFailed => "stopFailed"
  | .startFailed => "startFailed"
  | .recoveryRequired => "recoveryRequired"

def ApplyState.response : ApplyState → Json
  | .applied => .obj [("type", .str "applied")]
  | .savedPendingApply => .obj [("type", .str "savedPendingApply")]
  | .applying operationId => .obj [("type", .str "applying"), ("operationId", .str operationId)]
  | .savedApplyFailed operationId error =>
    .obj [("type", .str "savedApplyFailed"), ("operationId", .str operationId),
      ("error", .str error.name)]
  | .applyUnknown operationId =>
    .obj [("type", .str "applyUnknown"), ("operationId", .str operationId)]

def ProviderSnapshot.response (p : ProviderSnapshot) : Json :=
  .obj [("id", .str p.id), ("subscriptionId", .str p.subscriptionId), ("name", .str p.name)]

def NodeSnapshot.response (n : NodeSnapshot) : Json :=
  .obj
    [("id", .str n.id), ("providerId", .str n.providerId), ("name", .str n.name),
     ("protocol", RoutingWire.protocol.encode n.protocol)]

/-- `PoolKindDto`. -/
def poolKindName : PoolKind → String
  | .implicitProvider => "implicitProvider"
  | .custom => "custom"

def PoolSnapshot.response (p : PoolSnapshot) : Json :=
  .obj
    [("id", .str p.id), ("name", .str p.name), ("kind", .str (poolKindName p.kind)),
     ("enabled", .bool p.enabled),
     ("sources", (Codec.list RoutingWire.poolSource.strict).encode p.sources),
     ("selection", RoutingWire.selection.encode p.selection),
     ("resolvedNodeIds", (Codec.list Codec.string).encode p.resolvedNodeIds)]

def RouteSnapshot.response (r : RouteSnapshot) : Json :=
  .obj
    [("id", .str r.id), ("name", .str r.name), ("enabled", .bool r.enabled),
     ("priority", Codec.i32.encode r.priority), ("matcher", RoutingWire.matcher.encode r.matcher),
     ("target", RoutingWire.routeTarget.encode r.target)]

def SelectorState.name : SelectorState → String
  | .inSync => "inSync"
  | .savedOnly => "savedOnly"
  | .notApplied => "notApplied"
  | .unknown => "unknown"

def SelectorSnapshot.response (s : SelectorSnapshot) : Json :=
  .obj
    [("poolId", .str s.poolId), ("desiredNodeId", ofOption .str s.desiredNodeId),
     ("runtimeNodeId", ofOption .str s.runtimeNodeId), ("state", .str s.state.name)]

def ProxyRoutingSnapshot.response (s : ProxyRoutingSnapshot) : Json :=
  .obj
    [("revision", numberU64 s.revision),
     ("desiredGeneration", numberU64 s.desiredGeneration),
     ("appliedGeneration", ofOption numberU64 s.appliedGeneration),
     ("runtimeState", .str s.runtimeState.name),
     ("applyState", s.applyState.response),
     ("activeSubscriptionId", ofOption .str s.activeSubscriptionId),
     ("appliedSubscriptionId", ofOption .str s.appliedSubscriptionId),
     ("providers", .arr (s.providers.map ProviderSnapshot.response)),
     ("nodes", .arr (s.nodes.map NodeSnapshot.response)),
     ("defaultTarget", RoutingWire.defaultTarget.encode s.defaultTarget),
     ("pools", .arr (s.pools.map PoolSnapshot.response)),
     ("routes", .arr (s.routes.map RouteSnapshot.response)),
     ("selectors", .arr (s.selectors.map SelectorSnapshot.response))]

def QueryError.name : QueryError → String
  | .busy => "busy"
  | .stateUnavailable => "stateUnavailable"
  | .runtimeUnavailable => "runtimeUnavailable"

def MutationError.name : MutationError → String
  | .invalidInput => "invalidInput"
  | .busy => "busy"
  | .conflict => "conflict"
  | .notFound => "notFound"
  | .referenceConflict => "referenceConflict"
  | .validationFailed => "validationFailed"
  | .saveFailed => "saveFailed"
  | .stateUnavailable => "stateUnavailable"
  | .runtimeUnavailable => "runtimeUnavailable"
  | .configurationFailed => "configurationFailed"
  | .stateChanged => "stateChanged"
  | .stopFailed => "stopFailed"
  | .startFailed => "startFailed"
  | .recoveryRequired => "recoveryRequired"

def SelectorSavedOnlyReason.name : SelectorSavedOnlyReason → String
  | .runtimeStopped => "runtimeStopped"
  | .runtimeNotReady => "runtimeNotReady"
  | .notInAppliedArtifact => "notInAppliedArtifact"
  | .dispatchUnavailable => "dispatchUnavailable"

def SelectorApplyUnknownReason.name : SelectorApplyUnknownReason → String
  | .runtime .readBackUnavailable => "readBackUnavailable"
  | .runtime .unknownRuntimeNode => "unknownRuntimeNode"
  | .runtime .instanceChanged => "instanceChanged"
  | .superseded => "superseded"

def Outcome.response : Outcome → Json
  | .saved => .obj [("type", .str "saved")]
  | .selectorApplied poolId nodeId =>
    .obj [("type", .str "selectorApplied"), ("poolId", .str poolId), ("nodeId", .str nodeId)]
  | .selectorNotApplied poolId nodeId runtimeNodeId =>
    .obj [("type", .str "selectorNotApplied"), ("poolId", .str poolId), ("nodeId", .str nodeId),
      ("runtimeNodeId", .str runtimeNodeId)]
  | .selectorSavedOnly poolId nodeId reason =>
    .obj [("type", .str "selectorSavedOnly"), ("poolId", .str poolId), ("nodeId", .str nodeId),
      ("reason", .str (SelectorSavedOnlyReason.name reason))]
  | .selectorApplyUnknown poolId nodeId reason =>
    .obj [("type", .str "selectorApplyUnknown"), ("poolId", .str poolId), ("nodeId", .str nodeId),
      ("reason", .str reason.name)]
  | .applyStarted operationId =>
    .obj [("type", .str "applyStarted"), ("operationId", .str operationId)]
  | .applyCompleted operationId =>
    .obj [("type", .str "applyCompleted"), ("operationId", .str operationId)]

def SnapshotResult.response : SnapshotResult → Json
  | .ok snapshot => .obj [("status", .str "ok"), ("snapshot", snapshot.response)]
  | .error e => .obj [("status", .str "error"), ("error", .str e.name)]

def MutationResult.response : MutationResult → Json
  | .ok outcome snapshot =>
    .obj [("status", .str "ok"), ("outcome", outcome.response), ("snapshot", snapshot.response)]
  | .error e revision =>
    .obj [("status", .str "error"), ("error", .str e.name),
      ("revision", ofOption numberU64 revision)]

end Veyra.ProxyRouting
