import Veyra.Application.ActivationRequest
import Veyra.Application.RoutingSnapshot
import Veyra.Application.SubscriptionManagement
import Veyra.Singbox.Closed
import Veyra.Singbox.Runtime

/-!
# Veyra.Application.ManagedRuntime

`ManagedObservationRuntimeController` and its worker: the one place that
starts, stops and replaces the sidecar, and that records what it did in the
observation, the switch record and the selector index.

`ManagedRuntime` is everything they keep in memory.  What a call asks of the
outside — the gate, the store, the random bytes, the deadline, the selector
API — is in the answers it is given, so a statement about all answers is one
about all outcomes.  The state on disk is passed in where a call reads it
under the gate, and comes back as the call leaves it.
-/

namespace Veyra

open Check ProxyRouting

/-! ## The selector index -/

structure RuntimeTags where
  pool : String
  node : String
deriving DecidableEq, Repr

/-- `AppliedRoutingIndex`; its two maps are lists of entries with distinct keys. -/
structure AppliedRoutingIndex where
  configurationGeneration : UInt64
  poolMembers : List (PoolId × List (NodeId × RuntimeTags))
deriving DecidableEq, Repr

/-- `AppliedRoutingIndex::from_projection`. -/
def AppliedRoutingIndex.fromProjection (p : SelectedRuntimeProjection) : AppliedRoutingIndex :=
  { configurationGeneration := p.selectedGeneration
    poolMembers := p.runtimeIntent.pools.map fun pool =>
      (pool.id, pool.members.map fun id => (id, ⟨poolTag pool.id.val, nodeTag id.val⟩)) }

/-- The members of a pool, with their tags. -/
def AppliedRoutingIndex.members (index : AppliedRoutingIndex) (pool : PoolId) :
    List (NodeId × RuntimeTags) :=
  ((index.poolMembers.find? (·.1 = pool)).map (·.2)).getD []

/-! ## Results and answers -/

inductive LoadRuntimeIntentError
  | busy
  | unavailable
  | selectionRequired
  | configuration
deriving DecidableEq, Repr

inductive ManagedRuntimeStartResult
  | started
  | alreadyRunning
  | subscriptionSelectionRequired
  | stateUnavailable
  | configurationFailed
  | startFailed
  | busy
deriving DecidableEq, Repr

inductive ManagedRuntimeStopResult
  | stopped
  | alreadyStopped
  | stopFailed
  | busy
deriving DecidableEq, Repr

/-- What the port reads of its instance: nothing on a failure. -/
structure SampleAnswers where
  observation : Option ClashRuntimeObservation
  memory : Option UInt64

/-- What the worker finds: a cancellation after the preparation, the gate, the store and its
state, a cancellation under the gate, and how the save went. -/
structure CommitAnswers where
  cancelled : Bool
  gate : Bool
  store : Bool
  loads : Bool
  cancelledAtGate : Bool
  saves : Bool
deriving DecidableEq, Repr

/-! ## The state -/

/-- The parameters: the compiler's, the text of its documents, and the platform. -/
structure RuntimeEnv (P Bytes Value : Type) where
  compiler : CompilerEnv
  text : DocumentText Bytes Value
  port : SidecarPort P Bytes

/-- What the controller and its worker keep.  `recorded` and `readFrom` are history that nothing
reads: the records written so far, and the instance that each selector was read from. -/
structure ManagedRuntime (P Bytes : Type) where
  runtime : Option (SidecarRuntime P Bytes)
  observations : RuntimeObservationSnapshot
  routingApplyTerminal : Option RoutingApplyTerminal
  appliedRoutingIndex : Option AppliedRoutingIndex
  selectorRuntimeNodes : PoolId → Option NodeId
  now : UInt64
  recorded : List Record
  readFrom : PoolId → Option ManagedSidecar

namespace ManagedRuntime

variable {P Bytes Value : Type}

/-- The state after the start of the process. -/
def new : ManagedRuntime P Bytes where
  runtime := none
  observations := .mock
  routingApplyTerminal := none
  appliedRoutingIndex := none
  selectorRuntimeNodes := fun _ => none
  now := 0
  recorded := []
  readFrom := fun _ => none

/-- A call of a `record_*` function. -/
def record (w : ManagedRuntime P Bytes) (r : Record) : ManagedRuntime P Bytes :=
  { w with
    observations := w.observations.update w.now fun s => r.change s
    recorded := w.recorded ++ [r] }

/-- `switch_phase`. -/
def switchPhase (w : ManagedRuntime P Bytes) (operationId : String)
    (status : SubscriptionSwitchStatus) (errorCode : Option SubscriptionSwitchErrorCode) :
    ManagedRuntime P Bytes :=
  w.record (.subscriptionSwitch { operationId, status, errorCode })

def withRuntime (w : ManagedRuntime P Bytes) (r : SidecarRuntime P Bytes) :
    ManagedRuntime P Bytes :=
  { w with runtime := some r }

/-- `observed_lifecycle`. -/
def observedLifecycle : SidecarLifecycle → ObservedSidecarLifecycle
  | .stopped => .stopped
  | .ready => .ready
  | .recoveryRequired => .recoveryRequired

/-- The new instance is ready: `record_subscription_ready` for what it runs. -/
def becomeReady (w : ManagedRuntime P Bytes) (r : SidecarRuntime P Bytes)
    (p : SelectedRuntimeProjection) (operationId : Option String) : ManagedRuntime P Bytes :=
  (w.withRuntime r).record
    (.subscriptionReady p.selectedSubscriptionId.val p.selectedGeneration operationId
      r.exposedMixedPort.isSome)

/-- `install_applied_routing_index`. -/
def installIndex (w : ManagedRuntime P Bytes) (p : SelectedRuntimeProjection) :
    ManagedRuntime P Bytes :=
  { w with
    appliedRoutingIndex := some (.fromProjection p), selectorRuntimeNodes := fun _ => none }

/-- `clear_applied_routing_index`. -/
def clearIndex (w : ManagedRuntime P Bytes) : ManagedRuntime P Bytes :=
  { w with appliedRoutingIndex := none, selectorRuntimeNodes := fun _ => none }

/-- The runtime exists and is stopped. -/
def isStopped (w : ManagedRuntime P Bytes) : Bool := w.runtime.any (·.lifecycle = .stopped)

/-- The instance that is owned. -/
def instance? (w : ManagedRuntime P Bytes) : Option ManagedSidecar := w.runtime.bind (·.child)

/-! ## Configurations -/

/-- `load_runtime_intent`, once the gate and the store have answered. -/
def loadRuntimeIntent (loaded : Except LoadRuntimeIntentError AppState) :
    Except LoadRuntimeIntentError SelectedRuntimeProjection := do
  let state ← loaded
  reject state.activeSubscriptionId.isNone .selectionRequired
  (projectSelectedRuntime state).mapError fun _ => .configuration

/-- `compile_projection` with the secret that was drawn, if one could be. -/
def compileProjection [DecidableEq Value] (env : RuntimeEnv P Bytes Value)
    (p : SelectedRuntimeProjection) (secret : Option String) : Option Bytes := do
  let plan ← (compile env.compiler p.runtimeIntent p.projectedDefaultTarget).toOption
  let secret ← secret
  (plan.finalize env.compiler env.text secret).toOption

/-! ## Start and stop -/

/-- A candidate that the configuration check or the preparation refused. -/
def configurationRefused (r : SidecarRuntime P Bytes) (error : SidecarError) : Bool :=
  (error = .candidateCheck || error = .candidatePrepare) && r.lifecycle ≠ .recoveryRequired

/-- `start_stopped_runtime`. -/
def startStoppedRuntime [DecidableEq Value] (env : RuntimeEnv P Bytes Value)
    (w : ManagedRuntime P Bytes) (r : SidecarRuntime P Bytes) (intent : SelectedRuntimeProjection)
    (secret : Option String) : ManagedRuntimeStartResult × ManagedRuntime P Bytes :=
  match compileProjection env intent secret with
  | none =>
    (.configurationFailed, (w.withRuntime r).record (.managedFailure none .configuration))
  | some candidate =>
    match r.startOrReplace env.port candidate with
    | (.ok (), r) => (.started, w.becomeReady r intent none)
    | (.error e, r) =>
      let w := w.withRuntime r
      let lifecycle := observedLifecycle r.lifecycle
      if configurationRefused r e then
        (.configurationFailed, w.record (.managedFailure (some lifecycle) .configuration))
      else (.startFailed, w.record (.managedFailure (some lifecycle) .start))

/-- `start_runtime`; `created` is the port, if one could be created. -/
def startRuntime [DecidableEq Value] (env : RuntimeEnv P Bytes Value)
    (w : ManagedRuntime P Bytes) (intent : SelectedRuntimeProjection) (created : Option P)
    (secret : Option String) : ManagedRuntimeStartResult × ManagedRuntime P Bytes :=
  match w.runtime with
  | some active =>
    match active.lifecycle with
    | .ready => (.alreadyRunning, w)
    | .stopped => startStoppedRuntime env w active intent secret
    | .recoveryRequired =>
      (.startFailed, w.record (.managedFailure (some .recoveryRequired) .start))
  | none =>
    match created with
    | none => (.startFailed, w.record (.managedFailure none .start))
    | some port => startStoppedRuntime env w (.newObservationOnly port) intent secret

/-- The worker's `Start`; `shuttingDown` is what it finds requested. -/
def runStart [DecidableEq Value] (env : RuntimeEnv P Bytes Value) (w : ManagedRuntime P Bytes)
    (intent : SelectedRuntimeProjection) (shuttingDown : Bool) (created : Option P)
    (secret : Option String) : ManagedRuntimeStartResult × ManagedRuntime P Bytes :=
  if shuttingDown then (.busy, w)
  else
    match startRuntime env w intent created secret with
    | (.started, w) => (.started, w.installIndex intent)
    | (result, w) => (result, w)

/-- `stop_runtime`. -/
def stopRuntime (io : SidecarPort P Bytes) (w : ManagedRuntime P Bytes) :
    ManagedRuntimeStopResult × ManagedRuntime P Bytes :=
  match w.runtime with
  | none => (.alreadyStopped, w.record .managedStopped)
  | some r =>
    match r.lifecycle with
    | .stopped => (.alreadyStopped, w.record .managedStopped)
    | .ready | .recoveryRequired =>
      match r.stop io with
      | (.ok (), r) => (.stopped, (w.withRuntime r).record .managedStopped)
      | (.error _, r) =>
        (.stopFailed,
          (w.withRuntime r).record (.managedFailure (some .recoveryRequired) .stop))

/-- The worker's `Stop` and `Shutdown`. -/
def runStop (io : SidecarPort P Bytes) (w : ManagedRuntime P Bytes) :
    ManagedRuntimeStopResult × ManagedRuntime P Bytes :=
  match stopRuntime io w with
  | (.stopped, w) => (.stopped, w.clearIndex)
  | (.alreadyStopped, w) => (.alreadyStopped, w.clearIndex)
  | (result, w) => (result, w)

/-- `sample_runtime`. -/
def sampleRuntime (io : SidecarPort P Bytes) (w : ManagedRuntime P Bytes) (a : SampleAnswers) :
    ManagedRuntime P Bytes :=
  match w.runtime with
  | none => w
  | some r =>
    if r.lifecycle ≠ .ready then w
    else
      match a.observation with
      | some observation =>
        w.record (.managedSample observation (a.memory.filter (· ≤ maxSafeInteger)))
      | none =>
        match r.recoverActiveFailure io with
        | (.ok (), r) =>
          (w.withRuntime r).record
            (.managedFailure (some (observedLifecycle r.lifecycle)) .observation)
        | (.error _, r) =>
          (w.withRuntime r).record (.managedFailure (some .recoveryRequired) .observation)

end ManagedRuntime

/-! ## Activation: the calling thread -/

/-- A call of `activate`, or of `apply_proxy_routing` when it names the generation it expects. -/
structure ActivationCall where
  id : String
  force : Bool
  expectedDesiredGeneration : Option UInt64
  operationId : String
deriving DecidableEq, Repr

/-- The result of an activation; the subscription stands for its summary. -/
inductive ActivationResult
  | activated (operationId : String) (subscription : Subscription) (generation : UInt64)
  | reactivated (operationId : String) (subscription : Subscription) (generation : UInt64)
  | alreadyCurrent (operationId : String) (subscription : Subscription) (generation : UInt64)
  | pending (operationId : String)
  | error (operationId : Option String) (error : ActivationError)
deriving DecidableEq, Repr

/-- `ActivationRequest`: what the worker is sent. -/
structure ActivationRequest (Bytes : Type) where
  operationId : String
  plan : ActivationPlan
  subscription : Subscription
  config : Bytes

/-- How the checks of the calling thread end, when they do not fail. -/
inductive Preflight (Bytes : Type)
  | alreadyCurrent (subscription : Subscription) (generation : UInt64)
  | send (request : ActivationRequest Bytes)

/-- What the calling thread finds: a shutdown request, both guards, the state under the gate
(or why there is none), a secret, and a worker that takes the request. -/
structure PreflightAnswers where
  shuttingDown : Bool
  guarded : Bool
  loaded : Except ActivationError AppState
  secret : Option String
  sent : Bool

/-- `selected_summary`. -/
def selectedSummary (state : AppState) (id : String) : Except ActivationError Subscription := do
  state.validate.mapError fun _ => .configurationFailed
  okOr (state.subscription? id) .notFound

/-- `should_return_already_current`. -/
def shouldReturnAlreadyCurrent (force : Bool) (snapshot : RuntimeObservationSnapshot)
    (id : String) (generation : UInt64) : Bool :=
  !force && snapshot.sidecarLifecycle = .ready && snapshot.appliedSubscriptionId = some id &&
    snapshot.appliedConfigurationGeneration = some generation

/-- `routing_apply_terminal_failure`. -/
def routingApplyTerminalFailure (error : ActivationError) (observationStarted : Bool) :
    Option RoutingApplyTerminalFailure :=
  match error with
  | .notFound | .selectionConflict | .configurationFailed => some .configurationFailed
  | .stateChanged => some .stateChanged
  | .busy => if observationStarted then some .stateChanged else none
  | _ => none

/-- The phase in which a refused routing apply ends. -/
def ProxyRouting.RoutingApplyTerminalFailure.phase :
    RoutingApplyTerminalFailure → SubscriptionSwitchStatus × SubscriptionSwitchErrorCode
  | .configurationFailed => (.failed, .configurationFailed)
  | .stateChanged => (.cancelled, .cancelled)

/-- The tuple of a state that a routing apply is about. -/
def AppState.desiredTuple (state : AppState) : Option String × UInt64 :=
  (state.activeSubscriptionId.map (·.val), state.activeConfigurationGeneration)

namespace ActivationCall

/-- The checks before the guards are taken, and taking them. -/
def enter (call : ActivationCall) (a : PreflightAnswers) : Except ActivationError AppState := do
  reject a.shuttingDown .busy
  reject (Text.blank call.id || Text.len call.id > 128) .invalidInput
  reject (!a.guarded) .busy
  a.loaded

/-- A routing apply for another tuple than the state has. -/
def isStale (call : ActivationCall) (expected : AppState) : Bool :=
  call.expectedDesiredGeneration.any fun generation =>
    expected.activeConfigurationGeneration ≠ generation ||
      expected.activeSubscriptionId.all (·.val ≠ call.id)

/-- The observation of a routing apply starts once its tuple was found current. -/
def startsObservation (call : ActivationCall) (expected : AppState) : Bool :=
  call.expectedDesiredGeneration.isSome && !call.isStale expected

end ActivationCall

namespace ManagedRuntime

variable {P Bytes Value : Type}

/-- A routing apply is queued: its predecessor's failure is forgotten. -/
def queueRouting (w : ManagedRuntime P Bytes) (call : ActivationCall) (expected : AppState) :
    ManagedRuntime P Bytes :=
  if call.startsObservation expected then
    { w with routingApplyTerminal := none }.switchPhase call.operationId .queued none
  else w

/-- The rest of the checks, on the loaded state. -/
def preflight [DecidableEq Value] (env : RuntimeEnv P Bytes Value) (w : ManagedRuntime P Bytes)
    (call : ActivationCall) (a : PreflightAnswers) (expected : AppState) :
    Except ActivationError (Preflight Bytes) := do
  let plan ← planActivation call.id call.force call.expectedDesiredGeneration expected
  let generation := plan.candidate.activeConfigurationGeneration
  if shouldReturnAlreadyCurrent call.force w.observations call.id generation then do
    let subscription ← selectedSummary plan.candidate call.id
    .ok (.alreadyCurrent subscription generation)
  else do
    let config ← okOr (compileProjection env plan.projection a.secret) .configurationFailed
    let subscription ← selectedSummary plan.candidate call.id
    reject (!a.sent) .busy
    .ok (.send { operationId := call.operationId, plan, subscription, config })

/-- The failure of a routing apply is remembered and shown, after the guards are gone. -/
def recordRefusal (w : ManagedRuntime P Bytes) (call : ActivationCall) (error : ActivationError)
    (observed : Option AppState) : ManagedRuntime P Bytes :=
  match call.expectedDesiredGeneration,
    routingApplyTerminalFailure error (observed.any call.startsObservation) with
  | some generation, some failure =>
    let (activeSubscriptionId, desiredGeneration) :=
      (observed.map (·.desiredTuple)).getD (some call.id, generation)
    let terminal : RoutingApplyTerminal :=
      { operationId := call.operationId, activeSubscriptionId, desiredGeneration, failure }
    -- a stale apply was never queued: seed its record first
    let w := { w with routingApplyTerminal := some terminal }.switchPhase call.operationId
      .queued none
    w.switchPhase call.operationId failure.phase.1 (some failure.phase.2)
  | _, _ => w

/-- A refused activation. -/
def refuse (w : ManagedRuntime P Bytes) (call : ActivationCall) (error : ActivationError)
    (observed : Option AppState) : ActivationResult × ManagedRuntime P Bytes :=
  (.error (some call.operationId) error, w.recordRefusal call error observed)

/-! ## Activation: the worker -/

def switchPhases (w : ManagedRuntime P Bytes) (operationId : String)
    (statuses : List SubscriptionSwitchStatus) : ManagedRuntime P Bytes :=
  statuses.foldl (fun w status => w.switchPhase operationId status none) w

/-- What a failed sidecar call means for an activation: the error, its code and its log. -/
def activationFailure (lifecycle : SidecarLifecycle) (error : SidecarError) :
    ActivationError × SubscriptionSwitchErrorCode × ManagedRuntimeFailure :=
  if error = .activeStop then (.stopFailed, .stopFailed, .stop)
  else if lifecycle = .recoveryRequired then (.recoveryRequired, .recoveryRequired, .stop)
  else
    match error with
    | .candidateCheck | .candidatePrepare =>
      (.configurationFailed, .configurationFailed, .configuration)
    | _ => (.startFailed, .startFailed, .start)

/-- `activation_runtime_failure`. -/
def activationRuntimeFailure (w : ManagedRuntime P Bytes) (r : SidecarRuntime P Bytes)
    (operationId : String) (error : SidecarError) : ActivationResult × ManagedRuntime P Bytes :=
  let (wire, code, log) := activationFailure r.lifecycle error
  let w := (w.withRuntime r).record (.managedFailure (some (observedLifecycle r.lifecycle)) log)
  (.error (some operationId) wire, w.switchPhase operationId .failed (some code))

/-- The closure of `apply_activation` that runs under the gate; the result says whether the
switch goes on.  A save that fails leaves the disk as it was. -/
def persistActivation (plan : ActivationPlan) (a : CommitAnswers) (disk : AppState) :
    Except ActivationError Bool × AppState :=
  if !a.gate then (.error .busy, disk)
  else if !a.store || !a.loads then (.error .stateUnavailable, disk)
  else
    match commitActivation plan disk with
    | .error e => (.error e, disk)
    | .ok save =>
      if a.cancelledAtGate then (.ok false, disk)
      else
        match save with
        | none => (.ok true, disk)
        | some candidate => if a.saves then (.ok true, candidate) else (.error .saveFailed, disk)

/-- The code of a commit that failed. -/
def commitErrorCode : ActivationError → SubscriptionSwitchErrorCode
  | .busy => .busy
  | .saveFailed => .saveFailed
  | _ => .stateUnavailable

/-- Undo the preparation, then go on. -/
def cancelThen (io : SidecarPort P Bytes) (w : ManagedRuntime P Bytes)
    (r : SidecarRuntime P Bytes) (operationId : String)
    (next : ManagedRuntime P Bytes → ActivationResult × ManagedRuntime P Bytes) :
    ActivationResult × ManagedRuntime P Bytes :=
  match r.cancelPrepared io with
  | (.error e, r) => w.activationRuntimeFailure r operationId e
  | (.ok (), r) => next (w.withRuntime r)

/-- A cancelled activation is pending for its caller. -/
def pendingActivation (operationId : String) (w : ManagedRuntime P Bytes) :
    ActivationResult × ManagedRuntime P Bytes :=
  (.pending operationId, w.switchPhase operationId .cancelled (some .cancelled))

/-- An activation whose commit failed. -/
def failedCommit (operationId : String) (error : ActivationError) (w : ManagedRuntime P Bytes) :
    ActivationResult × ManagedRuntime P Bytes :=
  (.error (some operationId) error,
    (w.record (.managedFailure none .configuration)).switchPhase operationId .failed
      (some (commitErrorCode error)))

/-- The part of `apply_activation` after the state was persisted. -/
def replaceInstance (io : SidecarPort P Bytes) (w : ManagedRuntime P Bytes)
    (r : SidecarRuntime P Bytes) (request : ActivationRequest Bytes) :
    ActivationResult × ManagedRuntime P Bytes :=
  let operationId := request.operationId
  let w := w.switchPhases operationId [.persisted, .applying]
  match r.commitPrepared io with
  | (.error e, r) => w.activationRuntimeFailure r operationId e
  | (.ok (), r) =>
    let w := w.becomeReady r request.plan.projection (some operationId)
    let generation := request.plan.projection.selectedGeneration
    if request.plan.reactivation then
      (.reactivated operationId request.subscription generation, w)
    else (.activated operationId request.subscription generation, w)

/-- `apply_activation`, with the state on disk when it takes the gate, and what it leaves. -/
def applyActivation (io : SidecarPort P Bytes) (w : ManagedRuntime P Bytes)
    (r : SidecarRuntime P Bytes) (request : ActivationRequest Bytes) (a : CommitAnswers)
    (disk : AppState) : (ActivationResult × ManagedRuntime P Bytes) × AppState :=
  let operationId := request.operationId
  let w := w.switchPhase operationId .checking none
  match r.prepareReplacement io request.config with
  | (.error e, r) => (w.activationRuntimeFailure r operationId e, disk)
  | (.ok (), r) =>
    let w := (w.withRuntime r).switchPhase operationId .prepared none
    if a.cancelled then (w.cancelThen io r operationId (pendingActivation operationId), disk)
    else
      match persistActivation request.plan a disk with
      | (.ok true, disk) => (w.replaceInstance io r request, disk)
      | (.ok false, disk) =>
        (w.cancelThen io r operationId (pendingActivation operationId), disk)
      | (.error e, disk) => (w.cancelThen io r operationId (failedCommit operationId e), disk)

/-- The selector index after an activation. -/
def settleActivation (p : SelectedRuntimeProjection) :
    ActivationResult × ManagedRuntime P Bytes → ActivationResult × ManagedRuntime P Bytes
  | (.activated op sub generation, w) => (.activated op sub generation, w.installIndex p)
  | (.reactivated op sub generation, w) => (.reactivated op sub generation, w.installIndex p)
  | (result, w) => (result, if w.isStopped then w.clearIndex else w)

/-- The worker's `Activate`. -/
def runActivation (io : SidecarPort P Bytes) (w : ManagedRuntime P Bytes)
    (request : ActivationRequest Bytes) (created : Option P) (a : CommitAnswers)
    (disk : AppState) : (ActivationResult × ManagedRuntime P Bytes) × AppState :=
  let w := w.switchPhase request.operationId .queued none
  match w.runtime.or (created.map .newObservationOnly) with
  | none =>
    ((.error (some request.operationId) .startFailed,
      w.switchPhase request.operationId .failed (some .startFailed)), disk)
  | some r =>
    let (result, disk) := applyActivation io (w.withRuntime r) r request a disk
    (settleActivation request.plan.projection result, disk)

/-- `activate_with_expected_generation` and, when it sends a request, the worker's answer. -/
def activate [DecidableEq Value] (env : RuntimeEnv P Bytes Value) (w : ManagedRuntime P Bytes)
    (call : ActivationCall) (p : PreflightAnswers) (created : Option P) (a : CommitAnswers)
    (disk : AppState) : (ActivationResult × ManagedRuntime P Bytes) × AppState :=
  match call.enter p with
  | .error e => (w.refuse call e none, disk)
  | .ok expected =>
    let w := w.queueRouting call expected
    match preflight env w call p expected with
    | .error e => (w.refuse call e (some expected), disk)
    | .ok (.alreadyCurrent subscription generation) =>
      ((.alreadyCurrent call.operationId subscription generation, w), disk)
    | .ok (.send request) => runActivation env.port w request created a disk

end ManagedRuntime

/-! ## Saving a document -/

inductive DocumentApplyError
  | stopFailed
  | startFailed
  | recoveryRequired
  | operationTimedOut
deriving DecidableEq, Repr

inductive DocumentApplyResult
  | notRequired
  | ready (operationId : String) (generation : UInt64)
  | failed (operationId : String) (generation : UInt64) (error : DocumentApplyError)
deriving DecidableEq, Repr

inductive DocumentSaveError
  | invalidInput
  | notFound
  | documentUnavailable
  | documentConflict
  | contentTooLarge
  | formatFailed
  | parseFailed
  | unsupportedNodes
  | unsupportedClashProviders
  | normalizationFailed
  | validationFailed
  | configurationFailed
  | saveFailed
  | stateUnavailable
  | identityFailed
  | busy
  | recoveryRequired
  | operationTimedOut
deriving DecidableEq, Repr

/-- The result of a save, without the summary of its subscription. -/
inductive DocumentSaveResult
  | ok (documentRevision : String) (apply : DocumentApplyResult)
  | error (operationId : Option String) (error : DocumentSaveError)
deriving DecidableEq, Repr

/-- `map_document_error`. -/
def DocumentOperationError.toSaveError : DocumentOperationError → DocumentSaveError
  | .invalidInput => .invalidInput
  | .contentTooLarge => .contentTooLarge
  | .formatFailed => .formatFailed
  | .parseFailed => .parseFailed
  | .unsupportedNodes => .unsupportedNodes
  | .unsupportedClashProviders => .unsupportedClashProviders
  | .normalizationFailed => .normalizationFailed
  | .validationFailed => .validationFailed
  | .documentConflict => .documentConflict
  | .documentUnavailable => .documentUnavailable
  | .notFound => .notFound
  | .stateUnavailable => .stateUnavailable
  | .saveFailed => .saveFailed
  | .busy => .busy
  | .operationTimedOut => .operationTimedOut

/-- `document_switch_error_code`. -/
def DocumentSaveError.switchCode : DocumentSaveError → SubscriptionSwitchErrorCode
  | .documentConflict | .busy => .busy
  | .saveFailed => .saveFailed
  | .notFound | .documentUnavailable | .stateUnavailable | .identityFailed => .stateUnavailable
  | .recoveryRequired => .recoveryRequired
  | .operationTimedOut => .operationTimedOut
  | .invalidInput | .contentTooLarge | .formatFailed | .parseFailed | .unsupportedNodes
  | .unsupportedClashProviders | .normalizationFailed | .validationFailed
  | .configurationFailed => .configurationFailed

/-- What a document save finds: what it could prepare, whether its deadline had passed at each
check, a shutdown request, a secret, a port if one is needed, the gate, the store and a closing
manager at the commit, how the save went, and at last what loading the state again gives. -/
structure DocumentAnswers (P : Type) where
  prepared : Except DocumentOperationError PreparedDocumentSave
  lateAfterPrepare : Bool
  secret : Option String
  created : Option P
  lateAfterCheck : Bool
  shuttingDown : Bool
  gate : Except DocumentOperationError Unit
  closing : Bool
  saves : Bool
  lateAfterCommit : Bool
  reloaded : Except LoadRuntimeIntentError AppState

/-- `commit_prepared_document` under its gate. -/
def commitDocument {P : Type} (prepared : PreparedDocumentSave) (a : DocumentAnswers P)
    (disk : AppState) : Except DocumentOperationError Unit × AppState :=
  match a.gate with
  | .error e => (.error e, disk)
  | .ok () =>
    match commitPreparedDocument prepared disk with
    | .error e => (.error e, disk)
    | .ok save =>
      if a.closing then (.error .busy, disk)
      else
        match save with
        | none => (.ok (), disk)
        | some next => if a.saves then (.ok (), next) else (.error .saveFailed, disk)

namespace ManagedRuntime

variable {P Bytes Value : Type}

/-- `failed_document_switch`. -/
def failedDocumentSwitch (w : ManagedRuntime P Bytes) (operationId : String)
    (error : DocumentSaveError) : DocumentSaveResult × ManagedRuntime P Bytes :=
  (.error (some operationId) error,
    w.switchPhase operationId .failed (some error.switchCode))

/-- A clean-up that failed: the runtime waits for an explicit stop. -/
def recoverDocument (w : ManagedRuntime P Bytes) : ManagedRuntime P Bytes :=
  w.record (.managedFailure (some .recoveryRequired) .stop)

/-- What a failed sidecar call means for a saved document. -/
def documentFailure (lifecycle : SidecarLifecycle) (error : SidecarError) :
    DocumentApplyError × SubscriptionSwitchErrorCode × ManagedRuntimeFailure :=
  if error = .activeStop then (.stopFailed, .stopFailed, .stop)
  else if lifecycle = .recoveryRequired then (.recoveryRequired, .recoveryRequired, .stop)
  else (.startFailed, .startFailed, .start)

/-- `document_runtime_error`. -/
def documentRuntimeError (w : ManagedRuntime P Bytes) (r : SidecarRuntime P Bytes)
    (operationId : String) (generation : UInt64) (error : SidecarError) :
    DocumentApplyResult × ManagedRuntime P Bytes :=
  let (wire, code, log) := documentFailure r.lifecycle error
  let w := (w.withRuntime r).record (.managedFailure (some (observedLifecycle r.lifecycle)) log)
  (.failed operationId generation wire, w.switchPhase operationId .failed (some code))

/-- Undo the preparation of a document save that is not committed. -/
def cancelDocument (io : SidecarPort P Bytes) (w : ManagedRuntime P Bytes)
    (r : SidecarRuntime P Bytes) (operationId : String) (error : DocumentSaveError) :
    DocumentSaveResult × ManagedRuntime P Bytes :=
  match r.cancelPrepared io with
  | (.error _, r) => (w.withRuntime r).recoverDocument.failedDocumentSwitch operationId
      .recoveryRequired
  | (.ok (), r) => (w.withRuntime r).failedDocumentSwitch operationId error

/-- A document that was committed too late to be applied. -/
def timeOutDocument (io : SidecarPort P Bytes) (w : ManagedRuntime P Bytes)
    (r : SidecarRuntime P Bytes) (operationId : String) (generation : UInt64) :
    DocumentApplyResult × ManagedRuntime P Bytes :=
  match r.cancelPrepared io with
  | (.error _, r) =>
    (.failed operationId generation .recoveryRequired,
      (w.withRuntime r).recoverDocument.switchPhase operationId .failed (some .recoveryRequired))
  | (.ok (), r) =>
    (.failed operationId generation .operationTimedOut,
      (w.withRuntime r).switchPhase operationId .failed (some .operationTimedOut))

/-- The part of `apply_document_save` after the document was committed. -/
def replaceDocument (io : SidecarPort P Bytes) (w : ManagedRuntime P Bytes)
    (r : SidecarRuntime P Bytes) (operationId : String) (p : SelectedRuntimeProjection)
    (generation : UInt64) (lateAfterCommit : Bool) :
    DocumentApplyResult × ManagedRuntime P Bytes :=
  let w := w.switchPhase operationId .persisted none
  if lateAfterCommit then w.timeOutDocument io r operationId generation
  else
    let w := w.switchPhase operationId .applying none
    match r.commitPrepared io with
    | (.error e, r) => w.documentRuntimeError r operationId generation e
    | (.ok (), r) =>
      (.ready operationId generation,
        w.becomeReady r { p with selectedGeneration := generation } (some operationId))

/-- The part of `apply_document_save` with a configuration and a runtime. -/
def switchDocument (io : SidecarPort P Bytes) (w : ManagedRuntime P Bytes)
    (r : SidecarRuntime P Bytes) (operationId : String) (p : SelectedRuntimeProjection)
    (config : Bytes) (prepared : PreparedDocumentSave) (a : DocumentAnswers P) (disk : AppState) :
    (DocumentSaveResult × ManagedRuntime P Bytes) × AppState :=
  match r.prepareReplacement io config with
  | (.error _, r) =>
    let w := w.withRuntime r
    if r.lifecycle = .recoveryRequired then
      (w.recoverDocument.failedDocumentSwitch operationId .recoveryRequired, disk)
    else (w.failedDocumentSwitch operationId .configurationFailed, disk)
  | (.ok (), r) =>
    let w := (w.withRuntime r).switchPhase operationId .prepared none
    if a.lateAfterCheck || a.shuttingDown then
      let error := if a.shuttingDown then DocumentSaveError.busy else .operationTimedOut
      (w.cancelDocument io r operationId error, disk)
    else
      match commitDocument prepared a disk with
      | (.error e, disk) => (w.cancelDocument io r operationId e.toSaveError, disk)
      | (.ok (), disk) =>
        let generation := prepared.next.activeConfigurationGeneration
        let (apply, w) := w.replaceDocument io r operationId p generation a.lateAfterCommit
        ((.ok prepared.documentRevision apply, w), disk)

/-- The runtime already runs what the saved state selects. -/
def runsSelected (w : ManagedRuntime P Bytes) (id : String) (generation : UInt64) : Bool :=
  w.runtime.any (·.lifecycle = .ready) && w.observations.sidecarLifecycle = .ready &&
    w.observations.appliedSubscriptionId = some id &&
    w.observations.appliedConfigurationGeneration = some generation

/-- `apply_document_save`. -/
def applyDocumentSave [DecidableEq Value] (env : RuntimeEnv P Bytes Value)
    (w : ManagedRuntime P Bytes) (id operationId : String) (a : DocumentAnswers P)
    (disk : AppState) : (DocumentSaveResult × ManagedRuntime P Bytes) × AppState :=
  match a.prepared with
  | .error e => ((.error (some operationId) e.toSaveError, w), disk)
  | .ok prepared =>
    let selected := prepared.next.activeSubscriptionId.any (·.val = id)
    let generation := prepared.next.activeConfigurationGeneration
    if a.lateAfterPrepare then ((.error (some operationId) .operationTimedOut, w), disk)
    else if !prepared.requiresApply && (!selected || w.runsSelected id generation) then
      match commitDocument prepared a disk with
      | (.error e, disk) => ((.error (some operationId) e.toSaveError, w), disk)
      | (.ok (), disk) => ((.ok prepared.documentRevision .notRequired, w), disk)
    else
      let w := w.switchPhases operationId [.queued, .checking]
      match projectSelectedRuntime prepared.next with
      | .error _ => (w.failedDocumentSwitch operationId .configurationFailed, disk)
      | .ok p =>
        match compileProjection env p a.secret with
        | none => (w.failedDocumentSwitch operationId .configurationFailed, disk)
        | some config =>
          match w.runtime.or (a.created.map .newObservationOnly) with
          | none => (w.failedDocumentSwitch operationId .configurationFailed, disk)
          | some r => (w.withRuntime r).switchDocument env.port r operationId p config prepared a disk

/-- The selector index after a document save: a save that was applied loads the state again. -/
def settleDocument (reloaded : Except LoadRuntimeIntentError AppState) :
    DocumentSaveResult × ManagedRuntime P Bytes → DocumentSaveResult × ManagedRuntime P Bytes
  | (.ok revision (.ready op generation), w) =>
    (.ok revision (.ready op generation),
      match loadRuntimeIntent reloaded with
      | .ok p => w.installIndex p
      | .error _ => w)
  | (result, w) => (result, if w.isStopped then w.clearIndex else w)

/-- The worker's `SaveDocument`. -/
def runDocumentSave [DecidableEq Value] (env : RuntimeEnv P Bytes Value)
    (w : ManagedRuntime P Bytes) (id operationId : String) (a : DocumentAnswers P)
    (disk : AppState) : (DocumentSaveResult × ManagedRuntime P Bytes) × AppState :=
  let (result, disk) := applyDocumentSave env w id operationId a disk
  (settleDocument a.reloaded result, disk)

end ManagedRuntime

/-! ## Selectors chosen by hand -/

inductive ManualSelectionSavedOnlyReason
  | runtimeStopped
  | runtimeNotReady
  | notInAppliedArtifact
  | dispatchUnavailable
deriving DecidableEq, Repr

inductive ManualSelectionUnknownReason
  | readBackUnavailable
  | unknownRuntimeNode
  | instanceChanged
deriving DecidableEq, Repr

inductive ManualSelectionRuntimeResult
  | applied
  | notApplied (runtimeNodeId : NodeId)
  | savedOnly (reason : ManualSelectionSavedOnlyReason)
  | applyUnknown (reason : ManualSelectionUnknownReason)
deriving DecidableEq, Repr

/-- What the worker finds: the secret of its instance, a client, whether a second look shows
another instance or generation, and the tag that was read back. -/
structure SelectorAnswers where
  secret : Bool
  client : Bool
  changed : Bool
  tag : Option String
deriving DecidableEq, Repr

namespace ManagedRuntime

variable {P Bytes Value : Type}

/-- Nothing is known of a selector. -/
def forgetSelector (w : ManagedRuntime P Bytes) (pool : PoolId) : ManagedRuntime P Bytes :=
  { w with selectorRuntimeNodes := fun p => if p = pool then none else w.selectorRuntimeNodes p }

/-- A selector was read back from the instance that is owned. -/
def readBack (w : ManagedRuntime P Bytes) (pool : PoolId) (node : NodeId) :
    ManagedRuntime P Bytes :=
  { w with
    selectorRuntimeNodes := fun p => if p = pool then some node else w.selectorRuntimeNodes p
    readFrom := fun p => if p = pool then w.instance? else w.readFrom p }

/-- `classify_selector_read_back`. -/
def classifySelectorReadBack (w : ManagedRuntime P Bytes) (index : AppliedRoutingIndex)
    (pool : PoolId) (desired : NodeId) (tag : String) :
    ManualSelectionRuntimeResult × ManagedRuntime P Bytes :=
  match (index.members pool).find? (·.2.node = tag) with
  | none => (.applyUnknown .unknownRuntimeNode, w.forgetSelector pool)
  | some (node, _) =>
    (if node = desired then .applied else .notApplied node, w.readBack pool node)

/-- The index that is held, if it is for the generation that is observed. -/
def currentIndex (w : ManagedRuntime P Bytes) : Option AppliedRoutingIndex :=
  w.appliedRoutingIndex.filter fun index =>
    w.observations.appliedConfigurationGeneration = some index.configurationGeneration

/-- `reconcile_manual_selection`. -/
def reconcileManualSelection (w : ManagedRuntime P Bytes) (pool : PoolId) (node : NodeId)
    (a : SelectorAnswers) : ManualSelectionRuntimeResult × ManagedRuntime P Bytes :=
  match w.runtime with
  | none => (.savedOnly .runtimeStopped, w)
  | some r =>
    match r.lifecycle with
    | .stopped => (.savedOnly .runtimeStopped, w)
    | .recoveryRequired => (.savedOnly .runtimeNotReady, w)
    | .ready =>
      if w.observations.sidecarLifecycle ≠ .ready then (.savedOnly .runtimeNotReady, w)
      else
        match w.currentIndex with
        | none => (.savedOnly .notInAppliedArtifact, w)
        | some index =>
          if !(index.members pool).any (·.1 = node) then (.savedOnly .notInAppliedArtifact, w)
          else if !a.secret then (.savedOnly .runtimeNotReady, w)
          else if !a.client then (.savedOnly .dispatchUnavailable, w)
          else if a.changed then (.applyUnknown .instanceChanged, w.forgetSelector pool)
          else
            match a.tag with
            | none => (.applyUnknown .readBackUnavailable, w.forgetSelector pool)
            | some tag => w.classifySelectorReadBack index pool node tag

end ManagedRuntime

/-! ## Runs -/

/-- The checks of an activation, with the observation that they see. -/
structure ActivationAttempt where
  call : ActivationCall
  answers : PreflightAnswers
  seen : RuntimeObservationSnapshot

/-- One thing that happens to the controller or its worker.  The calling thread of an activation
queues and refuses on its own; `activate` is the worker's part of one that it sent. -/
inductive RuntimeEvent (P : Type)
  | start (loaded : Except LoadRuntimeIntentError AppState) (shuttingDown : Bool)
      (created : Option P) (secret : Option String)
  | stop
  | queue (attempt : ActivationAttempt)
  | refuse (attempt : ActivationAttempt)
  | activate (attempt : ActivationAttempt) (created : Option P) (a : CommitAnswers)
      (disk : AppState)
  | selectManually (pool : PoolId) (node : NodeId) (a : SelectorAnswers)
  | saveDocument (id operationId : String) (a : DocumentAnswers P) (disk : AppState)
  | sample (a : SampleAnswers)
  | unanswered
  | tick (now : UInt64)

namespace ManagedRuntime

variable {P Bytes Value : Type} [DecidableEq Value]

/-- `start`, with the worker's part. -/
def start (env : RuntimeEnv P Bytes Value) (w : ManagedRuntime P Bytes)
    (loaded : Except LoadRuntimeIntentError AppState) (shuttingDown : Bool) (created : Option P)
    (secret : Option String) : ManagedRuntimeStartResult × ManagedRuntime P Bytes :=
  match loadRuntimeIntent loaded with
  | .error .busy => (.busy, w)
  | .error .selectionRequired => (.subscriptionSelectionRequired, w)
  | .error .configuration => (.configurationFailed, w)
  | .error .unavailable => (.stateUnavailable, w.record (.managedFailure none .configuration))
  | .ok intent => runStart env w intent shuttingDown created secret

/-- An attempt that passes its checks sends this request. -/
def sends (env : RuntimeEnv P Bytes Value) (w : ManagedRuntime P Bytes)
    (attempt : ActivationAttempt) : Option (ActivationRequest Bytes) :=
  match attempt.call.enter attempt.answers with
  | .error _ => none
  | .ok expected =>
    match preflight env { w with observations := attempt.seen } attempt.call attempt.answers
        expected with
    | .ok (.send request) => some request
    | .ok (.alreadyCurrent ..) | .error _ => none

/-- An attempt that fails its checks, with the state it read if it got that far. -/
def fails (env : RuntimeEnv P Bytes Value) (w : ManagedRuntime P Bytes)
    (attempt : ActivationAttempt) : Option (ActivationError × Option AppState) :=
  match attempt.call.enter attempt.answers with
  | .error e => some (e, none)
  | .ok expected =>
    match preflight env { w with observations := attempt.seen } attempt.call attempt.answers
        expected with
    | .error e => some (e, some expected)
    | .ok _ => none

/-- One event. -/
def step (env : RuntimeEnv P Bytes Value) (w : ManagedRuntime P Bytes) :
    RuntimeEvent P → Option (ManagedRuntime P Bytes)
  | .start loaded shuttingDown created secret =>
    some (w.start env loaded shuttingDown created secret).2
  | .stop => some (w.runStop env.port).2
  | .queue attempt =>
    (attempt.call.enter attempt.answers).toOption.map fun expected =>
      w.queueRouting attempt.call expected
  | .refuse attempt =>
    (w.fails env attempt).map fun failure => (w.refuse attempt.call failure.1 failure.2).2
  | .activate attempt created a disk =>
    (w.sends env attempt).map fun request =>
      (w.runActivation env.port request created a disk).1.2
  | .selectManually pool node a => some (w.reconcileManualSelection pool node a).2
  | .saveDocument id operationId a disk =>
    some (w.runDocumentSave env id operationId a disk).1.2
  | .sample a => some (w.sampleRuntime env.port a)
  | .unanswered => some (w.record (.managedFailure none .worker))
  | .tick now => some { w with now }

/-! ## What a request says -/

/-- **Spec.**  A request carries the plan of its call and the configuration of its projection. -/
theorem preflight_send {env : RuntimeEnv P Bytes Value} {w : ManagedRuntime P Bytes}
    {call : ActivationCall} {a : PreflightAnswers} {expected : AppState}
    {request : ActivationRequest Bytes}
    (h : preflight env w call a expected = .ok (.send request)) :
    planActivation call.id call.force call.expectedDesiredGeneration expected = .ok request.plan ∧
      request.operationId = call.operationId ∧
      compileProjection env request.plan.projection a.secret = some request.config ∧
      selectedSummary request.plan.candidate call.id = .ok request.subscription := by
  obtain ⟨plan, hplan, h⟩ := ok_bind.mp h
  dsimp only at h
  split at h
  · obtain ⟨subscription, -, h⟩ := ok_bind.mp h
    cases h
  · obtain ⟨config, hconfig, h⟩ := ok_bind.mp h
    obtain ⟨subscription, hsubscription, h⟩ := ok_bind.mp h
    obtain ⟨-, h⟩ := ok_seq.mp h
    cases h
    exact ⟨hplan, rfl, okOr_eq_ok.mp hconfig, hsubscription⟩

/-- A request that was sent was built by the checks of its call. -/
theorem sends_eq_some {env : RuntimeEnv P Bytes Value} {w : ManagedRuntime P Bytes}
    {attempt : ActivationAttempt} {request : ActivationRequest Bytes}
    (h : w.sends env attempt = some request) :
    ∃ expected, attempt.call.enter attempt.answers = .ok expected ∧
      preflight env { w with observations := attempt.seen } attempt.call attempt.answers expected =
        .ok (.send request) := by
  rw [sends] at h
  split at h
  · cases h
  · next expected henter =>
    split at h
    · next sent hsent =>
      cases h
      exact ⟨expected, henter, hsent⟩
    · cases h
    · cases h

end ManagedRuntime

/-! ## A willing platform -/

/-- A platform whose calls all succeed; it hands out consecutive identities. -/
def willingPort (C : Type) : SidecarPort UInt64 C where
  check p _ := (true, p)
  prepare p _ := (true, p)
  run p := (some ⟨p + 1⟩, p + 1)
  ready p _ := (true, p)
  stop p _ := (true, p)
  cancelPending p := (true, p)
  hasPendingCleanup p := (false, p)

/-- A willing platform, and documents that are their own text. -/
def plainEnv : RuntimeEnv UInt64 Document Document := ⟨⟨fun _ => none⟩, plainText, willingPort Document⟩

def apiSecret : String := String.ofList (List.replicate 64 '0')

end Veyra
