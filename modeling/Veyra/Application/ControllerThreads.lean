import Veyra.Application.Controller

/-!
# Veyra.Application.ControllerThreads

The programs of the threads, function by function, and the system they make:
one worker, one scheduler, and any number of callers.

A thread that is done begins its next call; the worker and the scheduler go
round their loops until they leave them.
-/

namespace Veyra

open Check Threads

namespace Controller

/-- What the parts of the application are built with. -/
structure ControllerEnv (P Bytes Value : Type) where
  runtime : RuntimeEnv P Bytes Value
  subscriptions : SubscriptionEnv
  routing : ProxyRouting.Env
  parseUrl : String → Option SourceUrl

/-- How a thread is done: with a call, with a shutdown and its result, or for good. -/
inductive Outcome
  | finished
  | shutdown (complete : Bool)
  | returned
deriving DecidableEq

variable {P Bytes Value : Type}

/-! ## Guards -/

/-- `acquire_guards`. -/
def acquireGuards (subscription : Bool) : Task P Bytes Bool := do
  let taken ← tryLock .runtime
  if !taken then pure false
  else if !subscription then pure true
  else
    let begun ← beginWriteOwned
    if begun then pure true
    else do
      unlock .runtime
      pure false

/-- The guards of a request are dropped. -/
def dropGuards (request : WorkerRequest Bytes) : Task P Bytes Unit := do
  if request.guards .runtime then unlock .runtime
  if request.guards .writes then unlock .writes

/-- `try_send`; a request that is not taken is dropped with its guards. -/
def dispatch (request : WorkerRequest Bytes) : Task P Bytes Bool := do
  let sent ← send request
  if sent then pure true
  else do
    dropGuards request
    pure false

/-- An answer that did not come, or that nobody waits for, is a failure of the worker. -/
def answered : Task P Bytes Unit := do
  let told ← ask
  if told.flag then do
    let _ ← touch (·.record (.managedFailure none .worker))

/-! ## Calls of the controller -/

/-- `load_runtime_intent` up to its projection. -/
def loadState (writer : Writer) : Task P Bytes (Except LoadRuntimeIntentError AppState) :=
  run writer <| decideUnderGate
    { access := fun
        | .busy => .busy
        | .unavailable => .unavailable
      unloaded := .unavailable
      unsaved := .unavailable }
    .capture fun _ current => do
      let state ← okOr current .unavailable
      .ok (none, state)

/-- `start`. -/
def start : Task P Bytes Outcome := do
  let requested ← read .shutdownRequested
  if requested then pure .finished
  else
    let guarded ← acquireGuards true
    if !guarded then pure .finished
    else
      let loaded ← loadState .starting
      match ManagedRuntime.loadRuntimeIntent loaded with
      | .error e => do
        if e = .unavailable then do
          let _ ← touch (·.record (.managedFailure none .configuration))
        unlock .runtime
        unlock .writes
        pure .finished
      | .ok intent => do
        let sent ← dispatch (.start intent)
        if sent then answered
        pure .finished

/-- `stop`. -/
def stop : Task P Bytes Outcome := do
  let requested ← read .shutdownRequested
  let guarded ← acquireGuards (!requested)
  if !guarded then pure .finished
  else
    let sent ← dispatch (.stop (!requested))
    if sent then answered
    pure .finished

/-- A refused activation records its failure once its guards are gone. -/
def refuse (call : ActivationCall) (error : ActivationError) (observed : Option AppState) :
    Task P Bytes Outcome := do
  let _ ← touch (·.recordRefusal call error observed)
  pure .finished

/-- `activate_with_expected_generation` on the loaded state, under both guards. -/
def activateLoaded [DecidableEq Value] (env : RuntimeEnv P Bytes Value) (call : ActivationCall)
    (expected : AppState) : Task P Bytes Outcome := do
  let _ ← touch (·.queueRouting call expected)
  let told ← ask
  let w ← touch id
  match w.preflight env call ⟨false, true, .ok expected, told.secret, true⟩ expected with
  | .error e => do
    unlock .runtime
    unlock .writes
    refuse call e (some expected)
  | .ok (.alreadyCurrent ..) => do
    unlock .runtime
    unlock .writes
    pure .finished
  | .ok (.send request) => do
    let sent ← dispatch (.activate request)
    if sent then pure .finished else refuse call .busy (some expected)

/-- `activate_with_expected_generation`: `activate` and `apply_proxy_routing`. -/
def activate [DecidableEq Value] (env : RuntimeEnv P Bytes Value) (call : ActivationCall) :
    Task P Bytes Outcome := do
  let requested ← read .shutdownRequested
  if requested then refuse call .busy none
  else if Text.blank call.id || Text.len call.id > 128 then refuse call .invalidInput none
  else
    let guarded ← acquireGuards true
    if !guarded then refuse call .busy none
    else
      let loaded ← run .activating <| decideUnderGate activationErrors .capture fun _ current => do
        let state ← okOr current .stateUnavailable
        .ok (none, state)
      match loaded with
      | .error e => do
        unlock .runtime
        unlock .writes
        refuse call e none
      | .ok expected => activateLoaded env call expected

/-- `save_document`. -/
def saveDocument (input : DocumentSaveInput) (operationId : String) : Task P Bytes Outcome := do
  let requested ← read .shutdownRequested
  if requested then pure .finished
  else
    let taken ← tryLock .runtime
    if !taken then pure .finished
    else
      let told ← ask
      -- the deadline cannot be represented
      if told.flag then do
        unlock .runtime
        pure .finished
      else
        let _ ← dispatch (.saveDocument input operationId)
        pure .finished

/-- `running_configuration`. -/
def runningConfiguration : Task P Bytes Outcome := do
  let guarded ← acquireGuards false
  if !guarded then pure .finished
  else
    let _ ← dispatch .readRunningConfiguration
    pure .finished

/-- `reconcile_manual_selection`. -/
def reconcileManualSelection (poolId : PoolId) (nodeId : NodeId) : Task P Bytes Outcome := do
  let requested ← read .shutdownRequested
  if requested then pure .finished
  else
    let guarded ← acquireGuards false
    if !guarded then pure .finished
    else
      let _ ← dispatch (.reconcileManualSelection poolId nodeId)
      pure .finished

/-- `with_runtime_state`, and the deletion that it is called for. -/
def delete (id : String) : Task P Bytes Outcome := do
  let guarded ← acquireGuards false
  if !guarded then pure .finished
  else
    let w ← touch fun w => w
    let stopped := w.observations.sidecarLifecycle = .stopped
    let _ ← run .deleting (SubscriptionManager.delete id stopped)
    unlock .runtime
    pure .finished

/-- The rounds of `shutdown_quiescent` until its deadline. -/
def quiescentWithin : Nat → Task P Bytes Bool
  | 0 => pure false
  | rounds + 1 => do
    let writing ← isLocked .writes
    if writing then quiescentWithin rounds
    else
      let taken ← tryLock .gate
      if !taken then quiescentWithin rounds
      else
        let writing ← isLocked .writes
        unlock .gate
        if writing then quiescentWithin rounds else pure true

/-- `SubscriptionScheduler::shutdown`. -/
def schedulerShutdown : Task P Bytes Bool := do
  store .closing true
  let finished ← read .schedulerDone
  if !finished then pure false
  else
    store .closing true
    let told ← ask
    quiescentWithin (told.rounds + 1)

/-- `shutdown`. -/
def shutdown : Task P Bytes Outcome := do
  let complete ← read .shutdownComplete
  if complete then pure (.shutdown true)
  else
    let taken ← tryLock .waiting
    if !taken then pure (.shutdown false)
    else
      store .shutdownRequested true
      let quiescent ← schedulerShutdown
      if !quiescent then do
        unlock .waiting
        pure (.shutdown false)
      else
        let response ← openChannel
        let sent ← send (.shutdown response)
        if !sent then do
          unlock .waiting
          pure (.shutdown false)
        else
          let result ← await response
          unlock .waiting
          pure (.shutdown (result = some .shutdownComplete))

/-! ## The worker -/

section Worker

variable [DecidableEq Value] (env : ControllerEnv P Bytes Value)

/-- `apply_activation`. -/
def applyActivation (r : SidecarRuntime P Bytes) (request : ActivationRequest Bytes) :
    Task P Bytes ActivationResult := do
  let io := env.runtime.port
  let operationId := request.operationId
  let begun ← change (·.beginActivation io r request)
  match begun with
  | .error result => pure result
  | .ok r => do
    let told ← ask
    let requested ← read .shutdownRequested
    if told.flag || requested then
      change (·.cancelThen io r operationId (ManagedRuntime.pendingActivation operationId))
    else
      let persisted ← ofProgram activationAnswers .activating
        (decideUnderGate activationErrors .commit (decideActivation request.plan)).run
      match persisted with
      | .ok true => change (·.replaceInstance io r request)
      | .ok false =>
        change (·.cancelThen io r operationId (ManagedRuntime.pendingActivation operationId))
      | .error e => change (·.cancelThen io r operationId (ManagedRuntime.failedCommit operationId e))

/-- The worker's `Activate`; the guards go with the request, before the selector index is settled. -/
def serveActivation (request : ActivationRequest Bytes) : Task P Bytes Outcome := do
  let _ ← touch (·.switchPhase request.operationId .queued none)
  let told ← ask
  let owned ← change (·.ownRuntime told.created)
  match owned with
  | none => do
    let _ ← touch (·.switchPhase request.operationId .failed (some .startFailed))
    dropGuards (.activate request)
    pure .finished
  | some r => do
    let result ← applyActivation env r request
    dropGuards (.activate request)
    let _ ← touch fun w =>
      (ManagedRuntime.settleActivation request.plan.projection (result, w)).2
    pure .finished

/-- `commit_prepared_document`. -/
def commitDocument (prepared : PreparedDocumentSave) :
    Task P Bytes (Except DocumentOperationError (Option Subscription × String)) :=
  run .saving <| decideUnderGate SubscriptionManager.documentErrors .commit
    (SubscriptionManager.decideDocument prepared)

/-- The part of `apply_document_save` with a prepared candidate. -/
def concludeDocument (r : SidecarRuntime P Bytes) (operationId : String)
    (p : SelectedRuntimeProjection) (prepared : PreparedDocumentSave) :
    Task P Bytes DocumentSaveResult := do
  let io := env.runtime.port
  let told ← ask
  let requested ← read .shutdownRequested
  if told.flag || requested then
    let requested ← read .shutdownRequested
    change (·.cancelDocument io r operationId (if requested then .busy else .operationTimedOut))
  else
    let committed ← commitDocument prepared
    match committed with
    | .error e => change (·.cancelDocument io r operationId e.toSaveError)
    | .ok _ => do
      let told ← ask
      let generation := prepared.next.activeConfigurationGeneration
      let apply ← change (·.replaceDocument io r operationId p generation told.flag)
      pure (.ok prepared.documentRevision apply)

/-- The part of `apply_document_save` that replaces the instance. -/
def switchDocument (operationId : String) (prepared : PreparedDocumentSave) :
    Task P Bytes DocumentSaveResult := do
  let _ ← touch (·.switchPhases operationId [.queued, .checking])
  let failed := change (·.failedDocumentSwitch operationId .configurationFailed)
  match projectSelectedRuntime prepared.next with
  | .error _ => failed
  | .ok p => do
    let told ← ask
    match ManagedRuntime.compileProjection env.runtime p told.secret with
    | none => failed
    | some config => do
      let owned ← change (·.ownRuntime told.created)
      match owned with
      | none => failed
      | some r => do
        let begun ← change (·.beginDocument env.runtime.port r operationId config)
        match begun with
        | .error result => pure result
        | .ok r => concludeDocument env r operationId p prepared

/-- The part of `apply_document_save` with a prepared save. -/
def savePrepared (id operationId : String) (prepared : PreparedDocumentSave) :
    Task P Bytes DocumentSaveResult := do
  let told ← ask
  if told.flag then pure (.error (some operationId) .operationTimedOut)
  else
    let w ← touch fun w => w
    let selected := prepared.next.activeSubscriptionId.any (·.val = id)
    let generation := prepared.next.activeConfigurationGeneration
    if !prepared.requiresApply && (!selected || w.runsSelected id generation) then
      let committed ← commitDocument prepared
      match committed with
      | .error e => pure (.error (some operationId) e.toSaveError)
      | .ok _ => pure (.ok prepared.documentRevision .notRequired)
    else switchDocument env operationId prepared

/-- `apply_document_save`; the write guard is dropped with the prepared save. -/
def applyDocumentSave (input : DocumentSaveInput) (operationId : String) :
    Task P Bytes DocumentSaveResult := do
  let told ← ask
  match parseDocumentInput env.subscriptions told.answers.worker input with
  | .error e => pure (.error (some operationId) e.toSaveError)
  | .ok parsed => do
    let begun ← beginWriteOwned
    if !begun then pure (.error (some operationId) .busy)
    else
      let before ← run .saving <| decideUnderGate SubscriptionManager.documentErrors .capture
        fun _ current => do
          let state ← okOr current .notFound
          .ok (none, state)
      match before >>= documentSaveOn env.subscriptions input parsed with
      | .error e => do
        unlock .writes
        pure (.error (some operationId) e.toSaveError)
      | .ok prepared => do
        let result ← savePrepared env input.id operationId prepared
        unlock .writes
        pure result

/-- The worker's `SaveDocument`; a save that was applied loads the state again. -/
def serveDocument (input : DocumentSaveInput) (operationId : String) : Task P Bytes Outcome := do
  let result ← applyDocumentSave env input operationId
  match result with
  | .ok _ (.ready ..) => do
    let reloaded ← loadState .saving
    let _ ← touch fun w => (ManagedRuntime.settleDocument reloaded (result, w)).2
    dropGuards (.saveDocument input operationId)
    pure .finished
  | _ => do
    let _ ← touch fun w => (ManagedRuntime.settleDocument (.error .busy) (result, w)).2
    dropGuards (.saveDocument input operationId)
    pure .finished

/-- The worker's `Shutdown`. -/
def serveShutdown (response : Nat) : Task P Bytes Outcome := do
  let result ← change (·.runStop env.runtime.port)
  let complete : Bool := result = .stopped || result = .alreadyStopped
  store .shutdownComplete complete
  respond response (if complete then .shutdownComplete else .shutdownFailed)
  if complete then do
    hangUp
    pure .returned
  else pure .finished

/-- The arms of `worker_loop`. -/
def serveRequest : WorkerRequest Bytes → Task P Bytes Outcome
  | .start intent => do
    let requested ← read .shutdownRequested
    let told ← ask
    let _ ← touch fun w => (w.runStart env.runtime intent requested told.created told.secret).2
    answered
    dropGuards (.start intent)
    pure .finished
  | .stop subscription => do
    let _ ← touch fun w => (w.runStop env.runtime.port).2
    answered
    dropGuards (.stop subscription)
    pure .finished
  | .activate request => serveActivation env request
  | .reconcileManualSelection poolId nodeId => do
    let told ← ask
    let _ ← touch fun w => (w.reconcileManualSelection poolId nodeId told.selector).2
    dropGuards (.reconcileManualSelection poolId nodeId)
    pure .finished
  | .readRunningConfiguration => do
    dropGuards .readRunningConfiguration
    pure .finished
  | .saveDocument input operationId => serveDocument env input operationId
  | .shutdown response => serveShutdown env response

/-- One round of `worker_loop`. -/
def serve : Task P Bytes Outcome := do
  let received ← receive
  match received with
  | .request request => serveRequest env request
  | .timeout => do
    let told ← ask
    let _ ← touch (·.sampleRuntime env.runtime.port told.sample)
    pure .finished
  | .disconnected => do
    let _ ← touch fun w => (w.stopRuntime env.runtime.port).2
    hangUp
    pure .returned

end Worker

/-! ## The scheduler -/

/-- `run_scheduler_tick` over the subscriptions that are due. -/
def updateDue (env : SubscriptionEnv) : List String → Task P Bytes Outcome
  | [] => pure .finished
  | id :: due => do
    let closing ← read .closing
    if closing then pure .finished
    else
      let _ ← run .scheduling (SubscriptionManager.update env id none false)
      updateDue env due

/-- One round of `scheduler_loop`; which subscriptions are due is decided by the clock. -/
def tick (env : SubscriptionEnv) : Task P Bytes Outcome := do
  let closing ← read .closing
  if closing then do
    store .schedulerDone true
    pure .returned
  else
    let told ← ask
    let loaded ← run .scheduling <| decideUnderGate SubscriptionManager.errors .capture
      fun _ current => .ok (none, current)
    match loaded with
    | .error _ => pure .finished
    | .ok _ => updateDue env told.due

/-! ## The system -/

/-- The worker, the scheduler, and the threads that call. -/
inductive Thread (ι : Type)
  | worker
  | scheduler
  | caller (name : ι)
deriving DecidableEq

/-- What a thread can begin. -/
inductive Operation
  | serve
  | tick
  | start
  | stop
  | activate (call : ActivationCall)
  | saveDocument (input : DocumentSaveInput) (operationId : String)
  | runningConfiguration
  | reconcileManualSelection (poolId : PoolId) (nodeId : NodeId)
  | delete (id : String)
  | shutdown
  | importManual (name description content : String)
  | importRemote (name description url : String) (options : RemoteImportOptions)
  | update (id : String) (content : Option String) (routeOverride : Bool)
  | edit (input : EditSubscription)
  | list
  | getSettings (id : String)
  | readDocument (id : String)
  | shareUrl (id : String)
  | mutate (request : ProxyRouting.MutateRequest)
  | query

/-- A call of a manager. -/
def called {ε α : Type} (writer : Writer) (attempt : Attempt ε α) : Task P Bytes Outcome := do
  let _ ← run writer attempt
  pure .finished

section System

variable [DecidableEq Value] (env : ControllerEnv P Bytes Value)

/-- The calls. -/
def Operation.call : Operation → Option (Task P Bytes Outcome)
  | .serve | .tick => none
  | .start => some Controller.start
  | .stop => some Controller.stop
  | .activate call => some (Controller.activate env.runtime call)
  | .saveDocument input operationId => some (Controller.saveDocument input operationId)
  | .runningConfiguration => some Controller.runningConfiguration
  | .reconcileManualSelection poolId nodeId =>
    some (Controller.reconcileManualSelection poolId nodeId)
  | .delete id => some (Controller.delete id)
  | .shutdown => some Controller.shutdown
  | .importManual name description content =>
    some (called .importing
      (SubscriptionManager.importManual env.subscriptions name description content))
  | .importRemote name description url options =>
    some (called .importing
      (SubscriptionManager.importRemote env.subscriptions name description url options))
  | .update id content routeOverride =>
    some (called .updating (SubscriptionManager.update env.subscriptions id content routeOverride))
  | .edit input => some (called .editing (SubscriptionManager.edit env.subscriptions input))
  | .list => some (called .reading SubscriptionManager.list)
  | .getSettings id => some (called .reading (SubscriptionManager.getSettings env.parseUrl id))
  | .readDocument id =>
    some (called .reading (SubscriptionManager.readDocument env.subscriptions id))
  | .shareUrl id => some (called .reading (SubscriptionManager.shareUrl id))
  | .mutate request => some do
    let _ ← ofProgram managerAnswers .routing (ProxyRouting.mutateProgram env.routing request)
    pure .finished
  | .query => some (called .routing ProxyRouting.queryProgram)

/-- What a thread begins when it is done. -/
def begin {ι : Type} : Thread ι → Outcome → Operation → Option (Task P Bytes Outcome)
  | .worker, .finished, .serve => some (serve env)
  | .scheduler, .finished, .tick => some (tick env.subscriptions)
  | .caller _, _, operation => operation.call env
  | _, _, _ => none

/-- The application. -/
def system (ι : Type) :
    System (Thread ι) (Shared P Bytes) (Choice P) Operation (Action P Bytes) Answer Outcome where
  perform _ := perform
  begin := begin env

/-- The application before any call. -/
def initial (ι : Type) (stored : Option AppState) :
    Config (Thread ι) (Shared P Bytes) (Action P Bytes) Answer Outcome where
  shared := .start stored
  code _ := .done .finished

end System

end Controller

end Veyra
