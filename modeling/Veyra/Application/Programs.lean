import Veyra.Application.ActivationRequest
import Veyra.Application.RoutingManager
import Veyra.Application.SubscriptionResponses
import Veyra.Lib.Gate

/-!
# Veyra.Application.Programs

The operations that write the state, as programs over the state gate: what
each takes, loads, computes and saves, in the order of the source.

Three locks are tried and never waited for: the gate itself, the
`write_in_progress` flag of the subscriptions and the `busy` flag of the
managed runtime.  An operation holds the flags from its start to its end, and
the gate only while it looks at the state or commits.

What happens in between (the network, the clock, the random identity, the
runtime that prepares a candidate) is an answer of the world, and so is a
manager that is closing.
-/

namespace Veyra

open Check Gate

/-! ## What the programs share -/

inductive StateLock
  | gate
  | writes
  | runtime
deriving DecidableEq

/-- Why the state is looked at: to go on from it, to commit over it, or to record an attempt that
failed; `known` reads the revision alone. -/
inductive Look
  | capture
  | commit
  | attempt
  | known
deriving DecidableEq

/-- What the world answers a program that asks. -/
structure Answers where
  closing : Bool
  poisoned : Bool
  fetched : Except SubscriptionOperationError FetchResult
  clock : Option UInt64
  identity : Option (List UInt8)
  worker : Option DocumentErrorCode
  interrupted : Option DocumentOperationError
  preempted : Option (Except ActivationError Unit)

/-- A program over the state on disk, if there is one, and the process-local revision. -/
abbrev Program := Prog StateLock (Option AppState) ProxyRouting.RevisionState Answers Look

/-- A program that can fail. -/
abbrev Attempt (ε : Type) := ExceptT ε Program

/-- An answer of the world. -/
def answer {ε α : Type} (f : Answers → Except ε α) : Attempt ε α :=
  .mk (.ask fun w => .done (f w))

/-- Under the state gate: load the state and go on with it. -/
def underGate {ρ : Type} (look : Look) (refused : ProxyRouting.StateAccessError → Program ρ)
    (unloaded : Program ρ) (body : Option AppState → Program ρ) : Program ρ :=
  .ask fun w =>
    if w.poisoned then refused .unavailable
    else .within .gate (refused .busy) (.load look fun
      | none => unloaded
      | some current => body current)

/-- The errors of an operation that the gate and the store can cause. -/
structure StateErrors (ε : Type) where
  access : ProxyRouting.StateAccessError → ε
  unloaded : ε
  unsaved : ε

/-- Under the state gate: load the state, decide what to save over it, and save that. -/
def decideUnderGate {ε α : Type} (errors : StateErrors ε) (look : Look)
    (decide : Answers → Option AppState → Except ε (Option AppState × α)) : Attempt ε α :=
  .mk <| underGate look (fun e => .done (.error (errors.access e))) (.done (.error errors.unloaded))
    fun current => .ask fun w =>
      match decide w current with
      | .error e => .done (.error e)
      | .ok (none, a) => .done (.ok a)
      | .ok (some next, a) =>
        .save (some next) fun saved => .done (if saved then .ok a else .error errors.unsaved)

/-- `begin_write_owned`, and an operation that holds the guard to its end. -/
def beginWriteOwned {ε α : Type} (busy : ε) (body : Attempt ε α) : Attempt ε α :=
  .mk <| .ask fun w =>
    if w.closing then .done (.error busy)
    else .within .writes (.done (.error busy)) (.ask fun w =>
      if w.closing then .done (.error busy) else body.run)

/-- The `busy` flag of the managed runtime, and an operation that holds it to its end. -/
def underRuntimeGuard {ε α : Type} (busy : ε) (body : Attempt ε α) : Attempt ε α :=
  .mk <| .within .runtime (.done (.error busy)) body.run

/-! ## `SubscriptionManager` -/

namespace SubscriptionManager

/-- `map_access_error`, and the errors of `load_existing_or_empty` and `save`. -/
def errors : StateErrors SubscriptionOperationError where
  access
    | .busy => .busy
    | .unavailable => .stateUnavailable
  unloaded := .stateUnavailable
  unsaved := .saveFailed

/-- `ensure_commit_open`, and what is saved if the manager is not closing. -/
def commitOpen {α : Type} (w : Answers) (next : AppState) (a : α) :
    Except SubscriptionOperationError (Option AppState × α) := do
  reject w.closing .busy
  .ok (some next, a)

/-- The clock. -/
def now (w : Answers) : Except SubscriptionOperationError UInt64 := okOr w.clock .stateUnavailable

/-! ### Import -/

/-- `commit_import` before the identity is drawn: the state to import into. -/
def importBase (input : ImportCommit) (current : Option AppState) :
    Except SubscriptionOperationError AppState := do
  reject (input.expectedInitiallyEmpty.any (· != current.isNone)) .busy
  .ok (current.getD .empty)

/-- `commit_import`, the new ids. -/
def importFresh (identity : List UInt8) (base : AppState) :
    Except SubscriptionOperationError Unit :=
  reject (base.subscriptions.any (·.id.val = identityOf "sub" identity) ||
    base.providers.any (·.id.val = identityOf "provider" identity) ||
    base.pools.any (·.id.val = identityOf "pool" identity)) .identityFailed

/-- `commit_import`, the candidate. -/
def importInto (text : JsonText) (input : ImportCommit) (identity : List UInt8) (now : UInt64)
    (base : AppState) : Except SubscriptionOperationError AppState := do
  let candidate := importCandidate input identity now base
  let (candidate, _) ← (applyProviderReplacement text candidate ⟨identityOf "provider" identity⟩
    { input.parsed with skipped := [] }).mapError (·.toOperationError)
  validated candidate

/-- What `commit_import` decides under the gate; the subscription stands for its summary. -/
def decideImport (env : SubscriptionEnv) (input : ImportCommit) (w : Answers)
    (current : Option AppState) :
    Except SubscriptionOperationError (Option AppState × Option Subscription) := do
  let base ← importBase input current
  let identity ← okOr w.identity .identityFailed
  importFresh identity base
  let time ← now w
  let candidate ← importInto env.text input identity time base
  commitOpen w candidate candidate.subscriptions.getLast?

/-- The manual arm of `import_with_options`. -/
def importManual (env : SubscriptionEnv) (name description content : String) :
    Attempt SubscriptionOperationError (Option Subscription) :=
  beginWriteOwned .busy do
    let input ← prepareManualImport env name description content
    decideUnderGate errors .commit (decideImport env input)

/-- The remote arm of `import_with_options`. -/
def importRemote (env : SubscriptionEnv) (name description url : String)
    (options : RemoteImportOptions) : Attempt SubscriptionOperationError (Option Subscription) :=
  beginWriteOwned .busy do
    let _ ← remoteImportRequest env name description url options
    let initiallyEmpty ← decideUnderGate errors .capture fun _ current => .ok (none, current.isNone)
    let fetched ← answer (·.fetched)
    let input ← prepareRemoteImport env name description url options initiallyEmpty fetched
    decideUnderGate errors .commit (decideImport env input)

/-! ### Update -/

/-- What `record_failed_attempt` decides under the gate. -/
def decideFailedAttempt (snapshot : UpdateSnapshot) (attemptedAt : UInt64) (w : Answers)
    (current : Option AppState) :
    Except SubscriptionOperationError (Option AppState × Unit) := do
  let current ← okOr current .notFound
  let candidate ← commitFailedAttempt snapshot attemptedAt current
  commitOpen w candidate ()

/-- `record_failed_attempt`, then the failure itself. -/
def failAttempt {α : Type} (snapshot : UpdateSnapshot) (attemptedAt : UInt64)
    (error : SubscriptionOperationError) : Attempt SubscriptionOperationError α := do
  decideUnderGate errors .attempt (decideFailedAttempt snapshot attemptedAt)
  throw error

/-- `fetch_remote` in an update or an edit: a fetch that fails is an attempt, unless it fails
because the manager is closing. -/
def fetchRemote (snapshot : UpdateSnapshot) : Attempt SubscriptionOperationError FetchResult := do
  let fetched ← answer fun w => .ok w.fetched
  match fetched with
  | .ok fetched => pure fetched
  | .error error =>
    let closing ← answer fun w => .ok w.closing
    if error = .busy && closing then throw .busy
    else do
      let attemptedAt ← answer now
      failAttempt snapshot attemptedAt error

/-- The body of an update, and when it was fetched. -/
def fetchUpdate (snapshot : UpdateSnapshot) (content : Option String) (routeOverride : Bool) :
    Attempt SubscriptionOperationError (FetchResult × Option UInt64) :=
  match snapshot.source, content with
  | .remote _, none => do
    let _ ← okOr snapshot.remoteRequest SubscriptionOperationError.validationFailed
    let fetched ← fetchRemote snapshot
    let attemptedAt ← answer now
    pure (fetched, some attemptedAt)
  | _, _ => do
    let fetched ← updateFetched snapshot content routeOverride (.error .invalidInput)
    pure (fetched, none)

/-- The parse of the body; a remote body that does not parse is a failed attempt. -/
def parseUpdate (env : SubscriptionEnv) (snapshot : UpdateSnapshot) (fetched : FetchResult)
    (attemptedAt : Option UInt64) :
    Attempt SubscriptionOperationError (Option ParseResult) :=
  match updateParsed env.toContentEnv fetched with
  | .ok parsed => pure parsed
  | .error error =>
    match snapshot.source with
    | .remote _ => do
      let attemptedAt ← okOr attemptedAt SubscriptionOperationError.stateUnavailable
      failAttempt snapshot attemptedAt error
    | .manual => throw error

/-- A snapshot that needs a body and has none is a failed attempt. -/
def requireBody (snapshot : UpdateSnapshot) (fetched : FetchResult)
    (attemptedAt : Option UInt64) : Attempt SubscriptionOperationError Unit :=
  if cacheUnavailable snapshot fetched then do
    let attemptedAt ← okOr attemptedAt SubscriptionOperationError.stateUnavailable
    failAttempt snapshot attemptedAt .cacheUnavailable
  else pure ()

/-- The commit of `update_with_route` before the time of its success is known. -/
def updateCandidate (text : JsonText) (id : String) (snapshot : UpdateSnapshot)
    (fetched : FetchResult) (parsed : Option ParseResult) (current : AppState) :
    Except SubscriptionOperationError (AppState × Bool) := do
  let found ← updateSnapshot current id
  reject (found ≠ snapshot) .busy
  updateContent text id snapshot fetched parsed current

/-- The rest of the commit of `update_with_route`. -/
def finishUpdate (id : String) (contentChanged : Bool) (now : UInt64) (candidate : AppState) :
    Except SubscriptionOperationError AppState := do
  let candidate := candidate.modifySubscription id (Subscription.succeededAt now)
  let candidate ← raiseGeneration
    (contentChanged && candidate.activeSubscriptionId = some ⟨id⟩) candidate
  validated candidate

/-- What `update_with_route` decides under the gate. -/
def decideUpdate (env : SubscriptionEnv) (id : String) (snapshot : UpdateSnapshot)
    (fetched : FetchResult) (parsed : Option ParseResult) (attemptedAt : Option UInt64)
    (w : Answers) (current : Option AppState) :
    Except SubscriptionOperationError (Option AppState × Option Subscription × Bool) := do
  let current ← okOr current .notFound
  let (candidate, contentChanged) ← updateCandidate env.text id snapshot fetched parsed current
  let time ← okOr (attemptedAt.or w.clock) .stateUnavailable
  let candidate ← finishUpdate id contentChanged time candidate
  commitOpen w candidate (candidate.subscription? id, contentChanged)

/-- `update_with_route`. -/
def update (env : SubscriptionEnv) (id : String) (content : Option String)
    (routeOverride : Bool) :
    Attempt SubscriptionOperationError (Option Subscription × Bool) :=
  beginWriteOwned .busy do
    validateUpdateId id
    let snapshot ← decideUnderGate errors .capture fun _ current => do
      let state ← okOr current .notFound
      let snapshot ← updateSnapshot state id
      .ok (none, snapshot)
    let (fetched, attemptedAt) ← fetchUpdate snapshot content routeOverride
    let parsed ← parseUpdate env snapshot fetched attemptedAt
    requireBody snapshot fetched attemptedAt
    decideUnderGate errors .commit (decideUpdate env id snapshot fetched parsed attemptedAt)

/-! ### Edit -/

/-- The content of a new URL, in `edit`. -/
def fetchReplacement (env : SubscriptionEnv) (baseline : AppState) (id : String) :
    Attempt SubscriptionOperationError EditReplacement := do
  let snapshot ← updateSnapshot baseline id
  let fetched ← fetchRemote snapshot
  let attemptedAt ← answer now
  match editReplacement env.toContentEnv fetched attemptedAt with
  | .ok replacement => pure replacement
  | .error error => failAttempt snapshot attemptedAt error

/-- An edit that changes the URL fetches its content. -/
def replacementFor (env : SubscriptionEnv) (baseline : AppState) (id : String)
    (urlChanged : Bool) : Attempt SubscriptionOperationError (Option EditReplacement) :=
  if urlChanged then do
    let replacement ← fetchReplacement env baseline id
    pure (some replacement)
  else pure none

/-- What `edit` decides under the gate. -/
def decideEdit (env : SubscriptionEnv) (baseline : AppState) (id : String) (edited : Subscription)
    (replacement : Option EditReplacement) (w : Answers) (current : Option AppState) :
    Except SubscriptionOperationError (Option AppState × Option Subscription × Bool) := do
  let current ← okOr current .notFound
  let (candidate, contentChanged) ← commitEdit env.text baseline id edited replacement current
  commitOpen w candidate (candidate.subscription? id, contentChanged)

/-- `edit`. -/
def edit (env : SubscriptionEnv) (input : EditSubscription) :
    Attempt SubscriptionOperationError (Option Subscription × Bool) :=
  beginWriteOwned .busy do
    validateId input.id
    let baseline ← decideUnderGate errors .capture fun _ current => do
      let state ← okOr current .notFound
      .ok (none, state)
    let (edited, urlChanged) ← prepareEdit env input baseline
    let replacement ← replacementFor env baseline input.id urlChanged
    decideUnderGate errors .commit (decideEdit env baseline input.id edited replacement)

/-! ### Delete -/

/-- What `delete` decides under the gate. -/
def decideDelete (id : String) (activeRuntimeStopped : Bool) (w : Answers)
    (current : Option AppState) :
    Except SubscriptionOperationError (Option AppState × String) := do
  let current ← okOr current .notFound
  let candidate ← commitDelete id activeRuntimeStopped current
  commitOpen w candidate id

/-- `delete`. -/
def delete (id : String) (activeRuntimeStopped : Bool) :
    Attempt SubscriptionOperationError String :=
  beginWriteOwned .busy do
    validateId id
    decideUnderGate errors .commit (decideDelete id activeRuntimeStopped)

/-! ### Document save -/

/-- `map_document_access_error`, and the mapped errors of the store. -/
def documentErrors : StateErrors DocumentOperationError where
  access
    | .busy => .busy
    | .unavailable => .stateUnavailable
  unloaded := .stateUnavailable
  unsaved := .saveFailed

/-- What `commit_prepared_document` decides under the gate. -/
def decideDocument (prepared : PreparedDocumentSave) (w : Answers) (current : Option AppState) :
    Except DocumentOperationError (Option AppState × Option Subscription × String) := do
  let current ← okOr current .notFound
  let save ← commitPreparedDocument prepared current
  reject w.closing .busy
  .ok (save, prepared.next.subscription? prepared.subscriptionId, prepared.documentRevision)

/-- `prepare_document_save` and `commit_prepared_document`, with what the worker does in between:
the deadline can pass, and the candidate can be refused. -/
def saveDocument (env : SubscriptionEnv) (input : DocumentSaveInput) :
    Attempt DocumentOperationError (Option Subscription × String) :=
  underRuntimeGuard .busy do
    let worker ← answer fun w => .ok w.worker
    let parsed ← parseDocumentInput env worker input
    beginWriteOwned .busy do
      let before ← decideUnderGate documentErrors .capture fun _ current => do
        let state ← okOr current .notFound
        .ok (none, state)
      let prepared ← documentSaveOn env input parsed before
      let interrupted ← answer fun w => .ok w.interrupted
      match interrupted with
      | some error => throw error
      | none => decideUnderGate documentErrors .commit (decideDocument prepared)

/-! ### Reading -/

/-- Under the state gate: load the state and answer from it.  Nothing is saved, and a manager that
is closing does not matter. -/
def readUnderGate {ε α : Type} (errors : StateErrors ε)
    (read : Option AppState → Except ε α) : Attempt ε α :=
  decideUnderGate errors .capture fun _ current => (read current).map (none, ·)

/-- `list`. -/
def list : Attempt SubscriptionOperationError (List SubscriptionSummary) :=
  readUnderGate errors listSubscriptions

/-- `get_settings`. -/
def getSettings (parse : String → Option SourceUrl) (id : String) :
    Attempt SubscriptionOperationError SubscriptionSettings := do
  validateId id
  readUnderGate errors fun current => Veyra.getSettings parse current id

/-- `read_document`. -/
def readDocument (env : SubscriptionEnv) (id : String) :
    Attempt DocumentOperationError SubscriptionDocumentView := do
  (validateId id).mapError fun _ => DocumentOperationError.invalidInput
  readUnderGate documentErrors fun current => Veyra.readDocument env current id

/-- `share_url`. -/
def shareUrl (id : String) : Attempt SubscriptionOperationError String := do
  validateId id
  readUnderGate errors fun current => Veyra.shareUrl current id

end SubscriptionManager

/-! ## `ProxyRoutingManager` -/

namespace ProxyRouting

/-- `known_revision`, and an error that names it. -/
def failKnown (error : MutationError) : Program MutateNext :=
  .remember .known id fun revisions =>
    .done (.error error (if 0 < revisions.revision then some revisions.revision else none))

/-- The revisions after a look at a material; as they are, if there is none left for it. -/
def RevisionState.after (material : CasMaterial) (revisions : RevisionState) : RevisionState :=
  match revisions.observe material with
  | .ok observed => observed
  | .error _ => revisions

/-- The part of `mutate` after the state was saved. -/
def commitRevision (observed : RevisionState) (outcome : MutationOutcome) (next : AppState) :
    Program MutateNext :=
  .remember .known (RevisionState.after (.of next)) fun revisions =>
    match revisions.observe (.of next) with
    | .error error => .done (.error error (some observed.revision))
    | .ok committed => .done (outcome.next next committed.revision)

/-- The part of `mutate` on the loaded state. -/
def mutateLoaded (env : Env) (request : MutateRequest) (s : AppState) : Program MutateNext :=
  .remember .commit (RevisionState.after (.of s)) fun revisions =>
    match revisions.observe (.of s) with
    | .error error => failKnown error
    | .ok observed =>
      match mutateOn env observed request s with
      | .error error => .done (.error error (some observed.revision))
      | .ok (.apply activeId generation) =>
        .done (.applyConfiguration activeId generation observed.revision)
      | .ok (.unchanged outcome) => .done (outcome.next s observed.revision)
      | .ok (.save next outcome) => .save (some next) fun saved =>
        if saved then commitRevision observed outcome next
        else .done (.error .saveFailed (some observed.revision))

/-- `mutate`, while the gate is held. -/
def mutateProgram (env : Env) (request : MutateRequest) : Program MutateNext :=
  if !(1 ≤ request.expectedRevision && request.expectedRevision ≤ maxSafeInteger) then
    failKnown .invalidInput
  else
    underGate .commit (fun e => failKnown e.toMutationError) (failKnown .stateUnavailable)
      fun current => mutateLoaded env request (current.getD .empty)

/-- `load_observed`: the state and the revision that a query tells. -/
def queryProgram : Attempt QueryError (AppState × UInt64) :=
  .mk <| underGate .capture (fun e => .done (.error e.toQueryError)) (.done (.error .stateUnavailable))
    fun current => .remember .capture (RevisionState.after (.of (current.getD .empty)))
      fun revisions =>
        match revisions.observe (.of (current.getD .empty)) with
        | .error _ => .done (.error .stateUnavailable)
        | .ok observed => .done (.ok (current.getD .empty, observed.revision))

/-- A query, then a mutation of what it told, at the revision that it told. -/
def readAndMutate (env : Env) (choose : AppState → Mutation) : Attempt QueryError MutateNext := do
  let (state, revision) ← queryProgram
  .mk (.ok <$> mutateProgram env ⟨revision, choose state⟩)

end ProxyRouting

/-! ## Activation -/

/-- Whatever refuses the gate to an activation is busy. -/
def activationErrors : StateErrors ActivationError where
  access _ := .busy
  unloaded := .stateUnavailable
  unsaved := .saveFailed

/-- The `Persisted` step of `apply_activation`: whether the activation goes on. -/
def decideActivation (plan : ActivationPlan) (w : Answers) (current : Option AppState) :
    Except ActivationError (Option AppState × Bool) := do
  let current ← okOr current .stateUnavailable
  let save ← commitActivation plan current
  .ok (if w.closing then (none, false) else (save, true))

/-- `activate_with_expected_generation` up to the `Persisted` step of `apply_activation`; before
it, the activation can be refused, or found to be unnecessary or cancelled. -/
def activateProgram (id : String) (force : Bool) (expectedDesiredGeneration : Option UInt64) :
    Attempt ActivationError Bool := do
  answer fun w => reject w.closing .busy
  reject (Text.blank id || Text.len id > 128) ActivationError.invalidInput
  underRuntimeGuard .busy <| beginWriteOwned .busy do
    let expected ← decideUnderGate activationErrors .capture fun _ current => do
      let state ← okOr current .stateUnavailable
      .ok (none, state)
    let plan ← planActivation id force expectedDesiredGeneration expected
    let preempted ← answer fun w => .ok w.preempted
    match preempted with
    | some (.error error) => throw error
    | some (.ok ()) => pure false
    | none => decideUnderGate activationErrors .commit (decideActivation plan)

end Veyra
