import Veyra.Application.Replacement

/-!
# Veyra.Application.SubscriptionManagement

The operations of `SubscriptionManager`, each split where the source releases
the state gate: a first part that looks at a loaded state and prepares, and a
commit that computes the state to save from the state loaded under the gate.
The programs that string them together are in
`Veyra.Application.Programs`.
-/

namespace Veyra

open Check

/-- The parameters of subscription management: the content functions, the URL check of
the fetcher and the SHA-256 revision of a document. -/
structure SubscriptionEnv extends ContentEnv where
  validateSourceUrl : String → Bool
  revisionFor : SubscriptionDocumentFormat → String → String

/-! ## Requests -/

structure RemoteImportOptions where
  userAgent : Option String
  timeoutSeconds : UInt16
  proxyMode : SubscriptionProxyMode
  verifyTls : Bool
  allowAutoUpdate : Bool
  intervalMinutes : Option UInt32

/-- `FetchResult`. -/
inductive FetchResult
  | modified (body : String) (metadata : SubscriptionHttpMetadata)
      (profileUpdateIntervalMinutes : Option UInt32) (validatorsMatchSource : Bool)
  | notModified (metadata : SubscriptionHttpMetadata)
      (profileUpdateIntervalMinutes : Option UInt32) (validatorsMatchSource : Bool)
deriving DecidableEq

structure ImportCommit where
  name : String
  description : String
  source : SubscriptionSource
  remoteRequest : Option RemoteRequestOptions
  updatePolicy : SubscriptionUpdatePolicy
  parsed : ParseResult
  document : Option SubscriptionDocument
  httpMetadata : Option SubscriptionHttpMetadata
  expectedInitiallyEmpty : Option Bool
deriving DecidableEq

inductive UserAgentEdit
  | clear
  | set (value : String)

structure RemoteRequestPatch where
  userAgent : Option UserAgentEdit
  timeoutSeconds : Option UInt16
  proxyMode : Option SubscriptionProxyMode
  verifyTls : Option Bool

structure UpdatePolicyPatch where
  allowAutoUpdate : Option Bool
  intervalMinutes : Option (Option UInt32)

structure EditSubscription where
  id : String
  name : Option String
  description : Option String
  urlReplacement : Option String
  remoteRequest : Option RemoteRequestPatch
  updatePolicy : Option UpdatePolicyPatch

structure DocumentSaveInput where
  id : String
  format : SubscriptionDocumentFormat
  content : String
  expectedRevision : String

/-! ## Checks of the inputs -/

def validateName (name : String) : Except SubscriptionOperationError String :=
  let name := Text.trim name
  if 1 ≤ name.toList.length ∧ name.toList.length ≤ 80 then .ok name else .error .invalidInput

def validateDescription (value : String) : Except SubscriptionOperationError String :=
  let value := Text.trim value
  if value.toList.length > 280 || value.toList.any Text.isControl then .error .invalidInput
  else .ok value

def validateId (id : String) : Except SubscriptionOperationError Unit :=
  reject (id = "" || Text.len id > 128 || Text.trim id ≠ id) .invalidInput

def validateUserAgent (value : Option String) :
    Except SubscriptionOperationError (Option String) := do
  reject (value.any fun v => !(1 ≤ Text.len v && Text.len v ≤ 256) ||
    !(Text.bytes v).all fun b => 0x20 ≤ b && b ≤ 0x7e) .invalidOptions
  .ok value

def validateTimeout (seconds : UInt16) : Except SubscriptionOperationError Unit :=
  reject (!(5 ≤ seconds && seconds ≤ 120)) .invalidOptions

def validateRemoteImportOptions (value : RemoteImportOptions) :
    Except SubscriptionOperationError RemoteRequestOptions := do
  validateTimeout value.timeoutSeconds
  let userAgent ← validateUserAgent value.userAgent
  .ok { userAgent, timeoutSeconds := value.timeoutSeconds, proxyMode := value.proxyMode
        verifyTls := value.verifyTls }

def validateUpdatePolicy (allowAutoUpdate : Bool) (intervalMinutes : Option UInt32) :
    Except SubscriptionOperationError SubscriptionUpdatePolicy := do
  reject (intervalMinutes.any (· < 1440)) .invalidOptions
  .ok { allowAutoUpdate, intervalMinutes }

/-- The user agent after a patch. -/
def patchedUserAgent (value : Option String) :
    Option UserAgentEdit → Except SubscriptionOperationError (Option String)
  | none => .ok value
  | some .clear => .ok none
  | some (.set agent) => validateUserAgent (some agent)

def applyRemotePatch (value : RemoteRequestOptions) (patch : RemoteRequestPatch) :
    Except SubscriptionOperationError RemoteRequestOptions := do
  let userAgent ← patchedUserAgent value.userAgent patch.userAgent
  let timeoutSeconds := patch.timeoutSeconds.getD value.timeoutSeconds
  reject (patch.timeoutSeconds.any fun t => !(5 ≤ t && t ≤ 120)) .invalidOptions
  .ok { userAgent, timeoutSeconds, proxyMode := patch.proxyMode.getD value.proxyMode
        verifyTls := patch.verifyTls.getD value.verifyTls }

def applyUpdatePolicyPatch (value : SubscriptionUpdatePolicy) (patch : UpdatePolicyPatch) :
    Except SubscriptionOperationError SubscriptionUpdatePolicy :=
  validateUpdatePolicy (patch.allowAutoUpdate.getD value.allowAutoUpdate)
    (patch.intervalMinutes.getD value.intervalMinutes)

/-- Apply an edit that may be absent. -/
def applyEdit {α β : Type} (apply : α → β → Except SubscriptionOperationError α) (value : α) :
    Option β → Except SubscriptionOperationError α
  | none => .ok value
  | some patch => apply value patch

def adoptProfileInterval (value : SubscriptionUpdatePolicy) (profile : Option UInt32) :
    SubscriptionUpdatePolicy :=
  if value.allowAutoUpdate && value.intervalMinutes.isNone then
    { value with intervalMinutes := profile }
  else value

/-! ## Parts of the state -/

/-- Change the first element with a property: `if let Some(x) = xs.iter_mut().find(p)`. -/
def modifyFirst {α : Type} (p : α → Bool) (f : α → α) : List α → List α
  | [] => []
  | x :: xs => if p x then f x :: xs else x :: modifyFirst p f xs

/-- The subscription with an id, the first in the list. -/
def AppState.subscription? (s : AppState) (id : String) : Option Subscription :=
  s.subscriptions.find? (·.id.val = id)

/-- Change the subscription with an id. -/
def AppState.modifySubscription (s : AppState) (id : String) (f : Subscription → Subscription) :
    AppState :=
  { s with subscriptions := modifyFirst (fun sub => decide (sub.id.val = id)) f s.subscriptions }

/-- The provider of a subscription that has exactly one. -/
def AppState.soleProvider (s : AppState) (id : SubscriptionId) : Option ProviderId :=
  match s.providersOf id with
  | [provider] => some provider.id
  | _ => none

def nextGeneration (current : UInt64) : Except SubscriptionOperationError UInt64 :=
  if current.toNat + 1 ≤ maxSafeInteger.toNat then .ok (current + 1) else .error .validationFailed

/-- Raise the generation of the active configuration when the condition holds. -/
def raiseGeneration (condition : Bool) (s : AppState) :
    Except SubscriptionOperationError AppState :=
  if condition then do
    let generation ← nextGeneration s.activeConfigurationGeneration
    .ok { s with activeConfigurationGeneration := generation }
  else .ok s

/-- `candidate.validate().map_err(..)`. -/
def validated (candidate : AppState) : Except SubscriptionOperationError AppState := do
  candidate.validate.mapError fun _ => .validationFailed
  .ok candidate

/-- What an update or an edit captured of its subscription before it released the gate. -/
structure UpdateSnapshot where
  subscriptionId : SubscriptionId
  source : SubscriptionSource
  httpMetadata : Option SubscriptionHttpMetadata
  remoteRequest : Option RemoteRequestOptions
  updatePolicy : SubscriptionUpdatePolicy
  document : Option SubscriptionDocument
  providerId : ProviderId
  nodes : List ProxyNode
deriving DecidableEq

/-- `update_snapshot`. -/
def updateSnapshot (s : AppState) (id : String) :
    Except SubscriptionOperationError UpdateSnapshot := do
  let sub ← okOr (s.subscription? id) .notFound
  let providerId ← okOr (s.soleProvider sub.id) .validationFailed
  .ok { subscriptionId := sub.id
        source := sub.source
        httpMetadata := sub.httpMetadata
        remoteRequest := sub.remoteRequest
        updatePolicy := sub.updatePolicy
        document := sub.document
        providerId
        nodes := s.nodesOf providerId }

/-- `merge_metadata`. -/
def mergeMetadata (previous response : SubscriptionHttpMetadata) (validatorsMatchSource : Bool) :
    SubscriptionHttpMetadata :=
  { etag := if validatorsMatchSource then response.etag.or previous.etag else response.etag
    lastModified := if validatorsMatchSource then response.lastModified.or previous.lastModified
      else response.lastModified
    subscriptionUserinfo := response.subscriptionUserinfo.or previous.subscriptionUserinfo
    contentDisposition := response.contentDisposition.or previous.contentDisposition }

/-! ## Import -/

/-- The manual arm of `import_with_options`. -/
def prepareManualImport (env : SubscriptionEnv) (name description content : String) :
    Except SubscriptionOperationError ImportCommit := do
  let name ← validateName name
  let description ← validateDescription description
  let parsed ← parseContent env.toContentEnv content
  .ok { name, description, source := .manual, remoteRequest := none, updatePolicy := .manual
        parsed, document := documentForBody content parsed.format, httpMetadata := none
        expectedInitiallyEmpty := none }

/-- What the remote arm of `import_with_options` checks before the network. -/
def remoteImportRequest (env : SubscriptionEnv) (name description url : String)
    (options : RemoteImportOptions) :
    Except SubscriptionOperationError
      (String × String × RemoteRequestOptions × SubscriptionUpdatePolicy) := do
  let name ← validateName name
  let description ← validateDescription description
  reject (!env.validateSourceUrl url) .invalidInput
  let remoteRequest ← validateRemoteImportOptions options
  let policy ← validateUpdatePolicy options.allowAutoUpdate options.intervalMinutes
  .ok (name, description, remoteRequest, policy)

/-- The remote arm of `import_with_options` once the body is there. -/
def prepareRemoteImport (env : SubscriptionEnv) (name description url : String)
    (options : RemoteImportOptions) (initiallyEmpty : Bool) (fetched : FetchResult) :
    Except SubscriptionOperationError ImportCommit := do
  let (name, description, remoteRequest, policy) ←
    remoteImportRequest env name description url options
  match fetched with
  | .notModified .. => .error .cacheUnavailable
  | .modified body metadata profile _ => do
    let parsed ← parseContent env.toContentEnv body
    .ok { name, description, source := .remote url, remoteRequest := some remoteRequest
          updatePolicy := adoptProfileInterval policy profile
          parsed, document := documentForBody body parsed.format, httpMetadata := some metadata
          expectedInitiallyEmpty := some initiallyEmpty }

/-- `identity_suffix`. -/
def identitySuffix (bytes : List UInt8) : List Char :=
  bytes.flatMap fun b => [hexDigit (b.toNat / 16), hexDigit (b.toNat % 16)]

/-- `format!("{prefix}-{suffix}")`. -/
def identityOf (kind : String) (identity : List UInt8) : String :=
  String.ofList (kind.toList ++ '-' :: identitySuffix identity)

def importedSubscription (input : ImportCommit) (identity : List UInt8) (now : UInt64) :
    Subscription :=
  { id := ⟨identityOf "sub" identity⟩
    name := input.name
    description := input.description
    source := input.source
    lastSuccessAtMs := some now
    lastAttemptAtMs := some now
    httpMetadata := input.httpMetadata
    remoteRequest := input.remoteRequest
    updatePolicy := input.updatePolicy
    skippedUnsupportedNodes := UInt32.ofNat input.parsed.skipped.length
    document := input.document }

def importedProvider (input : ImportCommit) (identity : List UInt8) : Provider :=
  { id := ⟨identityOf "provider" identity⟩
    subscriptionId := ⟨identityOf "sub" identity⟩
    name := input.name }

def importedPool (input : ImportCommit) (identity : List UInt8) : NodePool :=
  { id := ⟨identityOf "pool" identity⟩
    name := input.name
    kind := .implicitProvider
    sources := [{ providerId := ⟨identityOf "provider" identity⟩, filter := .default }]
    selection := .manual none
    enabled := true }

/-- The candidate of `commit_import` before its nodes are there. -/
def importCandidate (input : ImportCommit) (identity : List UInt8) (now : UInt64)
    (current : AppState) : AppState :=
  { current with
    subscriptions := current.subscriptions ++ [importedSubscription input identity now]
    providers := current.providers ++ [importedProvider input identity]
    pools := current.pools ++ [importedPool input identity] }

/-- `commit_import`: `none` is the state of a first start. -/
def commitImport (text : JsonText) (input : ImportCommit) (identity : List UInt8) (now : UInt64)
    (current : Option AppState) : Except SubscriptionOperationError AppState := do
  reject (input.expectedInitiallyEmpty.any (· != current.isNone)) .busy
  let base := current.getD .empty
  reject (base.subscriptions.any (·.id.val = identityOf "sub" identity) ||
    base.providers.any (·.id.val = identityOf "provider" identity) ||
    base.pools.any (·.id.val = identityOf "pool" identity)) .identityFailed
  let candidate := importCandidate input identity now base
  let (candidate, _) ← (applyProviderReplacement text candidate ⟨identityOf "provider" identity⟩
    { input.parsed with skipped := [] }).mapError (·.toOperationError)
  validated candidate

/-! ## Update -/

/-- The body of `update_with_route` for its subscription: the network for a remote one, the
given content for a manual one. -/
def updateFetched (snapshot : UpdateSnapshot) (content : Option String) (routeOverride : Bool)
    (remote : Except SubscriptionOperationError FetchResult) :
    Except SubscriptionOperationError FetchResult :=
  match snapshot.source, content with
  | .remote _, none => do
    let _ ← okOr snapshot.remoteRequest .validationFailed
    remote
  | .manual, some body =>
    if routeOverride then .error .invalidInput
    else .ok (.modified body ⟨none, none, none, none⟩ none true)
  | _, _ => .error .invalidInput

/-- The parse of a new body; nothing is parsed when the source did not change. -/
def updateParsed (env : ContentEnv) :
    FetchResult → Except SubscriptionOperationError (Option ParseResult)
  | .modified body _ _ _ => (parseContent env body).map some
  | .notModified .. => .ok none

/-- A snapshot that cannot do without a new body: no nodes, or no document that follows
the source. -/
def UpdateSnapshot.needsBody (snapshot : UpdateSnapshot) : Bool :=
  snapshot.nodes.isEmpty || snapshot.document.all (·.localOverride)

/-- The subscription next to newly read nodes. -/
def Subscription.withContent (skipped : Nat) (metadata : Option SubscriptionHttpMetadata)
    (document : Option SubscriptionDocument) (profile : Option UInt32) (sub : Subscription) :
    Subscription :=
  { sub with
    skippedUnsupportedNodes := UInt32.ofNat skipped
    httpMetadata := metadata
    document
    updatePolicy := adoptProfileInterval sub.updatePolicy profile }

/-- The new content of the subscription in the commit of `update_with_route`. -/
def updateContent (text : JsonText) (id : String) (snapshot : UpdateSnapshot)
    (fetched : FetchResult) (parsed : Option ParseResult) (current : AppState) :
    Except SubscriptionOperationError (AppState × Bool) :=
  match fetched, parsed with
  | .modified body metadata profile _, some parsed => do
    let (candidate, changed) ← (applyProviderReplacement text current snapshot.providerId
      { parsed with skipped := [] }).mapError (·.toOperationError)
    let remote := match snapshot.source with
      | .remote _ => true
      | .manual => false
    .ok (candidate.modifySubscription id (Subscription.withContent parsed.skipped.length
      (if remote then some metadata else none) (documentForBody body parsed.format) profile),
      changed)
  | .notModified metadata profile validatorsMatchSource, none =>
    .ok (current.modifySubscription id fun sub =>
      { sub with
        httpMetadata := some (mergeMetadata
          (snapshot.httpMetadata.getD ⟨none, none, none, none⟩) metadata validatorsMatchSource)
        updatePolicy := adoptProfileInterval sub.updatePolicy profile }, false)
  | _, _ => .error .parseFailed

def Subscription.succeededAt (now : UInt64) (sub : Subscription) : Subscription :=
  { sub with lastSuccessAtMs := some now, lastAttemptAtMs := some now }

def Subscription.attemptedAt (now : UInt64) (sub : Subscription) : Subscription :=
  { sub with lastAttemptAtMs := some now }

/-- The commit of `update_with_route`: the state to save and whether the nodes changed. -/
def commitUpdate (text : JsonText) (id : String) (snapshot : UpdateSnapshot)
    (fetched : FetchResult) (parsed : Option ParseResult) (now : UInt64) (current : AppState) :
    Except SubscriptionOperationError (AppState × Bool) := do
  let found ← updateSnapshot current id
  reject (found ≠ snapshot) .busy
  let (candidate, contentChanged) ← updateContent text id snapshot fetched parsed current
  let candidate := candidate.modifySubscription id (Subscription.succeededAt now)
  let candidate ← raiseGeneration
    (contentChanged && candidate.activeSubscriptionId = some ⟨id⟩) candidate
  let candidate ← validated candidate
  .ok (candidate, contentChanged)

/-- `record_failed_attempt`. -/
def commitFailedAttempt (snapshot : UpdateSnapshot) (attemptedAt : UInt64) (current : AppState) :
    Except SubscriptionOperationError AppState := do
  let found ← updateSnapshot current snapshot.subscriptionId.val
  reject (found ≠ snapshot) .busy
  validated (current.modifySubscription snapshot.subscriptionId.val
    (Subscription.attemptedAt attemptedAt))

/-! ## Edit -/

/-- The remote arm of the edited source: the subscription, and whether its URL changed. -/
def editRemote (env : SubscriptionEnv) (edited : Subscription) (url : String)
    (input : EditSubscription) : Except SubscriptionOperationError (Subscription × Bool) := do
  reject (input.urlReplacement.any (!env.validateSourceUrl ·)) .invalidInput
  let newUrl := input.urlReplacement.getD url
  let remote ← okOr edited.remoteRequest .validationFailed
  let remote ← applyEdit applyRemotePatch remote input.remoteRequest
  let policy ← applyEdit applyUpdatePolicyPatch edited.updatePolicy input.updatePolicy
  .ok ({ edited with source := .remote newUrl, remoteRequest := some remote
                     updatePolicy := policy }, newUrl ≠ url)

/-- The first part of `edit`: the edited subscription of the baseline, and whether its URL
changed. -/
def prepareEdit (env : SubscriptionEnv) (input : EditSubscription) (baseline : AppState) :
    Except SubscriptionOperationError (Subscription × Bool) := do
  let sub ← okOr (baseline.subscription? input.id) .notFound
  let name ← applyEdit (fun _ => validateName) sub.name input.name
  let description ← applyEdit (fun _ => validateDescription) sub.description input.description
  let edited := { sub with name, description }
  match sub.source with
  | .manual => do
    reject (input.urlReplacement.isSome || input.remoteRequest.isSome ||
      input.updatePolicy.isSome) .invalidOptions
    .ok (edited, false)
  | .remote url => editRemote env edited url input

/-- The content fetched from a new URL. -/
structure EditReplacement where
  parsed : ParseResult
  document : Option SubscriptionDocument
  metadata : SubscriptionHttpMetadata
  profileInterval : Option UInt32
  now : UInt64

/-- The replacement that a fetched body makes. -/
def editReplacement (env : ContentEnv) (fetched : FetchResult) (now : UInt64) :
    Except SubscriptionOperationError EditReplacement :=
  match fetched with
  | .notModified .. => .error .cacheUnavailable
  | .modified body metadata profileInterval _ => do
    let parsed ← parseContent env body
    .ok { parsed, document := documentForBody body parsed.format, metadata, profileInterval, now }

/-- Put the edited subscription in place and carry its name to its provider and to the
implicit pools of that provider. -/
def editCandidate (id : String) (edited : Subscription) (providerId : ProviderId)
    (current : AppState) : AppState :=
  { current.modifySubscription id fun _ => edited with
    providers := modifyFirst (fun p => decide (p.subscriptionId = edited.id))
      (fun p => { p with name := edited.name }) current.providers
    pools := current.pools.map fun pool =>
      if pool.kind = .implicitProvider ∧ pool.sources.map (·.providerId) = [providerId] then
        { pool with name := edited.name }
      else pool }

/-- The content in the commit of `edit`: replaced if it was fetched from a new URL. -/
def editContent (text : JsonText) (id : String) (providerId : ProviderId)
    (candidate : AppState) :
    Option EditReplacement → Except SubscriptionOperationError (AppState × Bool)
  | none => .ok (candidate, false)
  | some replacement => do
    let (candidate, changed) ← (applyProviderReplacement text candidate providerId
      { replacement.parsed with skipped := [] }).mapError (·.toOperationError)
    let candidate := candidate.modifySubscription id fun sub =>
      (sub.withContent replacement.parsed.skipped.length (some replacement.metadata)
        replacement.document replacement.profileInterval).succeededAt replacement.now
    let candidate ← raiseGeneration (changed && candidate.activeSubscriptionId = some ⟨id⟩) candidate
    .ok (candidate, changed)

/-- The commit of `edit`: the state to save and whether the nodes changed. -/
def commitEdit (text : JsonText) (baseline : AppState) (id : String) (edited : Subscription)
    (replacement : Option EditReplacement) (current : AppState) :
    Except SubscriptionOperationError (AppState × Bool) := do
  reject (current ≠ baseline) .busy
  let provider ← okOr (current.providers.find? (·.subscriptionId = edited.id)) .validationFailed
  let candidate := editCandidate id edited provider.id current
  let (candidate, contentChanged) ← editContent text id provider.id candidate replacement
  let candidate ← validated candidate
  .ok (candidate, contentChanged)

/-! ## Document save -/

inductive DocumentOperationError
  | invalidInput
  | contentTooLarge
  | formatFailed
  | parseFailed
  | unsupportedNodes
  | unsupportedClashProviders
  | normalizationFailed
  | validationFailed
  | documentConflict
  | documentUnavailable
  | notFound
  | stateUnavailable
  | saveFailed
  | busy
  | operationTimedOut
deriving DecidableEq, Repr

/-- `map_document_parse_error`. -/
def DocumentErrorCode.toOperationError : DocumentErrorCode → DocumentOperationError
  | .invalidInput => .invalidInput
  | .contentTooLarge => .contentTooLarge
  | .formatFailed => .formatFailed
  | .parseFailed => .parseFailed
  | .unsupportedNodes => .unsupportedNodes
  | .unsupportedClashProviders => .unsupportedClashProviders
  | .busy => .busy
  | .operationTimedOut => .operationTimedOut

/-- `map_document_subscription_error`. -/
def SubscriptionOperationError.toDocumentError :
    SubscriptionOperationError → DocumentOperationError
  | .invalidInput | .invalidOptions => .invalidInput
  | .busy => .busy
  | .parseFailed => .parseFailed
  | .normalizationFailed => .normalizationFailed
  | .saveFailed => .saveFailed
  | .stateUnavailable => .stateUnavailable
  | .notFound => .notFound
  | .unsupportedClashProviders => .unsupportedClashProviders
  | _ => .validationFailed

/-- `map_document_replacement_error`. -/
def ProviderReplacementError.toDocumentError : ProviderReplacementError → DocumentOperationError
  | .rejectedBatch => .parseFailed
  | .missingProvider | .state _ => .validationFailed
  | .normalize _ => .normalizationFailed

structure PreparedDocumentSave where
  before : AppState
  next : AppState
  subscriptionId : String
  documentRevision : String
  requiresApply : Bool
  stateChanged : Bool

/-- `validate_document_revision`: 64 lower-case hexadecimal digits. -/
def validateDocumentRevision (value : String) : Except DocumentOperationError Unit :=
  reject (!(Text.len value == 64 && (Text.bytes value).all fun b =>
    (0x30 ≤ b && b ≤ 0x39) || (0x61 ≤ b && b ≤ 0x66))) .invalidInput

/-- The part of `prepare_document_save` before the gate: the exact, duplicate-free parse. -/
def parseDocumentInput (env : SubscriptionEnv) (worker : Option DocumentErrorCode)
    (input : DocumentSaveInput) : Except DocumentOperationError ParseResult := do
  (validateId input.id).mapError fun _ => .invalidInput
  validateDocumentRevision input.expectedRevision
  let parsed ← (parseExactDocument env.readers worker input.content input.format).mapError
    (·.toOperationError)
  let deduplicated := deduplicateParsedNodes env.text parsed
  reject (deduplicated.nodes.length ≠ parsed.nodes.length) .normalizationFailed
  .ok deduplicated

/-- The subscription with the edited document. -/
def Subscription.withDocument (sub : Subscription) (document : SubscriptionDocument)
    (documentChanged : Bool) : Subscription :=
  let remote := match sub.source with
    | .remote _ => true
    | .manual => false
  { sub with
    document := some
      { document with localOverride := documentChanged && remote || document.localOverride }
    skippedUnsupportedNodes := 0
    httpMetadata :=
      if documentChanged && remote then
        sub.httpMetadata.map fun m => { m with etag := none, lastModified := none }
      else sub.httpMetadata }

/-- The edited document differs from the one the editor read. -/
def documentChanged (env : SubscriptionEnv) (input : DocumentSaveInput) : Bool :=
  env.revisionFor input.format input.content ≠ input.expectedRevision

/-- The candidate of `prepare_document_save` before its nodes are there. -/
def documentCandidate (env : SubscriptionEnv) (input : DocumentSaveInput)
    (existing : SubscriptionDocument) (before : AppState) : AppState :=
  before.modifySubscription input.id fun sub => sub.withDocument
    { format := input.format, content := input.content, localOverride := existing.localOverride }
    (documentChanged env input)

/-- The part of `prepare_document_save` on the loaded state. -/
def documentSaveOn (env : SubscriptionEnv) (input : DocumentSaveInput) (parsed : ParseResult)
    (before : AppState) : Except DocumentOperationError PreparedDocumentSave := do
  let sub ← okOr (before.subscription? input.id) .notFound
  let existing ← okOr sub.document .documentUnavailable
  reject (env.revisionFor existing.format existing.content ≠ input.expectedRevision)
    .documentConflict
  let next := documentCandidate env input existing before
  let providerId ← okOr (next.soleProvider sub.id) .validationFailed
  let (next, nodesChanged) ← (applyProviderReplacement env.text next providerId parsed).mapError
    (·.toDocumentError)
  let requiresApply := next.activeSubscriptionId = some sub.id &&
    (documentChanged env input || nodesChanged)
  let next ← (raiseGeneration requiresApply next).mapError (·.toDocumentError)
  let next ← (validated next).mapError (·.toDocumentError)
  .ok { before, next, subscriptionId := input.id
        documentRevision := env.revisionFor input.format input.content
        requiresApply, stateChanged := before ≠ next }

/-- `prepare_document_save`. -/
def prepareDocumentSave (env : SubscriptionEnv) (worker : Option DocumentErrorCode)
    (input : DocumentSaveInput) (before : AppState) :
    Except DocumentOperationError PreparedDocumentSave := do
  documentSaveOn env input (← parseDocumentInput env worker input) before

/-- `commit_prepared_document`: the state to save, if any. -/
def commitPreparedDocument (prepared : PreparedDocumentSave) (current : AppState) :
    Except DocumentOperationError (Option AppState) := do
  reject (current ≠ prepared.before) .documentConflict
  .ok (if prepared.stateChanged then some prepared.next else none)

/-! ## Delete -/

/-- The implicit pools that draw on the given providers alone. -/
def ownedPoolIds (providerIds : List ProviderId) (s : AppState) : List PoolId :=
  (s.pools.filter fun pool => pool.kind = .implicitProvider ∧ pool.sources ≠ [] ∧
    ∀ src ∈ pool.sources, src.providerId ∈ providerIds).map (·.id)

/-- A target is one of the given pools. -/
def RouteTarget.isPoolOf (pools : List PoolId) : RouteTarget → Bool
  | .pool id => pools.contains id
  | _ => false

/-- Something other than the owned pools refers to the providers or to those pools. -/
def stillReferenced (providerIds : List ProviderId) (owned : List PoolId) (s : AppState) : Bool :=
  (s.pools.any fun pool => !owned.contains pool.id &&
    pool.sources.any fun src => providerIds.contains src.providerId) ||
  s.routes.any (·.target.isPoolOf owned) || s.defaultTarget.isPoolOf owned

/-- The state without a subscription, its providers, their nodes and the owned pools. -/
def AppState.without (s : AppState) (id : SubscriptionId) (providerIds : List ProviderId)
    (owned : List PoolId) : AppState :=
  { s with
    nodes := s.nodes.filter (·.providerId ∉ providerIds)
    pools := s.pools.filter (·.id ∉ owned)
    providers := s.providers.filter (·.id ∉ providerIds)
    subscriptions := s.subscriptions.filter (·.id ≠ id) }

/-- `delete`. -/
def commitDelete (id : String) (activeRuntimeStopped : Bool) (current : AppState) :
    Except SubscriptionOperationError AppState := do
  validateId id
  let sub ← okOr (current.subscription? id) .notFound
  let isActive := current.activeSubscriptionId = some sub.id
  reject (isActive && !activeRuntimeStopped) .referenceConflict
  let providerIds := (current.providersOf sub.id).map (·.id)
  reject providerIds.isEmpty .validationFailed
  let owned := ownedPoolIds providerIds current
  reject (stillReferenced providerIds owned current) .referenceConflict
  let candidate := current.without sub.id providerIds owned
  let candidate ← raiseGeneration isActive candidate
  validated (if isActive then { candidate with activeSubscriptionId := none } else candidate)

/-! ## Commits -/

/-- The id check of `update_with_route`. -/
def validateUpdateId (id : String) : Except SubscriptionOperationError Unit :=
  reject (Text.blank id || Text.len id > 128) .invalidInput

/-- The source reported no change although the snapshot cannot do without a body. -/
def cacheUnavailable (snapshot : UpdateSnapshot) : FetchResult → Bool
  | .modified .. => false
  | .notModified .. => snapshot.needsBody

/-- The replacement of an edit: read from a fetched body exactly when the URL changed. -/
def EditReplaces (env : SubscriptionEnv) (baseline : AppState) (id : String) (urlChanged : Bool) :
    Option (FetchResult × UInt64) → Option EditReplacement → Prop
  | none, none => urlChanged = false
  | some (fetched, now), some replacement => urlChanged = true ∧
      (∃ snapshot, updateSnapshot baseline id = .ok snapshot) ∧
      editReplacement env.toContentEnv fetched now = .ok replacement
  | _, _ => False

/-- What an operation was asked and what the world answered it: the fetched body, the
clock, the random identity, the worker. -/
inductive SubscriptionOperation
  | importManual (name description content : String) (identity : List UInt8) (now : UInt64)
  | importRemote (name description url : String) (options : RemoteImportOptions)
      (initiallyEmpty : Bool) (fetched : FetchResult) (identity : List UInt8) (now : UInt64)
  | update (id : String) (fetched : FetchResult) (now : UInt64)
  | failedAttempt (id : String) (attemptedAt : UInt64)
  | edit (input : EditSubscription) (fetched : Option (FetchResult × UInt64))
  | document (worker : Option DocumentErrorCode) (input : DocumentSaveInput)
  | delete (id : String) (activeRuntimeStopped : Bool)

/-- The drafts read from a fetched body. -/
def FetchResult.drafts (env : SubscriptionEnv) : FetchResult → Option (List ProxyNodeDraft)
  | .modified body _ _ _ => (parseContent env.toContentEnv body).toOption.map (·.nodes)
  | .notModified .. => none

/-- The subscription whose nodes an operation replaces, with the drafts it reads for them. -/
def SubscriptionOperation.replaces (env : SubscriptionEnv) :
    SubscriptionOperation → Option (String × List ProxyNodeDraft)
  | .update id fetched _ => (fetched.drafts env).map fun drafts => (id, drafts)
  | .edit input (some (fetched, _)) => (fetched.drafts env).map fun drafts => (input.id, drafts)
  | .document worker input =>
    (parseDocumentInput env worker input).toOption.map fun parsed => (input.id, parsed.nodes)
  | _ => none

/-- A committed operation: the state it had captured before, and the state it saves over the
one it loaded. -/
inductive SubscriptionCommit (env : SubscriptionEnv) :
    SubscriptionOperation → Option AppState → AppState → Prop
  | importManual {name description content : String} {input : ImportCommit}
      {identity : List UInt8} {now : UInt64} {current : Option AppState} {after : AppState}
      (prepared : prepareManualImport env name description content = .ok input)
      (committed : commitImport env.text input identity now current = .ok after) :
      SubscriptionCommit env (.importManual name description content identity now) current after
  | importRemote {name description url : String} {options : RemoteImportOptions}
      {initiallyEmpty : Bool} {fetched : FetchResult} {input : ImportCommit}
      {identity : List UInt8} {now : UInt64} {current : Option AppState} {after : AppState}
      (prepared : prepareRemoteImport env name description url options initiallyEmpty fetched =
        .ok input)
      (committed : commitImport env.text input identity now current = .ok after) :
      SubscriptionCommit env
        (.importRemote name description url options initiallyEmpty fetched identity now)
        current after
  | update {id : String} {content : Option String} {routeOverride : Bool}
      {remote : Except SubscriptionOperationError FetchResult} {base : AppState}
      {snapshot : UpdateSnapshot} {fetched : FetchResult} {parsed : Option ParseResult}
      {now : UInt64} {current after : AppState} {changed : Bool}
      (captured : updateSnapshot base id = .ok snapshot)
      (answered : updateFetched snapshot content routeOverride remote = .ok fetched)
      (read : updateParsed env.toContentEnv fetched = .ok parsed)
      (usable : cacheUnavailable snapshot fetched = false)
      (committed : commitUpdate env.text id snapshot fetched parsed now current =
        .ok (after, changed)) :
      SubscriptionCommit env (.update id fetched now) (some current) after
  | failedAttempt {id : String} {base : AppState} {snapshot : UpdateSnapshot}
      {attemptedAt : UInt64} {current after : AppState}
      (captured : updateSnapshot base id = .ok snapshot)
      (committed : commitFailedAttempt snapshot attemptedAt current = .ok after) :
      SubscriptionCommit env (.failedAttempt id attemptedAt) (some current) after
  | edit {input : EditSubscription} {baseline : AppState} {edited : Subscription}
      {urlChanged : Bool} {fetched : Option (FetchResult × UInt64)}
      {replacement : Option EditReplacement} {current after : AppState} {changed : Bool}
      (prepared : prepareEdit env input baseline = .ok (edited, urlChanged))
      (replaces : EditReplaces env baseline input.id urlChanged fetched replacement)
      (committed : commitEdit env.text baseline input.id edited replacement current =
        .ok (after, changed)) :
      SubscriptionCommit env (.edit input fetched) (some current) after
  | document {worker : Option DocumentErrorCode} {input : DocumentSaveInput}
      {before : AppState} {prepared : PreparedDocumentSave} {current after : AppState}
      (prepares : prepareDocumentSave env worker input before = .ok prepared)
      (committed : commitPreparedDocument prepared current = .ok (some after)) :
      SubscriptionCommit env (.document worker input) (some current) after
  | delete {id : String} {activeRuntimeStopped : Bool} {current after : AppState}
      (committed : commitDelete id activeRuntimeStopped current = .ok after) :
      SubscriptionCommit env (.delete id activeRuntimeStopped) (some current) after

end Veyra
