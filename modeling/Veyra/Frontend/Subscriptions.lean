import Veyra.Application.SubscriptionResponses

/-!
# Veyra.Frontend.Subscriptions

The decoders of the subscription page: each accepts a response of the command
layer as a whole or throws.  `none` is the exception.  The `URL` class of the
browser is a parameter.
-/

namespace Veyra.Frontend

open Browser

/-- What `new URL(value)` shows; `none` when it throws. -/
structure BrowserUrl where
  username : String
  password : String
  search : String
  hash : String
deriving DecidableEq, Repr

structure SubscriptionTrafficSummary where
  upload : Option Nat
  download : Option Nat
  total : Option Nat
  expireAtMs : Option Nat
deriving DecidableEq, Repr

structure SubscriptionSummary where
  id : String
  name : String
  description : String
  sourceKind : SubscriptionSourceKind
  nodeCount : Nat
  skippedNodeCount : Nat
  lastSuccessAtMs : Option Nat
  traffic : Option SubscriptionTrafficSummary
  allowAutoUpdate : Bool
  updateIntervalMinutes : Option Nat
  active : Bool
  activeConfigurationGeneration : Option Nat
  shareable : Bool
deriving DecidableEq, Repr

structure RemoteRequest where
  timeoutSeconds : Nat
  proxyMode : SubscriptionProxyMode
  verifyTls : Bool
deriving DecidableEq, Repr

structure UpdatePolicy where
  allowAutoUpdate : Bool
  intervalMinutes : Option Nat
deriving DecidableEq, Repr

structure SubscriptionSettings where
  id : String
  name : String
  description : String
  sourceKind : SubscriptionSourceKind
  urlPreview : Option String
  hasCustomUserAgent : Bool
  remoteRequest : Option RemoteRequest
  updatePolicy : UpdatePolicy
  shareable : Bool
deriving DecidableEq, Repr

/-! ## Checks of single values -/

def sourceKinds : List (String × SubscriptionSourceKind) :=
  [("remote", .remote), ("manual", .manual)]

def proxyModes : List (String × SubscriptionProxyMode) :=
  [("direct", .direct), ("system", .system), ("managedCore", .managedCore)]

def isSafeText (value : String) (maximum : Nat) (allowEmpty : Bool) : Bool :=
  (allowEmpty || !Browser.blank value) && value.toList.length ≤ maximum &&
    !value.toList.any Browser.isControl

/-- A string that is safe text. -/
def safeText (maximum : Nat) (allowEmpty : Bool) : Reader String := fun value => do
  let s ← text value
  guard (isSafeText s maximum allowEmpty)
  some s

/-- `isTimeout`. -/
def timeout : Reader Nat := fun value => do
  let n ← safeInteger value
  guard (n > 0 ∧ n ≥ 5 ∧ n ≤ 120)
  some n

/-- `isNullableInterval`. -/
def nullableInterval : Reader (Option Nat) := nullable fun value => do
  let n ← safeInteger value
  guard (n > 0 ∧ n ≥ 1440)
  some n

/-- `isSafeUrlPreview`. -/
def isSafeUrlPreview (url : String → Option BrowserUrl) (value : String) : Bool :=
  (url value).any fun u => u.username = "" && u.password = "" && u.search = "" && u.hash = ""

/-- A string that is a safe URL preview. -/
def urlPreview (url : String → Option BrowserUrl) : Reader String := fun value => do
  let s ← text value
  guard (isSafeUrlPreview url s)
  some s

/-! ## Summaries and settings -/

def parseTraffic : Reader SubscriptionTrafficSummary := fun value => do
  let ms ← exactly ["upload", "download", "total", "expireAtMs"] value
  let upload ← member ms "upload" (nullable safeInteger)
  let download ← member ms "download" (nullable safeInteger)
  let total ← member ms "total" (nullable safeInteger)
  let expireAtMs ← member ms "expireAtMs" (nullable safeInteger)
  some { upload, download, total, expireAtMs }

def parseSummary : Reader SubscriptionSummary := fun value => do
  let ms ← exactly ["id", "name", "description", "sourceKind", "nodeCount", "skippedNodeCount",
    "lastSuccessAtMs", "traffic", "allowAutoUpdate", "updateIntervalMinutes", "active",
    "activeConfigurationGeneration", "shareable"] value
  let id ← member ms "id" nonEmptyText
  let name ← member ms "name" (safeText 80 false)
  let description ← member ms "description" (safeText 280 true)
  let sourceKind ← member ms "sourceKind" (oneOf sourceKinds)
  let nodeCount ← member ms "nodeCount" safeInteger
  let skippedNodeCount ← member ms "skippedNodeCount" safeInteger
  guard (skippedNodeCount ≤ 0xffffffff)
  let lastSuccessAtMs ← member ms "lastSuccessAtMs" (nullable safeInteger)
  let allowAutoUpdate ← member ms "allowAutoUpdate" boolean
  let updateIntervalMinutes ← member ms "updateIntervalMinutes" nullableInterval
  let active ← member ms "active" boolean
  let activeConfigurationGeneration ←
    member ms "activeConfigurationGeneration" (nullable safeInteger)
  guard (active = activeConfigurationGeneration.isSome)
  let shareable ← member ms "shareable" boolean
  guard (allowAutoUpdate ∨ updateIntervalMinutes = none)
  guard (sourceKind = .manual →
    ¬(allowAutoUpdate ∨ updateIntervalMinutes.isSome ∨ shareable))
  let traffic ← member ms "traffic" (nullable parseTraffic)
  some { id, name, description, sourceKind, nodeCount, skippedNodeCount, lastSuccessAtMs, traffic
         allowAutoUpdate, updateIntervalMinutes, active, activeConfigurationGeneration
         shareable }

def parseUpdatePolicy : Reader UpdatePolicy := fun value => do
  let ms ← exactly ["allowAutoUpdate", "intervalMinutes"] value
  let allowAutoUpdate ← member ms "allowAutoUpdate" boolean
  let intervalMinutes ← member ms "intervalMinutes" nullableInterval
  some { allowAutoUpdate, intervalMinutes }

def parseRemoteRequest : Reader RemoteRequest := fun value => do
  let ms ← exactly ["timeoutSeconds", "proxyMode", "verifyTls"] value
  let timeoutSeconds ← member ms "timeoutSeconds" timeout
  let proxyMode ← member ms "proxyMode" (oneOf proxyModes)
  let verifyTls ← member ms "verifyTls" boolean
  some { timeoutSeconds, proxyMode, verifyTls }

def parseSettings (url : String → Option BrowserUrl) : Reader SubscriptionSettings := fun value => do
  let ms ← exactly ["id", "name", "description", "sourceKind", "urlPreview", "hasCustomUserAgent",
    "remoteRequest", "updatePolicy", "shareable"] value
  let id ← member ms "id" nonEmptyText
  let name ← member ms "name" (safeText 80 false)
  let description ← member ms "description" (safeText 280 true)
  let sourceKind ← member ms "sourceKind" (oneOf sourceKinds)
  let preview ← member ms "urlPreview" (nullable (urlPreview url))
  let hasCustomUserAgent ← member ms "hasCustomUserAgent" boolean
  let shareable ← member ms "shareable" boolean
  let updatePolicy ← member ms "updatePolicy" parseUpdatePolicy
  let remoteRequest ← member ms "remoteRequest" (nullable parseRemoteRequest)
  guard (decide (sourceKind = .remote) = remoteRequest.isSome)
  guard (updatePolicy.allowAutoUpdate ∨ updatePolicy.intervalMinutes = none)
  guard (sourceKind = .manual → ¬(preview.isSome ∨ hasCustomUserAgent ∨
    updatePolicy.allowAutoUpdate ∨ updatePolicy.intervalMinutes.isSome ∨ shareable))
  some { id, name, description, sourceKind, urlPreview := preview, hasCustomUserAgent
         remoteRequest, updatePolicy, shareable }

/-! ## Results -/

/-- `SubscriptionResult<T>`: the value, or one of the known errors. -/
inductive SubscriptionResult (α : Type)
  | ok (value : α)
  | error (error : SubscriptionOperationError)
deriving DecidableEq

/-- `subscriptionErrors`: the names of the known errors. -/
def subscriptionErrors : List (String × SubscriptionOperationError) :=
  [("invalidInput", .invalidInput), ("busy", .busy), ("fetchFailed", .fetchFailed),
   ("parseFailed", .parseFailed), ("normalizationFailed", .normalizationFailed),
   ("validationFailed", .validationFailed), ("saveFailed", .saveFailed),
   ("stateUnavailable", .stateUnavailable), ("notFound", .notFound),
   ("cacheUnavailable", .cacheUnavailable), ("identityFailed", .identityFailed),
   ("invalidOptions", .invalidOptions),
   ("unsupportedClashProviders", .unsupportedClashProviders),
   ("systemProxyUnavailable", .systemProxyUnavailable), ("proxyUnavailable", .proxyUnavailable),
   ("referenceConflict", .referenceConflict), ("notShareable", .notShareable)]

/-- The member `status` of a result is the given one. -/
def status (name : String) (ms : List (String × Json)) : Option Unit :=
  member ms "status" (oneOf [(name, ())])

/-- `isErrorResult`. -/
def parseError : Reader SubscriptionOperationError := fun value => do
  let ms ← exactly ["status", "error"] value
  status "error" ms
  member ms "error" (oneOf subscriptionErrors)

/-- An error result is returned as it is, anything else is read as the value. -/
def parseResult {α : Type} (read : Reader α) : Reader (SubscriptionResult α) := fun value =>
  match parseError value with
  | some error => some (.error error)
  | none => (read value).map .ok

def parseListResult : Reader (SubscriptionResult (List SubscriptionSummary)) :=
  parseResult fun value => do
    let ms ← exactly ["status", "subscriptions"] value
    status "ok" ms
    member ms "subscriptions" (arrayOf parseSummary)

/-- `parseSummaryResult(value, false)`. -/
def parseSummaryResult : Reader (SubscriptionResult SubscriptionSummary) :=
  parseResult fun value => do
    let ms ← exactly ["status", "subscription"] value
    status "ok" ms
    member ms "subscription" parseSummary

/-- `parseSummaryResult(value, true)`. -/
def parseChangedResult : Reader (SubscriptionResult (SubscriptionSummary × Bool)) :=
  parseResult fun value => do
    let ms ← exactly ["status", "subscription", "contentChanged"] value
    status "ok" ms
    let contentChanged ← member ms "contentChanged" boolean
    let subscription ← member ms "subscription" parseSummary
    some (subscription, contentChanged)

/-- The decoder of `getSubscriptionSettings`. -/
def parseSettingsResult (url : String → Option BrowserUrl) :
    Reader (SubscriptionResult SubscriptionSettings) :=
  parseResult fun value => do
    let ms ← exactly ["status", "settings"] value
    status "ok" ms
    member ms "settings" (parseSettings url)

/-- The `ok` arm of `parseActivateResult`: the outcome, the operation, the subscription and
the generation. -/
def parseActivated : Reader (String × String × SubscriptionSummary × Nat) := fun value => do
  let ms ← exactly
    ["status", "outcome", "operationId", "subscription", "activeConfigurationGeneration"] value
  status "ok" ms
  let outcome ← member ms "outcome" (oneOf
    [("activated", "activated"), ("alreadyCurrent", "alreadyCurrent"),
     ("reactivated", "reactivated")])
  let operationId ← member ms "operationId" nonEmptyText
  let generation ← member ms "activeConfigurationGeneration" safeInteger
  let subscription ← member ms "subscription" parseSummary
  guard (subscription.active ∧ subscription.activeConfigurationGeneration = some generation)
  some (outcome, operationId, subscription, generation)

/-! ## Saved documents -/

/-- The names of `documentMessages`. -/
def documentMessages : List String :=
  ["documentUnavailable", "documentConflict", "contentTooLarge", "formatFailed",
   "unsupportedNodes", "notRunning", "operationTimedOut"]

/-- The names of `errorMessages`. -/
def errorMessages : List String :=
  ["invalidInput", "busy", "fetchFailed", "parseFailed", "normalizationFailed",
   "validationFailed", "saveFailed", "stateUnavailable", "notFound", "cacheUnavailable",
   "identityFailed", "systemProxyUnavailable", "invalidOptions", "unsupportedClashProviders",
   "proxyUnavailable", "referenceConflict", "notShareable", "recoveryRequired",
   "selectionConflict", "configurationFailed", "stopFailed", "startFailed"]

structure DocumentErrorLocation where
  line : Nat
  column : Nat
deriving DecidableEq, Repr

structure DocumentFailure where
  error : String
  operationId : Option String
  location : Option DocumentErrorLocation
deriving DecidableEq, Repr

inductive DocumentApply
  | notRequired
  | ready (operationId : String) (generation : Nat)
  | failed (operationId : String) (generation : Nat) (error : DocumentApplyError)
deriving DecidableEq, Repr

inductive DocumentSaveResult
  | failure (failure : DocumentFailure)
  | ok (subscription : SubscriptionSummary) (documentRevision : String) (apply : DocumentApply)
deriving DecidableEq, Repr

/-- `isPositiveInteger`. -/
def positiveInteger : Reader Nat := fun value => do
  let n ← safeInteger value
  guard (n > 0)
  some n

/-- A member that may be left out. -/
def optionalMember {α : Type} (ms : List (String × Json)) (key : String) (read : Reader α) :
    Option (Option α) :=
  match ms.lookup key with
  | none => some none
  | some value => (read value).map some

def parseLocation : Reader DocumentErrorLocation := fun value => do
  let ms ← exactly ["line", "column"] value
  let line ← member ms "line" positiveInteger
  let column ← member ms "column" positiveInteger
  some { line, column }

/-- The members of an error of the document commands. -/
def parseFailureMembers (ms : List (String × Json)) : Option DocumentFailure := do
  let error ← member ms "error" text
  guard (error ∈ documentMessages ∨ error ∈ errorMessages)
  guard (∀ m ∈ ms, m.1 ∈ ["status", "error", "operationId", "location"])
  let operationId ← optionalMember ms "operationId" nonEmptyText
  let location ← optionalMember ms "location" parseLocation
  some { error, operationId, location }

/-- `parseDocumentFailure`: `some none` stands for its `null`. -/
def parseDocumentFailure : Reader (Option DocumentFailure)
  | .obj ms =>
    match ms.lookup "status" with
    | some (.str "error") => (parseFailureMembers ms).map some
    | _ => some none
  | _ => some none

/-- `isDocumentRevision`. -/
def isDocumentRevision (value : String) : Bool :=
  value.toList.length = 64 &&
    value.toList.all fun c => ('a' ≤ c && c ≤ 'f') || ('0' ≤ c && c ≤ '9')

def documentRevision : Reader String := fun value => do
  let s ← text value
  guard (isDocumentRevision s)
  some s

def documentApplyErrors : List (String × DocumentApplyError) :=
  [("stopFailed", .stopFailed), ("startFailed", .startFailed),
   ("recoveryRequired", .recoveryRequired), ("operationTimedOut", .operationTimedOut)]

/-- The member `apply` of a saved document.  A name in an array of its own, which `String` takes
for the name, is not read here. -/
def parseApply : Reader DocumentApply
  | .obj ms =>
    match ms.lookup "status" with
    | some (.str "notRequired") => do
      let _ ← exactly ["status"] (.obj ms)
      some .notRequired
    | some (.str "ready") => do
      let ms ← exactly ["status", "operationId", "generation"] (.obj ms)
      let operationId ← member ms "operationId" nonEmptyText
      let generation ← member ms "generation" safeInteger
      some (.ready operationId generation)
    | some (.str "failed") => do
      let ms ← exactly ["status", "operationId", "generation", "error"] (.obj ms)
      let operationId ← member ms "operationId" nonEmptyText
      let generation ← member ms "generation" safeInteger
      let error ← member ms "error" (oneOf documentApplyErrors)
      some (.failed operationId generation error)
    | _ => none
  | _ => none

/-- The document and its subscription that a save answers with. -/
def parseSaved : Reader DocumentSaveResult := fun value => do
  let ms ← exactly ["status", "subscription", "documentRevision", "apply"] value
  status "ok" ms
  let documentRevision ← member ms "documentRevision" documentRevision
  let apply ← member ms "apply" parseApply
  let subscription ← member ms "subscription" parseSummary
  some (.ok subscription documentRevision apply)

/-- The decoder of `saveSubscriptionDocument`. -/
def parseSaveResult : Reader DocumentSaveResult := fun value => do
  match ← parseDocumentFailure value with
  | some failure => some (.failure failure)
  | none => parseSaved value

end Veyra.Frontend
