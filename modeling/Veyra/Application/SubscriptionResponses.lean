import Veyra.Application.ManagedRuntime
import Veyra.Lib.Browser

/-!
# Veyra.Application.SubscriptionResponses

What the subscription commands answer of a state: the summary of each
subscription, the settings of one, and the JSON that the command layer writes
for them.  The parser of source URLs is a parameter; `validateSourceUrl` is the
check of the fetcher over it.
-/

namespace Veyra

open Check
open Browser (ofOption)

/-! ## Source URLs -/

/-- A parsed URL, as its accessors show it. -/
structure SourceUrl where
  scheme : String
  username : String
  password : Option String
  host : Option String
  query : Option String
  fragment : Option String
  /-- `url.origin().ascii_serialization()`. -/
  origin : String
  path : String
deriving DecidableEq, Repr

/-- `validate_url` of the fetcher, without an initial scheme. -/
def validateUrl (url : SourceUrl) : Bool :=
  if url.username ≠ "" || url.password.isSome || url.host.isNone then false
  else if url.scheme = "https" then true
  else url.scheme = "http" && ["127.0.0.1", "::1", "[::1]"].contains (url.host.getD "") &&
    url.query.isNone && url.fragment.isNone

/-- `validate_source_url`. -/
def validateSourceUrl (parse : String → Option SourceUrl) (source : String) : Bool :=
  if Text.len source > 8192 || Text.trim source ≠ source then false
  else (parse source).any validateUrl

/-- The environment whose URL check is the one of the fetcher. -/
def SubscriptionEnv.withUrlParser (env : SubscriptionEnv) (parse : String → Option SourceUrl) :
    SubscriptionEnv :=
  { env with validateSourceUrl := Veyra.validateSourceUrl parse }

/-- `safe_url_preview`. -/
def safeUrlPreview (parse : String → Option SourceUrl) (value : String) : Option String := do
  let url ← parse value
  let _ ← url.host
  some (url.origin ++ url.path)

/-! ## Summaries -/

inductive SubscriptionSourceKind
  | remote
  | manual
deriving DecidableEq, Repr

structure SubscriptionSummary where
  id : String
  name : String
  description : String
  sourceKind : SubscriptionSourceKind
  nodeCount : UInt64
  skippedNodeCount : UInt32
  lastSuccessAtMs : Option UInt64
  traffic : Option SubscriptionTraffic
  allowAutoUpdate : Bool
  updateIntervalMinutes : Option UInt32
  active : Bool
  activeConfigurationGeneration : Option UInt64
  shareable : Bool
deriving DecidableEq, Repr

/-- `safe_display_name`. -/
def safeDisplayName (name : String) : String :=
  let trimmed := Text.trim name
  if trimmed = "" then "本地订阅" else String.ofList (trimmed.toList.take 80)

def SubscriptionSource.kind : SubscriptionSource → SubscriptionSourceKind
  | .remote _ => .remote
  | .manual => .manual

def SubscriptionSource.isRemote : SubscriptionSource → Bool
  | .remote _ => true
  | .manual => false

/-- The number of nodes of a subscription, counted as `usize`. -/
def AppState.nodeCount (state : AppState) (id : SubscriptionId) : UInt64 :=
  UInt64.ofNat (state.nodes.filter
    (((state.providersOf id).map (·.id)).contains ·.providerId)).length

/-- `summary_for`. -/
def summaryFor (state : AppState) (sub : Subscription) : SubscriptionSummary :=
  let active := decide (state.activeSubscriptionId = some sub.id)
  { id := sub.id.val
    name := safeDisplayName sub.name
    description := sub.description
    sourceKind := sub.source.kind
    nodeCount := state.nodeCount sub.id
    skippedNodeCount := sub.skippedUnsupportedNodes
    lastSuccessAtMs := sub.lastSuccessAtMs
    traffic := sub.httpMetadata.bind (·.subscriptionUserinfo)
    allowAutoUpdate := sub.updatePolicy.allowAutoUpdate
    updateIntervalMinutes := sub.updatePolicy.intervalMinutes
    active
    activeConfigurationGeneration :=
      if active then some state.activeConfigurationGeneration else none
    shareable := sub.source.isRemote }

/-- `summaries`. -/
def summaries (state : AppState) : Except SubscriptionOperationError (List SubscriptionSummary) := do
  state.validate.mapError fun _ => .validationFailed
  .ok (state.subscriptions.map (summaryFor state))

/-- `list` on the loaded state; there is none before the first import. -/
def listSubscriptions :
    Option AppState → Except SubscriptionOperationError (List SubscriptionSummary)
  | none => .ok []
  | some state => summaries state

/-! ## Settings -/

structure RemoteRequestSettings where
  timeoutSeconds : UInt16
  proxyMode : SubscriptionProxyMode
  verifyTls : Bool
deriving DecidableEq, Repr

structure SubscriptionSettings where
  id : String
  name : String
  description : String
  sourceKind : SubscriptionSourceKind
  urlPreview : Option String
  hasCustomUserAgent : Bool
  remoteRequest : Option RemoteRequestSettings
  updatePolicy : SubscriptionUpdatePolicy
  shareable : Bool
deriving DecidableEq, Repr

/-- `settings_for`. -/
def settingsFor (parse : String → Option SourceUrl) (sub : Subscription) : SubscriptionSettings :=
  let urlPreview := match sub.source with
    | .remote url => safeUrlPreview parse url
    | .manual => none
  { id := sub.id.val
    name := safeDisplayName sub.name
    description := sub.description
    sourceKind := sub.source.kind
    urlPreview
    hasCustomUserAgent := (sub.remoteRequest.bind (·.userAgent)).isSome
    remoteRequest := sub.remoteRequest.map fun value =>
      { timeoutSeconds := value.timeoutSeconds
        proxyMode := value.proxyMode
        verifyTls := value.verifyTls }
    updatePolicy := sub.updatePolicy
    shareable := sub.source.isRemote }

/-- `get_settings` on the loaded state. -/
def getSettings (parse : String → Option SourceUrl) (state : Option AppState) (id : String) :
    Except SubscriptionOperationError SubscriptionSettings := do
  validateId id
  let state ← okOr state .notFound
  let sub ← okOr (state.subscription? id) .notFound
  .ok (settingsFor parse sub)

/-! ## Documents and URLs -/

structure SubscriptionDocumentView where
  id : String
  format : SubscriptionDocumentFormat
  content : String
  revision : String
  sourceKind : SubscriptionSourceKind
  localOverride : Bool
deriving DecidableEq, Repr

/-- `read_document` on the loaded state. -/
def readDocument (env : SubscriptionEnv) (state : Option AppState) (id : String) :
    Except DocumentOperationError SubscriptionDocumentView := do
  let state ← okOr state .notFound
  let sub ← okOr (state.subscription? id) .notFound
  let document ← okOr sub.document .documentUnavailable
  .ok
    { id := sub.id.val
      format := document.format
      content := document.content
      revision := env.revisionFor document.format document.content
      sourceKind := sub.source.kind
      localOverride := document.localOverride }

/-- `share_url` on the loaded state. -/
def shareUrl (state : Option AppState) (id : String) :
    Except SubscriptionOperationError String := do
  let state ← okOr state .notFound
  let sub ← okOr (state.subscription? id) .notFound
  match sub.source with
  | .remote url => .ok url
  | .manual => .error .notShareable

/-! ## The JSON of the responses -/

def numberU16 (n : UInt16) : Json := .num (.posInt n.toUInt64)

def numberU32 (n : UInt32) : Json := .num (.posInt n.toUInt64)

def numberU64 (n : UInt64) : Json := .num (.posInt n)

def SubscriptionSourceKind.name : SubscriptionSourceKind → String
  | .remote => "remote"
  | .manual => "manual"

def SubscriptionProxyMode.name : SubscriptionProxyMode → String
  | .direct => "direct"
  | .system => "system"
  | .managedCore => "managedCore"

/-- `SubscriptionTrafficResponse`. -/
def SubscriptionTraffic.response (traffic : SubscriptionTraffic) : Json :=
  .obj
    [("upload", ofOption numberU64 traffic.upload),
     ("download", ofOption numberU64 traffic.download),
     ("total", ofOption numberU64 traffic.total),
     ("expireAtMs", ofOption numberU64 traffic.expireAtMs)]

/-- `SubscriptionSummaryResponse`. -/
def SubscriptionSummary.response (summary : SubscriptionSummary) : Json :=
  .obj
    [("id", .str summary.id),
     ("name", .str summary.name),
     ("description", .str summary.description),
     ("allowAutoUpdate", .bool summary.allowAutoUpdate),
     ("updateIntervalMinutes", ofOption numberU32 summary.updateIntervalMinutes),
     ("active", .bool summary.active),
     ("activeConfigurationGeneration",
       ofOption numberU64 summary.activeConfigurationGeneration),
     ("shareable", .bool summary.shareable),
     ("sourceKind", .str summary.sourceKind.name),
     ("nodeCount", numberU64 summary.nodeCount),
     ("skippedNodeCount", numberU32 summary.skippedNodeCount),
     ("lastSuccessAtMs", ofOption numberU64 summary.lastSuccessAtMs),
     ("traffic", ofOption SubscriptionTraffic.response summary.traffic)]

/-- `RemoteRequestSettingsResponse`. -/
def RemoteRequestSettings.response (request : RemoteRequestSettings) : Json :=
  .obj
    [("timeoutSeconds", numberU16 request.timeoutSeconds),
     ("proxyMode", .str request.proxyMode.name),
     ("verifyTls", .bool request.verifyTls)]

/-- `UpdatePolicySettingsResponse`. -/
def SubscriptionUpdatePolicy.response (policy : SubscriptionUpdatePolicy) : Json :=
  .obj
    [("allowAutoUpdate", .bool policy.allowAutoUpdate),
     ("intervalMinutes", ofOption numberU32 policy.intervalMinutes)]

/-- `SubscriptionSettingsResponse`. -/
def SubscriptionSettings.response (settings : SubscriptionSettings) : Json :=
  .obj
    [("id", .str settings.id),
     ("name", .str settings.name),
     ("description", .str settings.description),
     ("sourceKind", .str settings.sourceKind.name),
     ("urlPreview", ofOption .str settings.urlPreview),
     ("hasCustomUserAgent", .bool settings.hasCustomUserAgent),
     ("remoteRequest", ofOption RemoteRequestSettings.response settings.remoteRequest),
     ("updatePolicy", settings.updatePolicy.response),
     ("shareable", .bool settings.shareable)]

/-- `SubscriptionErrorCode`: the name of each variant. -/
def SubscriptionOperationError.code : SubscriptionOperationError → String
  | .invalidInput => "invalidInput"
  | .busy => "busy"
  | .fetchFailed => "fetchFailed"
  | .parseFailed => "parseFailed"
  | .normalizationFailed => "normalizationFailed"
  | .validationFailed => "validationFailed"
  | .saveFailed => "saveFailed"
  | .stateUnavailable => "stateUnavailable"
  | .notFound => "notFound"
  | .cacheUnavailable => "cacheUnavailable"
  | .identityFailed => "identityFailed"
  | .invalidOptions => "invalidOptions"
  | .unsupportedClashProviders => "unsupportedClashProviders"
  | .proxyUnavailable => "proxyUnavailable"
  | .systemProxyUnavailable => "systemProxyUnavailable"
  | .referenceConflict => "referenceConflict"
  | .notShareable => "notShareable"

/-- The `Error` arm that the responses share. -/
def errorResponse (error : SubscriptionOperationError) : Json :=
  .obj [("status", .str "error"), ("error", .str error.code)]

/-- `ListSubscriptionsResponse`. -/
def listResponse : Except SubscriptionOperationError (List SubscriptionSummary) → Json
  | .ok values => .obj
    [("status", .str "ok"), ("subscriptions", .arr (values.map SubscriptionSummary.response))]
  | .error error => errorResponse error

/-- `ImportSubscriptionResponse`. -/
def importResponse : Except SubscriptionOperationError SubscriptionSummary → Json
  | .ok summary => .obj [("status", .str "ok"), ("subscription", summary.response)]
  | .error error => errorResponse error

/-- `UpdateSubscriptionResponse`, of updates and edits. -/
def updateResponse : Except SubscriptionOperationError (SubscriptionSummary × Bool) → Json
  | .ok (summary, contentChanged) => .obj
    [("status", .str "ok"), ("subscription", summary.response),
     ("contentChanged", .bool contentChanged)]
  | .error error => errorResponse error

/-- `SettingsResponse`. -/
def settingsResponse : Except SubscriptionOperationError SubscriptionSettings → Json
  | .ok settings => .obj [("status", .str "ok"), ("settings", settings.response)]
  | .error error => errorResponse error

/-- The `Ok` arm of `ActivateSubscriptionResponse`. -/
def activatedResponse (outcome operationId : String) (summary : SubscriptionSummary)
    (generation : UInt64) : Json :=
  .obj
    [("status", .str "ok"), ("outcome", .str outcome), ("operationId", .str operationId),
     ("subscription", summary.response),
     ("activeConfigurationGeneration", numberU64 generation)]

/-! ## Saved documents -/

/-- `DocumentApplyError`: the name of each variant. -/
def DocumentApplyError.code : DocumentApplyError → String
  | .stopFailed => "stopFailed"
  | .startFailed => "startFailed"
  | .recoveryRequired => "recoveryRequired"
  | .operationTimedOut => "operationTimedOut"

/-- `DocumentSaveError`: the name of each variant. -/
def DocumentSaveError.code : DocumentSaveError → String
  | .invalidInput => "invalidInput"
  | .notFound => "notFound"
  | .documentUnavailable => "documentUnavailable"
  | .documentConflict => "documentConflict"
  | .contentTooLarge => "contentTooLarge"
  | .formatFailed => "formatFailed"
  | .parseFailed => "parseFailed"
  | .unsupportedNodes => "unsupportedNodes"
  | .unsupportedClashProviders => "unsupportedClashProviders"
  | .normalizationFailed => "normalizationFailed"
  | .validationFailed => "validationFailed"
  | .configurationFailed => "configurationFailed"
  | .saveFailed => "saveFailed"
  | .stateUnavailable => "stateUnavailable"
  | .identityFailed => "identityFailed"
  | .busy => "busy"
  | .recoveryRequired => "recoveryRequired"
  | .operationTimedOut => "operationTimedOut"

/-- `DocumentApplyResponse`. -/
def DocumentApplyResult.response : DocumentApplyResult → Json
  | .notRequired => .obj [("status", .str "notRequired")]
  | .ready operationId generation => .obj
    [("status", .str "ready"), ("operationId", .str operationId),
     ("generation", numberU64 generation)]
  | .failed operationId generation error => .obj
    [("status", .str "failed"), ("operationId", .str operationId),
     ("generation", numberU64 generation), ("error", .str error.code)]

/-- `SaveDocumentResponse`, with the summary of the saved subscription.  An error without an
operation has no member for it. -/
def saveDocumentResponse (summary : SubscriptionSummary) : DocumentSaveResult → Json
  | .ok documentRevision apply => .obj
    [("status", .str "ok"), ("subscription", summary.response),
     ("documentRevision", .str documentRevision), ("apply", apply.response)]
  | .error (some operationId) error => .obj
    [("status", .str "error"), ("operationId", .str operationId), ("error", .str error.code)]
  | .error none error => .obj [("status", .str "error"), ("error", .str error.code)]

end Veyra
