import Veyra.Application.RoutingResults
import Veyra.Frontend.Observability
import Veyra.Frontend.RoutingRequests

/-!
# Veyra.Frontend.RoutingResponses

The decoders of what routing answers, which throw away a whole answer for one field that does not
fit.

`parseProxyRoutingSnapshot_response` says exactly which snapshots are read, and as what.
-/

namespace Veyra.Frontend

open Browser

/-! ## What the pages hold -/

/-- `PoolSnapshot` of the scripts. -/
structure ShownPool where
  id : String
  name : String
  kind : PoolKind
  enabled : Bool
  sources : List ProxyRouting.PoolSourceDto
  selection : Selection
  resolvedNodeIds : List String

/-- `RouteSnapshot` of the scripts. -/
structure ShownRoute where
  id : String
  name : String
  enabled : Bool
  priority : SafeInteger
  matcher : Matcher
  target : ProxyRouting.RouteTargetDto

/-- `ProxyRoutingSnapshot` of the scripts. -/
structure ShownRouting where
  revision : SafeInteger
  desiredGeneration : SafeInteger
  appliedGeneration : Option SafeInteger
  runtimeState : ProxyRouting.RuntimeState
  applyState : ProxyRouting.ApplyState
  activeSubscriptionId : Option String
  appliedSubscriptionId : Option String
  providers : List ProxyRouting.ProviderSnapshot
  nodes : List ProxyRouting.NodeSnapshot
  defaultTarget : ProxyRouting.DefaultTargetDto
  pools : List ShownPool
  routes : List ShownRoute
  selectors : List ProxyRouting.SelectorSnapshot

/-! ## The decoders -/

/-- A safe integer with its bound. -/
def safeNumber : Reader SafeInteger := fun value =>
  (safeInteger value).bind fun n => if h : n ≤ Browser.maxSafeInteger then some ⟨n, h⟩ else none

def texts : Reader (List String) := arrayOf nonEmptyText

/-- The discriminant of a union. -/
def discriminant (key : String) : Reader String
  | .obj ms => (ms.lookup key).bind Json.asStr?
  | _ => none

def protocolNames : List (String × ProxyProtocol) :=
  RoutingWire.protocols.map fun p => (RoutingWire.protocolName p, p)

def parseFilter : Reader ProxyRouting.NodeFilterDto := fun value => do
  let ms ← exactly ["regions", "protocols", "includeKeywords", "excludeKeywords", "includeNodeIds",
    "excludeNodeIds"] value
  let protocols ← member ms "protocols" (arrayOf (oneOf protocolNames))
  let regions ← member ms "regions" texts
  let includeKeywords ← member ms "includeKeywords" texts
  let excludeKeywords ← member ms "excludeKeywords" texts
  let includeNodeIds ← member ms "includeNodeIds" texts
  let excludeNodeIds ← member ms "excludeNodeIds" texts
  some { regions, protocols, includeKeywords, excludeKeywords, includeNodeIds, excludeNodeIds }

def parseSource : Reader ProxyRouting.PoolSourceDto := fun value => do
  let ms ← exactly ["providerId", "filter"] value
  let providerId ← member ms "providerId" nonEmptyText
  let filter ← member ms "filter" parseFilter
  some { providerId, filter }

def parseSelection : Reader Selection := fun value => do
  match ← discriminant "type" value with
  | "manual" => do
    let ms ← exactly ["type", "selectedNodeId"] value
    let selectedNodeId ← member ms "selectedNodeId" (Browser.nullable nonEmptyText)
    some (.manual selectedNodeId)
  | "urlTest" => do
    let ms ← exactly ["type", "probeUrl", "intervalSeconds", "toleranceMs"] value
    let probeUrl ← member ms "probeUrl" nonEmptyText
    let intervalSeconds ← member ms "intervalSeconds" safeNumber
    guard (0 < intervalSeconds.val)
    let toleranceMs ← member ms "toleranceMs" safeNumber
    some (.urlTest probeUrl intervalSeconds toleranceMs)
  | _ => none

/-- A port of a matcher. -/
def parsePort : Reader SafeInteger := fun value => do
  let port ← safeNumber value
  guard (1 ≤ port.val ∧ port.val ≤ 65535)
  some port

def parseMatcher : Reader Matcher := fun value => do
  let ms ← exactly ["type", "values"] value
  match ← discriminant "type" value with
  | "domain" => (member ms "values" texts).map .domain
  | "domainSuffix" => (member ms "values" texts).map .domainSuffix
  | "application" => (member ms "values" texts).map .application
  | "ipCidr" => (member ms "values" texts).map .ipCidr
  | "port" => (member ms "values" (arrayOf parsePort)).map .port
  | "protocol" =>
    (member ms "values" (arrayOf (oneOf [("tcp", .tcp), ("udp", .udp)]))).map .protocol
  | _ => none

/-- The target of a pool. -/
def parsePoolTarget : Reader String := fun value => do
  let ms ← exactly ["type", "poolId"] value
  member ms "poolId" nonEmptyText

/-- `parseTarget(value, true)`. -/
def parseDefaultTarget : Reader ProxyRouting.DefaultTargetDto := fun value => do
  match ← discriminant "type" value with
  | "followActiveSubscription" =>
    (exactly ["type"] value).map fun _ => .followActiveSubscription
  | "direct" => (exactly ["type"] value).map fun _ => .direct
  | "block" => (exactly ["type"] value).map fun _ => .block
  | "pool" => (parsePoolTarget value).map .pool
  | _ => none

/-- `parseTarget(value, false)`. -/
def parseRouteTarget : Reader ProxyRouting.RouteTargetDto := fun value => do
  match ← discriminant "type" value with
  | "direct" => (exactly ["type"] value).map fun _ => .direct
  | "block" => (exactly ["type"] value).map fun _ => .block
  | "pool" => (parsePoolTarget value).map .pool
  | _ => none

def applyErrors : List (String × ProxyRouting.ApplyFailure) :=
  [("configurationFailed", .configurationFailed), ("stateChanged", .stateChanged),
   ("stopFailed", .stopFailed), ("startFailed", .startFailed),
   ("recoveryRequired", .recoveryRequired)]

/-- An object with a discriminant and an operation. -/
def parseOperation : Reader String := fun value => do
  let ms ← exactly ["type", "operationId"] value
  member ms "operationId" nonEmptyText

def parseApplyState : Reader ProxyRouting.ApplyState := fun value => do
  match ← discriminant "type" value with
  | "applied" => (exactly ["type"] value).map fun _ => .applied
  | "savedPendingApply" => (exactly ["type"] value).map fun _ => .savedPendingApply
  | "applying" => (parseOperation value).map .applying
  | "applyUnknown" => (parseOperation value).map .applyUnknown
  | "savedApplyFailed" => do
    let ms ← exactly ["type", "operationId", "error"] value
    let operationId ← member ms "operationId" nonEmptyText
    let error ← member ms "error" (oneOf applyErrors)
    some (.savedApplyFailed operationId error)
  | _ => none

def parseProvider : Reader ProxyRouting.ProviderSnapshot := fun value => do
  let ms ← exactly ["id", "subscriptionId", "name"] value
  let id ← member ms "id" nonEmptyText
  let subscriptionId ← member ms "subscriptionId" nonEmptyText
  let name ← member ms "name" nonEmptyText
  some { id, subscriptionId, name }

def parseNode : Reader ProxyRouting.NodeSnapshot := fun value => do
  let ms ← exactly ["id", "providerId", "name", "protocol"] value
  let id ← member ms "id" nonEmptyText
  let providerId ← member ms "providerId" nonEmptyText
  let name ← member ms "name" nonEmptyText
  let protocol ← member ms "protocol" (oneOf protocolNames)
  some { id, providerId, name, protocol }

def poolKinds : List (String × PoolKind) :=
  [("implicitProvider", .implicitProvider), ("custom", .custom)]

def parsePool : Reader ShownPool := fun value => do
  let ms ← exactly ["id", "name", "kind", "enabled", "sources", "selection", "resolvedNodeIds"] value
  let id ← member ms "id" nonEmptyText
  let name ← member ms "name" nonEmptyText
  let kind ← member ms "kind" (oneOf poolKinds)
  let enabled ← member ms "enabled" boolean
  let sources ← member ms "sources" (arrayOf parseSource)
  let selection ← member ms "selection" parseSelection
  let resolvedNodeIds ← member ms "resolvedNodeIds" texts
  some { id, name, kind, enabled, sources, selection, resolvedNodeIds }

def parseRoute : Reader ShownRoute := fun value => do
  let ms ← exactly ["id", "name", "enabled", "priority", "matcher", "target"] value
  let id ← member ms "id" nonEmptyText
  let name ← member ms "name" nonEmptyText
  let enabled ← member ms "enabled" boolean
  let priority ← member ms "priority" safeNumber
  let matcher ← member ms "matcher" parseMatcher
  let target ← member ms "target" parseRouteTarget
  some { id, name, enabled, priority, matcher, target }

def selectorStates : List (String × ProxyRouting.SelectorState) :=
  [("inSync", .inSync), ("savedOnly", .savedOnly), ("notApplied", .notApplied),
   ("unknown", .unknown)]

def parseSelector : Reader ProxyRouting.SelectorSnapshot := fun value => do
  let ms ← exactly ["poolId", "desiredNodeId", "runtimeNodeId", "state"] value
  let poolId ← member ms "poolId" nonEmptyText
  let desiredNodeId ← member ms "desiredNodeId" (Browser.nullable nonEmptyText)
  let runtimeNodeId ← member ms "runtimeNodeId" (Browser.nullable nonEmptyText)
  let state ← member ms "state" (oneOf selectorStates)
  some { poolId, desiredNodeId, runtimeNodeId, state }

def runtimeStates : List (String × ProxyRouting.RuntimeState) :=
  [("stopped", .stopped), ("ready", .ready), ("transitioning", .transitioning),
   ("recoveryRequired", .recoveryRequired)]

def routingKeys : List String :=
  ["revision", "desiredGeneration", "appliedGeneration", "runtimeState", "applyState",
   "activeSubscriptionId", "appliedSubscriptionId", "providers", "nodes", "defaultTarget", "pools",
   "routes", "selectors"]

def parseProxyRoutingSnapshot : Reader ShownRouting := fun value => do
  let ms ← exactly routingKeys value
  let revision ← member ms "revision" safeNumber
  let desiredGeneration ← member ms "desiredGeneration" safeNumber
  let appliedGeneration ← member ms "appliedGeneration" (Browser.nullable safeNumber)
  let runtimeState ← member ms "runtimeState" (oneOf runtimeStates)
  let activeSubscriptionId ← member ms "activeSubscriptionId" (Browser.nullable nonEmptyText)
  let appliedSubscriptionId ← member ms "appliedSubscriptionId" (Browser.nullable nonEmptyText)
  let applyState ← member ms "applyState" parseApplyState
  let providers ← member ms "providers" (arrayOf parseProvider)
  let nodes ← member ms "nodes" (arrayOf parseNode)
  let defaultTarget ← member ms "defaultTarget" parseDefaultTarget
  let pools ← member ms "pools" (arrayOf parsePool)
  let routes ← member ms "routes" (arrayOf parseRoute)
  let selectors ← member ms "selectors" (arrayOf parseSelector)
  some { revision, desiredGeneration, appliedGeneration, runtimeState, applyState
         activeSubscriptionId, appliedSubscriptionId, providers, nodes, defaultTarget, pools
         routes, selectors }

/-! ### Results -/

def savedOnlyReasons : List (String × ManualSelectionSavedOnlyReason) :=
  [("runtimeStopped", .runtimeStopped), ("runtimeNotReady", .runtimeNotReady),
   ("notInAppliedArtifact", .notInAppliedArtifact), ("dispatchUnavailable", .dispatchUnavailable)]

def unknownReasons : List (String × ProxyRouting.SelectorApplyUnknownReason) :=
  [("readBackUnavailable", .runtime .readBackUnavailable),
   ("unknownRuntimeNode", .runtime .unknownRuntimeNode),
   ("instanceChanged", .runtime .instanceChanged), ("superseded", .superseded)]

def parseOutcome : Reader ProxyRouting.Outcome := fun value => do
  match ← discriminant "type" value with
  | "saved" => (exactly ["type"] value).map fun _ => .saved
  | "selectorApplied" => do
    let ms ← exactly ["type", "poolId", "nodeId"] value
    let poolId ← member ms "poolId" nonEmptyText
    let nodeId ← member ms "nodeId" nonEmptyText
    some (.selectorApplied poolId nodeId)
  | "selectorNotApplied" => do
    let ms ← exactly ["type", "poolId", "nodeId", "runtimeNodeId"] value
    let poolId ← member ms "poolId" nonEmptyText
    let nodeId ← member ms "nodeId" nonEmptyText
    let runtimeNodeId ← member ms "runtimeNodeId" nonEmptyText
    some (.selectorNotApplied poolId nodeId runtimeNodeId)
  | "selectorSavedOnly" => do
    let ms ← exactly ["type", "poolId", "nodeId", "reason"] value
    let poolId ← member ms "poolId" nonEmptyText
    let nodeId ← member ms "nodeId" nonEmptyText
    let reason ← member ms "reason" (oneOf savedOnlyReasons)
    some (.selectorSavedOnly poolId nodeId reason)
  | "selectorApplyUnknown" => do
    let ms ← exactly ["type", "poolId", "nodeId", "reason"] value
    let poolId ← member ms "poolId" nonEmptyText
    let nodeId ← member ms "nodeId" nonEmptyText
    let reason ← member ms "reason" (oneOf unknownReasons)
    some (.selectorApplyUnknown poolId nodeId reason)
  | "applyStarted" => (parseOperation value).map .applyStarted
  | "applyCompleted" => (parseOperation value).map .applyCompleted
  | _ => none

def queryErrors : List (String × ProxyRouting.QueryError) :=
  [("busy", .busy), ("stateUnavailable", .stateUnavailable),
   ("runtimeUnavailable", .runtimeUnavailable)]

def mutationErrors : List (String × ProxyRouting.MutationError) :=
  [("invalidInput", .invalidInput), ("busy", .busy), ("conflict", .conflict),
   ("notFound", .notFound), ("referenceConflict", .referenceConflict),
   ("validationFailed", .validationFailed), ("saveFailed", .saveFailed),
   ("stateUnavailable", .stateUnavailable), ("runtimeUnavailable", .runtimeUnavailable),
   ("configurationFailed", .configurationFailed), ("stateChanged", .stateChanged),
   ("stopFailed", .stopFailed), ("startFailed", .startFailed),
   ("recoveryRequired", .recoveryRequired)]

/-- `parseSnapshotResult`. -/
def parseSnapshotResult : Reader (Except ProxyRouting.QueryError ShownRouting) := fun value => do
  match ← discriminant "status" value with
  | "ok" => do
    let ms ← exactly ["status", "snapshot"] value
    (member ms "snapshot" parseProxyRoutingSnapshot).map .ok
  | "error" => do
    let ms ← exactly ["status", "error"] value
    (member ms "error" (oneOf queryErrors)).map .error
  | _ => none

/-- `parseMutationResult`. -/
def parseMutationResult :
    Reader (Except (ProxyRouting.MutationError × Option SafeInteger)
      (ProxyRouting.Outcome × ShownRouting)) := fun value => do
  match ← discriminant "status" value with
  | "ok" => do
    let ms ← exactly ["status", "outcome", "snapshot"] value
    let outcome ← member ms "outcome" parseOutcome
    let snapshot ← member ms "snapshot" parseProxyRoutingSnapshot
    some (.ok (outcome, snapshot))
  | "error" => do
    let ms ← exactly ["status", "error", "revision"] value
    let error ← member ms "error" (oneOf mutationErrors)
    let revision ← member ms "revision" (Browser.nullable safeNumber)
    some (.error (error, revision))
  | _ => none

end Veyra.Frontend
