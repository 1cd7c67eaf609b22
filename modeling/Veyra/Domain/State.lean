import Veyra.Lib.Text

/-!
# Veyra.Domain.State

The typed configuration aggregate: `AppState` and everything it holds.
Integers keep the widths of the source, so a value out of range cannot be
built; identifiers are transparent wrappers around strings.
-/

namespace Veyra

/-! ## Constants -/

def currentSchemaVersion : UInt32 := 6
def maxSafeInteger : UInt64 := 9007199254740991
def maxSubscriptionDocumentBytes : Nat := 4 * 1024 * 1024

/-! ## Identifiers -/

structure SubscriptionId where
  val : String
deriving DecidableEq, Repr

structure ProviderId where
  val : String
deriving DecidableEq, Repr

structure NodeId where
  val : String
deriving DecidableEq, Repr

theorem nodeId_val_injective : Function.Injective NodeId.val := fun a b h => by
  cases a
  cases b
  exact congrArg NodeId.mk h

structure PoolId where
  val : String
deriving DecidableEq, Repr

structure RoutePolicyId where
  val : String
deriving DecidableEq, Repr

/-! ## Subscriptions -/

inductive SubscriptionDocumentFormat
  | json
  | yaml
deriving DecidableEq, Repr

structure SubscriptionDocument where
  format : SubscriptionDocumentFormat
  content : String
  localOverride : Bool
deriving DecidableEq, Repr

inductive SubscriptionProxyMode
  | direct
  | system
  | managedCore
deriving DecidableEq, Repr

structure RemoteRequestOptions where
  userAgent : Option String
  timeoutSeconds : UInt16
  proxyMode : SubscriptionProxyMode
  verifyTls : Bool
deriving DecidableEq, Repr

structure SubscriptionUpdatePolicy where
  allowAutoUpdate : Bool
  intervalMinutes : Option UInt32
deriving DecidableEq, Repr

inductive SubscriptionSource
  | remote (url : String)
  | manual
deriving DecidableEq, Repr

structure SubscriptionTraffic where
  upload : Option UInt64
  download : Option UInt64
  total : Option UInt64
  expireAtMs : Option UInt64
deriving DecidableEq, Repr

structure SubscriptionHttpMetadata where
  etag : Option String
  lastModified : Option String
  subscriptionUserinfo : Option SubscriptionTraffic
  contentDisposition : Option String
deriving DecidableEq, Repr

structure Subscription where
  id : SubscriptionId
  name : String
  description : String
  source : SubscriptionSource
  lastSuccessAtMs : Option UInt64
  lastAttemptAtMs : Option UInt64
  httpMetadata : Option SubscriptionHttpMetadata
  remoteRequest : Option RemoteRequestOptions
  updatePolicy : SubscriptionUpdatePolicy
  skippedUnsupportedNodes : UInt32
  document : Option SubscriptionDocument
deriving DecidableEq, Repr

structure Provider where
  id : ProviderId
  subscriptionId : SubscriptionId
  name : String
deriving DecidableEq, Repr

def RemoteRequestOptions.defaultRemote : RemoteRequestOptions :=
  { userAgent := none, timeoutSeconds := 30, proxyMode := .direct, verifyTls := true }

def SubscriptionUpdatePolicy.defaultRemote : SubscriptionUpdatePolicy :=
  { allowAutoUpdate := true, intervalMinutes := none }

def SubscriptionUpdatePolicy.manual : SubscriptionUpdatePolicy :=
  { allowAutoUpdate := false, intervalMinutes := none }

/-! ## Nodes -/

inductive ProxyProtocol
  | socks | http | shadowsocks | vmess | vless | trojan | wireGuard | hysteria
  | hysteria2 | tuic | shadowTls | ssh | naive | anyTls | snell
deriving DecidableEq, Repr

inductive ProtocolOptions
  | socks (version : UInt8) (username password : Option String)
  | http (username password : Option String) (tls : Bool)
  | shadowsocks (method password : String)
  | vmess (uuid : String) (alterId : Option UInt32) (security : Option String)
  | vless (uuid : String) (flow : Option String)
  | trojan (password : String)
  | wireGuard (privateKey peerPublicKey : String) (preSharedKey : Option String)
      (localAddresses : List String) (mtu : Option UInt32) (reserved : Option (UInt8 × UInt8 × UInt8))
  | hysteria (auth : String) (obfs : Option String) (upMbps downMbps : Option UInt32)
  | hysteria2 (password : String) (obfs : Option String) (upMbps downMbps : Option UInt32)
      (disablePathMtuDiscovery : Option Bool)
  | tuic (uuid password : String) (congestionControl udpRelayMode : Option String) (zeroRtt : Bool)
  | shadowTls (version : UInt8) (password : String)
  | ssh (user : String) (password privateKey privateKeyPassphrase hostKey : Option String)
  | naive (username password : String)
  | anyTls (password : String)
  | snell (psk : String) (version : UInt8)
deriving DecidableEq, Repr

inductive Transport
  | tcp
  | websocket (path : String) (host : Option String) (maxEarlyData : Option UInt32)
      (earlyDataHeaderName : Option String)
  | grpc (serviceName : String)
deriving DecidableEq, Repr

structure TlsOptions where
  serverName : Option String
  allowInsecure : Bool
  realityPublicKey : Option String
  realityShortId : Option String
  alpn : List String
  utlsFingerprint : Option String
deriving DecidableEq, Repr

structure ProxyNode where
  id : NodeId
  providerId : ProviderId
  name : String
  protocol : ProxyProtocol
  server : String
  port : UInt16
  options : ProtocolOptions
  transport : Option Transport
  tls : Option TlsOptions
deriving DecidableEq, Repr

/-! ## Pools and routes -/

inductive PoolKind
  | implicitProvider
  | custom
deriving DecidableEq, Repr

structure NodeFilter where
  regions : List String
  protocols : List ProxyProtocol
  includeKeywords : List String
  excludeKeywords : List String
  includeNodeIds : List NodeId
  excludeNodeIds : List NodeId
deriving DecidableEq, Repr

def NodeFilter.default : NodeFilter := ⟨[], [], [], [], [], []⟩

structure PoolSource where
  providerId : ProviderId
  filter : NodeFilter
deriving DecidableEq, Repr

inductive SelectionPolicy
  | manual (selectedNodeId : Option NodeId)
  | urlTest (probeUrl : String) (intervalSecs : UInt64) (toleranceMs : UInt32)
deriving DecidableEq, Repr

structure NodePool where
  id : PoolId
  name : String
  kind : PoolKind
  sources : List PoolSource
  selection : SelectionPolicy
  enabled : Bool
deriving DecidableEq, Repr

inductive NetworkProtocol
  | tcp
  | udp
deriving DecidableEq, Repr

inductive TrafficMatcher
  | domain (values : List String)
  | domainSuffix (values : List String)
  | application (values : List String)
  | ipCidr (values : List String)
  | port (values : List UInt16)
  | protocol (values : List NetworkProtocol)
deriving DecidableEq, Repr

inductive RouteTarget
  | unconfigured
  | pool (id : PoolId)
  | direct
  | block
deriving DecidableEq, Repr

structure RoutePolicy where
  id : RoutePolicyId
  name : String
  enabled : Bool
  priority : Int32
  matcher : TrafficMatcher
  target : RouteTarget
deriving DecidableEq, Repr

/-! ## The aggregate -/

structure AppState where
  schemaVersion : UInt32
  defaultTarget : RouteTarget
  activeSubscriptionId : Option SubscriptionId
  activeConfigurationGeneration : UInt64
  subscriptions : List Subscription
  providers : List Provider
  nodes : List ProxyNode
  pools : List NodePool
  routes : List RoutePolicy
deriving DecidableEq, Repr

def AppState.empty : AppState :=
  { schemaVersion := currentSchemaVersion
    defaultTarget := .unconfigured
    activeSubscriptionId := none
    activeConfigurationGeneration := 0
    subscriptions := []
    providers := []
    nodes := []
    pools := []
    routes := [] }

/-- The providers of a subscription. -/
def AppState.providersOf (s : AppState) (id : SubscriptionId) : List Provider :=
  s.providers.filter (·.subscriptionId = id)

/-! ## The runtime view -/

structure RuntimePool where
  id : PoolId
  members : List NodeId
  selection : SelectionPolicy
deriving DecidableEq, Repr

structure RuntimeIntent where
  nodes : List ProxyNode
  pools : List RuntimePool
  routes : List RoutePolicy
deriving DecidableEq, Repr

end Veyra
