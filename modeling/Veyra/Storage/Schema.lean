import Veyra.Domain.State
import Veyra.Lib.Codec

/-!
# Veyra.Storage.Schema

The stored form of `AppState` (`StoredStateV6` and the derived serializers of
the domain types): one codec per type, field by field with the attributes of
the source.  A plain `Option` field is `RecordCodec.optional`; a field with a
`skip_serializing_if` and a `default` is `RecordCodec.defaulted`.
-/

namespace Veyra.Schema

open Codec RecordCodec

/-! ## Identifiers -/

def subscriptionId : Codec SubscriptionId := string.imap .mk (·.val) fun _ => rfl
def providerId : Codec ProviderId := string.imap .mk (·.val) fun _ => rfl
def nodeId : Codec NodeId := string.imap .mk (·.val) fun _ => rfl
def poolId : Codec PoolId := string.imap .mk (·.val) fun _ => rfl
def routePolicyId : Codec RoutePolicyId := string.imap .mk (·.val) fun _ => rfl

theorem subscriptionId_nonNull : subscriptionId.NonNull := string_nonNull.imap _ _ _
theorem nodeId_nonNull : nodeId.NonNull := string_nonNull.imap _ _ _

/-- An optional string field. -/
def optString (name : String) : RecordCodec (Option String) := optional name string string_nonNull

/-- An optional field that is left out when absent. -/
def skipNone {α : Type} (name : String) (c : Codec α) (h : c.NonNull) : RecordCodec (Option α) :=
  defaulted name (c.option h) none Option.isNone (by simp)

/-! ## Subscriptions -/

def documentFormat : Codec SubscriptionDocumentFormat :=
  enumeration
    (fun | .json => "json" | .yaml => "yaml")
    (fun | "json" => some .json | "yaml" => some .yaml | _ => none)
    (by rintro (_ | _) <;> rfl)

def subscriptionDocument : RecordCodec SubscriptionDocument :=
  RecordCodec.imap
    ((required "format" documentFormat).and <|
      (required "content" string).and <|
      defaulted "local_override" bool false (!·) (by simp))
    (fun (format, content, localOverride) => { format, content, localOverride })
    (fun d => (d.format, d.content, d.localOverride)) (fun _ => rfl)

def proxyMode : Codec SubscriptionProxyMode :=
  enumeration
    (fun | .direct => "direct" | .system => "system" | .managedCore => "managed_core")
    (fun | "direct" => some .direct | "system" => some .system
         | "managed_core" => some .managedCore | _ => none)
    (by rintro (_ | _ | _) <;> rfl)

def remoteRequestOptions : RecordCodec RemoteRequestOptions :=
  RecordCodec.imap
    ((optString "user_agent").and <|
      (required "timeout_seconds" u16).and <|
      (required "proxy_mode" proxyMode).and <|
      required "verify_tls" bool)
    (fun (userAgent, timeoutSeconds, proxyMode, verifyTls) =>
      { userAgent, timeoutSeconds, proxyMode, verifyTls })
    (fun r => (r.userAgent, r.timeoutSeconds, r.proxyMode, r.verifyTls)) (fun _ => rfl)

def updatePolicy : RecordCodec SubscriptionUpdatePolicy :=
  RecordCodec.imap
    ((required "allow_auto_update" bool).and <| optional "interval_minutes" u32 u32_nonNull)
    (fun (allowAutoUpdate, intervalMinutes) => { allowAutoUpdate, intervalMinutes })
    (fun p => (p.allowAutoUpdate, p.intervalMinutes)) (fun _ => rfl)

def subscriptionSource : Codec SubscriptionSource :=
  tagged "kind"
    (fun | .remote _ => "remote" | .manual => "manual")
    (fun | .remote url => (required "url" string).write url | .manual => [])
    (fun tag source => match tag with
      | "remote" => ((required "url" string).read source).map .remote
      | "manual" => (RecordCodec.unit.read source).map fun _ => .manual
      | _ => none)
    (by
      rintro (url | _) ms h
      · simp only [read_members (by decide) h, Option.map_some]
      · rfl)

def subscriptionTraffic : RecordCodec SubscriptionTraffic :=
  RecordCodec.imap
    ((optional "upload" u64 u64_nonNull).and <|
      (optional "download" u64 u64_nonNull).and <|
      (optional "total" u64 u64_nonNull).and <|
      optional "expire_at_ms" u64 u64_nonNull)
    (fun (upload, download, total, expireAtMs) => { upload, download, total, expireAtMs })
    (fun t => (t.upload, t.download, t.total, t.expireAtMs)) (fun _ => rfl)

def httpMetadata : RecordCodec SubscriptionHttpMetadata :=
  RecordCodec.imap
    ((optString "etag").and <|
      (optString "last_modified").and <|
      (optional "subscription_userinfo" subscriptionTraffic.codec (codec_nonNull _)).and <|
      optString "content_disposition")
    (fun (etag, lastModified, subscriptionUserinfo, contentDisposition) =>
      { etag, lastModified, subscriptionUserinfo, contentDisposition })
    (fun m => (m.etag, m.lastModified, m.subscriptionUserinfo, m.contentDisposition))
    (fun _ => rfl)

def subscription : RecordCodec Subscription :=
  RecordCodec.imap
    ((required "id" subscriptionId).and <|
      (required "name" string).and <|
      (required "description" string).and <|
      (required "source" subscriptionSource).and <|
      (optional "last_success_at_ms" u64 u64_nonNull).and <|
      (optional "last_attempt_at_ms" u64 u64_nonNull).and <|
      (optional "http_metadata" httpMetadata.codec (codec_nonNull _)).and <|
      (optional "remote_request" remoteRequestOptions.codec (codec_nonNull _)).and <|
      (required "update_policy" updatePolicy.codec).and <|
      (defaulted "skipped_unsupported_nodes" u32 0 (· == 0) (by simp)).and <|
      skipNone "document" subscriptionDocument.codec (codec_nonNull _))
    (fun (id, name, description, source, lastSuccessAtMs, lastAttemptAtMs, httpMetadata,
        remoteRequest, updatePolicy, skippedUnsupportedNodes, document) =>
      { id, name, description, source, lastSuccessAtMs, lastAttemptAtMs, httpMetadata
        remoteRequest, updatePolicy, skippedUnsupportedNodes, document })
    (fun s => (s.id, s.name, s.description, s.source, s.lastSuccessAtMs, s.lastAttemptAtMs,
      s.httpMetadata, s.remoteRequest, s.updatePolicy, s.skippedUnsupportedNodes, s.document))
    (fun _ => rfl)

def provider : RecordCodec Provider :=
  RecordCodec.imap
    ((required "id" providerId).and <|
      (required "subscription_id" subscriptionId).and <|
      required "name" string)
    (fun (id, subscriptionId, name) => { id, subscriptionId, name })
    (fun p => (p.id, p.subscriptionId, p.name)) (fun _ => rfl)

/-! ## Nodes -/

def proxyProtocolName : ProxyProtocol → String
  | .socks => "socks"
  | .http => "http"
  | .shadowsocks => "shadowsocks"
  | .vmess => "vmess"
  | .vless => "vless"
  | .trojan => "trojan"
  | .wireGuard => "wire_guard"
  | .hysteria => "hysteria"
  | .hysteria2 => "hysteria2"
  | .tuic => "tuic"
  | .shadowTls => "shadow_tls"
  | .ssh => "ssh"
  | .naive => "naive"
  | .anyTls => "any_tls"
  | .snell => "snell"

def parseProxyProtocol : String → Option ProxyProtocol
  | "socks" => some .socks
  | "http" => some .http
  | "shadowsocks" => some .shadowsocks
  | "vmess" => some .vmess
  | "vless" => some .vless
  | "trojan" => some .trojan
  | "wire_guard" => some .wireGuard
  | "hysteria" => some .hysteria
  | "hysteria2" => some .hysteria2
  | "tuic" => some .tuic
  | "shadow_tls" => some .shadowTls
  | "ssh" => some .ssh
  | "naive" => some .naive
  | "any_tls" => some .anyTls
  | "snell" => some .snell
  | _ => none

def proxyProtocol : Codec ProxyProtocol :=
  enumeration proxyProtocolName parseProxyProtocol (fun p => by cases p <;> rfl)

/-! ### Protocol options

The variant of the options carries the same name as its protocol. -/

def socksFields : RecordCodec (UInt8 × Option String × Option String) :=
  (required "version" u8).and <| (optString "username").and <| optString "password"

def httpFields : RecordCodec (Option String × Option String × Bool) :=
  (optString "username").and <| (optString "password").and <| required "tls" bool

def shadowsocksFields : RecordCodec (String × String) :=
  (required "method" string).and <| required "password" string

def vmessFields : RecordCodec (String × Option UInt32 × Option String) :=
  (required "uuid" string).and <| (optional "alter_id" u32 u32_nonNull).and <|
    optString "security"

def vlessFields : RecordCodec (String × Option String) :=
  (required "uuid" string).and <| optString "flow"

def passwordField : RecordCodec String := required "password" string

def wireGuardFields : RecordCodec (String × String × Option String × List String × Option UInt32 ×
    Option (UInt8 × UInt8 × UInt8)) :=
  (required "private_key" string).and <| (required "peer_public_key" string).and <|
    (optString "pre_shared_key").and <| (required "local_addresses" (list string)).and <|
    (optional "mtu" u32 u32_nonNull).and <| optional "reserved" (triple u8) (triple_nonNull u8)

def hysteriaFields : RecordCodec (String × Option String × Option UInt32 × Option UInt32) :=
  (required "auth" string).and <| (optString "obfs").and <|
    (optional "up_mbps" u32 u32_nonNull).and <| optional "down_mbps" u32 u32_nonNull

def hysteria2Fields : RecordCodec (String × Option String × Option UInt32 × Option UInt32 ×
    Option Bool) :=
  (required "password" string).and <| (optString "obfs").and <|
    (skipNone "up_mbps" u32 u32_nonNull).and <| (skipNone "down_mbps" u32 u32_nonNull).and <|
    skipNone "disable_path_mtu_discovery" bool bool_nonNull

def tuicFields : RecordCodec (String × String × Option String × Option String × Bool) :=
  (required "uuid" string).and <| (required "password" string).and <|
    (optString "congestion_control").and <| (optString "udp_relay_mode").and <|
    required "zero_rtt" bool

def shadowTlsFields : RecordCodec (UInt8 × String) :=
  (required "version" u8).and <| required "password" string

def sshFields : RecordCodec (String × Option String × Option String × Option String ×
    Option String) :=
  (required "user" string).and <| (optString "password").and <| (optString "private_key").and <|
    (optString "private_key_passphrase").and <| optString "host_key"

def naiveFields : RecordCodec (String × String) :=
  (required "username" string).and <| required "password" string

def snellFields : RecordCodec (String × UInt8) :=
  (required "psk" string).and <| required "version" u8

/-- The protocol whose name tags the options. -/
def optionsKind : ProtocolOptions → ProxyProtocol
  | .socks .. => .socks
  | .http .. => .http
  | .shadowsocks .. => .shadowsocks
  | .vmess .. => .vmess
  | .vless .. => .vless
  | .trojan .. => .trojan
  | .wireGuard .. => .wireGuard
  | .hysteria .. => .hysteria
  | .hysteria2 .. => .hysteria2
  | .tuic .. => .tuic
  | .shadowTls .. => .shadowTls
  | .ssh .. => .ssh
  | .naive .. => .naive
  | .anyTls .. => .anyTls
  | .snell .. => .snell

def writeOptions : ProtocolOptions → List (String × Json)
  | .socks version username password => socksFields.write (version, username, password)
  | .http username password tls => httpFields.write (username, password, tls)
  | .shadowsocks method password => shadowsocksFields.write (method, password)
  | .vmess uuid alterId security => vmessFields.write (uuid, alterId, security)
  | .vless uuid flow => vlessFields.write (uuid, flow)
  | .trojan password => passwordField.write password
  | .wireGuard privateKey peerPublicKey preSharedKey localAddresses mtu reserved =>
    wireGuardFields.write (privateKey, peerPublicKey, preSharedKey, localAddresses, mtu, reserved)
  | .hysteria auth obfs upMbps downMbps => hysteriaFields.write (auth, obfs, upMbps, downMbps)
  | .hysteria2 password obfs upMbps downMbps disablePathMtuDiscovery =>
    hysteria2Fields.write (password, obfs, upMbps, downMbps, disablePathMtuDiscovery)
  | .tuic uuid password congestionControl udpRelayMode zeroRtt =>
    tuicFields.write (uuid, password, congestionControl, udpRelayMode, zeroRtt)
  | .shadowTls version password => shadowTlsFields.write (version, password)
  | .ssh user password privateKey privateKeyPassphrase hostKey =>
    sshFields.write (user, password, privateKey, privateKeyPassphrase, hostKey)
  | .naive username password => naiveFields.write (username, password)
  | .anyTls password => passwordField.write password
  | .snell psk version => snellFields.write (psk, version)

def readOptions (source : Source) : ProxyProtocol → Option ProtocolOptions
  | .socks => (socksFields.read source).map fun (v, u, p) => .socks v u p
  | .http => (httpFields.read source).map fun (u, p, t) => .http u p t
  | .shadowsocks => (shadowsocksFields.read source).map fun (m, p) => .shadowsocks m p
  | .vmess => (vmessFields.read source).map fun (u, a, s) => .vmess u a s
  | .vless => (vlessFields.read source).map fun (u, f) => .vless u f
  | .trojan => (passwordField.read source).map .trojan
  | .wireGuard => (wireGuardFields.read source).map fun (k, p, s, l, m, r) =>
      .wireGuard k p s l m r
  | .hysteria => (hysteriaFields.read source).map fun (a, o, u, d) => .hysteria a o u d
  | .hysteria2 => (hysteria2Fields.read source).map fun (p, o, u, d, m) => .hysteria2 p o u d m
  | .tuic => (tuicFields.read source).map fun (u, p, c, r, z) => .tuic u p c r z
  | .shadowTls => (shadowTlsFields.read source).map fun (v, p) => .shadowTls v p
  | .ssh => (sshFields.read source).map fun (u, p, k, h, o) => .ssh u p k h o
  | .naive => (naiveFields.read source).map fun (u, p) => .naive u p
  | .anyTls => (passwordField.read source).map .anyTls
  | .snell => (snellFields.read source).map fun (p, v) => .snell p v

def protocolOptions : Codec ProtocolOptions :=
  tagged "kind" (proxyProtocolName ∘ optionsKind) writeOptions
    (fun tag source => (parseProxyProtocol tag).bind (readOptions source))
    (by
      intro o ms h
      have hname : parseProxyProtocol (proxyProtocolName (optionsKind o)) = some (optionsKind o) := by
        cases o <;> rfl
      simp only [Function.comp, hname, Option.bind_some]
      cases o <;>
        simp only [writeOptions] at h <;>
        simp only [optionsKind, readOptions, read_members (by decide) h, Option.map_some])

/-! ### Transport and TLS -/

def websocketFields : RecordCodec (String × Option String × Option UInt32 × Option String) :=
  (required "path" string).and <| (optString "host").and <|
    (skipNone "max_early_data" u32 u32_nonNull).and <|
    skipNone "early_data_header_name" string string_nonNull

def grpcFields : RecordCodec String := required "service_name" string

/-- Externally tagged: the unit variant is its name, the others an object with one member. -/
def encodeTransport : Transport → Json
  | .tcp => .str "tcp"
  | .websocket path host maxEarlyData headerName =>
    .obj [("websocket", websocketFields.codec.encode (path, host, maxEarlyData, headerName))]
  | .grpc serviceName => .obj [("grpc", grpcFields.codec.encode serviceName)]

def decodeTransport : Json → Option Transport
  | .str "tcp" | .obj [("tcp", .null)] => some .tcp
  | .obj [("websocket", .obj ms)] =>
    (websocketFields.read (.members ms)).map fun (p, h, m, n) => .websocket p h m n
  | .obj [("grpc", .obj ms)] => (grpcFields.read (.members ms)).map .grpc
  | _ => none

def transport : Codec Transport where
  encode := encodeTransport
  decode := decodeTransport
  decode_encode t := by
    cases t with
    | tcp => rfl
    | websocket path host maxEarlyData headerName =>
      have h := websocketFields.codec.decode_encode (path, host, maxEarlyData, headerName)
      simp only [RecordCodec.codec] at h
      simp only [encodeTransport, RecordCodec.codec, Json.object] at h ⊢
      simp [decodeTransport, h]
    | grpc serviceName =>
      have h := grpcFields.codec.decode_encode serviceName
      simp only [RecordCodec.codec] at h
      simp only [encodeTransport, RecordCodec.codec, Json.object] at h ⊢
      simp [decodeTransport, h]

theorem transport_nonNull : transport.NonNull := fun t => by cases t <;> exact Json.noConfusion

def tlsOptions : RecordCodec TlsOptions :=
  RecordCodec.imap
    ((optString "server_name").and <|
      (required "allow_insecure" bool).and <|
      (optString "reality_public_key").and <|
      (optString "reality_short_id").and <|
      (defaulted "alpn" (list string) [] List.isEmpty (by simp)).and <|
      skipNone "utls_fingerprint" string string_nonNull)
    (fun (serverName, allowInsecure, realityPublicKey, realityShortId, alpn, utlsFingerprint) =>
      { serverName, allowInsecure, realityPublicKey, realityShortId, alpn, utlsFingerprint })
    (fun t => (t.serverName, t.allowInsecure, t.realityPublicKey, t.realityShortId, t.alpn,
      t.utlsFingerprint)) (fun _ => rfl)

def proxyNode : RecordCodec ProxyNode :=
  RecordCodec.imap
    ((required "id" nodeId).and <|
      (required "provider_id" providerId).and <|
      (required "name" string).and <|
      (required "protocol" proxyProtocol).and <|
      (required "server" string).and <|
      (required "port" u16).and <|
      (required "options" protocolOptions).and <|
      (optional "transport" transport transport_nonNull).and <|
      optional "tls" tlsOptions.codec (codec_nonNull _))
    (fun (id, providerId, name, protocol, server, port, options, transport, tls) =>
      { id, providerId, name, protocol, server, port, options, transport, tls })
    (fun n => (n.id, n.providerId, n.name, n.protocol, n.server, n.port, n.options, n.transport,
      n.tls)) (fun _ => rfl)

/-! ## Pools and routes -/

def poolKind : Codec PoolKind :=
  enumeration
    (fun | .implicitProvider => "implicit_provider" | .custom => "custom")
    (fun | "implicit_provider" => some .implicitProvider | "custom" => some .custom | _ => none)
    (by rintro (_ | _) <;> rfl)

def nodeFilter : RecordCodec NodeFilter :=
  RecordCodec.imap
    ((required "regions" (list string)).and <|
      (required "protocols" (list proxyProtocol)).and <|
      (required "include_keywords" (list string)).and <|
      (required "exclude_keywords" (list string)).and <|
      (required "include_node_ids" (list nodeId)).and <|
      required "exclude_node_ids" (list nodeId))
    (fun (regions, protocols, includeKeywords, excludeKeywords, includeNodeIds, excludeNodeIds) =>
      { regions, protocols, includeKeywords, excludeKeywords, includeNodeIds, excludeNodeIds })
    (fun f => (f.regions, f.protocols, f.includeKeywords, f.excludeKeywords, f.includeNodeIds,
      f.excludeNodeIds)) (fun _ => rfl)

def poolSource : RecordCodec PoolSource :=
  RecordCodec.imap
    ((required "provider_id" providerId).and <| required "filter" nodeFilter.codec)
    (fun (providerId, filter) => { providerId, filter })
    (fun s => (s.providerId, s.filter)) (fun _ => rfl)

def manualFields : RecordCodec (Option NodeId) :=
  optional "selected_node_id" nodeId nodeId_nonNull

def urlTestFields : RecordCodec (String × UInt64 × UInt32) :=
  (required "probe_url" string).and <| (required "interval_secs" u64).and <|
    required "tolerance_ms" u32

def selectionPolicy : Codec SelectionPolicy :=
  tagged "kind"
    (fun | .manual _ => "manual" | .urlTest .. => "url_test")
    (fun | .manual id => manualFields.write id | .urlTest p i t => urlTestFields.write (p, i, t))
    (fun tag source => match tag with
      | "manual" => (manualFields.read source).map .manual
      | "url_test" => (urlTestFields.read source).map fun (p, i, t) => .urlTest p i t
      | _ => none)
    (by rintro (_ | _) ms h <;> simp only [read_members (by decide) h, Option.map_some])

def nodePool : RecordCodec NodePool :=
  RecordCodec.imap
    ((required "id" poolId).and <|
      (required "name" string).and <|
      (required "kind" poolKind).and <|
      (required "sources" (list poolSource.codec)).and <|
      (required "selection" selectionPolicy).and <|
      required "enabled" bool)
    (fun (id, name, kind, sources, selection, enabled) =>
      { id, name, kind, sources, selection, enabled })
    (fun p => (p.id, p.name, p.kind, p.sources, p.selection, p.enabled)) (fun _ => rfl)

def networkProtocol : Codec NetworkProtocol :=
  enumeration
    (fun | .tcp => "tcp" | .udp => "udp")
    (fun | "tcp" => some .tcp | "udp" => some .udp | _ => none)
    (by rintro (_ | _) <;> rfl)

def trafficMatcher : Codec TrafficMatcher :=
  adjacent "kind" "values"
    (fun
      | .domain _ => "domain"
      | .domainSuffix _ => "domain_suffix"
      | .application _ => "application"
      | .ipCidr _ => "ip_cidr"
      | .port _ => "port"
      | .protocol _ => "protocol")
    (fun
      | .domain vs | .domainSuffix vs | .application vs | .ipCidr vs =>
        some ((list string).encode vs)
      | .port vs => some ((list u16).encode vs)
      | .protocol vs => some ((list networkProtocol).encode vs))
    (fun tag content => content.bind fun v => match tag with
      | "domain" => ((list string).decode v).map .domain
      | "domain_suffix" => ((list string).decode v).map .domainSuffix
      | "application" => ((list string).decode v).map .application
      | "ip_cidr" => ((list string).decode v).map .ipCidr
      | "port" => ((list u16).decode v).map .port
      | "protocol" => ((list networkProtocol).decode v).map .protocol
      | _ => none)
    (by decide) (by rintro (_ | _ | _ | _ | _ | _) <;> simp)

/-- A unit variant takes no content or a unit. -/
def unitContent : Option Json → Bool
  | none | some .null => true
  | some _ => false

def routeTarget : Codec RouteTarget :=
  adjacent "kind" "pool_id"
    (fun
      | .unconfigured => "unconfigured"
      | .pool _ => "pool"
      | .direct => "direct"
      | .block => "block")
    (fun | .pool id => some (poolId.encode id) | _ => none)
    (fun tag content => match tag with
      | "unconfigured" => if unitContent content then some .unconfigured else none
      | "pool" => content.bind fun v => (poolId.decode v).map .pool
      | "direct" => if unitContent content then some .direct else none
      | "block" => if unitContent content then some .block else none
      | _ => none)
    (by decide) (by rintro (_ | _ | _ | _) <;> simp [unitContent])

def routePolicy : RecordCodec RoutePolicy :=
  RecordCodec.imap
    ((required "id" routePolicyId).and <|
      (required "name" string).and <|
      (required "enabled" bool).and <|
      (required "priority" i32).and <|
      (required "matcher" trafficMatcher).and <|
      required "target" routeTarget)
    (fun (id, name, enabled, priority, matcher, target) =>
      { id, name, enabled, priority, matcher, target })
    (fun r => (r.id, r.name, r.enabled, r.priority, r.matcher, r.target)) (fun _ => rfl)

/-! ## The aggregate -/

/-- `StoredStateV6`; converting it from and to `AppState` copies field by field, except that
`schema_version` is checked on the way in and fixed on the way out. -/
def storedStateV6 : RecordCodec AppState :=
  RecordCodec.imap
    ((required "schema_version" u32).and <|
      (required "default_target" routeTarget).and <|
      (optional "active_subscription_id" subscriptionId subscriptionId_nonNull).and <|
      (required "active_configuration_generation" u64).and <|
      (required "subscriptions" (list subscription.codec)).and <|
      (required "providers" (list provider.codec)).and <|
      (required "nodes" (list proxyNode.codec)).and <|
      (required "pools" (list nodePool.codec)).and <|
      required "routes" (list routePolicy.codec))
    (fun (schemaVersion, defaultTarget, activeSubscriptionId, activeConfigurationGeneration,
        subscriptions, providers, nodes, pools, routes) =>
      { schemaVersion, defaultTarget, activeSubscriptionId, activeConfigurationGeneration
        subscriptions, providers, nodes, pools, routes })
    (fun s => (s.schemaVersion, s.defaultTarget, s.activeSubscriptionId,
      s.activeConfigurationGeneration, s.subscriptions, s.providers, s.nodes, s.pools, s.routes))
    (fun _ => rfl)

/-- A stored state is read member by member. -/
theorem reads_storedStateV6 {ms : List (String × Json)} {s : AppState} :
    storedStateV6.Reads ms s ↔
      (required "schema_version" u32).Reads ms s.schemaVersion ∧
      (required "default_target" routeTarget).Reads ms s.defaultTarget ∧
      (optional "active_subscription_id" subscriptionId subscriptionId_nonNull).Reads ms
        s.activeSubscriptionId ∧
      (required "active_configuration_generation" u64).Reads ms
        s.activeConfigurationGeneration ∧
      (required "subscriptions" (list subscription.codec)).Reads ms s.subscriptions ∧
      (required "providers" (list provider.codec)).Reads ms s.providers ∧
      (required "nodes" (list proxyNode.codec)).Reads ms s.nodes ∧
      (required "pools" (list nodePool.codec)).Reads ms s.pools ∧
      (required "routes" (list routePolicy.codec)).Reads ms s.routes := by
  simp only [storedStateV6, reads_imap, Prod.exists, reads_and]
  constructor
  · rintro ⟨_, _, _, _, _, _, _, _, _, h, rfl⟩
    exact h
  · intro h
    exact ⟨_, _, _, _, _, _, _, _, _, h, rfl⟩

/-- So is a subscription. -/
theorem reads_subscription {ms : List (String × Json)} {s : Subscription} :
    subscription.Reads ms s ↔
      (required "id" subscriptionId).Reads ms s.id ∧
      (required "name" string).Reads ms s.name ∧
      (required "description" string).Reads ms s.description ∧
      (required "source" subscriptionSource).Reads ms s.source ∧
      (optional "last_success_at_ms" u64 u64_nonNull).Reads ms s.lastSuccessAtMs ∧
      (optional "last_attempt_at_ms" u64 u64_nonNull).Reads ms s.lastAttemptAtMs ∧
      (optional "http_metadata" httpMetadata.codec (codec_nonNull _)).Reads ms s.httpMetadata ∧
      (optional "remote_request" remoteRequestOptions.codec (codec_nonNull _)).Reads ms
        s.remoteRequest ∧
      (required "update_policy" updatePolicy.codec).Reads ms s.updatePolicy ∧
      (defaulted "skipped_unsupported_nodes" u32 0 (· == 0) (by simp)).Reads ms
        s.skippedUnsupportedNodes ∧
      (skipNone "document" subscriptionDocument.codec (codec_nonNull _)).Reads ms s.document := by
  simp only [subscription, reads_imap, Prod.exists, reads_and]
  constructor
  · rintro ⟨_, _, _, _, _, _, _, _, _, _, _, h, rfl⟩
    exact h
  · intro h
    exact ⟨_, _, _, _, _, _, _, _, _, _, _, h, rfl⟩

/-- And a node. -/
theorem reads_proxyNode {ms : List (String × Json)} {n : ProxyNode} :
    proxyNode.Reads ms n ↔
      (required "id" nodeId).Reads ms n.id ∧
      (required "provider_id" providerId).Reads ms n.providerId ∧
      (required "name" string).Reads ms n.name ∧
      (required "protocol" proxyProtocol).Reads ms n.protocol ∧
      (required "server" string).Reads ms n.server ∧
      (required "port" u16).Reads ms n.port ∧
      (required "options" protocolOptions).Reads ms n.options ∧
      (optional "transport" transport transport_nonNull).Reads ms n.transport ∧
      (optional "tls" tlsOptions.codec (codec_nonNull _)).Reads ms n.tls := by
  simp only [proxyNode, reads_imap, Prod.exists, reads_and]
  constructor
  · rintro ⟨_, _, _, _, _, _, _, _, _, h, rfl⟩
    exact h
  · intro h
    exact ⟨_, _, _, _, _, _, _, _, _, h, rfl⟩

end Veyra.Schema
