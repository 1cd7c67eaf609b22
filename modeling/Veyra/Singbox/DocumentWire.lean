import Veyra.Lib.JsonTree
import Veyra.Singbox.Compiler
import Veyra.Storage.Schema

/-!
# Veyra.Singbox.DocumentWire

The derived serializers of the configuration document: how `serde` writes a
`Document`, and what it reads as one.  Unknown fields are denied everywhere,
and an optional field that is absent is left out.

A codec carries its round trip, so the whole document has one by construction.
-/

namespace Veyra.DocumentWire

open Codec RecordCodec

/-! ## Fields -/

/-- An optional text that is left out when absent. -/
abbrev omittedText (name : String) : RecordCodec (Option String) :=
  omitted name string string_nonNull

/-- An optional list of texts that is left out when absent. -/
abbrev omittedTexts (name : String) : RecordCodec (Option (List String)) :=
  omitted name (list string) (list_nonNull string)

/-- A list that is left out when empty. -/
abbrev listed {α : Type} (name : String) (c : Codec α) : RecordCodec (List α) :=
  defaulted name (list c) [] List.isEmpty fun _ => List.isEmpty_iff.mp

/-! ## Nodes -/

/-- `Reality`. -/
def reality : RecordCodec Reality :=
  RecordCodec.imap
    ((required "enabled" bool).and <| (required "public_key" string).and <|
      required "short_id" string)
    (fun (enabled, publicKey, shortId) => { enabled, publicKey, shortId })
    (fun r => (r.enabled, r.publicKey, r.shortId)) (fun _ => rfl)

/-- `CoreUtls`. -/
def coreUtls : RecordCodec CoreUtls :=
  RecordCodec.imap ((required "enabled" bool).and <| omittedText "fingerprint")
    (fun (enabled, fingerprint) => { enabled, fingerprint })
    (fun u => (u.enabled, u.fingerprint)) (fun _ => rfl)

instance : reality.Plain := by unfold reality; infer_instance
instance : coreUtls.Plain := by unfold coreUtls; infer_instance

/-- `CoreTls`. -/
def coreTls : RecordCodec CoreTls :=
  RecordCodec.imap
    ((required "enabled" bool).and <| (required "insecure" bool).and <|
      (omittedText "server_name").and <| (listed "alpn" string).and <|
      (omitted "reality" reality.strict reality.strict_nonNull).and <|
      omitted "utls" coreUtls.strict coreUtls.strict_nonNull)
    (fun (enabled, insecure, serverName, alpn, reality, utls) =>
      { enabled, insecure, serverName, alpn, reality, utls })
    (fun t => (t.enabled, t.insecure, t.serverName, t.alpn, t.reality, t.utls)) (fun _ => rfl)

instance : coreTls.Plain := by unfold coreTls; infer_instance

/-- `WebsocketHeaders`. -/
def websocketHeaders : RecordCodec String := required "Host" string

instance : websocketHeaders.Plain := by unfold websocketHeaders; infer_instance

theorem earlyData_apart : ∀ k ∈ (Schema.skipNone "max_early_data" u32 u32_nonNull).names,
    k ∉ (Schema.skipNone "early_data_header_name" string string_nonNull).names := by decide

/-- The variant `Websocket`; early data has a default. -/
def websocketFields : RecordCodec (String × Option String × Option UInt32 × Option String) :=
  (required "path" string).and <|
    (omitted "headers" websocketHeaders.strict websocketHeaders.strict_nonNull).and <|
    (Schema.skipNone "max_early_data" u32 u32_nonNull).and
      (Schema.skipNone "early_data_header_name" string string_nonNull) earlyData_apart

/-- The variant `Grpc`. -/
def grpcFields : RecordCodec String := required "service_name" string

instance {α : Type} (name : String) (c : Codec α) (h : c.NonNull) [c.Plain] :
    (Schema.skipNone name c h).Plain := by
  unfold Schema.skipNone
  infer_instance

instance : websocketFields.Plain := by unfold websocketFields; infer_instance
instance : grpcFields.Plain := by unfold grpcFields; infer_instance

/-- `CoreTransport`.  Inside an outbound, which is buffered first, `serde` takes the index of a
variant for its name as well; what is written then differs from what was read. -/
def coreTransport : Codec CoreTransport :=
  tagged "type"
    (fun | .websocket .. => "ws" | .grpc _ => "grpc")
    (fun
      | .websocket path headers maxEarlyData headerName =>
        websocketFields.write (path, headers, maxEarlyData, headerName)
      | .grpc serviceName => grpcFields.write serviceName)
    (fun tag source => match tag with
      | "ws" => (websocketFields.readStrict ["type"] source).map
          fun (path, headers, maxEarlyData, headerName) =>
            .websocket path headers maxEarlyData headerName
      | "grpc" => (grpcFields.readStrict ["type"] source).map .grpc
      | _ => none)
    (by
      rintro (_ | _) ms h
      · simp only [readStrict_beside (by decide) h, Option.map_some]
      · simp only [readStrict_beside (by decide) h, Option.map_some])

theorem coreTransport_nonNull : coreTransport.NonNull := fun _ => Json.noConfusion

instance : coreTransport.Plain := .tagged fun transport => by
  cases transport with
  | websocket path headers maxEarlyData headerName =>
    exact RecordCodec.Plain.isValue (r := websocketFields) _
  | grpc serviceName => exact RecordCodec.Plain.isValue (r := grpcFields) _

/-- `Obfuscation`. -/
def obfuscation : RecordCodec Obfuscation :=
  RecordCodec.imap ((required "type" string).and <| required "password" string)
    (fun (kind, password) => { kind, password }) (fun o => (o.kind, o.password)) (fun _ => rfl)

instance : obfuscation.Plain := by unfold obfuscation; infer_instance

/-- What all `node_options!` structures have: the tag, the server, its port, TLS and transport. -/
abbrev Shared := String × String × UInt16 × Option CoreTls × Option CoreTransport

/-- The fields that all `node_options!` structures begin with. -/
def shared : RecordCodec Shared :=
  (required "tag" string).and <| (required "server" string).and <|
    (required "server_port" u16).and <|
    (omitted "tls" coreTls.strict coreTls.strict_nonNull).and <|
    omitted "transport" coreTransport coreTransport_nonNull

instance : shared.Plain := by unfold shared; infer_instance

/-- `Socks`. -/
def socks : RecordCodec (Shared × String × Option String × Option String) :=
  shared.and <| (required "version" string).and <| (omittedText "username").and <|
    omittedText "password"

/-- `Http`. -/
def http : RecordCodec (Shared × Option String × Option String) :=
  shared.and <| (omittedText "username").and <| omittedText "password"

/-- `Shadowsocks`: the core's own fields are those of the stored options. -/
def shadowsocks : RecordCodec (Shared × String × String) := shared.and Schema.shadowsocksFields

/-- `Vmess`. -/
def vmess : RecordCodec (Shared × String × Option UInt32 × Option String) :=
  shared.and <| (required "uuid" string).and <| (omitted "alter_id" u32 u32_nonNull).and <|
    omittedText "security"

/-- `Vless`. -/
def vless : RecordCodec (Shared × String × Option String) :=
  shared.and <| (required "uuid" string).and <| omittedText "flow"

/-- `Trojan`, and `AnyTls`. -/
def passwordOnly : RecordCodec (Shared × String) := shared.and <| required "password" string

/-- `Hysteria`. -/
def hysteria : RecordCodec (Shared × String × UInt32 × UInt32 × Option String) :=
  shared.and <| (required "auth_str" string).and <| (required "up_mbps" u32).and <|
    (required "down_mbps" u32).and <| omittedText "obfs"

/-- `Hysteria2`. -/
def hysteria2 : RecordCodec
    (Shared × String × Option Obfuscation × Option UInt32 × Option UInt32 × Option Bool) :=
  shared.and <| (required "password" string).and <|
    (omitted "obfs" obfuscation.strict obfuscation.strict_nonNull).and <|
    (omitted "up_mbps" u32 u32_nonNull).and <| (omitted "down_mbps" u32 u32_nonNull).and <|
    omitted "disable_path_mtu_discovery" bool bool_nonNull

/-- `Tuic`. -/
def tuic : RecordCodec (Shared × String × String × Bool × Option String × Option String) :=
  shared.and <| (required "uuid" string).and <| (required "password" string).and <|
    (required "zero_rtt_handshake" bool).and <| (omittedText "congestion_control").and <|
    omittedText "udp_relay_mode"

/-- `ShadowTls`, with the fields of the stored options. -/
def shadowTls : RecordCodec (Shared × UInt8 × String) := shared.and Schema.shadowTlsFields

/-- `Ssh`. -/
def ssh : RecordCodec
    (Shared × String × Option String × Option String × Option String × Option String) :=
  shared.and <| (required "user" string).and <| (omittedText "password").and <|
    (omittedText "private_key").and <| (omittedText "private_key_passphrase").and <|
    omittedText "host_key"

/-- `Naive`, with the fields of the stored options. -/
def naive : RecordCodec (Shared × String × String) := shared.and Schema.naiveFields

/-- `Snell`, with the fields of the stored options. -/
def snell : RecordCodec (Shared × String × UInt8) := shared.and Schema.snellFields

instance : Schema.shadowsocksFields.Plain := by unfold Schema.shadowsocksFields; infer_instance
instance : Schema.shadowTlsFields.Plain := by unfold Schema.shadowTlsFields; infer_instance
instance : Schema.naiveFields.Plain := by unfold Schema.naiveFields; infer_instance
instance : Schema.snellFields.Plain := by unfold Schema.snellFields; infer_instance

instance : socks.Plain := by unfold socks; infer_instance
instance : http.Plain := by unfold http; infer_instance
instance : shadowsocks.Plain := by unfold shadowsocks; infer_instance
instance : vmess.Plain := by unfold vmess; infer_instance
instance : vless.Plain := by unfold vless; infer_instance
instance : passwordOnly.Plain := by unfold passwordOnly; infer_instance
instance : hysteria.Plain := by unfold hysteria; infer_instance
instance : hysteria2.Plain := by unfold hysteria2; infer_instance
instance : tuic.Plain := by unfold tuic; infer_instance
instance : shadowTls.Plain := by unfold shadowTls; infer_instance
instance : ssh.Plain := by unfold ssh; infer_instance
instance : naive.Plain := by unfold naive; infer_instance
instance : snell.Plain := by unfold snell; infer_instance

/-! ## Outbounds -/

/-- `Terminal`. -/
def terminal : RecordCodec String := required "tag" string

/-- `Selector`. -/
def selector : RecordCodec Selector :=
  RecordCodec.imap
    ((required "tag" string).and <| (required "outbounds" (list string)).and <|
      omittedText "default")
    (fun (tag, outbounds, default) => { tag, outbounds, default })
    (fun s => (s.tag, s.outbounds, s.default)) (fun _ => rfl)

/-- `UrlTest`. -/
def urlTest : RecordCodec UrlTest :=
  RecordCodec.imap
    ((required "tag" string).and <| (required "outbounds" (list string)).and <|
      (required "url" string).and <| (required "interval" string).and <|
      required "tolerance" u32)
    (fun (tag, outbounds, url, interval, tolerance) =>
      { tag, outbounds, url, interval, tolerance })
    (fun u => (u.tag, u.outbounds, u.url, u.interval, u.tolerance)) (fun _ => rfl)

instance : terminal.Plain := by unfold terminal; infer_instance
instance : selector.Plain := by unfold selector; infer_instance
instance : urlTest.Plain := by unfold urlTest; infer_instance

/-- What a node shares with the others. -/
def sharedOf (n : CoreNode) : Shared := (n.tag, n.server, n.serverPort, n.tls, n.transport)

/-- The node of what all have and its own options. -/
def nodeOf (shared : Shared) (options : CoreOptions) : CoreOutbound :=
  let (tag, server, serverPort, tls, transport) := shared
  .node { tag, server, serverPort, tls, transport, options }

/-- The variants of `CoreOutbound`, in lower case. -/
def outboundTag : CoreOutbound → String
  | .node n => match n.options with
    | .socks .. => "socks"
    | .http .. => "http"
    | .shadowsocks .. => "shadowsocks"
    | .vmess .. => "vmess"
    | .vless .. => "vless"
    | .trojan .. => "trojan"
    | .hysteria .. => "hysteria"
    | .hysteria2 .. => "hysteria2"
    | .tuic .. => "tuic"
    | .shadowtls .. => "shadowtls"
    | .ssh .. => "ssh"
    | .naive .. => "naive"
    | .anytls .. => "anytls"
    | .snell .. => "snell"
  | .direct _ => "direct"
  | .block _ => "block"
  | .selector _ => "selector"
  | .urltest _ => "urltest"

def writeOutbound : CoreOutbound → List (String × Json)
  | .node n => match n.options with
    | .socks version username password => socks.write (sharedOf n, version, username, password)
    | .http username password => http.write (sharedOf n, username, password)
    | .shadowsocks method password => shadowsocks.write (sharedOf n, method, password)
    | .vmess uuid alterId security => vmess.write (sharedOf n, uuid, alterId, security)
    | .vless uuid flow => vless.write (sharedOf n, uuid, flow)
    | .trojan password | .anytls password => passwordOnly.write (sharedOf n, password)
    | .hysteria authStr upMbps downMbps obfs =>
      hysteria.write (sharedOf n, authStr, upMbps, downMbps, obfs)
    | .hysteria2 password obfs upMbps downMbps discovery =>
      hysteria2.write (sharedOf n, password, obfs, upMbps, downMbps, discovery)
    | .tuic uuid password zeroRtt congestionControl udpRelayMode =>
      tuic.write (sharedOf n, uuid, password, zeroRtt, congestionControl, udpRelayMode)
    | .shadowtls version password => shadowTls.write (sharedOf n, version, password)
    | .ssh user password privateKey passphrase hostKey =>
      ssh.write (sharedOf n, user, password, privateKey, passphrase, hostKey)
    | .naive username password => naive.write (sharedOf n, username, password)
    | .snell psk version => snell.write (sharedOf n, psk, version)
  | .direct tag | .block tag => terminal.write tag
  | .selector pool => selector.write pool
  | .urltest pool => urlTest.write pool

def readOutbound (tag : String) (source : Source) : Option CoreOutbound :=
  match tag with
  | "socks" => (socks.readStrict ["type"] source).map fun (shared, version, username, password) =>
    nodeOf shared (.socks version username password)
  | "http" => (http.readStrict ["type"] source).map fun (shared, username, password) =>
    nodeOf shared (.http username password)
  | "shadowsocks" => (shadowsocks.readStrict ["type"] source).map
    fun (shared, method, password) => nodeOf shared (.shadowsocks method password)
  | "vmess" => (vmess.readStrict ["type"] source).map fun (shared, uuid, alterId, security) =>
    nodeOf shared (.vmess uuid alterId security)
  | "vless" => (vless.readStrict ["type"] source).map fun (shared, uuid, flow) =>
    nodeOf shared (.vless uuid flow)
  | "trojan" => (passwordOnly.readStrict ["type"] source).map fun (shared, password) =>
    nodeOf shared (.trojan password)
  | "hysteria" => (hysteria.readStrict ["type"] source).map
    fun (shared, authStr, upMbps, downMbps, obfs) =>
      nodeOf shared (.hysteria authStr upMbps downMbps obfs)
  | "hysteria2" => (hysteria2.readStrict ["type"] source).map
    fun (shared, password, obfs, upMbps, downMbps, discovery) =>
      nodeOf shared (.hysteria2 password obfs upMbps downMbps discovery)
  | "tuic" => (tuic.readStrict ["type"] source).map
    fun (shared, uuid, password, zeroRtt, congestionControl, udpRelayMode) =>
      nodeOf shared (.tuic uuid password zeroRtt congestionControl udpRelayMode)
  | "shadowtls" => (shadowTls.readStrict ["type"] source).map fun (shared, version, password) =>
    nodeOf shared (.shadowtls version password)
  | "ssh" => (ssh.readStrict ["type"] source).map
    fun (shared, user, password, privateKey, passphrase, hostKey) =>
      nodeOf shared (.ssh user password privateKey passphrase hostKey)
  | "naive" => (naive.readStrict ["type"] source).map fun (shared, username, password) =>
    nodeOf shared (.naive username password)
  | "anytls" => (passwordOnly.readStrict ["type"] source).map fun (shared, password) =>
    nodeOf shared (.anytls password)
  | "snell" => (snell.readStrict ["type"] source).map fun (shared, psk, version) =>
    nodeOf shared (.snell psk version)
  | "direct" => (terminal.readStrict ["type"] source).map .direct
  | "block" => (terminal.readStrict ["type"] source).map .block
  | "selector" => (selector.readStrict ["type"] source).map .selector
  | "urltest" => (urlTest.readStrict ["type"] source).map .urltest
  | _ => none

/-- What is written beside the tag is read back. -/
theorem readOutbound_write (o : CoreOutbound) (ms : List (String × Json))
    (h : ∀ k, k ≠ "type" → ms.lookup k = (writeOutbound o).lookup k) :
    readOutbound (outboundTag o) (.members ms) = some o := by
  cases o with
  | node n =>
    obtain ⟨tag, server, serverPort, tls, transport, options⟩ := n
    cases options <;>
      · simp only [outboundTag, readOutbound, readStrict_beside (by decide) h, Option.map_some]
        rfl
  | direct tag | block tag =>
    simp only [outboundTag, readOutbound, readStrict_beside (by decide) h, Option.map_some]
  | selector pool | urltest pool =>
    simp only [outboundTag, readOutbound, readStrict_beside (by decide) h, Option.map_some]

/-- `CoreOutbound`. -/
def coreOutbound : Codec CoreOutbound :=
  tagged "type" outboundTag writeOutbound readOutbound readOutbound_write

instance : coreOutbound.Plain := .tagged fun o => by
  cases o with
  | node n =>
    obtain ⟨tag, server, serverPort, tls, transport, options⟩ := n
    cases options with
    | socks => exact RecordCodec.Plain.isValue (r := socks) _
    | http => exact RecordCodec.Plain.isValue (r := http) _
    | shadowsocks => exact RecordCodec.Plain.isValue (r := shadowsocks) _
    | vmess => exact RecordCodec.Plain.isValue (r := vmess) _
    | vless => exact RecordCodec.Plain.isValue (r := vless) _
    | trojan | anytls => exact RecordCodec.Plain.isValue (r := passwordOnly) _
    | hysteria => exact RecordCodec.Plain.isValue (r := hysteria) _
    | hysteria2 => exact RecordCodec.Plain.isValue (r := hysteria2) _
    | tuic => exact RecordCodec.Plain.isValue (r := tuic) _
    | shadowtls => exact RecordCodec.Plain.isValue (r := shadowTls) _
    | ssh => exact RecordCodec.Plain.isValue (r := ssh) _
    | naive => exact RecordCodec.Plain.isValue (r := naive) _
    | snell => exact RecordCodec.Plain.isValue (r := snell) _
  | direct | block => exact RecordCodec.Plain.isValue (r := terminal) _
  | selector => exact RecordCodec.Plain.isValue (r := selector) _
  | urltest => exact RecordCodec.Plain.isValue (r := urlTest) _

/-! ## Endpoints and rules -/

/-- `WireGuardPeer`. -/
def wireGuardPeer : RecordCodec WireGuardPeer :=
  RecordCodec.imap
    ((required "address" string).and <| (required "port" u16).and <|
      (required "public_key" string).and <| (omittedText "pre_shared_key").and <|
      (omitted "reserved" (triple u8) (triple_nonNull u8)).and <|
      required "allowed_ips" (list string))
    (fun (address, port, publicKey, preSharedKey, reserved, allowedIps) =>
      { address, port, publicKey, preSharedKey, reserved, allowedIps })
    (fun p => (p.address, p.port, p.publicKey, p.preSharedKey, p.reserved, p.allowedIps))
    (fun _ => rfl)

instance : wireGuardPeer.Plain := by unfold wireGuardPeer; infer_instance

/-- `WireGuardEndpoint`. -/
def wireGuardEndpoint : RecordCodec WireGuardEndpoint :=
  RecordCodec.imap
    ((required "type" string).and <| (required "tag" string).and <|
      (required "system" bool).and <| (required "address" (list string)).and <|
      (required "private_key" string).and <| (omitted "mtu" u32 u32_nonNull).and <|
      required "peers" (list wireGuardPeer.strict))
    (fun (kind, tag, system, address, privateKey, mtu, peers) =>
      { kind, tag, system, address, privateKey, mtu, peers })
    (fun e => (e.kind, e.tag, e.system, e.address, e.privateKey, e.mtu, e.peers)) (fun _ => rfl)

instance : wireGuardEndpoint.Plain := by unfold wireGuardEndpoint; infer_instance

instance : Schema.networkProtocol.Plain := by unfold Schema.networkProtocol; infer_instance

/-- `CoreRule`. -/
def coreRule : RecordCodec CoreRule :=
  RecordCodec.imap
    ((omittedTexts "inbound").and <| (omittedText "action").and <| (omittedText "outbound").and <|
      (omittedTexts "domain").and <| (omittedTexts "domain_suffix").and <|
      (omittedTexts "process_name").and <| (omittedTexts "ip_cidr").and <|
      (omitted "port" (list u16) (list_nonNull u16)).and <|
      omitted "network" (list Schema.networkProtocol) (list_nonNull _))
    (fun (inbound, action, outbound, domain, domainSuffix, processName, ipCidr, port, network) =>
      { inbound, action, outbound, domain, domainSuffix, processName, ipCidr, port, network })
    (fun r => (r.inbound, r.action, r.outbound, r.domain, r.domainSuffix, r.processName, r.ipCidr,
      r.port, r.network))
    (fun _ => rfl)

instance : coreRule.Plain := by unfold coreRule; infer_instance

/-! ## The document -/

/-- `LogConfig`, outside of tests. -/
def logConfig : RecordCodec Bool := required "disabled" bool

/-- `DnsServer`. -/
def dnsServer : RecordCodec DnsServer :=
  RecordCodec.imap ((required "type" string).and <| required "tag" string)
    (fun (kind, tag) => { kind, tag }) (fun s => (s.kind, s.tag)) (fun _ => rfl)

instance : logConfig.Plain := by unfold logConfig; infer_instance
instance : dnsServer.Plain := by unfold dnsServer; infer_instance

/-- `DnsConfig`. -/
def dnsConfig : RecordCodec DnsConfig :=
  RecordCodec.imap
    ((required "servers" (list dnsServer.strict)).and <| (required "final" string).and <|
      listed "rules" coreRule.strict)
    (fun (servers, finalServer, rules) => { servers, finalServer, rules })
    (fun d => (d.servers, d.finalServer, d.rules)) (fun _ => rfl)

/-- `RouteConfig`. -/
def routeConfig : RecordCodec RouteConfig :=
  RecordCodec.imap
    ((required "rules" (list coreRule.strict)).and <| (required "final" string).and <|
      required "default_domain_resolver" string)
    (fun (rules, finalOutbound, defaultDomainResolver) =>
      { rules, finalOutbound, defaultDomainResolver })
    (fun r => (r.rules, r.finalOutbound, r.defaultDomainResolver)) (fun _ => rfl)

/-- `ClashApi`. -/
def clashApi : RecordCodec ClashApi :=
  RecordCodec.imap ((required "external_controller" string).and <| required "secret" string)
    (fun (externalController, secret) => { externalController, secret })
    (fun a => (a.externalController, a.secret)) (fun _ => rfl)

instance : dnsConfig.Plain := by unfold dnsConfig; infer_instance
instance : routeConfig.Plain := by unfold routeConfig; infer_instance
instance : clashApi.Plain := by unfold clashApi; infer_instance

/-- `Experimental`. -/
def experimental : RecordCodec ClashApi := required "clash_api" clashApi.strict

instance : experimental.Plain := by unfold experimental; infer_instance

/-- An inbound outside of tests: the unit value. -/
def unitValue : Codec Unit where
  encode _ := .null
  decode
    | .null => some ()
    | _ => none
  decode_encode _ := rfl

instance : unitValue.Plain := ⟨fun _ => .null⟩

/-- `Document`. -/
def document : RecordCodec Document :=
  RecordCodec.imap
    ((required "log" logConfig.strict).and <| (required "dns" dnsConfig.strict).and <|
      (required "inbounds" (list unitValue)).and <|
      (required "outbounds" (list coreOutbound)).and <|
      (listed "endpoints" wireGuardEndpoint.strict).and <|
      (required "route" routeConfig.strict).and <|
      required "experimental" experimental.strict)
    (fun (logDisabled, dns, inbounds, outbounds, endpoints, route, clashApi) =>
      { logDisabled, dns, inbounds, outbounds, endpoints, route, clashApi })
    (fun d => (d.logDisabled, d.dns, d.inbounds, d.outbounds, d.endpoints, d.route, d.clashApi))
    (fun _ => rfl)

instance : document.Plain := by unfold document; infer_instance

end Veyra.DocumentWire
