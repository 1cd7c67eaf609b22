import Veyra.Subscription.Entry

/-!
# Veyra.Subscription.Fields

From a checked entry to a node draft: `JsonFields` with its accessors, and
`draftFromFields`, which reads the options of the protocol, the transport and
the TLS settings.  What a draft is sure to satisfy is in
`Veyra.Subscription.Checked`.
-/

namespace Veyra

open Check

/-- Reading one field, or skipping the whole node. -/
abbrev Parsed := Except SkippedNode

structure JsonFields where
  name : Option String
  protocol : Option String
  server : Option String
  port : Option UInt16
  uuid : Option String
  password : Option String
  username : Option String
  cipher : Option String
  network : Option String
  tls : Option Bool
  websocketPath : Option String
  websocketHost : Option String
  grpcServiceName : Option String
  raw : List (String × Json)

/-- `normalized_websocket_host`. -/
def normalizedWebsocketHost (v : Json) : Option String :=
  ((v.get? "headers").bind (·.get? "Host")).bind fun
    | .str host => some host
    | .arr hosts => hosts.head?.bind Json.asStr?
    | _ => none

/-- `JsonFields::from`. -/
def JsonFields.ofValue (v : Json) : JsonFields :=
  let getString (name : String) := (v.get? name).bind Json.asStr?
  let transport := v.get? "transport"
  let nested (outer : Option Json) (key : String) := (outer.bind (·.get? key)).bind Json.asStr?
  { name := (getString "name").or ((getString "tag").or (getString "ps"))
    protocol := getString "type"
    server := (getString "server").or (getString "add")
    port := (((v.get? "port").or (v.get? "server_port")).bind Json.asU16?).or
      ((getString "port").bind Text.parseU16)
    uuid := (getString "uuid").or (getString "id")
    password := getString "password"
    username := getString "username"
    cipher := (getString "cipher").or (getString "method")
    network := (getString "network").or ((getString "net").or (nested transport "type"))
    tls := ((v.get? "tls").bind Json.asBool?).or
      ((((v.get? "tls").bind (·.get? "enabled")).bind Json.asBool?).or
        ((getString "tls").map (· == "tls")))
    websocketPath := (nested (v.get? "ws-opts") "path").or
      ((nested transport "path").or (getString "path"))
    websocketHost := ((v.get? "ws-opts").bind normalizedWebsocketHost).or
      ((transport.bind normalizedWebsocketHost).or (getString "host"))
    grpcServiceName := (nested (v.get? "grpc-opts") "grpc-service-name").or
      (nested transport "service_name")
    raw := v.asObj?.getD [] }

/-- `has_illegal_protocol_fields`. -/
def hasIllegalProtocolFields (fields : JsonFields) : Bool :=
  match fields.protocol.bind protocolFromName with
  | none => false
  | some protocol => fields.raw.any fun m =>
      !commonJsonFields.contains m.1 && !(protocolJsonFields protocol).contains m.1

/-! ## Accessors -/

/-- A field that must be there and satisfy `keep`: `filter(..).ok_or(InvalidNode)`. -/
def required (keep : String → Bool) (value : Option String) : Parsed String :=
  okOr (value.filter keep) .invalidNode

def requiredNonempty (value : Option String) : Parsed String := required (· != "") value

def requiredNonblank (value : Option String) : Parsed String := required (!Text.blank ·) value

/-- `key.replace('_', "-")`. -/
def dashed (key : String) : String :=
  String.ofList (key.toList.map fun c => if c = '_' then '-' else c)

/-- `raw_value`: the field under either spelling, but not under both. -/
def rawValue (fields : JsonFields) (key : String) : Parsed (Option Json) :=
  match fields.raw.lookup key, fields.raw.lookup (dashed key) with
  | some v, some _ => if dashed key != key then .error .invalidNode else .ok (some v)
  | some v, none | none, some v => .ok (some v)
  | none, none => .ok none

/-- `optional_raw_string`. -/
def optionalRawString (fields : JsonFields) (key : String) : Parsed (Option String) := do
  match ← rawValue fields key with
  | none | some .null => .ok none
  | some (.str value) => if Text.blank value then .error .invalidNode else .ok (some value)
  | _ => .error .invalidNode

/-- `required_raw_string`. -/
def requiredRawString (fields : JsonFields) (key : String) : Parsed String := do
  okOr (← optionalRawString fields key) .invalidNode

/-- `optional_vless_flow`. -/
def optionalVlessFlow (fields : JsonFields) : Parsed (Option String) :=
  match fields.raw.lookup "flow" with
  | none | some .null => .ok none
  | some (.str value) =>
    if value = "" then .ok none
    else if value = "xtls-rprx-vision" then .ok (some value)
    else .error .invalidNode
  | _ => .error .invalidNode

/-- `optional_raw_u32`. -/
def optionalRawU32 (fields : JsonFields) (key : String) : Parsed (Option UInt32) := do
  match ← rawValue fields key with
  | none | some .null => .ok none
  | some v => (okOr v.asU32? .invalidNode).map some

/-- `optional_raw_u8`. -/
def optionalRawU8 (fields : JsonFields) (key : String) : Parsed (Option UInt8) := do
  match ← optionalRawU32 fields key with
  | none => .ok none
  | some n => if n ≤ 0xff then .ok (some n.toUInt8) else .error .invalidNode

/-- `optional_raw_u8_or_string`. -/
def optionalRawU8OrString (fields : JsonFields) (key : String) : Parsed (Option UInt8) := do
  match ← rawValue fields key with
  | none | some .null => .ok none
  | some (.str value) => (okOr (Text.parseU8 value) .invalidNode).map some
  | some v => (okOr v.asU8? .invalidNode).map some

/-- `optional_raw_bool`. -/
def optionalRawBool (fields : JsonFields) (key : String) : Parsed (Option Bool) := do
  match ← rawValue fields key with
  | none | some .null => .ok none
  | some (.bool b) => .ok (some b)
  | _ => .error .invalidNode

/-- The loop over the spellings of one value, which must agree; `resolved` is the value
found so far. -/
def resolveSpellings {α : Type} [DecidableEq α] (parse : Json → Parsed (Option α)) :
    Option (Option α) → List Json → Parsed (Option α)
  | resolved, [] => .ok (resolved.getD none)
  | resolved, v :: vs => do
    let value ← parse v
    reject (resolved.any (· != value)) .invalidNode
    resolveSpellings parse (some value) vs

/-- `websocket_early_data`: the two values, and whether any of them was specified. -/
def websocketEarlyData (fields : JsonFields) :
    Parsed (Option UInt32 × Option String × Bool) := do
  let spellings (key : String) : List Json :=
    ["ws-opts", "transport"].filterMap fun outer => (fields.raw.lookup outer).bind (·.get? key)
  let maxValues := spellings "max_early_data"
  let headerValues := spellings "early_data_header_name"
  let maxEarlyData ← resolveSpellings (fun
    | .null => .ok none
    | v => (okOr v.asU32? .invalidNode).map fun n => if n > 0 then some n else none) none maxValues
  let headerName ← resolveSpellings (fun
    | .null => .ok none
    | .str value => .ok (if value = "" then none else some value)
    | _ => .error .invalidNode) none headerValues
  .ok (maxEarlyData, headerName, !maxValues.isEmpty || !headerValues.isEmpty)

/-- `optional_positive_u32_aliases`. -/
def optionalPositiveU32Aliases (fields : JsonFields) (keys : List String) :
    Parsed (Option UInt32) :=
  resolveSpellings (fun v => (okOr (v.asU32?.filter (· > 0)) .invalidNode).map some) none
    (keys.filterMap fun key => fields.raw.lookup key)

/-- `optional_bool_aliases`. -/
def optionalBoolAliases (fields : JsonFields) (keys : List String) : Parsed (Option Bool) :=
  resolveSpellings (fun v => (okOr v.asBool? .invalidNode).map some) none
    (keys.filterMap fun key => fields.raw.lookup key)

/-- The rule for a value with a top-level and a nested spelling: both must parse, and to
the same value. -/
def resolveBoth {α : Type} [DecidableEq α] (parse : Json → Parsed α) :
    Option Json → Option Json → Parsed (Option α)
  | none, none => .ok none
  | some v, none | none, some v => (parse v).map some
  | some v, some w => do
    let first ← parse v
    let second ← parse w
    if first = second then .ok (some first) else .error .invalidNode

/-- `resolve_optional_string`. -/
def resolveOptionalString (first second : Option Json) : Parsed (Option String) :=
  resolveBoth (fun v => requiredNonblank v.asStr?) first second

/-- A member of the `tls` object. -/
def tlsMember (fields : JsonFields) (key : String) : Option Json :=
  (fields.raw.lookup "tls").bind (·.get? key)

/-- `tls_server_name`. -/
def tlsServerName (fields : JsonFields) : Parsed (Option String) :=
  resolveOptionalString (fields.raw.lookup "sni") (tlsMember fields "server_name")

/-- `tls_allow_insecure`. -/
def tlsAllowInsecure (fields : JsonFields) : Parsed Bool :=
  (resolveBoth (fun v => okOr v.asBool? .invalidNode) (fields.raw.lookup "skip-cert-verify")
    (tlsMember fields "insecure")).map (·.getD false)

/-- The strings of a validated ALPN array. -/
def alpnStrings (v : Json) : List String := (v.asArr?.getD []).filterMap Json.asStr?

/-- `tls_alpn`. -/
def tlsAlpn (fields : JsonFields) : Parsed (List String) :=
  (resolveBoth (fun v => if validAlpn v then .ok (alpnStrings v) else .error .invalidNode)
    (fields.raw.lookup "alpn") (tlsMember fields "alpn")).map (·.getD [])

/-- `tls_fingerprint`. -/
def tlsFingerprint (fields : JsonFields) : Parsed (Option String) := do
  let utls := tlsMember fields "utls"
  let enabled := (utls.bind (·.get? "enabled")).bind Json.asBool?
  let value ← resolveOptionalString (fields.raw.lookup "client-fingerprint")
    (utls.bind (·.get? "fingerprint"))
  reject ((enabled == some false && value.isSome) || (enabled == some true && value.isNone))
    .invalidNode
  if value.all fun v => validFingerprint (.str v) then .ok value else .error .invalidNode

/-- `tls_reality_fields`. -/
def tlsRealityFields (fields : JsonFields) : Parsed (Option String × Option String) := do
  let clash := fields.raw.lookup "reality-opts"
  let singBox := tlsMember fields "reality"
  let publicKey ← resolveOptionalString (clash.bind (·.get? "public-key"))
    (singBox.bind (·.get? "public_key"))
  let shortId ← resolveOptionalString (clash.bind (·.get? "short-id"))
    (singBox.bind (·.get? "short_id"))
  if publicKey.isSome = shortId.isSome then .ok (publicKey, shortId) else .error .invalidNode

/-- `validate_clash_protocol_metadata`. -/
def validateClashProtocolMetadata (fields : JsonFields) (protocol : ProxyProtocol) :
    Parsed Unit := do
  reject ((fields.raw.lookup "udp").any fun v =>
    !(protocol = .vless || protocol = .hysteria2) || v.asBool? != some true) .invalidNode
  reject ((fields.raw.lookup "packet_encoding").any fun v =>
    protocol ≠ .vless || v.asStr? != some "xudp") .invalidNode
  reject ((fields.raw.lookup "protocol").any fun v =>
    protocol ≠ .hysteria2 || v.asStr? != some "udp") .invalidNode
  reject (((fields.raw.lookup "benchmark-url").isSome ||
    (fields.raw.lookup "benchmark-timeout").isSome) && protocol ≠ .hysteria2) .invalidNode

/-- `validate_smux`: whether multiplexing was asked for. -/
def validateSmux (fields : JsonFields) (protocol : ProxyProtocol) : Parsed Bool :=
  match fields.raw.lookup "smux" with
  | none => .ok false
  | some v => do
    reject (protocol ≠ .vless || invalidSmux v) .invalidNode
    let smux ← okOr v.asObj? .invalidNode
    let enabled ← okOr (enabledFlag smux) .invalidNode
    if !enabled then .ok false
    else do
      reject ((smux.lookup "protocol").bind Json.asStr? != some "h2mux") .invalidNode
      match (smux.lookup "only-tcp").bind Json.asBool? with
      | some true => .ok true
      | _ => .error .invalidNode

/-- One string, or an array of strings. -/
def stringOrStrings : Option Json → Parsed (List String)
  | some (.str value) => .ok [value]
  | some (.arr vs) => vs.mapM fun v => okOr v.asStr? .invalidNode
  | _ => .error .invalidNode

/-- `raw_string_list`. -/
def rawStringList (fields : JsonFields) (key : String) : Parsed (List String) := do
  let values ← stringOrStrings (← rawValue fields key)
  reject (values.isEmpty || values.any Text.blank) .invalidNode
  .ok values

/-- The local addresses of WireGuard, under the singular or the plural name. -/
def localAddressesFromFields (fields : JsonFields) : Parsed (List String) :=
  match rawStringList fields "local_address" with
  | .ok addresses => .ok addresses
  | .error _ => rawStringList fields "local_addresses"

/-- `optional_reserved`. -/
def optionalReserved (fields : JsonFields) : Parsed (Option (UInt8 × UInt8 × UInt8)) := do
  match ← rawValue fields "reserved" with
  | none => .ok none
  | some (.arr vs) => do
    match ← vs.mapM fun v => okOr v.asU8? .invalidNode with
    | [a, b, c] => .ok (some (a, b, c))
    | _ => .error .invalidNode
  | _ => .error .invalidNode

/-! ## The draft -/

/-- The `options` of `draft_from_fields`, one arm per protocol. -/
def optionsFromFields (fields : JsonFields) : ProxyProtocol → Parsed ProtocolOptions
  | .vmess => do
    let uuid ← requiredNonempty fields.uuid
    let alterId ← optionalRawU32 fields "alter_id"
    .ok (.vmess uuid alterId (← optionalRawString fields "security"))
  | .vless => do
    let uuid ← requiredNonempty fields.uuid
    .ok (.vless uuid (← optionalVlessFlow fields))
  | .shadowsocks => do
    let method ← requiredNonempty fields.cipher
    .ok (.shadowsocks method (← requiredNonempty fields.password))
  | .socks => do
    let version ← optionalRawU8OrString fields "version"
    .ok (.socks (version.getD 5) fields.username fields.password)
  | .http => .ok (.http fields.username fields.password
      (fields.tls.getD false || fields.protocol.any (eqIgnoreAsciiCase · "https")))
  | .trojan => do .ok (.trojan (← requiredNonempty fields.password))
  | .hysteria2 => do
    let password ← requiredNonempty fields.password
    let obfs ← optionalRawString fields "obfs"
    let up ← optionalPositiveU32Aliases fields ["up_mbps", "up-mbps", "up", "up-speed"]
    let down ← optionalPositiveU32Aliases fields ["down_mbps", "down-mbps", "down", "down-speed"]
    .ok (.hysteria2 password obfs up down
      (← optionalBoolAliases fields ["disable_path_mtu_discovery", "disable_mtu_discovery"]))
  | .wireGuard => do
    let privateKey ← requiredRawString fields "private_key"
    let peerPublicKey ← requiredRawString fields "peer_public_key"
    let preSharedKey ← optionalRawString fields "pre_shared_key"
    let localAddresses ← localAddressesFromFields fields
    let mtu ← optionalRawU32 fields "mtu"
    .ok (.wireGuard privateKey peerPublicKey preSharedKey localAddresses mtu
      (← optionalReserved fields))
  | .hysteria => do
    let auth ← optionalRawString fields "auth"
    let authStr ← optionalRawString fields "auth_str"
    let auth ← okOr (auth.or authStr) .invalidNode
    let obfs ← optionalRawString fields "obfs"
    let up ← optionalRawU32 fields "up_mbps"
    .ok (.hysteria auth obfs up (← optionalRawU32 fields "down_mbps"))
  | .tuic => do
    let uuid ← requiredNonblank fields.uuid
    let password ← requiredNonblank fields.password
    let congestionControl ← optionalRawString fields "congestion_control"
    let udpRelayMode ← optionalRawString fields "udp_relay_mode"
    let zeroRtt ← optionalRawBool fields "zero_rtt"
    .ok (.tuic uuid password congestionControl udpRelayMode (zeroRtt.getD false))
  | .shadowTls => do
    let version ← optionalRawU8 fields "version"
    .ok (.shadowTls (version.getD 3) (← requiredNonblank fields.password))
  | .ssh => do
    let user ← optionalRawString fields "user"
    let username ← optionalRawString fields "username"
    let user ← okOr (user.or username) .invalidNode
    let privateKey ← optionalRawString fields "private_key"
    let passphrase ← optionalRawString fields "private_key_passphrase"
    .ok (.ssh user fields.password privateKey passphrase (← optionalRawString fields "host_key"))
  | .naive => do
    let username ← requiredNonblank fields.username
    .ok (.naive username (← requiredNonblank fields.password))
  | .anyTls => do .ok (.anyTls (← requiredNonempty fields.password))
  | .snell => do
    let psk ← requiredNonblank ((← optionalRawString fields "psk").or fields.password)
    let version ← optionalRawU8 fields "version"
    .ok (.snell psk (version.getD 3))

/-- The `transport` of `draft_from_fields`. -/
def transportFromFields (fields : JsonFields) : Parsed Transport := do
  let (maxEarlyData, headerName, specified) ← websocketEarlyData fields
  match fields.network with
  | some "ws" =>
    let transport := Transport.websocket (fields.websocketPath.getD "/") fields.websocketHost
      maxEarlyData headerName
    reject (!transport.hasValidEarlyData) .invalidNode
    .ok transport
  | some "grpc" => .ok (.grpc (fields.grpcServiceName.getD ""))
  | _ => if specified then .error .invalidNode else .ok .tcp

/-- The `tls` of `draft_from_fields`. -/
def tlsFromFields (fields : JsonFields) (protocol : ProxyProtocol) : Parsed (Option TlsOptions) := do
  reject (protocol = .hysteria2 && fields.tls == some false) .invalidNode
  let serverName ← tlsServerName fields
  let allowInsecure ← tlsAllowInsecure fields
  let alpn ← tlsAlpn fields
  let utlsFingerprint ← tlsFingerprint fields
  let (realityPublicKey, realityShortId) ← tlsRealityFields fields
  reject (realityPublicKey.isSome && protocol ≠ .vless) .invalidNode
  let tlsEnabled := fields.tls == some true || protocol = .hysteria2
  let hasTlsDetails := serverName.isSome || allowInsecure || !alpn.isEmpty ||
    utlsFingerprint.isSome || realityPublicKey.isSome
  reject (!tlsEnabled && hasTlsDetails) .invalidNode
  .ok (if tlsEnabled then
      some { serverName, allowInsecure, realityPublicKey, realityShortId, alpn, utlsFingerprint }
    else none)

def draftFromFields (fields : JsonFields) : Parsed ProxyNodeDraft := do
  let protocol ← okOr (fields.protocol.bind protocolFromName) .unsupportedProtocol
  let name ← requiredNonblank fields.name
  let server ← requiredNonblank fields.server
  let port ← okOr (fields.port.filter (· > 0)) .invalidNode
  validateClashProtocolMetadata fields protocol
  let unsupportedSmux ← validateSmux fields protocol
  let options ← optionsFromFields fields protocol
  reject (!options.isCompatibleWith protocol) .invalidNode
  let transport ← transportFromFields fields
  let tls ← tlsFromFields fields protocol
  reject unsupportedSmux .unsupportedOption
  .ok { name, protocol, server, port, options, transport := some transport, tls }

end Veyra
