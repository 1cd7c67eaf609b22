import Veyra.Subscription.Draft

/-!
# Veyra.Subscription.Entry

The shape checks on one JSON or YAML proxy entry, before any field is read:
alias spellings are moved to their canonical name, unknown fields reject the
entry, and so do fields that its protocol does not have.
-/

namespace Veyra

/-! ## Values -/

def validNonemptyString (v : Json) : Bool := v.asStr?.any (!Text.blank ·)

def validString (v : Json) : Bool := v.asStr?.isSome

def validU32 (v : Json) : Bool := v.asU32?.isSome

def validBool (v : Json) : Bool := v.isBool

def validPositiveU32 (v : Json) : Bool := v.asU32?.any (· > 0)

def validFingerprint (v : Json) : Bool := v.asStr?.any (knownFingerprints.contains ·)

/-- The entries of an ALPN list; `seen` is the set of the ones before. -/
def validAlpnEntries (seen : List String) : List Json → Bool
  | [] => true
  | v :: vs =>
    match v.asStr? with
    | none => false
    | some s =>
      (1 ≤ s.toList.length && s.toList.length ≤ 255) &&
        ((Text.bytes s).all fun b => 0x21 ≤ b && b ≤ 0x7e) &&
        !seen.contains s && validAlpnEntries (s :: seen) vs

def validAlpn (v : Json) : Bool :=
  match v.asArr? with
  | none => false
  | some vs => !(vs.isEmpty || vs.length > 16) && validAlpnEntries [] vs

/-! ## Aliases -/

/-- `move_alias`: `none` when the alias holds an invalid value or contradicts the
canonical field. -/
def moveAlias (members : List (String × Json)) (spelling canonical : String)
    (valid : Json → Bool) : Option (List (String × Json)) :=
  match members.lookup spelling with
  | none => some members
  | some value =>
    let rest := Json.removeMember spelling members
    if !valid value || (rest.lookup canonical).any (fun existing => !existing.eqv value) then none
    else some (Json.setMember canonical value rest)

/-- `normalize_websocket_aliases`. -/
def normalizeWebsocketAliases (members : List (String × Json)) : Option (List (String × Json)) :=
  match members.lookup "ws-opts" with
  | some (.obj options) => do
    let options ← moveAlias options "max-early-data" "max_early_data" validU32
    let options ← moveAlias options "early-data-header-name" "early_data_header_name" validString
    some (Json.setMember "ws-opts" (.obj options) members)
  | _ => some members

/-- The alias moves of an entry, in the order of the source. -/
def normalizeAliases (members : List (String × Json)) : Option (List (String × Json)) := do
  let protocol := (members.lookup "type").bind Json.asStr?
  let vmess := protocol == some "vmess"
  let hysteria2 := protocol == some "hysteria2" || protocol == some "hy2"
  let members ← moveAlias members "servername" "sni" validNonemptyString
  let members ← if vmess then moveAlias members "alterId" "alter_id" validU32 else some members
  let members ←
    if vmess then moveAlias members "cipher" "security" validNonemptyString else some members
  let members ←
    if hysteria2 then moveAlias members "auth" "password" validNonemptyString else some members
  let members ←
    if hysteria2 then moveAlias members "insecure" "skip-cert-verify" validBool else some members
  normalizeWebsocketAliases members

/-! ## Nested objects -/

/-- Some key of the object is not among the allowed ones. -/
def hasOtherKey (allowed : List String) (members : List (String × Json)) : Bool :=
  members.any fun m => !allowed.contains m.1

/-- `contains_unknown`: anything but an object with allowed keys. -/
def containsUnknown (allowed : List String) (v : Json) : Bool :=
  v.asObj?.all (hasOtherKey allowed)

/-- The `enabled` member, a Boolean when the object is well formed. -/
def enabledFlag (members : List (String × Json)) : Option Bool :=
  (members.lookup "enabled").bind Json.asBool?

def invalidUtls (v : Json) : Bool :=
  match v.asObj? with
  | none => true
  | some utls =>
    hasOtherKey ["enabled", "fingerprint"] utls ||
      !(utls.lookup "enabled").any Json.isBool ||
      (!(enabledFlag utls).getD false && utls.length != 1) ||
      (utls.lookup "fingerprint").any (!validFingerprint ·)

def invalidReality (v : Json) : Bool :=
  match v.asObj? with
  | none => true
  | some reality =>
    if hasOtherKey ["enabled", "public_key", "short_id"] reality ||
        !(reality.lookup "enabled").any Json.isBool then true
    else if !(enabledFlag reality).getD false then reality.length != 1
    else ["public_key", "short_id"].any fun key =>
      ((reality.lookup key).bind Json.asStr?).all Text.blank

/-- `invalid_tls_value`. -/
def invalidTlsValue : Json → Bool
  | .bool _ => false
  | .str value => value != "tls"
  | .obj object =>
    if hasOtherKey ["enabled", "server_name", "insecure", "reality", "alpn", "utls"] object ||
        !(object.lookup "enabled").any Json.isBool then true
    else if !(enabledFlag object).getD false then object.length != 1
    else if (object.lookup "server_name").any (fun v => v.asStr?.all Text.blank) ||
        (object.lookup "insecure").any (!Json.isBool ·) ||
        (object.lookup "alpn").any (!validAlpn ·) then true
    else if (object.lookup "utls").any invalidUtls then true
    else (object.lookup "reality").any invalidReality
  | _ => true

/-- `invalid_transport_value`. -/
def invalidTransportValue (v : Json) : Bool :=
  match v.asObj? with
  | none => true
  | some object =>
    let present (key : String) := (object.lookup key).any (!Json.isNull ·)
    if hasOtherKey ["type", "path", "headers", "service_name", "max_early_data",
        "early_data_header_name"] object then true
    else match (object.lookup "type").bind Json.asStr? with
      | some "ws" => present "service_name"
      | some "grpc" => present "path" || present "headers" || present "max_early_data" ||
          present "early_data_header_name"
      | _ => true

/-- `invalid_websocket_headers`. -/
def invalidWebsocketHeaders (v : Json) : Bool :=
  match v.get? "headers" with
  | none => false
  | some headers =>
    match headers.asObj? with
    | none => true
    | some members =>
      if members.any (·.1 != "Host") then true
      else (members.lookup "Host").any fun
        | .str host => Text.blank host
        | .arr [host] => !(host.asStr?.any (!Text.blank ·))
        | _ => true

def invalidRealityOptions (v : Json) : Bool :=
  match v.asObj? with
  | none => true
  | some object => ["public-key", "short-id"].any fun key =>
      (object.lookup key).all (!validNonemptyString ·)

def invalidBrutal (v : Json) : Bool :=
  match v.asObj? with
  | none => true
  | some brutal =>
    !(brutal.lookup "enabled").any Json.isBool ||
      (brutal.lookup "up").any (!validPositiveU32 ·) ||
      (brutal.lookup "down").any (!validPositiveU32 ·) ||
      (enabledFlag brutal == some true &&
        ((brutal.lookup "up").isNone || (brutal.lookup "down").isNone))

def invalidSmux (v : Json) : Bool :=
  match v.asObj? with
  | none => true
  | some object =>
    if !(object.lookup "enabled").any Json.isBool ||
        (object.lookup "protocol").any (·.asStr? != some "h2mux") ||
        (object.lookup "only-tcp").any (!Json.isBool ·) ||
        (object.lookup "padding").any (!Json.isBool ·) then true
    else (object.lookup "brutal-opts").any invalidBrutal

/-- `has_invalid_clash_compatibility_fields`. -/
def hasInvalidClashCompatibilityFields (candidate : Json) : Bool :=
  let rejects (key : String) (invalid : Json → Bool) := (candidate.get? key).any invalid
  rejects "alpn" (!validAlpn ·) ||
    rejects "client-fingerprint" (!validFingerprint ·) ||
    rejects "insecure" (!Json.isBool ·) ||
    rejects "udp" (!Json.isBool ·) ||
    rejects "protocol" (·.asStr?.isNone) ||
    rejects "benchmark-url" (!validNonemptyString ·) ||
    rejects "benchmark-timeout" (!validPositiveU32 ·) ||
    rejects "reality-opts" invalidRealityOptions ||
    rejects "smux" invalidSmux ||
    (["up", "up-speed", "down", "down-speed"].any fun key => rejects key (!validPositiveU32 ·)) ||
    rejects "disable_mtu_discovery" (!Json.isBool ·) ||
    rejects "disable_path_mtu_discovery" (!Json.isBool ·)

/-- `has_unknown_nested_fields`. -/
def hasUnknownNestedFields (candidate : Json) : Bool :=
  let rejects (key : String) (invalid : Json → Bool) := (candidate.get? key).any invalid
  rejects "tls" invalidTlsValue ||
    rejects "transport" invalidTransportValue ||
    rejects "transport" invalidWebsocketHeaders ||
    rejects "ws-opts"
      (containsUnknown ["path", "headers", "max_early_data", "early_data_header_name"]) ||
    rejects "ws-opts" invalidWebsocketHeaders ||
    rejects "grpc-opts" (containsUnknown ["grpc-service-name"]) ||
    rejects "reality-opts" (containsUnknown ["public-key", "short-id"]) ||
    rejects "smux" (containsUnknown ["enabled", "protocol", "only-tcp", "padding", "brutal-opts"]) ||
    ((candidate.get? "smux").bind (·.get? "brutal-opts")).any
      (containsUnknown ["enabled", "up", "down"]) ||
    hasInvalidClashCompatibilityFields candidate

def knownJsonFields : List String :=
  ["name", "tag", "ps", "type", "server", "server_port", "port", "add", "uuid", "id", "password",
    "username", "user", "method", "cipher", "network", "net", "tls", "sni", "servername",
    "skip-cert-verify", "insecure", "alpn", "client-fingerprint", "reality-opts", "ws-opts",
    "grpc-opts", "transport", "path", "host", "alter_id", "security", "flow", "packet_encoding",
    "private_key", "private-key", "peer_public_key", "peer-public-key", "pre_shared_key",
    "pre-shared-key", "local_address", "local-address", "local_addresses", "local-addresses",
    "mtu", "reserved", "auth", "auth_str", "auth-str", "obfs", "up_mbps", "up-mbps", "up",
    "up-speed", "down_mbps", "down-mbps", "down", "down-speed", "protocol",
    "disable_mtu_discovery", "disable_path_mtu_discovery", "udp", "benchmark-url",
    "benchmark-timeout", "smux", "congestion_control", "congestion-control", "udp_relay_mode",
    "udp-relay-mode", "zero_rtt", "zero-rtt", "version", "private_key_passphrase",
    "private-key-passphrase", "host_key", "host-key", "psk"]

/-- `has_unknown_json_fields`. -/
def hasUnknownJsonFields (candidate : Json) : Bool :=
  candidate.asObj?.all fun members =>
    hasOtherKey knownJsonFields members || hasUnknownNestedFields candidate

/-! ## Fields a protocol does not have -/

def commonJsonFields : List String :=
  ["name", "tag", "ps", "type", "server", "server_port", "port", "add", "network", "net", "tls",
    "sni", "skip-cert-verify", "alpn", "client-fingerprint", "reality-opts", "ws-opts",
    "grpc-opts", "transport", "path", "host"]

/-- The fields of `has_illegal_protocol_fields` beyond the common ones. -/
def protocolJsonFields : ProxyProtocol → List String
  | .socks => ["username", "password", "version"]
  | .http => ["username", "password"]
  | .shadowsocks => ["method", "cipher", "password"]
  | .vmess => ["uuid", "id", "alter_id", "security"]
  | .vless => ["uuid", "id", "flow", "packet_encoding", "udp", "smux"]
  | .trojan => ["password"]
  | .wireGuard => ["private_key", "private-key", "peer_public_key", "peer-public-key",
      "pre_shared_key", "pre-shared-key", "local_address", "local-address", "local_addresses",
      "local-addresses", "mtu", "reserved"]
  | .hysteria => ["auth", "auth_str", "auth-str", "obfs", "up_mbps", "up-mbps", "down_mbps",
      "down-mbps"]
  | .hysteria2 => ["password", "obfs", "alpn", "up_mbps", "up-mbps", "up", "up-speed",
      "down_mbps", "down-mbps", "down", "down-speed", "protocol", "disable_mtu_discovery",
      "disable_path_mtu_discovery", "benchmark-url", "benchmark-timeout", "udp"]
  | .tuic => ["uuid", "id", "password", "congestion_control", "congestion-control",
      "udp_relay_mode", "udp-relay-mode", "zero_rtt", "zero-rtt"]
  | .shadowTls => ["version", "password"]
  | .ssh => ["user", "username", "password", "private_key", "private-key",
      "private_key_passphrase", "private-key-passphrase", "host_key", "host-key"]
  | .naive => ["username", "password"]
  | .anyTls => ["password"]
  | .snell => ["psk", "password", "version"]

end Veyra
