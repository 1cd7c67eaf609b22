import Veyra.Subscription.Fields

/-!
# Veyra.Subscription.Uri

Share links: `parse_uri` with its query parameters, the legacy JSON payload of
`vmess://`, and the options, TLS settings and transport a link spells.
-/

namespace Veyra

open Check

/-- The decoded query parameters; no key occurs twice. -/
abbrev Query := List (String × String)

def Query.get (query : Query) (key : String) : Option String := List.lookup key query

def Query.has (query : Query) (key : String) : Bool := (query.get key).isSome

/-- `parse_query`; `seen` holds the entries before. -/
def parseQueryEntries (seen : Query) : List String → Parsed Query
  | [] => .ok seen
  | entry :: entries => do
    let (key, value) ← okOr (Text.splitOnce "=" entry) .invalidNode
    let key := percentDecode key
    reject (key = "" || seen.has key) .invalidNode
    parseQueryEntries (seen ++ [(key, percentDecode value)]) entries

def parseQuery (query : String) : Parsed Query :=
  if query = "" then .ok [] else parseQueryEntries [] (Text.split '&' query)

/-- `split_host_port`: the brackets of an IPv6 literal are dropped. -/
def splitHostPort (input : String) : Parsed (String × UInt16) := do
  let (host, port) ← okOr (Text.rsplitOnce ':' input) .invalidNode
  let port ← okOr (Text.parseU16 port) .invalidNode
  reject (host = "" || port = 0) .invalidNode
  let bracket (c : Char) : Bool := c = '[' || c = ']'
  let trimmed := ((host.toList.dropWhile bracket).reverse.dropWhile bracket).reverse
  .ok (String.ofList trimmed, port)

/-! ## Query values -/

/-- `required_query_string`: the first of the keys that is there. -/
def requiredQueryString (query : Query) (keys : List String) : Parsed String :=
  requiredNonblank (keys.findSome? query.get)

/-- `query_string_list`. -/
def queryStringList (query : Query) (keys : List String) : Parsed (List String) := do
  let joined ← requiredQueryString query keys
  let values := ((Text.split ',' joined).map Text.trim).filter (· != "")
  reject values.isEmpty .invalidNode
  .ok values

/-- `optional_query_u32`. -/
def optionalQueryU32 (query : Query) (key : String) : Parsed (Option UInt32) :=
  match query.get key with
  | none => .ok none
  | some value => (okOr (Text.parseU32 value) .invalidNode).map some

/-- `optional_query_u32_alias`: at most one of the spellings. -/
def optionalQueryU32Alias (query : Query) (keys : List String) : Parsed (Option UInt32) :=
  match keys.filterMap query.get with
  | [] => .ok none
  | [value] => (okOr (Text.parseU32 value) .invalidNode).map some
  | _ => .error .invalidNode

/-- `optional_query_u8`. -/
def optionalQueryU8 (query : Query) (key : String) : Parsed (Option UInt8) := do
  match ← optionalQueryU32 query key with
  | none => .ok none
  | some n => if n ≤ 0xff then .ok (some n.toUInt8) else .error .invalidNode

/-- `optional_query_bool`. -/
def optionalQueryBool (query : Query) (key : String) : Parsed (Option Bool) :=
  match query.get key with
  | none => .ok none
  | some "0" => .ok (some false)
  | some "1" => .ok (some true)
  | some _ => .error .invalidNode

/-- `optional_query_reserved`. -/
def optionalQueryReserved (query : Query) : Parsed (Option (UInt8 × UInt8 × UInt8)) :=
  match query.get "reserved" with
  | none => .ok none
  | some value => do
    match ← (Text.split ',' value).mapM fun v => okOr (Text.parseU8 v) .invalidNode with
    | [a, b, c] => .ok (some (a, b, c))
    | _ => .error .invalidNode

/-- `password_option`. -/
def passwordOption (raw : String) : Parsed String :=
  if raw = "" then .error .invalidNode else .ok raw

/-! ## The parts of a link -/

/-- The query keys of `has_unknown_uri_query` beyond the common ones. -/
def protocolQueryFields : ProxyProtocol → List String
  | .socks => ["version"]
  | .vless => ["flow"]
  | .hysteria2 => ["obfs-password"]
  | .wireGuard => ["peer_public_key", "publickey", "pre_shared_key", "presharedkey",
      "local_address", "address", "mtu", "reserved"]
  | .hysteria => ["auth", "auth_str", "obfs", "up_mbps", "upmbps", "down_mbps", "downmbps"]
  | .tuic => ["congestion_control", "udp_relay_mode", "zero_rtt"]
  | .shadowTls | .snell => ["version"]
  | .ssh => ["private_key", "private_key_passphrase", "host_key"]
  | .vmess | .http | .shadowsocks | .trojan | .naive | .anyTls => []

def commonQueryFields : List String :=
  ["security", "sni", "allowInsecure", "type", "path", "host", "serviceName", "pbk", "sid"]

/-- `has_unknown_uri_query`. -/
def hasUnknownUriQuery (protocol : ProxyProtocol) (query : Query) : Bool :=
  query.any fun entry =>
    !commonQueryFields.contains entry.1 && !(protocolQueryFields protocol).contains entry.1

/-- The `method:password` of a shadowsocks link, in the clear or as base64. -/
def shadowsocksCredentials (raw : String) : Parsed String :=
  if Text.contains raw ":" then .ok raw
  else (decodeBase64 raw).mapError fun _ => .invalidNode

/-- `parse_uri_options`. -/
def parseUriOptions (protocol : ProxyProtocol) (scheme raw : String) (query : Query) :
    Parsed ProtocolOptions :=
  let raw := percentDecode raw
  let nonempty (s : String) : Option String := if s = "" then none else some s
  match protocol with
  | .vmess => do .ok (.vmess (← passwordOption raw) none none)
  | .vless => do .ok (.vless (← passwordOption raw) (query.get "flow"))
  | .shadowsocks => do
    let decoded ← shadowsocksCredentials raw
    let (cipher, password) ← okOr (Text.splitOnce ":" decoded) .invalidNode
    .ok (.shadowsocks cipher password)
  | .socks =>
    let (username, password) := (Text.splitOnce ":" raw).getD ("", "")
    .ok (.socks (((query.get "version").bind Text.parseU8).getD 5) (nonempty username)
      (nonempty password))
  | .http =>
    let (username, password) := (Text.splitOnce ":" raw).getD ("", "")
    .ok (.http (nonempty username) (nonempty password) (eqIgnoreAsciiCase scheme "https"))
  | .trojan => do .ok (.trojan (← passwordOption raw))
  | .hysteria2 => do
    .ok (.hysteria2 (← passwordOption raw) (query.get "obfs-password") none none none)
  | .anyTls => do .ok (.anyTls (← passwordOption raw))
  | .wireGuard => do
    let privateKey ← passwordOption raw
    let peerPublicKey ← requiredQueryString query ["peer_public_key", "publickey"]
    let preSharedKey := (query.get "pre_shared_key").or (query.get "presharedkey")
    let localAddresses ← queryStringList query ["local_address", "address"]
    let mtu ← optionalQueryU32 query "mtu"
    .ok (.wireGuard privateKey peerPublicKey preSharedKey localAddresses mtu
      (← optionalQueryReserved query))
  | .hysteria => do
    let auth ← requiredNonblank
      ((nonempty raw).or ((query.get "auth").or (query.get "auth_str")))
    let up ← optionalQueryU32Alias query ["up_mbps", "upmbps"]
    .ok (.hysteria auth (query.get "obfs") up
      (← optionalQueryU32Alias query ["down_mbps", "downmbps"]))
  | .tuic => do
    let (uuid, password) ← okOr (Text.splitOnce ":" raw) .invalidNode
    let uuid ← passwordOption uuid
    let password ← passwordOption password
    let zeroRtt ← optionalQueryBool query "zero_rtt"
    .ok (.tuic uuid password (query.get "congestion_control") (query.get "udp_relay_mode")
      (zeroRtt.getD false))
  | .shadowTls => do
    let version ← optionalQueryU8 query "version"
    .ok (.shadowTls (version.getD 3) (← passwordOption raw))
  | .ssh => do
    let (user, password) := (Text.splitOnce ":" raw).getD (raw, "")
    .ok (.ssh (← passwordOption user) (nonempty password) (query.get "private_key")
      (query.get "private_key_passphrase") (query.get "host_key"))
  | .naive => do
    let (username, password) ← okOr (Text.splitOnce ":" raw) .invalidNode
    let username ← passwordOption username
    .ok (.naive username (← passwordOption password))
  | .snell => do
    let psk ← passwordOption raw
    let version ← optionalQueryU8 query "version"
    .ok (.snell psk (version.getD 3))

/-- The settings of a link without ALPN and fingerprint, which no query key carries. -/
def uriTlsOptions (serverName : Option String) (allowInsecure : Bool)
    (realityPublicKey realityShortId : Option String) : TlsOptions :=
  { serverName, allowInsecure, realityPublicKey, realityShortId, alpn := []
    utlsFingerprint := none }

/-- The protocols whose links may have TLS parameters. -/
def ProxyProtocol.acceptsUriTls : ProxyProtocol → Bool
  | .vmess | .vless | .trojan | .hysteria | .hysteria2 | .tuic | .naive | .anyTls => true
  | _ => false

/-- The protocols whose links mean TLS when they say nothing. -/
def ProxyProtocol.impliesUriTls : ProxyProtocol → Bool
  | .trojan | .hysteria | .hysteria2 | .tuic | .naive => true
  | _ => false

/-- The `allowInsecure` parameter. -/
def uriAllowInsecure (query : Query) : Parsed Bool :=
  match query.get "allowInsecure" with
  | none | some "0" => .ok false
  | some "1" => .ok true
  | some _ => .error .invalidNode

/-- `parse_uri_tls`. -/
def parseUriTls (protocol : ProxyProtocol) (query : Query) : Parsed (Option TlsOptions) := do
  reject (["security", "sni", "allowInsecure", "pbk", "sid"].any query.has &&
    !protocol.acceptsUriTls) .invalidNode
  reject ((query.has "pbk" || query.has "sid") && query.get "security" != some "reality")
    .invalidNode
  let allowInsecure ← uriAllowInsecure query
  let serverName := (query.get "sni").filter (!Text.blank ·)
  reject ((query.get "sni").isSome && serverName.isNone) .invalidNode
  match query.get "security" with
  | some "tls" => .ok (some (uriTlsOptions serverName allowInsecure none none))
  | some "reality" => do
    let publicKey ← requiredQueryString query ["pbk"]
    let shortId ← requiredQueryString query ["sid"]
    .ok (some (uriTlsOptions serverName allowInsecure (some publicKey) (some shortId)))
  | some "none" =>
    if allowInsecure || serverName.isSome then .error .invalidNode else .ok none
  | some _ => .error .invalidNode
  | none =>
    if protocol.impliesUriTls then .ok (some (uriTlsOptions serverName allowInsecure none none))
    else if allowInsecure || serverName.isSome then .error .invalidNode
    else .ok none

/-- The protocols that run over a V2Ray transport. -/
def ProxyProtocol.acceptsTransport : ProxyProtocol → Bool
  | .vmess | .vless | .trojan => true
  | _ => false

/-- `parse_uri_transport`. -/
def parseUriTransport (protocol : ProxyProtocol) (query : Query) : Parsed Transport := do
  reject (query.has "type" && !protocol.acceptsTransport) .invalidNode
  match query.get "type" with
  | none | some "tcp" =>
    if query.has "path" || query.has "host" || query.has "serviceName" then .error .invalidNode
    else .ok .tcp
  | some "ws" =>
    if query.has "serviceName" then .error .invalidNode
    else .ok (.websocket ((query.get "path").getD "/") (query.get "host") none none)
  | some "grpc" =>
    if query.has "path" || query.has "host" then .error .invalidNode
    else .ok (.grpc ((query.get "serviceName").getD ""))
  | some _ => .error .invalidNode

/-! ## Legacy vmess links -/

def legacyVmessFields : List String :=
  ["v", "ps", "add", "port", "id", "aid", "scy", "net", "type", "host", "path", "tls", "sni",
    "security", "pbk", "sid"]

/-- A number, or a string that spells one. -/
def numberOrString (v : Json) : Option Nat :=
  (v.asU64?.map UInt64.toNat).or (v.asStr?.bind (Text.parseUnsigned (2 ^ 64)))

/-- `has_invalid_legacy_vmess_fields`. -/
def hasInvalidLegacyVmessFields (object : List (String × Json)) : Bool :=
  let str (key : String) := (object.lookup key).bind Json.asStr?
  let blankString (key : String) := (str key).all Text.blank
  let badOptional (key : String) := (object.lookup key).any fun v => v.asStr?.all Text.blank
  if hasOtherKey legacyVmessFields object || str "v" != some "2" ||
      ["ps", "add", "id"].any blankString ||
      (object.lookup "type").any (·.asStr? != some "none") ||
      (object.lookup "port").all (fun v =>
        (numberOrString v).all fun port => port = 0 || port > 65535) ||
      (object.lookup "aid").any (fun v => (numberOrString v).isNone) ||
      badOptional "scy" || badOptional "security" then true
  else if (object.lookup "tls").any (fun v => v.asStr?.all fun s => s != "" && s != "tls") ||
      badOptional "sni" || ((object.lookup "sni").isSome && str "tls" != some "tls") then true
  else match str "net" with
    | some "tcp" => (object.lookup "path").isSome || (object.lookup "host").isSome
    | some "ws" => blankString "path" || badOptional "host"
    | some "grpc" => blankString "path" || (object.lookup "host").isSome
    | _ => true

/-- Rename a member if it is there. -/
def renameMember (old new : String) (members : List (String × Json)) : List (String × Json) :=
  match members.lookup old with
  | none => members
  | some v => Json.setMember new v (Json.removeMember old members)

/-- The rewriting of a legacy payload into the fields of a JSON entry. -/
def legacyVmessEntry (object : List (String × Json)) : Parsed (List (String × Json)) := do
  reject (hasInvalidLegacyVmessFields object) .invalidNode
  let object := Json.removeMember "type" (Json.removeMember "v" object)
  let object := renameMember "scy" "security" (renameMember "aid" "alter_id" object)
  let object ←
    if (object.lookup "net").bind Json.asStr? = some "grpc" then do
      let serviceName ← okOr (object.lookup "path") .invalidNode
      .ok (Json.setMember "grpc-opts" (.obj [("grpc-service-name", serviceName)])
        (Json.removeMember "path" object))
    else .ok object
  let object :=
    if (object.lookup "tls").any (·.asStr? = some "") then Json.removeMember "tls" object
    else object
  .ok (Json.setMember "type" (.str "vmess") object)

/-- The checks that an entry passes before its fields are read, then the draft. -/
def draftFromEntry (entry : Json) : Parsed ProxyNodeDraft := do
  reject (hasUnknownJsonFields entry) .invalidNode
  let fields := JsonFields.ofValue entry
  reject (hasIllegalProtocolFields fields) .invalidNode
  draftFromFields fields

/-- The `vmess` branch of `parse_uri`. -/
def parseLegacyVmess (readers : DocumentReaders) (remainder : String) : Parsed ProxyNodeDraft := do
  let (payload, fragment) := (Text.splitOnce "#" remainder).getD (remainder, "")
  let json ← (decodeBase64 payload).mapError fun _ => .invalidNode
  let value ← okOr (readers.json json) .invalidNode
  let object ← okOr value.asObj? .invalidNode
  let entry ← legacyVmessEntry object
  let draft ← draftFromEntry (.obj entry)
  .ok { draft with name := if fragment = "" then draft.name else percentDecode fragment }

/-! ## Links -/

/-- The part of `parse_uri` after the scheme. -/
def parsePlainUri (scheme remainder : String) : Parsed ProxyNodeDraft := do
  let protocol ← okOr (protocolFromName scheme) .unsupportedProtocol
  let (beforeFragment, fragment) := (Text.splitOnce "#" remainder).getD (remainder, "")
  let (authority, query) := (Text.splitOnce "?" beforeFragment).getD (beforeFragment, "")
  let (credentials, hostPort) := (Text.rsplitOnce '@' authority).getD ("", authority)
  let (server, port) ← splitHostPort hostPort
  let query ← parseQuery query
  reject (hasUnknownUriQuery protocol query) .invalidNode
  reject (query.any fun entry =>
    !(["allowInsecure", "zero_rtt"].contains entry.1) && Text.blank entry.2) .invalidNode
  let name := if fragment = "" then
      String.ofList (scheme.toList ++ ' ' :: server.toList)
    else percentDecode fragment
  let options ← parseUriOptions protocol scheme credentials query
  reject (!options.isCompatibleWith protocol) .invalidNode
  let tls ← parseUriTls protocol query
  let transport ← parseUriTransport protocol query
  .ok { name, protocol, server, port, options, transport := some transport, tls }

def parseUri (readers : DocumentReaders) (uri : String) : Parsed ProxyNodeDraft := do
  let (scheme, remainder) ← okOr (Text.splitOnce "://" uri) .invalidNode
  if eqIgnoreAsciiCase scheme "vmess" then parseLegacyVmess readers remainder
  else parsePlainUri scheme remainder

end Veyra
