import Veyra.Domain.Validation
import Veyra.Lib.Ip

/-!
# Veyra.Singbox.NodeCheck

`validate_node` of the configuration compiler: what the pinned core can run.
It looks again at much that the domain has checked and adds rules of its own,
such as the syntax of servers, UUIDs and keys, or the protocols that need TLS.
-/

namespace Veyra

open Check

inductive CompileError
  | emptyPoolMembership
  | invalidNodeConfiguration
  | invalidRouteTarget
  | unsupportedNodeProtocol
  | invalidFinalConfiguration
  | serializationFailed
deriving DecidableEq, Repr

/-! ## Syntax -/

def hasNul (value : String) : Bool := value.toList.contains '\x00'

/-- `present`: neither blank nor with a NUL. -/
def present (value : String) : Bool := !Text.blank value && !hasNul value

def isAsciiHexByte (b : UInt8) : Bool :=
  (0x30 ≤ b && b ≤ 0x39) || (0x61 ≤ b && b ≤ 0x66) || (0x41 ≤ b && b ≤ 0x46)

def isAsciiAlphanumericByte (b : UInt8) : Bool :=
  (0x30 ≤ b && b ≤ 0x39) || (0x61 ≤ b && b ≤ 0x7a) || (0x41 ≤ b && b ≤ 0x5a)

/-- `valid_uuid`. -/
def validUuid (uuid : String) : Bool :=
  Text.len uuid == 36 && (Text.bytes uuid).zipIdx.all fun (byte, index) =>
    if [8, 13, 18, 23].contains index then byte = 0x2d else isAsciiHexByte byte

/-- The value of a byte in the alphabet that the kind of key uses. -/
def keySextet (urlSafe : Bool) (b : UInt8) : Option UInt8 :=
  if 0x41 ≤ b && b ≤ 0x5a then some (b - 0x41)
  else if 0x61 ≤ b && b ≤ 0x7a then some (b - 0x61 + 26)
  else if 0x30 ≤ b && b ≤ 0x39 then some (b - 0x30 + 52)
  else if (if urlSafe then b = 0x2d else b = 0x2b) then some 62
  else if (if urlSafe then b = 0x5f else b = 0x2f) then some 63
  else none

/-- `valid_key`: 32 bytes in base64, padded unless the alphabet is the URL-safe one. -/
def validKey (key : String) (urlSafe : Bool) : Bool :=
  let bytes := Text.bytes key
  let payload? :=
    if urlSafe && bytes.length == 43 then some bytes
    else if !urlSafe && bytes.length == 44 && bytes.getD 43 0 == 0x3d then some (bytes.take 43)
    else none
  payload?.any fun payload =>
    (payload.all fun b => (keySextet urlSafe b).isSome) &&
      (keySextet urlSafe (payload.getD 42 0)).any (fun v => v &&& 3 == 0)

/-- `valid_prefix`. -/
def validPrefix (value : String) : Bool :=
  match Text.splitOnce "/" value with
  | none => false
  | some (address, length) =>
    match Ip.parse address, Text.parseU8 length with
    | some .v4, some n => n ≤ 32
    | some .v6, some n => n ≤ 128
    | _, _ => false

/-- A label of a host name. -/
def validLabel (label : String) : Bool :=
  label != "" && Text.len label ≤ 63 && !Text.startsWith label "-" &&
    label.toList.getLast? != some '-' &&
    (Text.bytes label).all fun b => isAsciiAlphanumericByte b || b = 0x2d

/-- `valid_server`: an IP address or a host name, with at most one final dot. -/
def validServer (server : String) : Bool :=
  if (Ip.parse server).isSome then true
  else
    let chars := server.toList
    let host := if chars.getLast? = some '.' then String.ofList chars.dropLast else server
    host != "" && Text.len host ≤ 253 && (Text.split '.' host).all validLabel

/-! ## Protocols -/

/-- The protocols that may have TLS settings. -/
def ProxyProtocol.supportsTls : ProxyProtocol → Bool
  | .http | .vmess | .vless | .trojan | .hysteria | .hysteria2 | .tuic | .shadowTls | .naive
  | .anyTls => true
  | _ => false

/-- The protocols that must have TLS settings. -/
def ProxyProtocol.requiresTls : ProxyProtocol → Bool
  | .trojan | .hysteria | .hysteria2 | .tuic | .shadowTls | .naive | .anyTls => true
  | _ => false

/-- The protocols that run over a V2Ray transport. -/
def ProxyProtocol.runsOverTransport : ProxyProtocol → Bool
  | .vmess | .vless | .trojan => true
  | _ => false

/-! ## The parts of a node -/

/-- The short id of Reality: up to eight bytes in hexadecimal. -/
def validShortId (shortId : String) : Bool :=
  shortId != "" && Text.len shortId ≤ 16 && Text.len shortId % 2 == 0 &&
    (Text.bytes shortId).all isAsciiHexByte

/-- The Reality settings: none, or both of a VLESS node. -/
def acceptsReality (protocol : ProxyProtocol) (tls : TlsOptions) : Bool :=
  match tls.realityPublicKey, tls.realityShortId with
  | none, none => true
  | some key, some shortId => protocol = .vless && validKey key true && validShortId shortId
  | _, _ => false

def acceptsTls (protocol : ProxyProtocol) (tls : TlsOptions) : Bool :=
  tls.isValid && tls.serverName.all validServer && acceptsReality protocol tls

def acceptsTransport (protocol : ProxyProtocol) (transport : Transport) : Bool :=
  match transport with
  | .tcp => true
  | .websocket path host _ _ =>
    protocol.runsOverTransport && transport.hasValidEarlyData && Text.startsWith path "/" &&
      !path.toList.any Text.isControl &&
      host.all fun h => present h && !h.toList.any Text.isControl
  | .grpc serviceName => protocol.runsOverTransport && present serviceName

/-- The last match of `validate_node`; `hasTls` says whether the node has TLS settings. -/
def acceptsOptions (hasTls : Bool) : ProtocolOptions → Bool
  | .socks version username password =>
    (version == 4 || version == 5) && username.all present && password.all present
  | .http username password _ => username.all present && password.all present
  | .shadowsocks method password => present method && present password
  | .vmess uuid _ security =>
    validUuid uuid &&
      security.all (["auto", "none", "zero", "aes-128-gcm", "chacha20-poly1305"].contains ·)
  | .vless uuid flow =>
    validUuid uuid && flow.all fun v => v == "xtls-rprx-vision" && hasTls
  | .trojan password | .anyTls password => present password
  | .wireGuard privateKey peerPublicKey preSharedKey localAddresses _ _ =>
    validKey privateKey false && validKey peerPublicKey false &&
      preSharedKey.all (validKey · false) && !localAddresses.isEmpty &&
      localAddresses.all validPrefix
  | .hysteria auth obfs upMbps downMbps =>
    present auth && obfs.all present && upMbps.any (· > 0) && downMbps.any (· > 0)
  | .hysteria2 password obfs upMbps downMbps _ =>
    present password && obfs.all present && upMbps.all (· > 0) && downMbps.all (· > 0)
  | .tuic uuid password congestionControl udpRelayMode _ =>
    validUuid uuid && present password &&
      congestionControl.all (["cubic", "new_reno", "bbr"].contains ·) &&
      udpRelayMode.all (["native", "quic"].contains ·)
  | .shadowTls version password => (1 ≤ version && version ≤ 3) && present password
  | .ssh user password privateKey privateKeyPassphrase hostKey =>
    present user && password.all present && privateKey.all present &&
      privateKeyPassphrase.all (fun _ => privateKey.isSome) && hostKey.all present
  | .naive username password => present username && present password
  | .snell psk version => present psk && version == 4

def validateNode (node : ProxyNode) : Except CompileError Unit := do
  reject (!present node.id.val || !validServer node.server || node.port = 0 ||
    !node.options.isCompatibleWith node.protocol) .invalidNodeConfiguration
  reject ((node.tls.isSome && !node.protocol.supportsTls) ||
    (node.protocol.requiresTls && node.tls.isNone)) .invalidNodeConfiguration
  reject (node.tls.any (!acceptsTls node.protocol ·)) .invalidNodeConfiguration
  reject (node.transport.any (!acceptsTransport node.protocol ·)) .invalidNodeConfiguration
  reject (!acceptsOptions node.tls.isSome node.options) .invalidNodeConfiguration

end Veyra
