import Veyra.Domain.Validation
import Veyra.Lib.Json

/-!
# Veyra.Subscription.Draft

What the subscription parser hands out, and the text encodings it reads:
percent-encoded query values and base64 payloads.
-/

namespace Veyra

/-! ## Results -/

inductive SubscriptionFormat
  | json
  | clashYaml
  | uriList
  | base64
deriving DecidableEq, Repr

structure ProxyNodeDraft where
  name : String
  protocol : ProxyProtocol
  server : String
  port : UInt16
  options : ProtocolOptions
  transport : Option Transport
  tls : Option TlsOptions
deriving DecidableEq, Repr

inductive SkippedNode
  | unsupportedProtocol
  | unsupportedOption
  | invalidNode
deriving DecidableEq, Repr

structure ParseResult where
  format : SubscriptionFormat
  nodes : List ProxyNodeDraft
  skipped : List SkippedNode
deriving DecidableEq, Repr

inductive ParseError
  | emptyInput
  | unsupportedInput
  | invalidBase64
deriving DecidableEq, Repr

/-- The document readers: `serde_json::from_str::<Value>`,
`serde_yaml_ng::from_str::<Value>`, and the YAML reader of the editor, which
goes through `serde_yaml_ng::Value`. -/
structure DocumentReaders where
  json : String → Option Json
  yaml : String → Option Json
  yamlValue : String → Option Json

/-- `protocol_from_name`. -/
def protocolFromName (value : String) : Option ProxyProtocol :=
  match Text.lower value with
  | "ss" | "shadowsocks" => some .shadowsocks
  | "vmess" => some .vmess
  | "vless" => some .vless
  | "trojan" => some .trojan
  | "wireguard" | "wg" => some .wireGuard
  | "hysteria" | "hy" => some .hysteria
  | "hysteria2" | "hy2" => some .hysteria2
  | "tuic" => some .tuic
  | "shadowtls" => some .shadowTls
  | "ssh" => some .ssh
  | "naive" | "naive+https" => some .naive
  | "socks" | "socks5" => some .socks
  | "http" | "https" => some .http
  | "anytls" | "any_tls" => some .anyTls
  | "snell" => some .snell
  | _ => none

/-- `str::eq_ignore_ascii_case`. -/
def eqIgnoreAsciiCase (a b : String) : Bool := Text.lower a == Text.lower b

/-! ## Percent-encoding -/

/-- `u8::from_str_radix(_, 16)` on two bytes; as for every unsigned integer a leading `+`
is allowed. -/
def hexByte (hi lo : UInt8) : Option UInt8 :=
  let digit (b : UInt8) : Option UInt8 :=
    if 0x30 ≤ b && b ≤ 0x39 then some (b - 0x30)
    else if 0x61 ≤ b && b ≤ 0x66 then some (b - 0x61 + 10)
    else if 0x41 ≤ b && b ≤ 0x46 then some (b - 0x41 + 10)
    else none
  if hi = 0x2b then digit lo
  else (digit hi).bind fun h => (digit lo).map fun l => h * 16 + l

/-- `char::from(u8)`. -/
def charOfByte (b : UInt8) : Char := Char.ofNat b.toNat

/-- The loop of `percent_decode`: each byte, escaped or not, becomes one character. -/
def percentDecodeBytes : List UInt8 → List Char
  | [] => []
  | b :: rest =>
    match rest with
    | h :: l :: tail =>
      match if b = 0x25 then hexByte h l else none with
      | some byte => charOfByte byte :: percentDecodeBytes tail
      | none => charOfByte b :: percentDecodeBytes (h :: l :: tail)
    | rest => charOfByte b :: percentDecodeBytes rest

def percentDecode (value : String) : String := String.ofList (percentDecodeBytes (Text.bytes value))

/-! ## Base64 -/

/-- The value of a byte in either base64 alphabet. -/
def sextet (b : UInt8) : Option UInt32 :=
  if 0x41 ≤ b && b ≤ 0x5a then some (b - 0x41).toUInt32
  else if 0x61 ≤ b && b ≤ 0x7a then some (b - 0x61 + 26).toUInt32
  else if 0x30 ≤ b && b ≤ 0x39 then some (b - 0x30 + 52).toUInt32
  else if b = 0x2b || b = 0x2d then some 62
  else if b = 0x2f || b = 0x5f then some 63
  else none

/-- The loop of `decode_base64`, which stops at the first `=`.  Fewer than eight bits are
pending between two bytes, so its inner loop pushes at most one byte. -/
def decodeBase64Bytes (buffer : UInt32) (bits : UInt8) : List UInt8 → Option (List UInt8)
  | [] => some []
  | b :: rest =>
    if b = 0x3d then some []
    else (sextet b).bind fun value =>
      let buffer := (buffer <<< 6) ||| value
      let bits := bits + 6
      if bits ≥ 8 then
        (decodeBase64Bytes buffer (bits - 8) rest).map fun out =>
          ((buffer >>> (bits - 8).toUInt32) &&& 0xff).toUInt8 :: out
      else decodeBase64Bytes buffer bits rest

/-- `String::from_utf8`. -/
def ofUtf8 (bytes : List UInt8) : Option String := String.fromUTF8? ⟨bytes.toArray⟩

def decodeBase64 (input : String) : Except ParseError String :=
  let input := (Text.trim input).toList.filter fun c => c != '\r' && c != '\n'
  Check.okOr ((decodeBase64Bytes 0 0 (Text.bytes (String.ofList input))).bind ofUtf8) .invalidBase64

end Veyra
