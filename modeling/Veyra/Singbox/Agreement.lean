import Veyra.Application.Content
import Veyra.Singbox.NodeCheck
import Veyra.Subscription.Checked

/-!
# Veyra.Singbox.Agreement

Where the subscription parser and the configuration compiler agree on what a
node is.  Two rule sets were written independently: what the parser keeps and
what `validateNode` accepts.  `SharedChecks` is their common part, and
`compilerOnly` lists what the compiler asks for beyond it: the syntax of
servers, UUIDs and keys, the protocols that need or refuse TLS, closed sets of
option values, and values without NUL.
-/

namespace Veyra

open Check

/-! ## The two parts -/

/-- What every kept node satisfies and the compiler checks again. -/
structure ProxyNode.SharedChecks (n : ProxyNode) : Prop where
  id : present n.id.val = true
  port : n.port ≠ 0
  options : n.options.isCompatibleWith n.protocol = true
  secrets : n.options.secretsNonblank = true
  tls : n.tls.all (·.wellFormed) = true
  transport : n.transport.all (·.hasValidEarlyData) = true

def compilerOnlyTls (protocol : ProxyProtocol) (tls : TlsOptions) : Bool :=
  tls.serverName.all validServer &&
    tls.realityPublicKey.all (fun key => protocol = .vless && validKey key true) &&
    tls.realityShortId.all validShortId

def compilerOnlyTransport (protocol : ProxyProtocol) : Transport → Bool
  | .tcp => true
  | .websocket path host _ _ =>
    protocol.runsOverTransport && Text.startsWith path "/" && !path.toList.any Text.isControl &&
      host.all fun h => present h && !h.toList.any Text.isControl
  | .grpc serviceName => protocol.runsOverTransport && present serviceName

def compilerOnlyOptions (hasTls : Bool) : ProtocolOptions → Bool
  | .socks _ username password | .http username password _ =>
    username.all (!hasNul ·) && password.all (!hasNul ·)
  | .shadowsocks method password => !hasNul method && !hasNul password
  | .vmess uuid _ security =>
    validUuid uuid &&
      security.all (["auto", "none", "zero", "aes-128-gcm", "chacha20-poly1305"].contains ·)
  | .vless uuid flow =>
    validUuid uuid && flow.all fun v => v == "xtls-rprx-vision" && hasTls
  | .trojan password | .anyTls password => !hasNul password
  | .wireGuard privateKey peerPublicKey preSharedKey localAddresses _ _ =>
    validKey privateKey false && validKey peerPublicKey false &&
      preSharedKey.all (validKey · false) && localAddresses.all validPrefix
  | .hysteria auth obfs upMbps downMbps =>
    !hasNul auth && obfs.all (!hasNul ·) && upMbps.any (· > 0) && downMbps.any (· > 0)
  | .hysteria2 password obfs _ _ _ => !hasNul password && obfs.all (!hasNul ·)
  | .tuic uuid password congestionControl udpRelayMode _ =>
    validUuid uuid && !hasNul password &&
      congestionControl.all (["cubic", "new_reno", "bbr"].contains ·) &&
      udpRelayMode.all (["native", "quic"].contains ·)
  | .shadowTls version password => (1 ≤ version && version ≤ 3) && !hasNul password
  | .ssh user password privateKey privateKeyPassphrase hostKey =>
    !hasNul user && password.all present && privateKey.all (!hasNul ·) &&
      privateKeyPassphrase.all (fun _ => privateKey.isSome) && hostKey.all (!hasNul ·)
  | .naive username password => !hasNul username && !hasNul password
  | .snell psk version => !hasNul psk && version == 4

/-- What the compiler asks for beyond the shared checks. -/
def compilerOnly (n : ProxyNode) : Bool :=
  validServer n.server &&
    (n.tls.isNone || n.protocol.supportsTls) && (!n.protocol.requiresTls || n.tls.isSome) &&
    n.tls.all (compilerOnlyTls n.protocol) && n.transport.all (compilerOnlyTransport n.protocol) &&
    compilerOnlyOptions n.tls.isSome n.options

/-! ## Part by part -/

/-- For a value that is not blank, being present means having no NUL. -/
theorem present_of_nonblank {s : String} (h : (!Text.blank s) = true) : present s = !hasNul s := by
  rw [present, h, Bool.true_and]

theorem all_present_of_nonblank {o : Option String} (h : o.all (!Text.blank ·) = true) :
    o.all present = o.all (!hasNul ·) := by
  cases o with
  | none => rfl
  | some s => simpa using present_of_nonblank h

theorem acceptsTls_eq {protocol : ProxyProtocol} {tls : TlsOptions} (h : tls.wellFormed = true) :
    acceptsTls protocol tls = compilerOnlyTls protocol tls := by
  rw [TlsOptions.wellFormed, Bool.and_eq_true, beq_iff_eq] at h
  obtain ⟨hvalid, hpaired⟩ := h
  rw [acceptsTls, compilerOnlyTls, acceptsReality, hvalid]
  cases hkey : tls.realityPublicKey with
  | none =>
    cases hid : tls.realityShortId with
    | none => simp
    | some shortId => simp [hkey, hid] at hpaired
  | some key =>
    cases hid : tls.realityShortId with
    | none => simp [hkey, hid] at hpaired
    | some shortId => simp [Bool.and_assoc]

theorem acceptsTransport_eq {protocol : ProxyProtocol} {transport : Transport}
    (h : transport.hasValidEarlyData = true) :
    acceptsTransport protocol transport = compilerOnlyTransport protocol transport := by
  cases transport with
  | tcp => rfl
  | websocket path host maxEarlyData headerName =>
    simp only [acceptsTransport, compilerOnlyTransport, h, Bool.and_true]
  | grpc serviceName => rfl

theorem acceptsOptions_eq {protocol : ProxyProtocol} {hasTls : Bool} {options : ProtocolOptions}
    (hcompatible : options.isCompatibleWith protocol = true)
    (hsecrets : options.secretsNonblank = true) :
    acceptsOptions hasTls options = compilerOnlyOptions hasTls options := by
  rw [ProtocolOptions.isCompatibleWith, Bool.and_eq_true] at hcompatible
  obtain ⟨hvariant, hrequired⟩ := hcompatible
  cases options with
  | socks version username password =>
    simp only [ProtocolOptions.hasRequiredValues, Bool.and_eq_true] at hrequired
    have hversion : (version == 4 || version == 5) = true := by
      cases protocol <;> first | exact hvariant | cases hvariant
    simp only [acceptsOptions, compilerOnlyOptions, hversion, Bool.true_and,
      all_present_of_nonblank hrequired.1.1, all_present_of_nonblank hrequired.1.2]
  | http username password tls =>
    simp only [ProtocolOptions.hasRequiredValues, Bool.and_eq_true] at hrequired
    simp only [acceptsOptions, compilerOnlyOptions, all_present_of_nonblank hrequired.1.1,
      all_present_of_nonblank hrequired.1.2]
  | shadowsocks | naive =>
    simp only [ProtocolOptions.hasRequiredValues, Bool.and_eq_true] at hrequired
    simp only [acceptsOptions, compilerOnlyOptions, present_of_nonblank hrequired.1,
      present_of_nonblank hrequired.2]
  | vmess | vless => rfl
  | trojan | anyTls | shadowTls =>
    simp only [ProtocolOptions.hasRequiredValues] at hrequired
    simp only [acceptsOptions, compilerOnlyOptions, present_of_nonblank hrequired]
  | wireGuard privateKey peerPublicKey preSharedKey localAddresses mtu reserved =>
    simp only [ProtocolOptions.hasRequiredValues, Bool.and_eq_true] at hrequired
    simp only [acceptsOptions, compilerOnlyOptions, hrequired.1.2, Bool.and_true]
  | hysteria auth obfs upMbps downMbps =>
    simp only [ProtocolOptions.hasRequiredValues] at hrequired
    simp only [ProtocolOptions.secretsNonblank] at hsecrets
    simp only [acceptsOptions, compilerOnlyOptions, present_of_nonblank hrequired,
      all_present_of_nonblank hsecrets]
  | hysteria2 password obfs upMbps downMbps disablePathMtuDiscovery =>
    simp only [ProtocolOptions.hasRequiredValues, Bool.and_eq_true] at hrequired
    obtain ⟨⟨⟨hpassword, hobfs⟩, hup⟩, hdown⟩ := hrequired
    simp only [acceptsOptions, compilerOnlyOptions, present_of_nonblank hpassword,
      all_present_of_nonblank hobfs, hup, hdown, Bool.and_true]
  | tuic uuid password congestionControl udpRelayMode zeroRtt =>
    simp only [ProtocolOptions.hasRequiredValues, Bool.and_eq_true] at hrequired
    simp only [acceptsOptions, compilerOnlyOptions, present_of_nonblank hrequired.2]
  | ssh user password privateKey privateKeyPassphrase hostKey =>
    simp only [ProtocolOptions.hasRequiredValues, Bool.and_eq_true] at hrequired
    simp only [ProtocolOptions.secretsNonblank, Bool.and_eq_true] at hsecrets
    simp only [acceptsOptions, compilerOnlyOptions, present_of_nonblank hrequired.1,
      all_present_of_nonblank hsecrets.1, all_present_of_nonblank hsecrets.2]
  | snell psk version =>
    simp only [ProtocolOptions.hasRequiredValues, Bool.and_eq_true] at hrequired
    simp only [acceptsOptions, compilerOnlyOptions, present_of_nonblank hrequired.1]

/-- On a node with the shared checks, the compiler decides by its own rules alone. -/
theorem validateNode_eq_ok {n : ProxyNode} (h : n.SharedChecks) :
    validateNode n = .ok () ↔ compilerOnly n = true := by
  have htls : n.tls.any (!acceptsTls n.protocol ·) = !n.tls.all (compilerOnlyTls n.protocol) := by
    cases htls : n.tls with
    | none => rfl
    | some tls =>
      have hwell := h.tls
      rw [htls, Option.all_some] at hwell
      simp [acceptsTls_eq hwell]
  have htransport : n.transport.any (!acceptsTransport n.protocol ·) =
      !n.transport.all (compilerOnlyTransport n.protocol) := by
    cases htransport : n.transport with
    | none => rfl
    | some transport =>
      have hvalid := h.transport
      rw [htransport, Option.all_some] at hvalid
      simp [acceptsTransport_eq hvalid]
  rw [validateNode, htls, htransport, acceptsOptions_eq h.options h.secrets, compilerOnly]
  simp only [ok_seq, reject_eq_ok, h.id, h.options, h.port, decide_false, Bool.not_true,
    Bool.false_or, Bool.or_false, Bool.or_eq_false_iff, Bool.not_eq_false', Bool.and_eq_true,
    Bool.and_eq_false_iff, Bool.or_eq_true]
  cases n.tls <;> grind

/-! ## Every kept node -/

/-- The identity of a node never is blank and has no NUL. -/
theorem present_nodeIdOf (text : JsonText) (providerId : ProviderId) (d : ProxyNodeDraft) :
    present (nodeIdOf text providerId d).val = true := by
  have hchars : (nodeIdOf text providerId d).val.toList =
      'n' :: 'o' :: 'd' :: 'e' :: '-' :: hex16 (stableHash text providerId d) :=
    String.toList_ofList
  have hdigits : ∀ k < 16, hexDigit k ≠ '\x00' := by decide +kernel
  have hhex : '\x00' ∉ hex16 (stableHash text providerId d) := by
    intro hmem
    rw [hex16, List.mem_map] at hmem
    obtain ⟨i, -, hi⟩ := hmem
    exact hdigits _ (Nat.mod_lt _ (by omega)) hi
  have hnul : hasNul (nodeIdOf text providerId d).val = false := by
    simp only [hasNul, hchars, List.contains_eq_mem, decide_eq_false_iff_not, List.mem_cons,
      not_or]
    exact ⟨by decide, by decide, by decide, by decide, by decide, hhex⟩
  have hblank : Text.blank (nodeIdOf text providerId d).val = false := by
    simp only [Text.blank, hchars, List.all_cons, show Text.isWhite 'n' = false by decide,
      Bool.false_and]
  simp only [present, hblank, hnul, Bool.not_false, Bool.and_self]

/-- The nodes normalized from checked drafts have the shared checks. -/
theorem sharedChecks_of_normalize {text : JsonText} {providerId : ProviderId}
    {drafts : List ProxyNodeDraft} {nodes : List ProxyNode} (hdrafts : ∀ d ∈ drafts, d.Checked)
    (h : normalizeNodes text providerId drafts = .ok nodes) : ∀ n ∈ nodes, n.SharedChecks := by
  rw [(normalizeNodes_ok h).1]
  intro n hn
  obtain ⟨d, hd, heq⟩ := List.mem_map.mp hn
  have hchecked := hdrafts d hd
  subst heq
  exact
    { id := present_nodeIdOf text providerId d
      port := hchecked.port
      options := hchecked.options
      secrets := hchecked.secrets
      tls := hchecked.tls
      transport := hchecked.transport }

/-- **Parser and compiler.**  Every node that comes out of a parsed body and its
deduplicated drafts passes all checks that the parser and the compiler share, and the
compiler accepts it exactly when it meets the compiler's own rules. -/
theorem validateNode_of_parsed (env : ContentEnv) (content : String) (providerId : ProviderId)
    (parsed : ParseResult) (nodes : List ProxyNode)
    (hparse : parseSubscription env.readers content = .ok parsed)
    (hnormalize : normalizeNodes env.text providerId
      (deduplicateParsedNodes env.text parsed).nodes = .ok nodes) :
    ∀ n ∈ nodes, n.SharedChecks ∧ (validateNode n = .ok () ↔ compilerOnly n = true) := by
  have hchecked : parsed.Checked := parseSubscription_checked hparse
  have hkept : ∀ d ∈ (deduplicateParsedNodes env.text parsed).nodes, d.Checked :=
    fun d hd => hchecked d (mem_of_mem_deduplicateDrafts hd)
  intro n hn
  have hshared := sharedChecks_of_normalize hkept hnormalize n hn
  exact ⟨hshared, validateNode_eq_ok hshared⟩

/-! ### A node the parser keeps and the compiler refuses -/

/-- A share link of a Snell node in the version that the parser assumes. -/
def snellLink : String := "snell://secret@example.com:443#office"

def snellDraft : ProxyNodeDraft :=
  { name := "office", protocol := .snell, server := "example.com", port := 443
    options := .snell "secret" 3, transport := some .tcp, tls := none }

/-- The link as YAML: a plain string. -/
def readSnell (text : String) : Option Json := if text = snellLink then some (.str text) else none

/-- An environment for `snellLink`: the link is a YAML string and no JSON, and the two texts
are the ones written for its connection, with and without the version tag. -/
def snellEnv : ContentEnv where
  readers := ⟨fun _ => none, readSnell, readSnell⟩
  text := ⟨fun
    | .arr (.str "veyra-node-v3" :: _) => "[\"veyra-node-v3\",\"snell\",\"example.com\",443,\x7b\"kind\":\"snell\",\"psk\":\"secret\",\"version\":3\x7d,\"tcp\",null]"
    | _ => "[\"snell\",\"example.com\",443,\x7b\"kind\":\"snell\",\"psk\":\"secret\",\"version\":3\x7d,\"tcp\",null]"⟩

def snellNode : ProxyNode := ProxyNode.ofDraft snellEnv.text ⟨"provider"⟩ snellDraft

theorem parseSubscription_snellLink : parseSubscription snellEnv.readers snellLink =
    .ok { format := .uriList, nodes := [snellDraft], skipped := [] } := by
  decide +kernel

theorem normalizeNodes_snell :
    normalizeNodes snellEnv.text ⟨"provider"⟩ [snellDraft] = .ok [snellNode] :=
  normalizeNodes_single (by decide) (by decide) (by decide)

theorem normalize_snellLink : normalizeNodes snellEnv.text ⟨"provider"⟩
    (deduplicateParsedNodes snellEnv.text
      { format := .uriList, nodes := [snellDraft], skipped := [] }).nodes = .ok [snellNode] :=
  normalizeNodes_snell

theorem validateNode_of_parsed_snell :
    snellNode.SharedChecks ∧ (validateNode snellNode = .ok () ↔ compilerOnly snellNode = true) :=
  validateNode_of_parsed snellEnv snellLink ⟨"provider"⟩ _ _ parseSubscription_snellLink
    normalize_snellLink snellNode (List.mem_singleton.mpr rfl)

/-- The parser keeps a Snell node of version 3, which the compiler refuses. -/
theorem snellLink_kept_not_accepted :
    parseContent snellEnv snellLink =
      .ok { format := .uriList, nodes := [snellDraft], skipped := [] } ∧
    normalizeNodes snellEnv.text ⟨"provider"⟩ [snellDraft] = .ok [snellNode] ∧
    validateNode snellNode = .error .invalidNodeConfiguration := by
  refine ⟨?_, normalizeNodes_snell, by decide +kernel⟩
  rw [parseContent, parseSubscription_snellLink]
  rfl

end Veyra
