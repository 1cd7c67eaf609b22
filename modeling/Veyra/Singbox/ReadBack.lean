import Veyra.Singbox.Closed

/-!
# Veyra.Singbox.ReadBack

`Document::validate` reads every emitted node back and checks it again.  What
it reads is the node without its name and its provider, with its transport and
its TLS settings in the form of the core: `ProxyNode.readBack`.

A node that `validate_node` accepts is emitted, is read back, and is accepted
again, so the second check refuses nothing that passed the first.
-/

namespace Veyra

open Check

/-! ## What is read back -/

/-- The settings that an HTTP node with TLS but no settings of its own gets. -/
def TlsOptions.plain : TlsOptions :=
  { serverName := none, allowInsecure := false, alpn := [], utlsFingerprint := none
    realityPublicKey := none, realityShortId := none }

/-- An HTTP node asks for TLS without settings of its own. -/
def ProtocolOptions.asksForTls : ProtocolOptions → Bool
  | .http _ _ tls => tls
  | _ => false

/-- The TLS settings of a node as they are read back. -/
def ProxyNode.readTls (n : ProxyNode) : Option TlsOptions :=
  if n.tls.isNone && n.options.asksForTls then some .plain else n.tls

/-- An HTTP outbound asks for TLS exactly when it has settings. -/
def ProtocolOptions.readBack (hasTls : Bool) : ProtocolOptions → ProtocolOptions
  | .http username password _ => .http username password hasTls
  | options => options

/-- Plain TCP is not written. -/
def Transport.readBack : Transport → Option Transport
  | .tcp => none
  | transport => some transport

/-- A node as it is read back from its outbound. -/
def ProxyNode.readBack (n : ProxyNode) : ProxyNode :=
  { id := n.id, providerId := ⟨"compiler"⟩, name := "", protocol := n.protocol
    server := n.server, port := n.port, options := n.options.readBack n.readTls.isSome
    tls := n.readTls, transport := n.transport.bind (·.readBack) }

/-! ## Part by part -/

theorem coreTls_isSome (n : ProxyNode) : (coreTls n).isSome = n.readTls.isSome := by
  rw [coreTls, ProxyNode.readTls]
  cases n.tls with
  | some tls => rfl
  | none =>
    cases n.options with
    | http username password tls => cases tls <;> rfl
    | _ => rfl

/-- The TLS settings of an accepted node are read back. -/
theorem coreTls_readBack {n : ProxyNode} (h : n.tls.all (acceptsReality n.protocol) = true) :
    transposeMap CoreTls.domain (coreTls n) = .ok n.readTls := by
  rw [coreTls, ProxyNode.readTls]
  cases htls : n.tls with
  | some tls =>
    rw [htls, Option.all_some, acceptsReality] at h
    obtain ⟨serverName, insecure, key, shortId, alpn, fingerprint⟩ := tls
    cases key with
    | none =>
      cases shortId with
      | none => cases fingerprint <;> rfl
      | some shortId => cases h
    | some key =>
      cases shortId with
      | none => cases h
      | some shortId => cases fingerprint <;> rfl
  | none =>
    cases n.options with
    | http username password tls => cases tls <;> rfl
    | _ => rfl

theorem coreTransport_readBack (transport : Option Transport) :
    (coreTransport transport).map (·.domain) = transport.bind (·.readBack) := by
  cases transport with
  | none => rfl
  | some transport => cases transport <;> rfl

/-- The protocol that the options are of. -/
def ProtocolOptions.protocol : ProtocolOptions → ProxyProtocol
  | .socks .. => .socks
  | .http .. => .http
  | .shadowsocks .. => .shadowsocks
  | .vmess .. => .vmess
  | .vless .. => .vless
  | .trojan .. => .trojan
  | .wireGuard .. => .wireGuard
  | .hysteria .. => .hysteria
  | .hysteria2 .. => .hysteria2
  | .tuic .. => .tuic
  | .shadowTls .. => .shadowTls
  | .ssh .. => .ssh
  | .naive .. => .naive
  | .anyTls .. => .anyTls
  | .snell .. => .snell

theorem ProtocolOptions.protocol_of_variantMatches {protocol : ProxyProtocol}
    {options : ProtocolOptions} (h : variantMatches protocol options = true) :
    options.protocol = protocol := by
  rw [variantMatches.eq_def] at h
  split at h <;> first | rfl | cases h

/-- The options of an accepted node that is no WireGuard endpoint are read back. -/
theorem coreOptions_readBack {options : ProtocolOptions} {hasTls : Bool} (readTls : Bool)
    (h : acceptsOptions hasTls options = true) (hother : options.protocol ≠ .wireGuard) :
    ∃ core, coreOptions options = .ok core ∧
      core.domain readTls = .ok (options.protocol, options.readBack readTls) := by
  cases options with
  | socks version username password =>
    have hversion : Text.parseU8 version.toNat.repr = some version := by
      rw [Text.parseU8, Text.parseUnsigned_repr version.toNat_lt, Option.map_some,
        UInt8.ofNat_toNat]
    refine ⟨_, rfl, ?_⟩
    rw [CoreOptions.domain]
    exact ok_bind.mpr ⟨version, okOr_eq_ok.mpr hversion, rfl⟩
  | hysteria auth obfs upMbps downMbps =>
    simp only [acceptsOptions, Bool.and_eq_true, Option.any_eq_true] at h
    obtain ⟨⟨-, up, rfl, -⟩, down, rfl, -⟩ := h
    exact ⟨_, rfl, rfl⟩
  | hysteria2 password obfs upMbps downMbps discovery =>
    refine ⟨_, rfl, ?_⟩
    cases obfs <;> rfl
  | wireGuard => exact absurd rfl hother
  | _ => exact ⟨_, rfl, rfl⟩

/-! ## Accepted nodes -/

/-- What `validate_node` decides. -/
structure ProxyNode.Accepted (n : ProxyNode) : Prop where
  id : present n.id.val = true
  server : validServer n.server = true
  port : n.port ≠ 0
  options : n.options.isCompatibleWith n.protocol = true
  tls : (n.tls.isSome && !n.protocol.supportsTls) = false
  needsTls : (n.protocol.requiresTls && n.tls.isNone) = false
  tlsOptions : n.tls.all (acceptsTls n.protocol) = true
  transport : n.transport.all (acceptsTransport n.protocol) = true
  protocolOptions : acceptsOptions n.tls.isSome n.options = true

theorem validateNode_iff {n : ProxyNode} : validateNode n = .ok () ↔ n.Accepted := by
  have hall : ∀ {α : Type} (o : Option α) (p : α → Bool),
      o.any (fun a => !p a) = false ↔ o.all p = true := by
    intro α o p
    cases o <;> simp
  simp only [validateNode, ok_seq, reject_eq_ok, Bool.or_eq_false_iff, Bool.not_eq_false',
    decide_eq_false_iff_not, hall]
  constructor
  · rintro ⟨⟨⟨⟨hid, hserver⟩, hport⟩, hoptions⟩, ⟨htls, hneeds⟩, htlsOptions, htransport, hlast⟩
    exact ⟨hid, hserver, hport, hoptions, htls, hneeds, htlsOptions, htransport, hlast⟩
  · intro h
    exact ⟨⟨⟨⟨h.id, h.server⟩, h.port⟩, h.options⟩, ⟨h.tls, h.needsTls⟩, h.tlsOptions,
      h.transport, h.protocolOptions⟩

theorem ProxyNode.Accepted.protocol_eq {n : ProxyNode} (h : n.Accepted) :
    n.options.protocol = n.protocol := by
  have hcompatible := h.options
  rw [ProtocolOptions.isCompatibleWith, Bool.and_eq_true] at hcompatible
  exact ProtocolOptions.protocol_of_variantMatches hcompatible.1

/-- Settings are read back that were not written only for an HTTP node that asks for them. -/
theorem ProxyNode.readTls_cases (n : ProxyNode) :
    n.readTls = n.tls ∨
    (n.tls = none ∧ n.options.protocol = .http ∧ n.readTls = some .plain) := by
  rw [ProxyNode.readTls]
  split
  · next hasks =>
    rw [Bool.and_eq_true, Option.isNone_iff_eq_none] at hasks
    obtain ⟨hnone, hasks⟩ := hasks
    refine .inr ⟨hnone, ?_, rfl⟩
    cases hoptions : n.options with
    | http => rfl
    | _ =>
      rw [hoptions] at hasks
      cases hasks
  · exact .inl rfl

theorem readBack_compatible {protocol : ProxyProtocol} {options : ProtocolOptions}
    (readTls : Bool) (h : options.isCompatibleWith protocol = true) :
    (options.readBack readTls).isCompatibleWith protocol = true := by
  cases options with
  | http username password tls => cases protocol <;> exact h
  | _ => exact h

theorem readBack_acceptsOptions {options : ProtocolOptions} {hasTls : Bool} (readTls : Bool)
    (h : acceptsOptions hasTls options = true) :
    acceptsOptions hasTls (options.readBack readTls) = true := by
  cases options <;> exact h

/-- Apart from the flow of a VLESS node, no options depend on the TLS settings. -/
theorem acceptsOptions_http {options : ProtocolOptions} {hasTls : Bool} (hasTls' : Bool)
    (hhttp : options.protocol = .http) (h : acceptsOptions hasTls options = true) :
    acceptsOptions hasTls' options = true := by
  cases options with
  | http => exact h
  | _ => cases hhttp

/-- **The second check.**  What is read back of an accepted node is accepted. -/
theorem ProxyNode.Accepted.readBack {n : ProxyNode} (h : n.Accepted) : n.readBack.Accepted := by
  have htransport : (n.transport.bind (·.readBack)).all (acceptsTransport n.protocol) = true := by
    have hkept := h.transport
    cases htransport : n.transport with
    | none => rfl
    | some transport =>
      rw [htransport] at hkept
      cases transport <;> first | rfl | exact hkept
  have hoptions := readBack_compatible n.readTls.isSome h.options
  rcases n.readTls_cases with hread | ⟨hnone, hhttp, hread⟩
  · have htls : n.readBack.tls = n.tls := hread
    exact {
      id := h.id
      server := h.server
      port := h.port
      options := hoptions
      tls := by
        rw [htls]
        exact h.tls
      needsTls := by
        rw [htls]
        exact h.needsTls
      tlsOptions := by
        rw [htls]
        exact h.tlsOptions
      transport := htransport
      protocolOptions := by
        rw [htls]
        exact readBack_acceptsOptions _ h.protocolOptions }
  · have hprotocol : n.protocol = .http := h.protocol_eq.symm.trans hhttp
    have hlast : acceptsOptions n.readTls.isSome n.options = true :=
      acceptsOptions_http _ hhttp h.protocolOptions
    exact {
      id := h.id
      server := h.server
      port := h.port
      options := hoptions
      tls := by
        simp only [ProxyNode.readBack, hread, hprotocol]
        rfl
      needsTls := by
        simp only [ProxyNode.readBack, hread, hprotocol]
        rfl
      tlsOptions := by
        simp only [ProxyNode.readBack, hread, hprotocol]
        rfl
      transport := htransport
      protocolOptions := readBack_acceptsOptions _ hlast }

/-! ## Accepted nodes are emitted -/

/-- The outbound of an accepted node reads back as it should. -/
theorem nodeOutbound_readBack {n : ProxyNode} (h : n.Accepted) (hother : n.protocol ≠ .wireGuard) :
    ∃ core, nodeOutbound n = .ok (.node core) ∧ core.tag = nodeTag n.id.val ∧
      core.domain = .ok n.readBack := by
  obtain ⟨options, hcore, hdomain⟩ := coreOptions_readBack n.readTls.isSome h.protocolOptions
    (h.protocol_eq ▸ hother)
  have hreality : n.tls.all (acceptsReality n.protocol) = true := by
    have haccepts := h.tlsOptions
    cases htls : n.tls with
    | none => rfl
    | some tls =>
      rw [htls, Option.all_some, acceptsTls, Bool.and_eq_true] at haccepts
      exact haccepts.2
  refine ⟨_, ok_bind.mpr ⟨options, hcore, rfl⟩, rfl, ?_⟩
  refine ok_bind.mpr ⟨_, (coreTls_isSome n).symm ▸ hdomain, ok_bind.mpr ⟨n.id.val, ?_,
    ok_bind.mpr ⟨n.readTls, coreTls_readBack hreality, ?_⟩⟩⟩
  · exact okOr_eq_ok.mpr (Text.stripPrefix_append "node-" n.id.val)
  · rw [ProxyNode.readBack, ← coreTransport_readBack, ← coreTls_isSome, h.protocol_eq]

theorem nodeOutbound_accepted {n : ProxyNode} (h : n.Accepted) (hother : n.protocol ≠ .wireGuard) :
    ∃ core, nodeOutbound n = .ok (.node core) ∧ core.tag = nodeTag n.id.val ∧
      (CoreOutbound.node core).Accepted := by
  obtain ⟨core, hcore, htag, hdomain⟩ := nodeOutbound_readBack h hother
  exact ⟨core, hcore, htag, n.readBack, hdomain, validateNode_iff.mpr h.readBack⟩

/-- A WireGuard node has neither TLS settings nor a transport that is written. -/
theorem ProxyNode.Accepted.wireGuard {n : ProxyNode} (h : n.Accepted)
    (hwireguard : n.protocol = .wireGuard) : n.readTls = none ∧ n.transport.bind (·.readBack) = none := by
  have hprotocol := h.protocol_eq.trans hwireguard
  constructor
  · have hsupported := h.tls
    rw [hwireguard] at hsupported
    obtain hread | ⟨-, hhttp, -⟩ := n.readTls_cases
    · cases htls : n.tls with
      | none => exact hread.trans htls
      | some tls =>
        rw [htls] at hsupported
        cases hsupported
    · cases hprotocol.symm.trans hhttp
  · have hkept := h.transport
    cases htransport : n.transport with
    | none => rfl
    | some transport =>
      rw [htransport, hwireguard] at hkept
      cases transport with
      | tcp => rfl
      | websocket => cases hkept
      | grpc => cases hkept

/-- The endpoint of an accepted WireGuard node reads back as it should. -/
theorem wireguardEndpoint_readBack {n : ProxyNode} (h : n.Accepted)
    (hwireguard : n.protocol = .wireGuard) :
    ∃ endpoint peer, wireguardEndpoint n = .ok endpoint ∧ endpoint.tag = nodeTag n.id.val ∧
      endpoint.peer = .ok peer ∧ endpoint.domain peer = n.readBack := by
  obtain ⟨htls, htransport⟩ := h.wireGuard hwireguard
  have hprotocol := h.protocol_eq.trans hwireguard
  have hid : String.ofList ((nodeTag n.id.val).toList.drop 5) = n.id.val := by
    simp [nodeTag, String.toList_append]
  cases hoptions : n.options with
  | wireGuard privateKey peerPublicKey preSharedKey localAddresses mtu reserved =>
    refine ⟨_, _, by rw [wireguardEndpoint, hoptions], rfl, rfl, ?_⟩
    rw [WireGuardEndpoint.domain, ProxyNode.readBack, htls, htransport, hoptions, hwireguard, hid]
    rfl
  | _ =>
    rw [hoptions] at hprotocol
    cases hprotocol

/-- The endpoint of an accepted WireGuard node passes the check of endpoints. -/
theorem wireguardEndpoint_accepted {n : ProxyNode} (h : n.Accepted)
    (hwireguard : n.protocol = .wireGuard) :
    ∃ endpoint, wireguardEndpoint n = .ok endpoint ∧ endpoint.tag = nodeTag n.id.val ∧
      endpoint.Accepted := by
  have hprotocol := h.protocol_eq.trans hwireguard
  obtain ⟨endpoint, peer, hendpoint, htag, hpeer, hdomain⟩ := wireguardEndpoint_readBack h hwireguard
  refine ⟨endpoint, hendpoint, htag, ?_⟩
  rw [wireguardEndpoint] at hendpoint
  split at hendpoint
  · cases hendpoint
    refine ⟨rfl, rfl, ?_, peer, hpeer, ?_⟩
    · rw [validTag, htag, nodeTag, Text.stripPrefix_append]
      exact h.id
    · rw [hdomain]
      exact validateNode_iff.mpr h.readBack
  · cases hendpoint

/-- What the loop over accepted nodes emits. -/
structure Emits (nodes : List ProxyNode) (outbounds : List CoreOutbound)
    (endpoints : List WireGuardEndpoint) : Prop where
  emits : emitNodes nodes = .ok (outbounds, endpoints)
  nodeOutbounds : ∀ o ∈ outbounds, o.Accepted ∧ ∃ n, o = .node n
  nodeEndpoints : ∀ e ∈ endpoints, e.Accepted
  outboundTags : outbounds.map (·.tag) =
    (nodes.filter fun n => n.protocol ≠ .wireGuard).map fun n => nodeTag n.id.val
  endpointTags : endpoints.map (·.tag) =
    (nodes.filter fun n => n.protocol = .wireGuard).map fun n => nodeTag n.id.val

/-- Accepted nodes are emitted, each to pass the check of the document. -/
theorem emitNodes_accepted {nodes : List ProxyNode} (h : ∀ n ∈ nodes, n.Accepted) :
    ∃ outbounds endpoints, Emits nodes outbounds endpoints := by
  induction nodes with
  | nil => exact ⟨[], [], rfl, by simp, by simp, rfl, rfl⟩
  | cons node rest ih =>
    obtain ⟨hnode, hrest⟩ := List.forall_mem_cons.mp h
    obtain ⟨outbounds, endpoints, hemits⟩ := ih hrest
    by_cases hwireguard : node.protocol = .wireGuard
    · obtain ⟨endpoint, hendpoint, htag, haccepted⟩ := wireguardEndpoint_accepted hnode hwireguard
      refine ⟨outbounds, endpoint :: endpoints, ?_, hemits.nodeOutbounds,
        List.forall_mem_cons.mpr ⟨haccepted, hemits.nodeEndpoints⟩, ?_, ?_⟩
      · refine ok_seq.mpr ⟨validateNode_iff.mpr hnode, ?_⟩
        rw [if_pos hwireguard]
        exact ok_bind.mpr ⟨endpoint, hendpoint, ok_bind.mpr ⟨_, hemits.emits, rfl⟩⟩
      · rw [List.filter_cons_of_neg (by simpa using hwireguard), hemits.outboundTags]
      · rw [List.filter_cons_of_pos (by simpa using hwireguard), List.map_cons, List.map_cons,
          htag, hemits.endpointTags]
    · obtain ⟨core, hcore, htag, haccepted⟩ := nodeOutbound_accepted hnode hwireguard
      refine ⟨.node core :: outbounds, endpoints, ?_,
        List.forall_mem_cons.mpr ⟨⟨haccepted, core, rfl⟩, hemits.nodeOutbounds⟩, hemits.nodeEndpoints,
        ?_, ?_⟩
      · refine ok_seq.mpr ⟨validateNode_iff.mpr hnode, ?_⟩
        rw [if_neg hwireguard]
        exact ok_bind.mpr ⟨_, hcore, ok_bind.mpr ⟨_, hemits.emits, rfl⟩⟩
      · have hcoreTag : (CoreOutbound.node core).tag = nodeTag node.id.val := htag
        rw [List.filter_cons_of_pos (by simpa using hwireguard), List.map_cons, List.map_cons,
          hcoreTag, hemits.outboundTags]
      · rw [List.filter_cons_of_neg (by simpa using hwireguard), hemits.endpointTags]

/-! ## The encoding is faithful -/

/-- A node and what is read back of it.  Plain TCP is read as no transport; an HTTP node asks for
TLS with a flag and with settings, which are read as one. -/
structure ProxyNode.ReadsAs (n m : ProxyNode) : Prop where
  id : m.id = n.id
  protocol : m.protocol = n.protocol
  server : m.server = n.server
  port : m.port = n.port
  transport : m.transport = n.transport.filter (· ≠ .tcp)
  options : n.protocol ≠ .http → m.options = n.options
  tls : n.protocol ≠ .http → m.tls = n.tls
  http : ∀ username password flag, n.options = .http username password flag →
    m.options = .http username password (flag || n.tls.isSome) ∧
    m.tls = n.tls.or (if flag then some .plain else none)

theorem ProxyNode.Accepted.readsAs {n : ProxyNode} (h : n.Accepted) : n.ReadsAs n.readBack where
  id := rfl
  protocol := rfl
  server := rfl
  port := rfl
  transport := by
    rw [ProxyNode.readBack]
    cases n.transport with
    | none => rfl
    | some transport => cases transport <;> rfl
  options hother := by
    have hprotocol := h.protocol_eq
    rw [ProxyNode.readBack]
    cases hoptions : n.options with
    | http =>
      rw [hoptions] at hprotocol
      exact absurd hprotocol.symm hother
    | _ => rfl
  tls hother := by
    obtain hread | ⟨-, hhttp, -⟩ := n.readTls_cases
    · exact hread
    · exact absurd (h.protocol_eq.symm.trans hhttp) hother
  http username password flag hoptions := by
    rw [ProxyNode.readBack, ProxyNode.readTls, hoptions]
    cases n.tls with
    | some tls => cases flag <;> exact ⟨rfl, rfl⟩
    | none => cases flag <;> exact ⟨rfl, rfl⟩

/-- **The encoding is faithful.**  A node that `validate_node` accepts is written as an outbound, or
as an endpoint, that reads back as the node; and what is read back is accepted again. -/
theorem encoding_faithful (n : ProxyNode) (h : validateNode n = .ok ()) :
    ∃ m, n.ReadsAs m ∧ validateNode m = .ok () ∧
      if n.protocol = .wireGuard then
        ∃ endpoint peer, wireguardEndpoint n = .ok endpoint ∧ endpoint.peer = .ok peer ∧
          endpoint.domain peer = m
      else ∃ outbound, nodeOutbound n = .ok outbound ∧ outbound.domain = .ok (some m) := by
  have haccepted := validateNode_iff.mp h
  refine ⟨n.readBack, haccepted.readsAs, validateNode_iff.mpr haccepted.readBack, ?_⟩
  split
  · next hwireguard =>
    obtain ⟨endpoint, peer, hendpoint, -, hpeer, hdomain⟩ :=
      wireguardEndpoint_readBack haccepted hwireguard
    exact ⟨endpoint, peer, hendpoint, hpeer, hdomain⟩
  · next hother =>
    obtain ⟨core, hcore, -, hdomain⟩ := nodeOutbound_readBack haccepted hother
    exact ⟨_, hcore, map_eq_ok.mpr ⟨n.readBack, hdomain, rfl⟩⟩

/-- An HTTP node that asks for TLS with a flag. -/
def httpsNode : ProxyNode :=
  { id := ⟨"h"⟩, providerId := ⟨"provider"⟩, name := "h", protocol := .http, server := "example.com"
    port := 443, options := .http none none true, transport := some .tcp, tls := none }

theorem encoding_faithful_https : ∃ m, httpsNode.ReadsAs m ∧ m.tls = some .plain := by
  obtain ⟨m, hreads, -⟩ := encoding_faithful httpsNode (by decide +kernel)
  exact ⟨m, hreads, (hreads.http _ _ _ rfl).2⟩

end Veyra
