import Veyra.Subscription.Draft
import Veyra.Storage.Schema

/-!
# Veyra.Subscription.Normalize

From drafts to nodes: `normalize_nodes` gives every draft the identity that
hashes its provider and its connection, and rejects a batch with a repeated one.

Serialization to text is a parameter: `JsonText.compact` is
`serde_json::to_string` of the value that the derived serializers describe.
-/

namespace Veyra

open Check

/-- The compact JSON text of a value. -/
structure JsonText where
  compact : Json → String

inductive NormalizationError
  | invalidNode
  | duplicateNodeIdentity
deriving DecidableEq, Repr

/-! ## Identity -/

/-- The connection of a draft: everything but its name. -/
def connectionFields (d : ProxyNodeDraft) : List Json :=
  [Schema.proxyProtocol.encode d.protocol, .str d.server, .num (.posInt d.port.toUInt64),
    Schema.protocolOptions.encode d.options,
    (Schema.transport.option Schema.transport_nonNull).encode d.transport,
    (Schema.tlsOptions.codec.option (RecordCodec.codec_nonNull _)).encode d.tls]

/-- `canonical_material`. -/
def canonicalMaterial (text : JsonText) (d : ProxyNodeDraft) : String :=
  text.compact (.arr (.str "veyra-node-v3" :: connectionFields d))

/-- `stable_hash`: FNV-1a over the provider id and the material. -/
def stableHash (text : JsonText) (providerId : ProviderId) (d : ProxyNodeDraft) : UInt64 :=
  (Text.bytes providerId.val ++ Text.bytes (canonicalMaterial text d)).foldl
    (fun hash byte => (hash ^^^ byte.toUInt64) * 0x100000001b3) 0xcbf29ce484222325

/-- A lower-case hexadecimal digit. -/
def hexDigit (n : Nat) : Char :=
  if n < 10 then Char.ofNat ('0'.toNat + n) else Char.ofNat ('a'.toNat + (n - 10))

/-- `{:016x}`. -/
def hex16 (n : UInt64) : List Char :=
  (List.range 16).map fun i => hexDigit (n.toNat / 16 ^ (15 - i) % 16)

/-- The identity of a draft under its provider. -/
def nodeIdOf (text : JsonText) (providerId : ProviderId) (d : ProxyNodeDraft) : NodeId :=
  ⟨String.ofList ("node-".toList ++ hex16 (stableHash text providerId d))⟩

/-! ## Normalization -/

def ProxyNode.ofDraft (text : JsonText) (providerId : ProviderId) (d : ProxyNodeDraft) : ProxyNode :=
  { id := nodeIdOf text providerId d
    providerId
    name := d.name
    protocol := d.protocol
    server := d.server
    port := d.port
    options := d.options
    transport := d.transport
    tls := d.tls }

/-- The loop of `normalize_nodes`; `seen` is the set of the identities before. -/
def normalizeDrafts (text : JsonText) (providerId : ProviderId) (seen : List NodeId) :
    List ProxyNodeDraft → Except NormalizationError (List ProxyNode)
  | [] => .ok []
  | d :: ds => do
    reject (Text.blank d.name || Text.blank d.server || d.port = 0) .invalidNode
    let node := ProxyNode.ofDraft text providerId d
    reject (seen.contains node.id) .duplicateNodeIdentity
    let rest ← normalizeDrafts text providerId (node.id :: seen) ds
    .ok (node :: rest)

/-- `normalize_nodes`. -/
def normalizeNodes (text : JsonText) (providerId : ProviderId) (drafts : List ProxyNodeDraft) :
    Except NormalizationError (List ProxyNode) :=
  normalizeDrafts text providerId [] drafts

/-! ## What normalized nodes are -/

/-- The nodes are the drafts, each under its identity, none with a blank name or server or
a zero port. -/
theorem normalizeDrafts_ok {text : JsonText} {providerId : ProviderId} {seen : List NodeId}
    {drafts : List ProxyNodeDraft} {nodes : List ProxyNode}
    (h : normalizeDrafts text providerId seen drafts = .ok nodes) :
    nodes = drafts.map (ProxyNode.ofDraft text providerId) ∧
    ∀ d ∈ drafts, Text.blank d.name = false ∧ Text.blank d.server = false ∧ d.port ≠ 0 := by
  induction drafts generalizing seen nodes with
  | nil =>
    simp only [normalizeDrafts, Except.ok.injEq] at h
    simp [← h]
  | cons d ds ih =>
    rw [normalizeDrafts] at h
    obtain ⟨hvalid, h⟩ := ok_seq.mp h
    obtain ⟨-, h⟩ := ok_seq.mp h
    obtain ⟨rest, hrest, h⟩ := ok_bind.mp h
    have ⟨hnodes, hall⟩ := ih hrest
    cases h
    simp only [reject_eq_ok, Bool.or_eq_false_iff, decide_eq_false_iff_not] at hvalid
    obtain ⟨⟨hname, hserver⟩, hport⟩ := hvalid
    constructor
    · rw [List.map_cons, hnodes]
    · intro e he
      cases List.mem_cons.mp he with
      | inl heq => subst heq; exact ⟨hname, hserver, hport⟩
      | inr he => exact hall e he

theorem normalizeNodes_ok {text : JsonText} {providerId : ProviderId}
    {drafts : List ProxyNodeDraft} {nodes : List ProxyNode}
    (h : normalizeNodes text providerId drafts = .ok nodes) :
    nodes = drafts.map (ProxyNode.ofDraft text providerId) ∧
    ∀ d ∈ drafts, Text.blank d.name = false ∧ Text.blank d.server = false ∧ d.port ≠ 0 :=
  normalizeDrafts_ok h

/-- A batch of one draft. -/
theorem normalizeNodes_single {text : JsonText} {providerId : ProviderId} {d : ProxyNodeDraft}
    (hname : Text.blank d.name = false) (hserver : Text.blank d.server = false)
    (hport : d.port ≠ 0) :
    normalizeNodes text providerId [d] = .ok [ProxyNode.ofDraft text providerId d] := by
  have hvalid : (Text.blank d.name || Text.blank d.server || d.port = 0) = false := by
    simp [hname, hserver, hport]
  exact ok_seq.mpr ⟨reject_eq_ok.mpr hvalid, ok_seq.mpr ⟨reject_eq_ok.mpr rfl, rfl⟩⟩

/-- Every normalized node belongs to the provider. -/
theorem normalizeNodes_provider {text : JsonText} {providerId : ProviderId}
    {drafts : List ProxyNodeDraft} {nodes : List ProxyNode}
    (h : normalizeNodes text providerId drafts = .ok nodes) :
    ∀ n ∈ nodes, n.providerId = providerId := by
  rw [(normalizeNodes_ok h).1]
  intro n hn
  obtain ⟨d, -, hd⟩ := List.mem_map.mp hn
  rw [← hd]
  rfl

end Veyra
