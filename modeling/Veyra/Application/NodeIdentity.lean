import Veyra.Application.Content
import Veyra.Lib.Distinct

/-!
# Veyra.Application.NodeIdentity

The identity of nodes.  Deduplication compares the text of the connections,
normalization hashes a text of its own; both are about everything a draft has
but its name.

* `deduplicateDrafts_eq` — what is kept is the first draft of each connection;
* `normalizeNodes_iff` — what is kept gets an identity each, unless two connections collide.
-/

namespace Veyra

open Check

/-! ## Connections -/

/-- Everything of a draft but its name. -/
structure Connection where
  protocol : ProxyProtocol
  server : String
  port : UInt16
  options : ProtocolOptions
  transport : Option Transport
  tls : Option TlsOptions
deriving DecidableEq

def ProxyNodeDraft.connection (d : ProxyNodeDraft) : Connection :=
  ⟨d.protocol, d.server, d.port, d.options, d.transport, d.tls⟩

/-- The text that drafts are compared by. -/
def connectionText (text : JsonText) (d : ProxyNodeDraft) : String :=
  text.compact (.arr (connectionFields d))

/-- The identity that a connection has under a provider. -/
def connectionId (text : JsonText) (providerId : ProviderId) (c : Connection) : NodeId :=
  nodeIdOf text providerId
    { name := "", protocol := c.protocol, server := c.server, port := c.port, options := c.options
      transport := c.transport, tls := c.tls }

/-- The identity is a function of the provider and the connection. -/
theorem nodeIdOf_eq (text : JsonText) (providerId : ProviderId) (d : ProxyNodeDraft) :
    nodeIdOf text providerId d = connectionId text providerId d.connection := rfl

/-- The values that stand for a connection tell it apart from every other one. -/
theorem connectionFields_inj {d e : ProxyNodeDraft} :
    connectionFields d = connectionFields e ↔ d.connection = e.connection := by
  constructor
  · intro h
    simp only [connectionFields, List.cons.injEq, Json.str.injEq] at h
    obtain ⟨hprotocol, hserver, hport, hoptions, htransport, htls, -⟩ := h
    have hport : d.port = e.port := Codec.u16.encode_injective hport
    simp only [ProxyNodeDraft.connection, Connection.mk.injEq]
    exact ⟨Codec.encode_injective _ hprotocol, hserver, hport, Codec.encode_injective _ hoptions,
      Codec.encode_injective _ htransport, Codec.encode_injective _ htls⟩
  · intro h
    simp only [ProxyNodeDraft.connection, Connection.mk.injEq] at h
    obtain ⟨hprotocol, hserver, hport, hoptions, htransport, htls⟩ := h
    simp only [connectionFields, hprotocol, hserver, hport, hoptions, htransport, htls]

/-! ## Deduplication -/

/-- The text written for the connections of drafts is read back, as `serde_json::from_str` does. -/
def ReadsConnections (text : JsonText) (read : String → Option Json)
    (drafts : List ProxyNodeDraft) : Prop :=
  ∀ d ∈ drafts, read (connectionText text d) = some (.arr (connectionFields d))

section Deduplication

variable {text : JsonText} {read : String → Option Json} {drafts : List ProxyNodeDraft}

/-- The loop is the one that keeps the first of each text. -/
theorem deduplicateDrafts_eq_firsts (seen : List String) (drafts : List ProxyNodeDraft) :
    deduplicateDrafts text seen drafts = Distinct.firsts (connectionText text) seen drafts := by
  induction drafts generalizing seen with
  | nil => rfl
  | cons d ds ih =>
    rw [deduplicateDrafts]
    by_cases h : connectionText text d ∈ seen
    · have hcontains : seen.contains (text.compact (.arr (connectionFields d))) = true := by
        simpa [connectionText] using h
      rw [if_pos hcontains, Distinct.firsts_cons_of_mem h, ih]
    · have hcontains : ¬ seen.contains (text.compact (.arr (connectionFields d))) = true := by
        simpa [connectionText] using h
      rw [if_neg hcontains, Distinct.firsts_cons_of_notMem h]
      exact congrArg (d :: ·) (ih _)

theorem connectionText_inj (hread : ReadsConnections text read drafts) {d e : ProxyNodeDraft}
    (hd : d ∈ drafts) (he : e ∈ drafts) :
    connectionText text d = connectionText text e ↔ d.connection = e.connection := by
  rw [← connectionFields_inj]
  constructor
  · intro h
    have hfields : some (Json.arr (connectionFields d)) = some (.arr (connectionFields e)) := by
      rw [← hread d hd, h, hread e he]
    exact Json.arr.inj (Option.some.inj hfields)
  · intro h
    rw [connectionText, connectionText, h]

/-- Deduplication keeps the first draft of each connection. -/
theorem deduplicateDrafts_eq (hread : ReadsConnections text read drafts) :
    deduplicateDrafts text [] drafts = Distinct.firsts ProxyNodeDraft.connection [] drafts := by
  rw [deduplicateDrafts_eq_firsts]
  exact Distinct.firsts_congr (fun d hd e he => connectionText_inj hread hd he) fun d _ => by simp

end Deduplication

/-! ## Normalization -/

section Normalization

variable {text : JsonText} {providerId : ProviderId} {drafts : List ProxyNodeDraft}

/-- What `normalize_nodes` asks of a draft. -/
def ProxyNodeDraft.Complete (d : ProxyNodeDraft) : Prop :=
  Text.blank d.name = false ∧ Text.blank d.server = false ∧ d.port ≠ 0

theorem ProxyNodeDraft.complete_iff {d : ProxyNodeDraft} :
    (Text.blank d.name || Text.blank d.server || decide (d.port = 0)) = false ↔ d.Complete := by
  simp [ProxyNodeDraft.Complete, and_assoc]

/-- Drafts are normalized exactly when all are complete and no identity comes twice. -/
theorem normalizeDrafts_iff {seen : List NodeId} :
    (∃ nodes, normalizeDrafts text providerId seen drafts = .ok nodes) ↔
      (∀ d ∈ drafts, d.Complete) ∧ (drafts.map (nodeIdOf text providerId)).Nodup ∧
      ∀ d ∈ drafts, nodeIdOf text providerId d ∉ seen := by
  induction drafts generalizing seen with
  | nil => simp [normalizeDrafts]
  | cons d ds ih =>
    have hid : (ProxyNode.ofDraft text providerId d).id = nodeIdOf text providerId d := rfl
    rw [normalizeDrafts, List.map_cons, List.nodup_cons, List.forall_mem_cons,
      List.forall_mem_cons]
    constructor
    · rintro ⟨nodes, h⟩
      obtain ⟨hcomplete, h⟩ := ok_seq.mp h
      obtain ⟨hseen, h⟩ := ok_seq.mp h
      obtain ⟨rest, hrest, -⟩ := ok_bind.mp h
      rw [reject_eq_ok, ProxyNodeDraft.complete_iff] at hcomplete
      rw [reject_eq_ok, hid, List.contains_eq_mem, decide_eq_false_iff_not] at hseen
      obtain ⟨hall, hnodup, hfresh⟩ := ih.mp ⟨rest, hrest⟩
      refine ⟨⟨hcomplete, hall⟩, ⟨fun hmem => ?_, hnodup⟩, hseen, fun e he hmem => ?_⟩
      · obtain ⟨e, he, heq⟩ := List.mem_map.mp hmem
        exact hfresh e he (heq ▸ List.mem_cons_self)
      · exact hfresh e he (List.mem_cons_of_mem _ hmem)
    · rintro ⟨⟨hcomplete, hall⟩, ⟨hother, hnodup⟩, hseen, hfresh⟩
      have hnew : ∀ e ∈ ds, nodeIdOf text providerId e ∉ nodeIdOf text providerId d :: seen := by
        intro e he hmem
        cases List.mem_cons.mp hmem with
        | inl heq => exact hother (List.mem_map.mpr ⟨e, he, heq⟩)
        | inr hmem => exact hfresh e he hmem
      obtain ⟨rest, hrest⟩ := ih.mpr ⟨hall, hnodup, hnew⟩
      refine ⟨_, ok_seq.mpr ⟨?_, ok_seq.mpr ⟨?_, ok_bind.mpr ⟨rest, hrest, rfl⟩⟩⟩⟩
      · rwa [reject_eq_ok, ProxyNodeDraft.complete_iff]
      · rwa [reject_eq_ok, hid, List.contains_eq_mem, decide_eq_false_iff_not]

/-- A repeated identity is reported only when there is one. -/
theorem normalizeDrafts_duplicate {seen : List NodeId}
    (h : normalizeDrafts text providerId seen drafts = .error .duplicateNodeIdentity) :
    ¬ ((drafts.map (nodeIdOf text providerId)).Nodup ∧
      ∀ d ∈ drafts, nodeIdOf text providerId d ∉ seen) := by
  induction drafts generalizing seen with
  | nil => cases h
  | cons d ds ih =>
    rintro ⟨hnodup, hfresh⟩
    rw [List.map_cons, List.nodup_cons] at hnodup
    rw [normalizeDrafts] at h
    obtain hinvalid | ⟨-, -, h⟩ := error_bind.mp h
    · rw [reject_eq_error] at hinvalid
      cases hinvalid.2
    · obtain hseen | ⟨-, -, h⟩ := error_bind.mp h
      · rw [reject_eq_error, List.contains_eq_mem, decide_eq_true_iff] at hseen
        exact hfresh d List.mem_cons_self hseen.1
      · obtain hrest | ⟨rest, -, h⟩ := error_bind.mp h
        · refine ih hrest ⟨hnodup.2, fun e he hmem => ?_⟩
          cases List.mem_cons.mp hmem with
          | inl heq => exact hnodup.1 (List.mem_map.mpr ⟨e, he, heq⟩)
          | inr hmem => exact hfresh e (List.mem_cons_of_mem d he) hmem
        · cases h

/-- Drafts of different connections are normalized exactly when all are complete and no two
connections have the same identity. -/
theorem normalizeNodes_iff (hdistinct : (drafts.map (·.connection)).Nodup) :
    (∃ nodes, normalizeNodes text providerId drafts = .ok nodes) ↔
      (∀ d ∈ drafts, d.Complete) ∧ ∀ d ∈ drafts, ∀ e ∈ drafts,
        nodeIdOf text providerId d = nodeIdOf text providerId e → d.connection = e.connection := by
  rw [normalizeNodes, normalizeDrafts_iff]
  constructor
  · rintro ⟨hall, hnodup, -⟩
    refine ⟨hall, fun d hd e he heq => ?_⟩
    rw [List.inj_on_of_nodup_map hnodup hd he heq]
  · rintro ⟨hall, hinj⟩
    refine ⟨hall, List.Nodup.map_on ?_ (List.Nodup.of_map _ hdistinct), fun d _ => by simp⟩
    intro d hd e he heq
    exact List.inj_on_of_nodup_map hdistinct hd he (hinj d hd e he heq)

end Normalization

/-! ## The identity of what is kept -/

/-- What deduplication and normalization do to the drafts of a body. -/
structure StableIdentity (text : JsonText) (providerId : ProviderId)
    (drafts kept : List ProxyNodeDraft) : Prop where
  /-- The first draft of each connection is kept, in order. -/
  firsts : kept = ((List.finRange drafts.length).filter fun i =>
    Distinct.IsFirst ProxyNodeDraft.connection drafts i).map drafts.get
  idempotent : deduplicateDrafts text [] kept = kept
  nodes : ∀ nodes, normalizeNodes text providerId kept = .ok nodes →
    nodes = kept.map (ProxyNode.ofDraft text providerId)
  identity : ∀ d e : ProxyNodeDraft, d.connection = e.connection →
    (ProxyNode.ofDraft text providerId d).id = (ProxyNode.ofDraft text providerId e).id
  collision : normalizeNodes text providerId kept = .error .duplicateNodeIdentity →
    ∃ d ∈ kept, ∃ e ∈ kept, d.connection ≠ e.connection ∧
      nodeIdOf text providerId d = nodeIdOf text providerId e
  succeeds : (∃ nodes, normalizeNodes text providerId kept = .ok nodes) ↔
    (∀ d ∈ kept, d.Complete) ∧ ∀ d ∈ kept, ∀ e ∈ kept,
      nodeIdOf text providerId d = nodeIdOf text providerId e → d.connection = e.connection

/-- **Identity is stable.**  The first draft of each connection is kept and gets an identity that
depends on its provider and its connection alone; nodes that are renamed or permuted have the
same identities. -/
theorem node_identity_stable (text : JsonText) (read : String → Option Json)
    (providerId : ProviderId) (parsed : ParseResult)
    (hread : ReadsConnections text read parsed.nodes) :
    StableIdentity text providerId parsed.nodes (deduplicateParsedNodes text parsed).nodes ∧
    ∀ other : ParseResult, ReadsConnections text read other.nodes →
      (∀ c, c ∈ parsed.nodes.map (·.connection) ↔ c ∈ other.nodes.map (·.connection)) →
      ∀ nodes otherNodes,
        normalizeNodes text providerId (deduplicateParsedNodes text parsed).nodes = .ok nodes →
        normalizeNodes text providerId (deduplicateParsedNodes text other).nodes = .ok otherNodes →
        (nodes.map (·.id)).Perm (otherNodes.map (·.id)) := by
  have hkept : ∀ {result : ParseResult}, ReadsConnections text read result.nodes →
      (deduplicateParsedNodes text result).nodes =
        Distinct.firsts ProxyNodeDraft.connection [] result.nodes :=
    fun h => deduplicateDrafts_eq h
  have hids : ∀ {drafts : List ProxyNodeDraft} {nodes : List ProxyNode},
      normalizeNodes text providerId drafts = .ok nodes →
      nodes.map (·.id) = (drafts.map (·.connection)).map (connectionId text providerId) := by
    intro drafts nodes h
    rw [(normalizeNodes_ok h).1, List.map_map, List.map_map]
    rfl
  constructor
  · have hsub : ReadsConnections text read (deduplicateParsedNodes text parsed).nodes :=
      fun d hd => hread d (mem_of_mem_deduplicateDrafts hd)
    have hdistinct : ((deduplicateParsedNodes text parsed).nodes.map (·.connection)).Nodup := by
      rw [hkept hread]
      exact Distinct.nodup_keys_firsts
    exact {
      firsts := (hkept hread).trans Distinct.firsts_eq_positions
      idempotent := by
        rw [deduplicateDrafts_eq hsub, hkept hread]
        exact Distinct.firsts_idem
      nodes := fun nodes h => (normalizeNodes_ok h).1
      identity := fun d e h => by
        rw [ProxyNode.ofDraft, ProxyNode.ofDraft, nodeIdOf_eq, nodeIdOf_eq, h]
      collision := fun h => by
        have hrepeated := normalizeDrafts_duplicate h
        by_contra hnone
        refine hrepeated ⟨List.Nodup.map_on ?_ (List.Nodup.of_map _ hdistinct), fun d _ => by simp⟩
        intro d hd e he heq
        by_contra hne
        refine hnone ⟨d, hd, e, he, fun hsame => hne ?_, heq⟩
        exact List.inj_on_of_nodup_map hdistinct hd he hsame
      succeeds := normalizeNodes_iff hdistinct }
  · intro other hother hsame nodes otherNodes h h'
    rw [hids h, hids h', hkept hread, hkept hother]
    exact (Distinct.keys_firsts_perm hsame).map _

/-- One connection under a name. -/
def trojanDraft (name : String) : ProxyNodeDraft :=
  { name, protocol := .trojan, server := "example.com", port := 443, options := .trojan "secret"
    transport := none, tls := none }

/-- The two texts written for that connection, with and without the version tag. -/
def trojanText : JsonText :=
  ⟨fun
    | .arr (.str "veyra-node-v3" :: _) => "[\"veyra-node-v3\",\"trojan\",\"example.com\",443,\x7b\"kind\":\"trojan\",\"password\":\"secret\"\x7d,null,null]"
    | _ => "[\"trojan\",\"example.com\",443,\x7b\"kind\":\"trojan\",\"password\":\"secret\"\x7d,null,null]"⟩

theorem node_identity_stable_renamed :
    StableIdentity trojanText ⟨"provider"⟩ [trojanDraft "Oslo", trojanDraft "Bergen"]
      [trojanDraft "Oslo"] ∧
    ([ProxyNode.ofDraft trojanText ⟨"provider"⟩ (trojanDraft "Oslo")].map (·.id)).Perm
      ([ProxyNode.ofDraft trojanText ⟨"provider"⟩ (trojanDraft "Moss")].map (·.id)) := by
  have hread : ∀ drafts, (∀ d ∈ drafts, d.connection = (trojanDraft "").connection) →
      ReadsConnections trojanText (fun _ => some (.arr (connectionFields (trojanDraft ""))))
        drafts := by
    intro drafts h d hd
    rw [connectionFields_inj.mpr (h d hd)]
  have hstable := node_identity_stable trojanText _ ⟨"provider"⟩
    { format := .json, nodes := [trojanDraft "Oslo", trojanDraft "Bergen"], skipped := [] }
    (hread _ (by decide))
  refine ⟨hstable.1, hstable.2 { format := .json, nodes := [trojanDraft "Moss"], skipped := [] }
    (hread _ (by decide)) ?_ _ _ rfl rfl⟩
  intro c
  simp [trojanDraft, ProxyNodeDraft.connection]

end Veyra
