import Veyra.Storage.Store

/-!
# Veyra.Storage.Meaning

What a migration preserves.  `Keeps k ms s` says what a document of version
`k` and a state have in common: every member that version `k` has is read into
the state unchanged, element by element and in order, and everything later
versions added has its documented default.  Versions 1 and 2 keep credentials
instead of options; `Carries` says which options hold which credentials.

The proof goes backwards along the chain: `Keeps` holds at version 5 of
whatever decodes after the last step, and each earlier step pulls it back by
one version (`keeps_of_migrateV4ToV5` and so on).
-/

namespace Veyra

open Check Json Codec RecordCodec

/-! ## The statement -/

/-- The request options and update policy of a subscription older than version 5. -/
def SubscriptionSource.v5Defaults :
    SubscriptionSource → Option RemoteRequestOptions × SubscriptionUpdatePolicy
  | .remote _ => (some .defaultRemote, .defaultRemote)
  | .manual => (none, .manual)

/-- A subscription of version `k` and the one it becomes. -/
structure KeepsSubscription (k : Nat) (ms : Members) (sub : Subscription) : Prop where
  id : (required "id" Schema.subscriptionId).Reads ms sub.id
  name : (required "name" string).Reads ms sub.name
  skipped : (defaulted "skipped_unsupported_nodes" u32 0 (· == 0) (by simp)).Reads ms
    sub.skippedUnsupportedNodes
  source : if 4 ≤ k then (required "source" Schema.subscriptionSource).Reads ms sub.source
    else sub.source = .manual
  lastSuccess : if 4 ≤ k then
      (optional "last_success_at_ms" u64 u64_nonNull).Reads ms sub.lastSuccessAtMs
    else sub.lastSuccessAtMs = none
  httpMetadata : if 4 ≤ k then
      (optional "http_metadata" Schema.httpMetadata.codec (codec_nonNull _)).Reads ms
        sub.httpMetadata
    else sub.httpMetadata = none
  description : if 5 ≤ k then (required "description" string).Reads ms sub.description
    else sub.description = ""
  lastAttempt : if 5 ≤ k then
      (optional "last_attempt_at_ms" u64 u64_nonNull).Reads ms sub.lastAttemptAtMs
    else sub.lastAttemptAtMs = none
  policies : if 5 ≤ k then
      (optional "remote_request" Schema.remoteRequestOptions.codec (codec_nonNull _)).Reads ms
        sub.remoteRequest ∧
      (required "update_policy" Schema.updatePolicy.codec).Reads ms sub.updatePolicy
    else (sub.remoteRequest, sub.updatePolicy) = sub.source.v5Defaults
  document : sub.document = none

/-- The credentials of a version 1 or 2 node. -/
def v2Credentials : RecordCodec V2Credentials :=
  RecordCodec.imap
    ((required "kind" string).and <|
      (Schema.optString "username").and <|
      (Schema.optString "password").and <|
      (Schema.optString "cipher").and <|
      (Schema.optString "uuid").and <|
      Schema.optString "flow")
    (fun (kind, username, password, cipher, uuid, flow) =>
      { kind, username, password, cipher, uuid, flow })
    (fun c => (c.kind, c.username, c.password, c.cipher, c.uuid, c.flow)) (fun _ => rfl)

/-- The protocol and the options that hold the credentials of a version 2 protocol. -/
inductive Carries (c : V2Credentials) : String → ProxyProtocol → ProtocolOptions → Prop
  | shadowsocks {method password : String} (hm : c.cipher = some method)
      (hp : c.password = some password) :
      Carries c "shadowsocks" .shadowsocks (.shadowsocks method password)
  | vmess {uuid : String} (hu : c.uuid = some uuid) :
      Carries c "vmess" .vmess (.vmess uuid none none)
  | vless {uuid : String} (hu : c.uuid = some uuid) :
      Carries c "vless" .vless (.vless uuid c.flow)
  | trojan {password : String} (hp : c.password = some password) :
      Carries c "trojan" .trojan (.trojan password)
  | anyTls {password : String} (hp : c.password = some password) :
      Carries c "any_tls" .anyTls (.anyTls password)
  | hysteria2 {password : String} (hp : c.password = some password) :
      Carries c "hysteria2" .hysteria2 (.hysteria2 password none none none none)
  | socks5 : Carries c "socks5" .socks (.socks 5 c.username c.password)
  | http : Carries c "http" .http (.http c.username c.password false)
  | https : Carries c "https" .http (.http c.username c.password true)

/-- A version 1 or 2 node and the one it becomes. -/
structure KeepsNode (ms : Members) (n : ProxyNode) : Prop where
  id : (required "id" Schema.nodeId).Reads ms n.id
  providerId : (required "provider_id" Schema.providerId).Reads ms n.providerId
  name : (required "name" string).Reads ms n.name
  server : (required "server" string).Reads ms n.server
  port : (required "port" u16).Reads ms n.port
  transport : (optional "transport" Schema.transport Schema.transport_nonNull).Reads ms n.transport
  tls : (optional "tls" Schema.tlsOptions.codec (codec_nonNull _)).Reads ms n.tls
  credentials : ∃ protocol cms c, ms.lookup "protocol" = some (.str protocol) ∧
    ms.lookup "credentials" = some (.obj cms) ∧ v2Credentials.Reads cms c ∧
    Carries c protocol n.protocol n.options

/-- The array under `key` corresponds to the list element by element, in order. -/
def Pairs {α : Type} (ms : Members) (key : String) (R : Members → α → Prop) (as : List α) : Prop :=
  ∃ vs, ms.lookup key = some (.arr vs) ∧ List.Forall₂ (fun v a => ∃ m, v = .obj m ∧ R m a) vs as

/-- A document of version `k` and the state it becomes. -/
structure Keeps (k : Nat) (ms : Members) (s : AppState) : Prop where
  subscriptions : Pairs ms "subscriptions" (KeepsSubscription k) s.subscriptions
  providers : (required "providers" (list Schema.provider.codec)).Reads ms s.providers
  nodes : if 3 ≤ k then (required "nodes" (list Schema.proxyNode.codec)).Reads ms s.nodes
    else Pairs ms "nodes" KeepsNode s.nodes
  pools : if 2 ≤ k then (required "pools" (list Schema.nodePool.codec)).Reads ms s.pools
    else s.pools = []
  routes : if 2 ≤ k then (required "routes" (list Schema.routePolicy.codec)).Reads ms s.routes
    else s.routes = []
  defaultTarget : if 3 ≤ k then
      (required "default_target" Schema.routeTarget).Reads ms s.defaultTarget
    else s.defaultTarget = .unconfigured
  active : if 5 ≤ k then
      (optional "active_subscription_id" Schema.subscriptionId Schema.subscriptionId_nonNull).Reads
        ms s.activeSubscriptionId
    else s.activeSubscriptionId = none
  generation : if 5 ≤ k then
      (required "active_configuration_generation" u64).Reads ms s.activeConfigurationGeneration
    else s.activeConfigurationGeneration = 0

/-! ## Elementwise relations -/

/-- Compose two elementwise relations. -/
theorem forall₂_trans {α β γ : Type} {R : α → β → Prop} {S : β → γ → Prop} {T : α → γ → Prop}
    (h : ∀ a b c, R a b → S b c → T a c) {as : List α} {bs : List β} {cs : List γ}
    (hR : List.Forall₂ R as bs) (hS : List.Forall₂ S bs cs) : List.Forall₂ T as cs := by
  induction hR generalizing cs with
  | nil =>
    cases hS
    exact .nil
  | cons hab _ ih =>
    cases hS with
    | cons hbc hS => exact .cons (h _ _ _ hab hbc) (ih hS)

/-- The elements of a stored array. -/
theorem reads_list {α : Type} {key : String} {c : Codec α} {ms : Members} {as : List α} :
    (required key (list c)).Reads ms as ↔ ∃ vs, ms.lookup key = some (.arr vs) ∧
      List.Forall₂ (fun v a => c.decode v = some a) vs as := by
  rw [reads_required]
  constructor
  · rintro ⟨v, hv, hdec⟩
    obtain ⟨vs, hvs, hdec⟩ := Option.bind_eq_some_iff.mp hdec
    obtain rfl := asArr?_eq_some.mp hvs
    exact ⟨vs, hv, decodeAll_eq_some.mp hdec⟩
  · rintro ⟨vs, hv, hdec⟩
    exact ⟨.arr vs, hv, decodeAll_eq_some.mpr hdec⟩

/-- Pull an elementwise relation back along a change of the elements. -/
theorem pairs_of_onEach {α : Type} {key : String} {f : Json → Except StateStoreError Json}
    {ms ms' : Members} {P : Json → α → Prop} {S : Members → α → Prop} {as : List α}
    (hf : ∀ v v' a, f v = .ok v' → P v' a → ∃ m, v = .obj m ∧ S m a)
    (h : onEach key f ms = .ok ms')
    (hP : ∃ vs, ms'.lookup key = some (.arr vs) ∧ List.Forall₂ P vs as) : Pairs ms key S as := by
  obtain ⟨vs, vs', hvs, hchange, rfl⟩ := onEach_eq_ok.mp h
  obtain ⟨vs₁, hvs₁, hP⟩ := hP
  rw [lookup_setMember, if_pos rfl] at hvs₁
  obtain rfl := Json.arr.inj (Option.some.inj hvs₁)
  exact ⟨vs, hvs, forall₂_trans hf hchange hP⟩

/-- `onEach` leaves the other members alone. -/
theorem reads_of_onEach {α : Type} {key : String} {f : Json → Except StateStoreError Json}
    {ms ms' : Members} (h : onEach key f ms = .ok ms') {r : RecordCodec α} (hr : key ∉ r.names)
    {a : α} : r.Reads ms' a ↔ r.Reads ms a := by
  obtain ⟨vs, vs', -, -, rfl⟩ := onEach_eq_ok.mp h
  exact reads_setMember_of_notMem hr _ _ _

/-! ## Subscriptions, backwards -/

/-- The last step of the migration keeps a subscription. -/
theorem keepsSubscription_five {v v' : Json} {sub : Subscription}
    (hm : migrateV5Subscription v = .ok v')
    (hd : Schema.subscription.codec.decode v' = some sub) :
    ∃ m, v = .obj m ∧ KeepsSubscription 5 m sub := by
  obtain ⟨ms, ms', rfl, h, rfl⟩ := onObject_eq_ok.mp hm
  obtain rfl := Except.ok.inj h
  obtain ⟨hid, hname, hdesc, hsource, hsucc, hatt, hhttp, hreq, hpol, hskip, hdoc⟩ :=
    Schema.reads_subscription.mp hd
  simp (disch := decide) only [reads_setMember_of_notMem] at *
  rw [Schema.skipNone, reads_defaulted_setMember] at hdoc
  refine ⟨ms, rfl, ?_⟩
  exact {
    id := hid, name := hname, skipped := hskip
    source := hsource, lastSuccess := hsucc, httpMetadata := hhttp
    description := hdesc, lastAttempt := hatt, policies := ⟨hreq, hpol⟩
    document := (Option.some.inj hdoc).symm }

/-- The policies given to a source kind are the defaults of the source of that kind. -/
theorem v5Defaults_of_v5Policies {src : Members} {kind : String} {request policy : Json}
    {source : SubscriptionSource} {req : Option RemoteRequestOptions}
    {pol : SubscriptionUpdatePolicy} (hkind : (src.lookup "kind").bind asStr? = some kind)
    (hpol : v5Policies kind = .ok (request, policy))
    (hsource : Schema.subscriptionSource.decode (.obj src) = some source)
    (hreq : (Schema.remoteRequestOptions.codec.option (codec_nonNull _)).decode request = some req)
    (hpolicy : Schema.updatePolicy.codec.decode policy = some pol) :
    (req, pol) = source.v5Defaults := by
  unfold v5Policies at hpol
  split at hpol
  · obtain ⟨rfl, rfl⟩ := Prod.mk.inj (Except.ok.inj hpol)
    have hread : ((required "url" string).read (.members src)).map SubscriptionSource.remote =
        some source := by
      rw [← hsource]
      show _ = ((src.lookup "kind").bind asStr?).bind _
      rw [hkind]
      rfl
    obtain ⟨url, -, rfl⟩ := Option.map_eq_some_iff.mp hread
    have h1 := (Schema.remoteRequestOptions.codec.option (codec_nonNull _)).decode_encode
      (some .defaultRemote)
    have h2 := Schema.updatePolicy.codec.decode_encode .defaultRemote
    have hreq' := hreq.symm.trans h1
    have hpolicy' := hpolicy.symm.trans h2
    rw [Option.some.inj hreq', Option.some.inj hpolicy']
    rfl
  · obtain ⟨rfl, rfl⟩ := Prod.mk.inj (Except.ok.inj hpol)
    have hread : ((RecordCodec.unit.read (.members src)).map fun _ => SubscriptionSource.manual) =
        some source := by
      rw [← hsource]
      show _ = ((src.lookup "kind").bind asStr?).bind _
      rw [hkind]
      rfl
    obtain ⟨_, -, rfl⟩ := Option.map_eq_some_iff.mp hread
    have h2 := Schema.updatePolicy.codec.decode_encode .manual
    have hpolicy' := hpolicy.symm.trans h2
    rw [Option.some.inj hpolicy', ← Option.some.inj hreq]
    rfl
  · cases hpol

/-- The step from V4 keeps a subscription. -/
theorem keepsSubscription_four {v v' : Json} {sub : Subscription}
    (hm : migrateV4Subscription v = .ok v')
    (hd : ∃ m, v' = .obj m ∧ KeepsSubscription 5 m sub) :
    ∃ m, v = .obj m ∧ KeepsSubscription 4 m sub := by
  obtain ⟨ms, ms', rfl, h, rfl⟩ := onObject_eq_ok.mp hm
  obtain ⟨_, hobj, hd⟩ := hd
  obtain rfl := Json.obj.inj hobj
  obtain ⟨kind, hkind, h⟩ := ok_bind.mp h
  obtain ⟨⟨request, policy⟩, hpol, h⟩ := ok_bind.mp h
  obtain rfl := Except.ok.inj h
  obtain ⟨hid, hname, hskip, hsource, hsucc, hhttp, hdesc, hatt, hpolicies, hdoc⟩ := hd
  simp (disch := decide) only [reads_setMember_of_notMem, reads_required_setMember,
    reads_optional_setMember, Nat.reduceLeDiff, if_true, Nat.le_refl] at *
  refine ⟨ms, rfl, ?_⟩
  exact {
    id := hid, name := hname, skipped := hskip
    source := hsource, lastSuccess := hsucc, httpMetadata := hhttp
    description := (Option.some.inj hdesc).symm, lastAttempt := (Option.some.inj hatt).symm
    policies := by
      obtain ⟨src, hsrc, hdec⟩ := reads_required.mp hsource
      rw [okOr_eq_ok, hsrc] at hkind
      cases src with
      | obj src => exact v5Defaults_of_v5Policies hkind hpol hdec hpolicies.1 hpolicies.2
      | _ => exact absurd hkind nofun
    document := hdoc }

/-- The step from V3 keeps a subscription. -/
theorem keepsSubscription_three {v v' : Json} {sub : Subscription}
    (hm : migrateV3Subscription v = .ok v')
    (hd : ∃ m, v' = .obj m ∧ KeepsSubscription 4 m sub) :
    ∃ m, v = .obj m ∧ KeepsSubscription 3 m sub := by
  obtain ⟨ms, ms', rfl, h, rfl⟩ := onObject_eq_ok.mp hm
  obtain ⟨_, hobj, hd⟩ := hd
  obtain rfl := Json.obj.inj hobj
  obtain rfl := Except.ok.inj h
  obtain ⟨hid, hname, hskip, hsource, hsucc, hhttp, hdesc, hatt, hpolicies, hdoc⟩ := hd
  simp (disch := decide) only [reads_setMember_of_notMem, reads_required_setMember,
    reads_optional_setMember, Nat.reduceLeDiff, if_true, if_false, Nat.le_refl] at *
  have hmanual : Schema.subscriptionSource.decode (object [("kind", .str "manual")]) =
      some .manual := Schema.subscriptionSource.decode_encode .manual
  rw [hmanual] at hsource
  refine ⟨ms, rfl, ?_⟩
  exact {
    id := hid, name := hname, skipped := hskip
    source := (Option.some.inj hsource).symm, lastSuccess := (Option.some.inj hsucc).symm
    httpMetadata := (Option.some.inj hhttp).symm
    description := hdesc, lastAttempt := hatt, policies := hpolicies, document := hdoc }

/-- Versions 1 to 3 have the same subscriptions. -/
theorem KeepsSubscription.of_three {k : Nat} (hk : k ≤ 3) {ms : Members} {sub : Subscription}
    (h : KeepsSubscription 3 ms sub) : KeepsSubscription k ms sub := by
  obtain ⟨hid, hname, hskip, hsource, hsucc, hhttp, hdesc, hatt, hpolicies, hdoc⟩ := h
  have h4 : ¬ 4 ≤ k := by omega
  have h5 : ¬ 5 ≤ k := by omega
  constructor <;> first
    | assumption
    | (simp only [h4, h5, if_false]; assumption)

/-! ## Nodes, backwards -/

/-- An optional text is read as the schema reads it. -/
theorem optString_of_optionalString {ms : Members} {key : String} {o : Option String}
    (h : optionalString ms key = .ok o) : (Schema.optString key).Reads ms o := by
  simp only [Reads, Schema.optString, RecordCodec.optional]
  unfold optionalString at h
  split at h
  · next hl => rw [hl, Except.ok.inj h]
  · next hl =>
    rw [hl, ← Except.ok.inj h]
    rfl
  · next t hl =>
    split at h
    · cases h
    · rw [hl, ← Except.ok.inj h]
      rfl
  · cases h

/-- A required string is there. -/
theorem lookup_of_requiredString {ms : Members} {key t : String}
    (h : requiredString ms key = .ok t) : ms.lookup key = some (.str t) := by
  obtain ⟨o, ho, h⟩ := ok_bind.mp h
  obtain rfl := okOr_eq_ok.mp h
  unfold optionalString at ho
  split at ho
  · exact absurd (Except.ok.inj ho) nofun
  · exact absurd (Except.ok.inj ho) nofun
  · next t' hl =>
    split at ho
    · exact absurd ho nofun
    · rw [hl, Option.some.inj (Except.ok.inj ho)]
  · exact absurd ho nofun

/-- Credentials are read as the schema reads them. -/
theorem v2Credentials_of_readCredentials {v : Json} {c : V2Credentials}
    (h : readCredentials v = .ok c) : ∃ ms, v = .obj ms ∧ v2Credentials.Reads ms c := by
  obtain ⟨ms, hms, h⟩ := ok_bind.mp h
  obtain ⟨kind, hkind, h⟩ := ok_bind.mp h
  obtain ⟨username, husername, h⟩ := ok_bind.mp h
  obtain ⟨password, hpassword, h⟩ := ok_bind.mp h
  obtain ⟨cipher, hcipher, h⟩ := ok_bind.mp h
  obtain ⟨uuid, huuid, h⟩ := ok_bind.mp h
  obtain ⟨flow, hflow, h⟩ := ok_bind.mp h
  obtain rfl := Except.ok.inj h
  refine ⟨ms, asObj?_eq_some.mp (okOr_eq_ok.mp hms),
    reads_imap.mpr ⟨(kind, username, password, cipher, uuid, flow), ?_, rfl⟩⟩
  simp only [reads_and]
  exact ⟨reads_required.mpr ⟨_, lookup_of_requiredString hkind, rfl⟩,
    optString_of_optionalString husername, optString_of_optionalString hpassword,
    optString_of_optionalString hcipher, optString_of_optionalString huuid,
    optString_of_optionalString hflow⟩

/-- A text or null is written as the schema writes it. -/
theorem textOrNull_eq_encode (o : Option String) :
    textOrNull o = (string.option string_nonNull).encode o := by
  cases o <;> rfl

/-- The migrated options decode to the options that carry the credentials. -/
theorem carries_of_optionsOfCredentials {protocol renamed : String} {c : V2Credentials}
    {options : Json} {p : ProxyProtocol} {o : ProtocolOptions}
    (hopt : optionsOfCredentials protocol c = .ok options)
    (hname : v3Protocol protocol = .ok renamed)
    (hp : Schema.proxyProtocol.decode (.str renamed) = some p)
    (ho : Schema.protocolOptions.decode options = some o) : Carries c protocol p o := by
  -- the options of each protocol are what the current schema writes for the carried value
  have key : ∀ o', options = Schema.protocolOptions.encode o' → o = o' := fun o' h => by
    rw [h, Codec.decode_encode] at ho
    exact (Option.some.inj ho).symm
  unfold optionsOfCredentials at hopt
  simp only [textOrNull_eq_encode] at hopt
  split at hopt
  · obtain ⟨m, hm, hopt⟩ := ok_bind.mp hopt
    obtain ⟨w, hw, hopt⟩ := ok_bind.mp hopt
    obtain rfl := key (.shadowsocks m w) (Except.ok.inj hopt).symm
    obtain rfl := Except.ok.inj hname
    obtain rfl := Option.some.inj hp
    exact .shadowsocks (okOr_eq_ok.mp hm) (okOr_eq_ok.mp hw)
  · obtain ⟨u, hu, hopt⟩ := ok_bind.mp hopt
    obtain rfl := key (.vmess u none none) (Except.ok.inj hopt).symm
    obtain rfl := Except.ok.inj hname
    obtain rfl := Option.some.inj hp
    exact .vmess (okOr_eq_ok.mp hu)
  · obtain ⟨u, hu, hopt⟩ := ok_bind.mp hopt
    obtain rfl := key (.vless u c.flow) (Except.ok.inj hopt).symm
    obtain rfl := Except.ok.inj hname
    obtain rfl := Option.some.inj hp
    exact .vless (okOr_eq_ok.mp hu)
  · obtain ⟨w, hw, hopt⟩ := ok_bind.mp hopt
    obtain rfl := key (.trojan w) (Except.ok.inj hopt).symm
    obtain rfl := Except.ok.inj hname
    obtain rfl := Option.some.inj hp
    exact .trojan (okOr_eq_ok.mp hw)
  · obtain ⟨w, hw, hopt⟩ := ok_bind.mp hopt
    obtain rfl := key (.anyTls w) (Except.ok.inj hopt).symm
    obtain rfl := Except.ok.inj hname
    obtain rfl := Option.some.inj hp
    exact .anyTls (okOr_eq_ok.mp hw)
  · obtain ⟨w, hw, hopt⟩ := ok_bind.mp hopt
    obtain rfl := key (.hysteria2 w none none none none) (Except.ok.inj hopt).symm
    obtain rfl := Except.ok.inj hname
    obtain rfl := Option.some.inj hp
    exact .hysteria2 (okOr_eq_ok.mp hw)
  · obtain rfl := key (.socks 5 c.username c.password) (Except.ok.inj hopt).symm
    obtain rfl := Except.ok.inj hname
    obtain rfl := Option.some.inj hp
    exact .socks5
  · obtain rfl := key (.socks 5 c.username c.password) (Except.ok.inj hopt).symm
    obtain rfl := Except.ok.inj hname
    obtain rfl := Option.some.inj hp
    exact .socks5
  · obtain rfl := key (.http c.username c.password false) (Except.ok.inj hopt).symm
    obtain rfl := Except.ok.inj hname
    obtain rfl := Option.some.inj hp
    exact .http
  · obtain rfl := key (.http c.username c.password false) (Except.ok.inj hopt).symm
    obtain rfl := Except.ok.inj hname
    obtain rfl := Option.some.inj hp
    exact .http
  · obtain rfl := key (.http c.username c.password true) (Except.ok.inj hopt).symm
    obtain rfl := Except.ok.inj hname
    obtain rfl := Option.some.inj hp
    exact .https
  · obtain rfl := key (.http c.username c.password true) (Except.ok.inj hopt).symm
    obtain rfl := Except.ok.inj hname
    obtain rfl := Option.some.inj hp
    exact .https
  · exact absurd hopt nofun

/-- The migration keeps a node. -/
theorem keepsNode {v v' : Json} {n : ProxyNode} (hm : migrateV2Node v = .ok v')
    (hd : Schema.proxyNode.codec.decode v' = some n) : ∃ m, v = .obj m ∧ KeepsNode m n := by
  obtain ⟨ms, ms', rfl, h, rfl⟩ := onObject_eq_ok.mp hm
  obtain ⟨protocol, hprotocol, h⟩ := ok_bind.mp h
  obtain ⟨credentials, hcredentials, h⟩ := ok_bind.mp h
  obtain ⟨options, hoptions, h⟩ := ok_bind.mp h
  obtain ⟨renamed, hrenamed, h⟩ := ok_bind.mp h
  obtain rfl := Except.ok.inj h
  obtain ⟨c, hc, hcarried⟩ := ok_bind.mp hoptions
  obtain ⟨cms, rfl, hcms⟩ := v2Credentials_of_readCredentials hc
  obtain ⟨hid, hprovider, hname, hprot, hserver, hport, hopt, htransport, htls⟩ :=
    Schema.reads_proxyNode.mp hd
  simp (disch := decide) only [reads_setMember_of_notMem, reads_removeMember_of_notMem,
    reads_required_setMember] at *
  refine ⟨ms, rfl, ?_⟩
  exact {
    id := hid, providerId := hprovider, name := hname, server := hserver, port := hport
    transport := htransport, tls := htls
    credentials := ⟨protocol, cms, c, lookup_of_requiredString hprotocol,
      okOr_eq_ok.mp hcredentials, hcms,
      carries_of_optionsOfCredentials hcarried hrenamed hprot hopt⟩ }

/-! ## Documents, backwards -/

/-- After the last step: whatever decodes keeps the version 5 document. -/
theorem keeps_five {document migrated : Json} {s : AppState}
    (hm : migrateV5ToV6 document = .ok migrated)
    (hd : Schema.storedStateV6.codec.decode migrated = some s) :
    ∃ ms, document = .obj ms ∧ Keeps 5 ms s := by
  obtain ⟨ms, ms', rfl, h, rfl⟩ := onObject_eq_ok.mp hm
  obtain ⟨ms₁, heach, h⟩ := ok_bind.mp h
  obtain rfl := Except.ok.inj h
  obtain ⟨-, htarget, hactive, hgen, hsubs, hprov, hnodes, hpools, hroutes⟩ :=
    Schema.reads_storedStateV6.mp hd
  simp (disch := decide) only [reads_setMember_of_notMem] at *
  rw [reads_list] at hsubs
  simp (disch := decide) only [reads_of_onEach heach] at *
  refine ⟨ms, rfl, ?_⟩
  exact {
    subscriptions := pairs_of_onEach (fun _ _ _ => keepsSubscription_five) heach hsubs
    providers := hprov, nodes := hnodes, pools := hpools, routes := hroutes
    defaultTarget := htarget, active := hactive, generation := hgen }

/-- The step from V4 keeps the meaning. -/
theorem keeps_four {document migrated : Json} {s : AppState}
    (hm : migrateV4ToV5 document = .ok migrated) (hd : ∃ ms, migrated = .obj ms ∧ Keeps 5 ms s) :
    ∃ ms, document = .obj ms ∧ Keeps 4 ms s := by
  obtain ⟨ms, ms', rfl, h, rfl⟩ := onObject_eq_ok.mp hm
  obtain ⟨_, hobj, hd⟩ := hd
  obtain rfl := Json.obj.inj hobj
  obtain ⟨ms₁, heach, h⟩ := ok_bind.mp h
  obtain rfl := Except.ok.inj h
  obtain ⟨hsubs, hprov, hnodes, hpools, hroutes, htarget, hactive, hgen⟩ := hd
  simp (disch := decide) only [reads_setMember_of_notMem, reads_required_setMember,
    reads_optional_setMember, Nat.reduceLeDiff, if_true, Nat.le_refl] at *
  simp (disch := decide) only [reads_of_onEach heach] at *
  refine ⟨ms, rfl, ?_⟩
  exact {
    subscriptions := pairs_of_onEach (fun _ _ _ => keepsSubscription_four) heach
      (by simpa [Pairs] using hsubs)
    providers := hprov, nodes := hnodes, pools := hpools, routes := hroutes
    defaultTarget := htarget, active := (Option.some.inj hactive).symm
    generation := (Option.some.inj hgen).symm }

/-- The step from V3 keeps the meaning. -/
theorem keeps_three {document migrated : Json} {s : AppState}
    (hm : migrateV3ToV4 document = .ok migrated) (hd : ∃ ms, migrated = .obj ms ∧ Keeps 4 ms s) :
    ∃ ms, document = .obj ms ∧ Keeps 3 ms s := by
  obtain ⟨ms, ms', rfl, h, rfl⟩ := onObject_eq_ok.mp hm
  obtain ⟨_, hobj, hd⟩ := hd
  obtain rfl := Json.obj.inj hobj
  obtain ⟨ms₁, heach, h⟩ := ok_bind.mp h
  obtain rfl := Except.ok.inj h
  obtain ⟨hsubs, hprov, hnodes, hpools, hroutes, htarget, hactive, hgen⟩ := hd
  simp (disch := decide) only [reads_setMember_of_notMem, Nat.reduceLeDiff, if_true,
    if_false] at *
  simp (disch := decide) only [reads_of_onEach heach] at *
  refine ⟨ms, rfl, ?_⟩
  exact {
    subscriptions := pairs_of_onEach (fun _ _ _ => keepsSubscription_three) heach
      (by simpa [Pairs] using hsubs)
    providers := hprov, nodes := hnodes, pools := hpools, routes := hroutes
    defaultTarget := htarget, active := hactive, generation := hgen }

/-- The step from V2 keeps the meaning. -/
theorem keeps_two {document migrated : Json} {s : AppState}
    (hm : migrateV2ToV3 document = .ok migrated) (hd : ∃ ms, migrated = .obj ms ∧ Keeps 3 ms s) :
    ∃ ms, document = .obj ms ∧ Keeps 2 ms s := by
  obtain ⟨ms, ms', rfl, h, rfl⟩ := onObject_eq_ok.mp hm
  obtain ⟨_, hobj, hd⟩ := hd
  obtain rfl := Json.obj.inj hobj
  obtain ⟨ms₁, heach, h⟩ := ok_bind.mp h
  obtain rfl := Except.ok.inj h
  obtain ⟨hsubs, hprov, hnodes, hpools, hroutes, htarget, hactive, hgen⟩ := hd
  simp (disch := decide) only [reads_setMember_of_notMem, reads_required_setMember,
    Nat.reduceLeDiff, if_true, if_false, Nat.le_refl] at *
  rw [reads_list] at hnodes
  simp (disch := decide) only [reads_of_onEach heach] at *
  have hunconfigured : Schema.routeTarget.decode (object [("kind", .str "unconfigured")]) =
      some .unconfigured := Schema.routeTarget.decode_encode .unconfigured
  rw [hunconfigured] at htarget
  obtain ⟨vs, hvs, hsubs⟩ := hsubs
  refine ⟨ms, rfl, ?_⟩
  exact {
    subscriptions := by
      obtain ⟨_, _, -, -, rfl⟩ := onEach_eq_ok.mp heach
      refine ⟨vs, by simpa using hvs, hsubs.imp fun v sub h => ?_⟩
      exact h.imp fun m h => ⟨h.1, h.2.of_three (by decide)⟩
    providers := hprov, pools := hpools, routes := hroutes
    nodes := pairs_of_onEach (fun _ _ _ => keepsNode) heach hnodes
    defaultTarget := (Option.some.inj htarget).symm, active := hactive, generation := hgen }

/-- The step from V1 keeps the meaning. -/
theorem keeps_one {document migrated : Json} {s : AppState}
    (hm : migrateV1ToV2 document = .ok migrated) (hd : ∃ ms, migrated = .obj ms ∧ Keeps 2 ms s) :
    ∃ ms, document = .obj ms ∧ Keeps 1 ms s := by
  obtain ⟨ms, ms', rfl, h, rfl⟩ := onObject_eq_ok.mp hm
  obtain ⟨_, hobj, hd⟩ := hd
  obtain rfl := Json.obj.inj hobj
  obtain rfl := Except.ok.inj h
  obtain ⟨⟨vs, hvs, hsubs⟩, hprov, ⟨ns, hns, hnodes⟩, hpools, hroutes, htarget, hactive, hgen⟩ := hd
  simp (disch := decide) only [reads_setMember_of_notMem, reads_required_setMember,
    Nat.reduceLeDiff, if_true, if_false, Nat.le_refl] at *
  refine ⟨ms, rfl, ?_⟩
  exact {
    subscriptions := by
      refine ⟨vs, by simpa using hvs, hsubs.imp fun v sub h => ?_⟩
      obtain ⟨m, rfl, h⟩ := h
      obtain ⟨hid, hname, hskip, hsource, hsucc, hhttp, hdesc, hatt, hpolicies, hdoc⟩ := h
      exact ⟨m, rfl, ⟨hid, hname, hskip, hsource, hsucc, hhttp, hdesc, hatt, hpolicies, hdoc⟩⟩
    providers := hprov
    nodes := ⟨ns, by simpa using hns, hnodes⟩
    pools := (Option.some.inj hpools).symm, routes := (Option.some.inj hroutes).symm
    defaultTarget := htarget, active := hactive, generation := hgen }

/-! ## The chain -/

/-- Every step pulls `Keeps` back by one version. -/
theorem keeps_of_runMigrations {k : Nat} (hlo : 1 ≤ k) (hhi : k ≤ 5) {document migrated : Json}
    {s : AppState} (hm : runMigrations (migrations.drop (k - 1)) document = .ok migrated)
    (hd : Schema.storedStateV6.codec.decode migrated = some s) :
    ∃ ms, document = .obj ms ∧ Keeps k ms s := by
  have step : ∀ {f : Json → Except StateStoreError Json} {fs : List _} {v : Json},
      runMigrations (f :: fs) v = .ok migrated → ∃ v', f v = .ok v' ∧
        runMigrations fs v' = .ok migrated := fun h => by
    obtain ⟨v', hv', h⟩ := ok_bind.mp h
    exact ⟨v', mapError_eq_ok.mp hv', h⟩
  have five : ∀ {v : Json}, runMigrations (migrations.drop 4) v = .ok migrated →
      ∃ ms, v = .obj ms ∧ Keeps 5 ms s := fun h => by
    obtain ⟨v', hv', h⟩ := step h
    obtain rfl := Except.ok.inj h
    exact keeps_five hv' hd
  have four : ∀ {v : Json}, runMigrations (migrations.drop 3) v = .ok migrated →
      ∃ ms, v = .obj ms ∧ Keeps 4 ms s := fun h => by
    obtain ⟨v', hv', h⟩ := step h
    exact keeps_four hv' (five h)
  have three : ∀ {v : Json}, runMigrations (migrations.drop 2) v = .ok migrated →
      ∃ ms, v = .obj ms ∧ Keeps 3 ms s := fun h => by
    obtain ⟨v', hv', h⟩ := step h
    exact keeps_three hv' (four h)
  have two : ∀ {v : Json}, runMigrations (migrations.drop 1) v = .ok migrated →
      ∃ ms, v = .obj ms ∧ Keeps 2 ms s := fun h => by
    obtain ⟨v', hv', h⟩ := step h
    exact keeps_two hv' (three h)
  have hk : k = 1 ∨ k = 2 ∨ k = 3 ∨ k = 4 ∨ k = 5 := by omega
  rcases hk with rfl | rfl | rfl | rfl | rfl
  · obtain ⟨v', hv', h⟩ := step hm
    exact keeps_one hv' (two h)
  · exact two hm
  · exact three hm
  · exact four hm
  · exact five hm

/-- **Migration.**  A document of version 1 to 5 that loads becomes a state that keeps what
the document says: the same subscriptions, providers, nodes, pools and routes in the same
order, credentials turned into compatible options, the documented defaults for everything
newer, and the selection and generation that were there. -/
theorem migration_keeps_meaning (text : SnapshotText) (bs : List UInt8) (document : Json)
    (version : UInt64) (s : AppState) (b : Bool) (hparse : text.parse bs = some document)
    (hversion : schemaVersion? document = some version) (hlo : 1 ≤ version)
    (hhi : version < currentSchemaVersion.toUInt64) (hload : decode text bs = .ok (s, b)) :
    (∃ ms, document = .obj ms ∧ Keeps version.toNat ms s) ∧
      (∀ n ∈ s.nodes, n.options.isCompatibleWith n.protocol = true) ∧
      ∀ d : Disk String, d stateFile = some bs → (load text d).1 = .ok s := by
  have hdec : decodeDocument document = .ok (s, b) := by
    obtain ⟨document', hdocument, h⟩ := ok_bind.mp hload
    rw [okOr_eq_ok, hparse] at hdocument
    obtain rfl := Option.some.inj hdocument
    exact h
  obtain ⟨migrated, hm, hstored, hvalid⟩ := decodeDocument_eq_ok.mp hdec
  rw [migrateToCurrent_of_old hversion hlo hhi] at hm
  obtain ⟨migrated', hrun, hpair⟩ := map_eq_ok.mp hm
  obtain ⟨rfl, rfl⟩ := Prod.mk.inj hpair
  have hk : 1 ≤ version.toNat ∧ version.toNat ≤ 5 := by
    have h1 := UInt64.le_iff_toNat_le.mp hlo
    have h2 := UInt64.lt_iff_toNat_lt.mp hhi
    have h6 : currentSchemaVersion.toUInt64.toNat = 6 := by decide
    have hone : (1 : UInt64).toNat = 1 := by decide
    omega
  refine ⟨keeps_of_runMigrations hk.1 hk.2 hrun hstored, fun n hn => ?_, fun d hd => ?_⟩
  · have hnode := (AppState.validate_eq_ok.mp hvalid).nodes n hn
    obtain ⟨-, hoptions⟩ := ok_seq.mp hnode
    have := reject_eq_ok.mp hoptions
    simp only [Bool.or_eq_false_iff, Bool.not_eq_false'] at this
    exact this.1.1
  · rw [load_migrated hd hload]

/-- A version 1 document with one node. -/
def oneNodeDocument : Json :=
  .object [("schema_version", num 1),
    ("subscriptions", .arr [.object [("id", .str "subscription"), ("name", .str "Test")]]),
    ("providers", .arr [.object [("id", .str "provider"),
      ("subscription_id", .str "subscription"), ("name", .str "Default")]]),
    ("nodes", .arr [.object [("id", .str "node"), ("provider_id", .str "provider"),
      ("name", .str "Test node"), ("protocol", .str "shadowsocks"),
      ("server", .str "example.invalid"), ("port", num 443),
      ("credentials", .object [("kind", .str "password"), ("username", .null),
        ("password", .str "test-secret"), ("cipher", .str "aes-128-gcm")]),
      ("transport", .str "tcp"), ("tls", .null)]])]

def oneNodeSnapshot : List UInt8 :=
  ["\x7b\"schema_version\":1,\"subscriptions\":[\x7b\"id\":\"subscription\",",
    "\"name\":\"Test\"\x7d],\"providers\":[\x7b\"id\":\"provider\",",
    "\"subscription_id\":\"subscription\",\"name\":\"Default\"\x7d],",
    "\"nodes\":[\x7b\"id\":\"node\",\"provider_id\":\"provider\",\"name\":\"Test node\",",
    "\"protocol\":\"shadowsocks\",\"server\":\"example.invalid\",\"port\":443,",
    "\"credentials\":\x7b\"kind\":\"password\",\"username\":null,",
    "\"password\":\"test-secret\",\"cipher\":\"aes-128-gcm\"\x7d,\"transport\":\"tcp\",",
    "\"tls\":null\x7d]\x7d"].flatMap Text.bytes

/-- The state that the document becomes. -/
def oneNodeState : AppState :=
  { AppState.empty with
    subscriptions := [{ id := ⟨"subscription"⟩, name := "Test", description := ""
                        source := .manual, lastSuccessAtMs := none, lastAttemptAtMs := none
                        httpMetadata := none, remoteRequest := none, updatePolicy := .manual
                        skippedUnsupportedNodes := 0, document := none }]
    providers := [{ id := ⟨"provider"⟩, subscriptionId := ⟨"subscription"⟩, name := "Default" }]
    nodes := [{ id := ⟨"node"⟩, providerId := ⟨"provider"⟩, name := "Test node"
                protocol := .shadowsocks, server := "example.invalid", port := 443
                options := .shadowsocks "aes-128-gcm" "test-secret", transport := some .tcp
                tls := none }] }

/-- The snapshot that saving it writes. -/
def oneNodeMigrated : List UInt8 :=
  ["\x7b\n  \"schema_version\": 6,\n  \"default_target\": \x7b\n",
    "    \"kind\": \"unconfigured\"\n  \x7d,\n  \"active_subscription_id\": null,\n",
    "  \"active_configuration_generation\": 0,\n  \"subscriptions\": [\n    \x7b\n",
    "      \"id\": \"subscription\",\n      \"name\": \"Test\",\n",
    "      \"description\": \"\",\n      \"source\": \x7b\n        \"kind\": \"manual\"\n",
    "      \x7d,\n      \"last_success_at_ms\": null,\n",
    "      \"last_attempt_at_ms\": null,\n      \"http_metadata\": null,\n",
    "      \"remote_request\": null,\n      \"update_policy\": \x7b\n",
    "        \"allow_auto_update\": false,\n        \"interval_minutes\": null\n",
    "      \x7d\n    \x7d\n  ],\n  \"providers\": [\n    \x7b\n",
    "      \"id\": \"provider\",\n      \"subscription_id\": \"subscription\",\n",
    "      \"name\": \"Default\"\n    \x7d\n  ],\n  \"nodes\": [\n    \x7b\n",
    "      \"id\": \"node\",\n      \"provider_id\": \"provider\",\n",
    "      \"name\": \"Test node\",\n      \"protocol\": \"shadowsocks\",\n",
    "      \"server\": \"example.invalid\",\n      \"port\": 443,\n",
    "      \"options\": \x7b\n        \"kind\": \"shadowsocks\",\n",
    "        \"method\": \"aes-128-gcm\",\n        \"password\": \"test-secret\"\n",
    "      \x7d,\n      \"transport\": \"tcp\",\n      \"tls\": null\n    \x7d\n  ],\n",
    "  \"pools\": [],\n  \"routes\": []\n\x7d"].flatMap Text.bytes

/-- A text layer that behaves as the real one on that document. -/
def oneNodeText : SnapshotText where
  print _ := oneNodeMigrated
  parse bs := if bs = oneNodeSnapshot then some oneNodeDocument else none

theorem decodeDocument_oneNode : decodeDocument oneNodeDocument = .ok (oneNodeState, true) := by
  rfl

theorem migration_keeps_meaning_oneNode :
    (∃ ms, oneNodeDocument = .obj ms ∧ Keeps (1 : UInt64).toNat ms oneNodeState) ∧
      (∀ n ∈ oneNodeState.nodes, n.options.isCompatibleWith n.protocol = true) ∧
      ∀ d : Disk String, d stateFile = some oneNodeSnapshot →
        (load oneNodeText d).1 = .ok oneNodeState :=
  have hparse : oneNodeText.parse oneNodeSnapshot = some oneNodeDocument := by
    simp only [oneNodeText, if_true]
  migration_keeps_meaning oneNodeText oneNodeSnapshot oneNodeDocument 1 oneNodeState true hparse
    rfl (by decide) (by decide)
    (ok_bind.mpr ⟨_, okOr_eq_ok.mpr hparse, decodeDocument_oneNode⟩)

end Veyra
