import Veyra.Domain.State
import Veyra.Lib.Check
import Veyra.Lib.Sorted

/-!
# Veyra.Domain.Validation

`AppState::validate` and the checks it is made of, in the order of the
source, and what an accepted state satisfies: `AppState.Valid` lists the
facts, `validate_eq_ok` says that `validate` decides exactly them.
-/

namespace Veyra

open Check

inductive StateValidationError
  | invalidIdentifier
  | duplicateIdentifier
  | missingSubscription
  | missingProvider
  | missingPool
  | emptyPoolSources
  | invalidFilter
  | invalidSelection
  | invalidRoute
  | invalidProtocolOptions
  | invalidSubscription
  | emptyPoolMembership
  | inactivePoolTarget
  | unsupportedSchemaVersion
deriving DecidableEq, Repr

/-! ## Identifiers -/

/-- `unique_ids`: every identifier is non-blank and none occurs twice; the
accumulator is the hash set of the source. -/
def uniqueIds (seen : List String) : List String → Except StateValidationError Unit
  | [] => .ok ()
  | id :: ids =>
    if Text.blank id then .error .invalidIdentifier
    else if id ∈ seen then .error .duplicateIdentifier
    else uniqueIds (id :: seen) ids

theorem uniqueIds_eq_ok {seen ids : List String} :
    uniqueIds seen ids = .ok () ↔
      (∀ id ∈ ids, Text.blank id = false) ∧ ids.Nodup ∧ ∀ id ∈ ids, id ∉ seen := by
  induction ids generalizing seen with
  | nil => simp [uniqueIds]
  | cons id ids ih =>
    rw [uniqueIds]
    split
    · next h => simp [h]
    · next h =>
      split
      · next hs => simp [hs]
      · next hs =>
        rw [ih]
        simp only [List.mem_cons, List.nodup_cons, not_or]
        constructor
        · rintro ⟨hb, hn, hd⟩
          refine ⟨?_, ⟨fun hm => (hd id hm).1 rfl, hn⟩, ?_⟩
          · rintro x (rfl | hx)
            · simpa using h
            · exact hb x hx
          · rintro x (rfl | hx)
            · exact hs
            · exact (hd x hx).2
        · rintro ⟨hb, ⟨hni, hn⟩, hd⟩
          refine ⟨fun x hx => hb x (.inr hx), hn, fun x hx => ⟨?_, hd x (.inr hx)⟩⟩
          rintro rfl
          exact hni hx

/-! ## Subscriptions -/

def SubscriptionDocument.isValid (d : SubscriptionDocument) : Bool :=
  d.content != "" && Text.len d.content ≤ maxSubscriptionDocumentBytes

def RemoteRequestOptions.isValid (r : RemoteRequestOptions) : Bool :=
  (5 ≤ r.timeoutSeconds && r.timeoutSeconds ≤ 120) &&
    r.userAgent.all fun v =>
      (1 ≤ Text.len v && Text.len v ≤ 256) && (Text.bytes v).all fun b => 0x20 ≤ b && b ≤ 0x7e

def SubscriptionUpdatePolicy.isValid (p : SubscriptionUpdatePolicy) : Bool :=
  p.intervalMinutes.all fun minutes => 1440 ≤ minutes

def SubscriptionTraffic.isValid (t : SubscriptionTraffic) : Bool :=
  [t.upload, t.download, t.total, t.expireAtMs].all fun v => v.all (· ≤ maxSafeInteger)

def boundedVisible (value : Option String) (maxBytes : Nat) : Bool :=
  value.all fun v => v != "" && Text.len v ≤ maxBytes && v.toList.all fun c => !Text.isControl c

def SubscriptionHttpMetadata.isValid (m : SubscriptionHttpMetadata) : Bool :=
  boundedVisible m.etag 1024 && boundedVisible m.lastModified 128 &&
    boundedVisible m.contentDisposition 255 && m.subscriptionUserinfo.all (·.isValid)

/-- The arm of `Subscription::validate` that depends on the source. -/
def Subscription.sourceRejected (s : Subscription) : Bool :=
  match s.source with
  | .remote url => Text.blank url || Text.len url > 8192 || !(s.remoteRequest.any (·.isValid))
  | .manual => s.httpMetadata.isSome || s.remoteRequest.isSome || s.updatePolicy.allowAutoUpdate ||
      s.updatePolicy.intervalMinutes.isSome || s.document.any (·.localOverride)

def Subscription.validate (s : Subscription) : Except StateValidationError Unit := do
  reject ([s.lastSuccessAtMs, s.lastAttemptAtMs].any (fun v => v.any (· > maxSafeInteger)) ||
    s.description != Text.trim s.description || s.description.toList.length > 280 ||
    s.description.toList.any Text.isControl || s.document.any (fun d => !d.isValid))
    .invalidSubscription
  reject s.sourceRejected .invalidSubscription
  reject (s.httpMetadata.any fun m => !m.isValid) .invalidSubscription
  reject (!s.updatePolicy.isValid) .invalidSubscription

/-! ## Nodes -/

/-- `ProtocolOptions::has_required_values`. -/
def ProtocolOptions.hasRequiredValues : ProtocolOptions → Bool
  | .socks _ username password | .http username password _ =>
    username.all (!Text.blank ·) && password.all (!Text.blank ·) &&
      username.isSome == password.isSome
  | .shadowsocks method password => !Text.blank method && !Text.blank password
  | .vmess uuid _ _ | .vless uuid _ => !Text.blank uuid
  | .trojan password | .anyTls password | .shadowTls _ password => !Text.blank password
  | .hysteria2 password obfs upMbps downMbps _ =>
    !Text.blank password && obfs.all (!Text.blank ·) && upMbps.all (· > 0) && downMbps.all (· > 0)
  | .wireGuard privateKey peerPublicKey _ localAddresses _ _ =>
    !Text.blank privateKey && !Text.blank peerPublicKey && !localAddresses.isEmpty &&
      localAddresses.all (!Text.blank ·)
  | .hysteria auth _ _ _ => !Text.blank auth
  | .tuic uuid password _ _ _ => !Text.blank uuid && !Text.blank password
  | .ssh user password privateKey _ _ =>
    !Text.blank user && (password.any (!Text.blank ·) || privateKey.any (!Text.blank ·))
  | .naive username password => !Text.blank username && !Text.blank password
  | .snell psk version => !Text.blank psk && (1 ≤ version && version ≤ 5)

/-- The variant of the options is the one of the protocol. -/
def ProtocolOptions.variantMatches : ProxyProtocol → ProtocolOptions → Bool
  | .socks, .socks version _ _ => version == 4 || version == 5
  | .http, .http .. | .shadowsocks, .shadowsocks .. | .vmess, .vmess .. | .vless, .vless ..
  | .trojan, .trojan .. | .wireGuard, .wireGuard .. | .hysteria, .hysteria ..
  | .hysteria2, .hysteria2 .. | .tuic, .tuic .. | .shadowTls, .shadowTls .. | .ssh, .ssh ..
  | .naive, .naive .. | .anyTls, .anyTls .. | .snell, .snell .. => true
  | _, _ => false

/-- `ProtocolOptions::is_compatible_with`. -/
def ProtocolOptions.isCompatibleWith (options : ProtocolOptions) (protocol : ProxyProtocol) : Bool :=
  variantMatches protocol options && options.hasRequiredValues

/-- `Transport::has_valid_early_data`. -/
def Transport.hasValidEarlyData : Transport → Bool
  | .websocket _ _ maxEarlyData headerName =>
    maxEarlyData.all (· > 0) && headerName.all fun name =>
      maxEarlyData.any (· > 0) && name != "" && name.toList.all fun c =>
        Text.isAsciiAlphanumeric c || "!#$%&'*+-.^_`|~".toList.contains c
  | _ => true

def knownFingerprints : List String :=
  ["chrome", "firefox", "edge", "safari", "360", "qq", "ios", "android", "random", "randomized"]

def TlsOptions.isValid (t : TlsOptions) : Bool :=
  t.alpn.length ≤ 16 &&
    (t.alpn.all fun p => (1 ≤ p.toList.length && p.toList.length ≤ 255) &&
      (Text.bytes p).all fun b => 0x21 ≤ b && b ≤ 0x7e) &&
    decide t.alpn.Nodup && t.utlsFingerprint.all (knownFingerprints.contains ·)

/-- The checks of the node loop of `AppState::validate`. -/
def ProxyNode.validate (providers : List Provider) (n : ProxyNode) :
    Except StateValidationError Unit := do
  reject (Text.blank n.providerId.val || !(providers.any (·.id = n.providerId))) .missingProvider
  reject (!n.options.isCompatibleWith n.protocol || n.tls.any (fun t => !t.isValid) ||
    n.transport.any (fun t => !t.hasValidEarlyData)) .invalidProtocolOptions

/-! ## Pools -/

/-- `NodeFilter::validate`. -/
def NodeFilter.validate (f : NodeFilter) (providerId : ProviderId) (nodes : List ProxyNode) :
    Except StateValidationError Unit :=
  reject (((f.includeNodeIds ++ f.excludeNodeIds).any fun id =>
      (nodes.find? (·.id = id)).all (·.providerId ≠ providerId)) ||
    f.includeNodeIds.any (f.excludeNodeIds.contains ·)) .invalidFilter

/-- `NodeFilter::matches`. -/
def NodeFilter.admits (f : NodeFilter) (n : ProxyNode) : Bool :=
  let name := Text.lower n.name
  (f.regions.isEmpty || f.regions.any fun r => Text.contains name (Text.lower r)) &&
    (f.protocols.isEmpty || f.protocols.contains n.protocol) &&
    (f.includeKeywords.isEmpty || f.includeKeywords.all fun k => Text.contains name (Text.lower k)) &&
    (!f.excludeKeywords.any fun k => Text.contains name (Text.lower k)) &&
    (f.includeNodeIds.isEmpty || f.includeNodeIds.contains n.id) &&
    !f.excludeNodeIds.contains n.id

/-- A source admits the nodes of its provider that pass its filter. -/
def PoolSource.admits (s : PoolSource) (n : ProxyNode) : Bool :=
  n.providerId = s.providerId && s.filter.admits n

/-- `AppState::resolve_pool_members`: the ids, sorted, without repetition. -/
def AppState.resolvePoolMembers (s : AppState) (pool : NodePool) : List NodeId :=
  Sorted.sortDedup (·.val) (pool.sources.flatMap fun src =>
    (s.nodes.filter src.admits).map (·.id))

/-- The checks of the pool loop of `AppState::validate`. -/
def NodePool.validate (s : AppState) (pool : NodePool) : Except StateValidationError Unit := do
  reject pool.sources.isEmpty .emptyPoolSources
  each (fun src => do
    reject (!(s.providers.any (·.id = src.providerId))) .missingProvider
    src.filter.validate src.providerId s.nodes) pool.sources
  match pool.selection with
  | .manual (some nodeId) =>
    reject (!(s.resolvePoolMembers pool).contains nodeId) .invalidSelection
  | .manual none => .ok ()
  | .urlTest probeUrl intervalSecs _ =>
    reject (Text.blank probeUrl || intervalSecs == 0) .invalidSelection

/-! ## Routes -/

/-- `TrafficMatcher::is_valid`. -/
def TrafficMatcher.isValid : TrafficMatcher → Bool
  | .domain values | .domainSuffix values | .application values | .ipCidr values =>
    values.all (!Text.blank ·) && !values.isEmpty
  | .port values => values.all (· > 0) && !values.isEmpty
  | .protocol values => !values.isEmpty

/-- `RouteTarget::validate`. -/
def RouteTarget.validate (pools : List NodePool) : RouteTarget → Except StateValidationError Unit
  | .pool id => reject (!(pools.any (·.id = id))) .missingPool
  | _ => .ok ()

/-- The checks of the route loop of `AppState::validate`. -/
def RoutePolicy.validate (pools : List NodePool) (r : RoutePolicy) :
    Except StateValidationError Unit := do
  reject (!r.matcher.isValid) .invalidRoute
  r.target.validate pools

/-! ## The aggregate -/

def AppState.validate (s : AppState) : Except StateValidationError Unit := do
  reject (s.schemaVersion != currentSchemaVersion) .unsupportedSchemaVersion
  uniqueIds [] (s.subscriptions.map (·.id.val))
  uniqueIds [] (s.providers.map (·.id.val))
  uniqueIds [] (s.nodes.map (·.id.val))
  uniqueIds [] (s.pools.map (·.id.val))
  uniqueIds [] (s.routes.map (·.id.val))
  s.defaultTarget.validate s.pools
  reject (s.activeConfigurationGeneration > maxSafeInteger ||
    s.activeSubscriptionId.any (fun id => !(s.subscriptions.any (·.id = id)))) .invalidSubscription
  each Subscription.validate s.subscriptions
  each (fun p => reject (Text.blank p.subscriptionId.val ||
    !(s.subscriptions.any (·.id = p.subscriptionId))) .missingSubscription) s.providers
  each (ProxyNode.validate s.providers) s.nodes
  each (NodePool.validate s) s.pools
  each (RoutePolicy.validate s.pools) s.routes

/-- What an accepted state satisfies. -/
structure AppState.Valid (s : AppState) : Prop where
  schemaVersion : s.schemaVersion = currentSchemaVersion
  subscriptionIds : uniqueIds [] (s.subscriptions.map (·.id.val)) = .ok ()
  providerIds : uniqueIds [] (s.providers.map (·.id.val)) = .ok ()
  nodeIds : uniqueIds [] (s.nodes.map (·.id.val)) = .ok ()
  poolIds : uniqueIds [] (s.pools.map (·.id.val)) = .ok ()
  routeIds : uniqueIds [] (s.routes.map (·.id.val)) = .ok ()
  defaultTarget : s.defaultTarget.validate s.pools = .ok ()
  generation : s.activeConfigurationGeneration ≤ maxSafeInteger
  active : ∀ id, s.activeSubscriptionId = some id → ∃ sub ∈ s.subscriptions, sub.id = id
  subscriptions : ∀ sub ∈ s.subscriptions, sub.validate = .ok ()
  providers : ∀ p ∈ s.providers, ∃ sub ∈ s.subscriptions, sub.id = p.subscriptionId
  providerOwners : ∀ p ∈ s.providers, Text.blank p.subscriptionId.val = false
  nodes : ∀ n ∈ s.nodes, n.validate s.providers = .ok ()
  pools : ∀ p ∈ s.pools, p.validate s = .ok ()
  routes : ∀ r ∈ s.routes, r.validate s.pools = .ok ()

/-- `validate` accepts exactly the valid states. -/
theorem AppState.validate_eq_ok {s : AppState} : s.validate = .ok () ↔ s.Valid := by
  simp only [AppState.validate, ok_seq, reject_eq_ok, each_eq_ok, bne_eq_false_iff_eq,
    Bool.or_eq_false_iff, decide_eq_false_iff_not, UInt64.not_lt, gt_iff_lt,
    Option.any_eq_false, Bool.not_eq_false', List.any_eq_true, decide_eq_true_eq]
  constructor
  · rintro ⟨h1, h2, h3, h4, h5, h6, h7, ⟨h8, h9⟩, h10, h11, h12, h13, h14⟩
    exact ⟨h1, h2, h3, h4, h5, h6, h7, h8, h9, h10, fun p hp => (h11 p hp).2,
      fun p hp => (h11 p hp).1, h12, h13, h14⟩
  · intro h
    exact ⟨h.schemaVersion, h.subscriptionIds, h.providerIds, h.nodeIds, h.poolIds, h.routeIds,
      h.defaultTarget, ⟨h.generation, h.active⟩, h.subscriptions,
      fun p hp => ⟨h.providerOwners p hp, h.providers p hp⟩, h.nodes, h.pools, h.routes⟩

namespace AppState.Valid

variable {s : AppState} (h : s.Valid)
include h

theorem nodup_subscriptions : (s.subscriptions.map (·.id.val)).Nodup :=
  (uniqueIds_eq_ok.mp h.subscriptionIds).2.1

theorem nodup_providers : (s.providers.map (·.id.val)).Nodup :=
  (uniqueIds_eq_ok.mp h.providerIds).2.1

theorem nodup_nodes : (s.nodes.map (·.id.val)).Nodup := (uniqueIds_eq_ok.mp h.nodeIds).2.1

theorem nodup_pools : (s.pools.map (·.id.val)).Nodup := (uniqueIds_eq_ok.mp h.poolIds).2.1

theorem nodup_routes : (s.routes.map (·.id.val)).Nodup := (uniqueIds_eq_ok.mp h.routeIds).2.1

end AppState.Valid

end Veyra
