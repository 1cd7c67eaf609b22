import Veyra.Subscription.Redirects
import Veyra.Subscription.Userinfo
import Veyra.Application.SubscriptionOrigins

/-!
# Veyra.Application.HttpMetadata

What the headers of a response do to a subscription: its metadata and its interval.  Whatever a
server sends, the subscription stays one that the state accepts, and every number that is stored
is the exact conversion of the number that was sent.
-/

namespace Veyra

open Check

/-! ## What an update puts in place -/

/-- What an update can fetch for a source: a manual one has its content given to it. -/
def FetchedFor : SubscriptionSource → FetchResult → Prop
  | .remote url, fetched => ∃ (U : Type) (lib : UrlLibrary U) (conditional : ConditionalHeaders)
      (replies : ℕ → Option Reply), (fetchSubscription lib url conditional replies).2 = .ok fetched
  | .manual, fetched => ∃ body, fetched = .modified body ⟨none, none, none, none⟩ none true

/-- The subscription with what was fetched for it, in the commit of `update_with_route`. -/
def Subscription.received (skipped : Nat) (document : Option SubscriptionDocument)
    (fetched : FetchResult) (sub : Subscription) : Subscription :=
  match fetched with
  | .modified _ metadata profile _ =>
    sub.withContent skipped
      (match sub.source with
        | .remote _ => some metadata
        | .manual => none) document profile
  | .notModified metadata profile validatorsMatchSource =>
    { sub with
      httpMetadata := some (mergeMetadata (sub.httpMetadata.getD ⟨none, none, none, none⟩)
        metadata validatorsMatchSource)
      updatePolicy := adoptProfileInterval sub.updatePolicy profile }

/-- `u64::saturating_mul`. -/
def saturatingMul (a b : UInt64) : UInt64 :=
  if a.toNat * b.toNat < 2 ^ 64 then a * b else UInt64.ofNat (2 ^ 64 - 1)

/-- `u64::saturating_add`. -/
def saturatingAdd (a b : UInt64) : UInt64 :=
  if a.toNat + b.toNat < 2 ^ 64 then a + b else UInt64.ofNat (2 ^ 64 - 1)

/-- The last attempt or success of a subscription, in `due_subscription_ids`. -/
def Subscription.persistedBase (sub : Subscription) : UInt64 :=
  max (sub.lastAttemptAtMs.getD 0) (sub.lastSuccessAtMs.getD 0)

/-- When a subscription is due again: `persisted_deadline` in `due_subscription_ids`. -/
def Subscription.persistedDeadline (sub : Subscription) (minutes : UInt32) : UInt64 :=
  saturatingAdd sub.persistedBase (saturatingMul minutes.toUInt64 60000)

/-! ## What is fetched is valid -/

theorem adoptProfileInterval_isValid {policy : SubscriptionUpdatePolicy} {profile : Option UInt32}
    (hpolicy : policy.isValid = true) (hprofile : profile.all (1440 ≤ ·) = true) :
    (adoptProfileInterval policy profile).isValid = true := by
  unfold adoptProfileInterval
  split
  · exact hprofile
  · exact hpolicy

theorem boundedVisible_or {a b : Option String} {max : Nat} (ha : boundedVisible a max = true)
    (hb : boundedVisible b max = true) : boundedVisible (a.or b) max = true := by
  cases a with
  | none => exact hb
  | some value => exact ha

/-- Metadata that is merged is as good as its parts. -/
theorem mergeMetadata_isValid {previous response : SubscriptionHttpMetadata} {same : Bool}
    (hprevious : previous.isValid = true) (hresponse : response.isValid = true) :
    (mergeMetadata previous response same).isValid = true := by
  simp only [SubscriptionHttpMetadata.isValid, Bool.and_eq_true] at hprevious hresponse
  obtain ⟨⟨⟨hetag, hmodified⟩, hname⟩, htraffic⟩ := hprevious
  obtain ⟨⟨⟨hetag', hmodified'⟩, hname'⟩, htraffic'⟩ := hresponse
  have htraffics : (response.subscriptionUserinfo.or previous.subscriptionUserinfo).all
      (·.isValid) = true := by
    cases hr : response.subscriptionUserinfo with
    | none => exact htraffic
    | some t => rw [hr] at htraffic'; exact htraffic'
  rw [mergeMetadata, SubscriptionHttpMetadata.isValid]
  dsimp only
  rw [htraffics, boundedVisible_or hname' hname, Bool.and_true, Bool.and_true, Bool.and_eq_true]
  cases same with
  | true => exact ⟨boundedVisible_or hetag' hetag, boundedVisible_or hmodified' hmodified⟩
  | false => exact ⟨hetag', hmodified'⟩

theorem fetchedMetadata_isValid (headers : HeaderMap) (same : Bool) :
    (fetchedMetadata headers same).isValid = true := by
  have hvalid := responseMetadata_isValid headers
  unfold fetchedMetadata
  split
  · exact hvalid
  · simp only [SubscriptionHttpMetadata.isValid, Bool.and_eq_true] at hvalid ⊢
    exact ⟨⟨⟨rfl, rfl⟩, hvalid.1.2⟩, hvalid.2⟩

/-- What an update fetches has valid metadata and an interval of a day at least. -/
theorem FetchedFor.valid {source : SubscriptionSource} {fetched : FetchResult}
    (h : FetchedFor source fetched) :
    fetched.metadata.isValid = true ∧ fetched.profileInterval.all (1440 ≤ ·) = true := by
  cases source with
  | manual =>
    obtain ⟨body, rfl⟩ := h
    exact ⟨rfl, rfl⟩
  | remote url =>
    obtain ⟨U, lib, conditional, replies, h⟩ := h
    rw [fetchSubscription] at h
    cases hparse : lib.parse url with
    | none =>
      rw [hparse] at h
      cases h
    | some initial =>
      rw [hparse] at h
      dsimp only at h
      split at h
      · obtain ⟨last, headers, -, hmetadata, hprofile⟩ := fetchFrom_result _ _ h
        rw [hmetadata, hprofile, Option.all_eq_true]
        refine ⟨fetchedMetadata_isValid _ _, fun minutes hminutes => ?_⟩
        exact decide_eq_true (profileUpdateIntervalMinutes_exact hminutes).1
      · cases h

/-! ## What is received is accepted -/

/-- An accepted subscription stays accepted under what was fetched for it. -/
theorem received_validate {sub : Subscription} (hsub : sub.validate = .ok ()) {fetched : FetchResult}
    (hfetched : FetchedFor sub.source fetched) (skipped : Nat)
    {document : Option SubscriptionDocument}
    (hdocument : document.all (fun d => d.isValid && !d.localOverride) = true) :
    (sub.received skipped document fetched).validate = .ok () := by
  obtain ⟨hmetadata, hprofile⟩ := hfetched.valid
  have hplain : document.any (fun d => !d.isValid) = false ∧
      document.any (·.localOverride) = false := by
    cases document <;> simp_all
  rw [Subscription.validate] at hsub
  obtain ⟨hfields, hsub⟩ := ok_seq.mp hsub
  obtain ⟨hsource, hsub⟩ := ok_seq.mp hsub
  obtain ⟨hold, hpolicy⟩ := ok_seq.mp hsub
  rw [reject_eq_ok] at hfields hsource hold hpolicy
  have hadopted : (adoptProfileInterval sub.updatePolicy fetched.profileInterval).isValid = true :=
    adoptProfileInterval_isValid (by simpa using hpolicy) hprofile
  have hprevious : (sub.httpMetadata.getD ⟨none, none, none, none⟩).isValid = true := by
    cases hm : sub.httpMetadata with
    | none => rfl
    | some metadata => simpa [hm] using hold
  rw [Subscription.validate]
  refine ok_seq.mpr ⟨?_, ok_seq.mpr ⟨?_, ok_seq.mpr ⟨?_, ?_⟩⟩⟩
  · rw [reject_eq_ok]
    cases fetched with
    | modified body metadata profile same =>
      simp only [Bool.or_eq_false_iff] at hfields ⊢
      exact ⟨hfields.1, hplain.1⟩
    | notModified metadata profile same => exact hfields
  · rw [reject_eq_ok]
    cases hkind : sub.source with
    | manual =>
      rw [hkind] at hfetched
      obtain ⟨body, rfl⟩ := hfetched
      simp only [Subscription.sourceRejected, hkind, Bool.or_eq_false_iff] at hsource
      simp [Subscription.received, Subscription.withContent, Subscription.sourceRejected, hkind,
        adoptProfileInterval, hsource, hplain.2]
    | remote url =>
      cases fetched <;>
        simpa [Subscription.received, Subscription.withContent, Subscription.sourceRejected, hkind]
          using hsource
  · rw [reject_eq_ok]
    cases fetched with
    | modified body metadata profile same =>
      have hnew : metadata.isValid = true := hmetadata
      cases hkind : sub.source <;>
        simp [Subscription.received, Subscription.withContent, hkind, hnew]
    | notModified metadata profile same =>
      have hmerged := @mergeMetadata_isValid _ _ same hprevious hmetadata
      simpa [Subscription.received, FetchResult.metadata] using hmerged
  · rw [reject_eq_ok]
    cases fetched <;>
      simpa [Subscription.received, Subscription.withContent, FetchResult.profileInterval]
        using hadopted

/-- The subscription that a snapshot is of. -/
theorem updateSnapshot_subscription {s : AppState} {id : String} {snapshot : UpdateSnapshot}
    (h : updateSnapshot s id = .ok snapshot) :
    ∃ sub, s.subscription? id = some sub ∧ snapshot.source = sub.source ∧
      snapshot.httpMetadata = sub.httpMetadata := by
  obtain ⟨sub, hsub, h⟩ := ok_bind.mp h
  obtain ⟨p, -, h⟩ := ok_bind.mp h
  cases h
  exact ⟨sub, okOr_eq_ok.mp hsub, rfl, rfl⟩

/-- A body that was parsed makes a document that the state accepts. -/
theorem documentForBody_accepted {env : ContentEnv} {body : String} {parsed : ParseResult}
    (h : parseContent env body = .ok parsed) (format : SubscriptionFormat) :
    (documentForBody body format).all (fun d => d.isValid && !d.localOverride) = true := by
  obtain ⟨hsize, -⟩ := ok_seq.mp h
  rw [reject_eq_ok, Bool.or_eq_false_iff, decide_eq_false_iff_not, decide_eq_false_iff_not] at hsize
  have hle : Text.len body ≤ maxSubscriptionDocumentBytes := Nat.le_of_not_gt hsize.2
  cases format <;> simp [documentForBody, SubscriptionDocument.isValid, hsize.1, hle]

/-- The content step of an update is `received` on its subscription. -/
theorem updateContent_received {env : SubscriptionEnv} {s t : AppState} {id : String}
    {snapshot : UpdateSnapshot} {fetched : FetchResult} {parsed : Option ParseResult}
    {changed : Bool} {sub : Subscription} (hsource : snapshot.source = sub.source)
    (hmetadata : snapshot.httpMetadata = sub.httpMetadata)
    (hparsed : updateParsed env.toContentEnv fetched = .ok parsed)
    (h : updateContent env.text id snapshot fetched parsed s = .ok (t, changed)) :
    ∃ f skipped document, t.subscriptions =
        modifyFirst (fun sub => decide (sub.id.val = id)) f s.subscriptions ∧
      f sub = sub.received skipped document fetched ∧
      document.all (fun d => d.isValid && !d.localOverride) = true := by
  cases updateContent_cases h with
  | kept =>
    refine ⟨_, 0, none, rfl, ?_, rfl⟩
    rw [hmetadata]
    rfl
  | @replaced body metadata profile same _ result candidate stored hreplace hremote hmanual =>
    obtain ⟨_, haccepted, hresult⟩ := map_eq_ok.mp hparsed
    cases hresult
    obtain ⟨nodes, -, rfl, -, -⟩ := applyProviderReplacement_ok hreplace
    refine ⟨_, result.skipped.length, documentForBody body result.format, rfl, ?_,
      documentForBody_accepted haccepted result.format⟩
    cases hkind : sub.source with
    | remote url => simp [Subscription.received, hkind, hremote url (hsource.trans hkind)]
    | manual => simp [Subscription.received, hkind, hmanual (hsource.trans hkind)]

/-- Every subscription of an updated state is accepted. -/
theorem updateContent_validate {env : SubscriptionEnv} {s t : AppState} (hs : s.Valid) {id : String}
    {snapshot : UpdateSnapshot} {fetched : FetchResult} {parsed : Option ParseResult}
    {changed : Bool} (hsnapshot : updateSnapshot s id = .ok snapshot)
    (hfetched : FetchedFor snapshot.source fetched)
    (hparsed : updateParsed env.toContentEnv fetched = .ok parsed)
    (h : updateContent env.text id snapshot fetched parsed s = .ok (t, changed)) :
    ∀ sub ∈ t.subscriptions, sub.validate = .ok () := by
  obtain ⟨old, hold, hsource, hmetadata⟩ := updateSnapshot_subscription hsnapshot
  obtain ⟨f, skipped, document, ht, hf, hdocument⟩ :=
    updateContent_received hsource hmetadata hparsed h
  intro sub hsub
  rw [ht] at hsub
  cases mem_of_mem_modifyFirst hsub with
  | inl hkept => exact hs.subscriptions sub hkept
  | inr hchanged =>
    obtain ⟨other, hother, hid, rfl⟩ := hchanged
    obtain rfl := subscription?_unique hs hold hother (of_decide_eq_true hid)
    rw [hf]
    exact received_validate (hs.subscriptions other hother) (hsource ▸ hfetched) skipped hdocument

/-! ## Deadlines -/

/-- The deadline of an accepted subscription is the exact sum. -/
theorem persistedDeadline_exact {sub : Subscription} (hsub : sub.validate = .ok ())
    (minutes : UInt32) :
    (sub.persistedDeadline minutes).toNat = sub.persistedBase.toNat + minutes.toNat * 60000 := by
  obtain ⟨hfields, -⟩ := ok_seq.mp hsub
  simp only [reject_eq_ok, Bool.or_eq_false_iff, List.any_eq_false, List.mem_cons,
    List.not_mem_nil, or_false, forall_eq_or_imp, forall_eq, Bool.not_eq_true,
    Option.any_eq_false, decide_eq_false_iff_not, UInt64.not_lt] at hfields
  obtain ⟨⟨⟨⟨⟨hsuccess, hattempt⟩, -⟩, -⟩, -⟩, -⟩ := hfields
  have hle : ∀ time : Option UInt64, (∀ t, time = some t → t ≤ maxSafeInteger) →
      (time.getD 0).toNat ≤ 9007199254740991 := by
    intro time htime
    cases time with
    | none => exact Nat.zero_le _
    | some t => exact UInt64.le_iff_toNat_le.mp (htime t rfl)
  have hbase : sub.persistedBase.toNat ≤ 9007199254740991 := by
    rw [Subscription.persistedBase]
    change (if _ ≤ _ then _ else _ : UInt64).toNat ≤ _
    split
    · exact hle _ hsuccess
    · exact hle _ hattempt
  have hminutes : minutes.toUInt64.toNat = minutes.toNat := UInt32.toNat_toUInt64 minutes
  have hlt : minutes.toNat < 2 ^ 32 := minutes.toNat_lt
  have hmillis : (60000 : UInt64).toNat = 60000 := rfl
  have hproduct : (saturatingMul minutes.toUInt64 60000).toNat = minutes.toNat * 60000 := by
    rw [saturatingMul, if_pos (by rw [hminutes, hmillis]; omega), UInt64.toNat_mul, hminutes, hmillis]
    omega
  rw [Subscription.persistedDeadline, saturatingAdd, if_pos (by rw [hproduct]; omega),
    UInt64.toNat_add, hproduct]
  omega

/-! ## Every response -/

/-- The numbers that are stored of a response are those that it told, converted. -/
structure ExactlyConverted (headers : HeaderMap) : Prop where
  expiry : ∀ t expiry, (responseMetadata headers).subscriptionUserinfo = some t →
    t.expireAtMs = some expiry → ∃ header key value seconds,
      headers.text "subscription-userinfo" = some header ∧
      (∃ part ∈ Text.split ';' header, Text.splitOnce "=" (Text.trim part) = some (key, value)) ∧
      Text.parseUnsigned (2 ^ 64) (Text.trim value) = some seconds ∧
      expiry.toNat = seconds * 1000
  interval : ∀ minutes, profileUpdateIntervalMinutes headers = some minutes → ∃ value hours,
    headers.text "profile-update-interval" = some value ∧
    Text.parseUnsigned (2 ^ 64) (Text.trim value) = some hours ∧ minutes.toNat = hours * 60

theorem exactlyConverted (headers : HeaderMap) : ExactlyConverted headers where
  expiry := by
    intro t expiry ht hexpiry
    obtain ⟨header, hheader, hparse⟩ := Option.bind_eq_some_iff.mp ht
    obtain ⟨part, hpart, hread⟩ := parseUserinfo_get hparse (show TrafficField.expire.get t = _
      from hexpiry)
    obtain ⟨key, value, seconds, hsplit, hseconds, hexact⟩ := readParameter_expire hread
    exact ⟨header, key, value, seconds, (Option.filter_eq_some_iff.mp hheader).1,
      ⟨part, hpart, hsplit⟩, hseconds, hexact⟩
  interval := by
    intro minutes hminutes
    obtain ⟨-, value, hours, hvalue, hhours, hexact⟩ := profileUpdateIntervalMinutes_exact hminutes
    exact ⟨value, hours.toNat, hvalue, parseU64_toNat hhours, hexact⟩

/-- **No response makes a subscription invalid.**  Whatever a server sends, what an update puts in
place of an accepted subscription is accepted, so that no commit fails for it; no conversion
overflows on the way, and neither does the deadline that is computed from it. -/
theorem http_metadata_safe :
    (∀ (sub : Subscription) (fetched : FetchResult) (skipped : Nat)
      (document : Option SubscriptionDocument), sub.validate = .ok () →
      FetchedFor sub.source fetched →
      document.all (fun d => d.isValid && !d.localOverride) = true →
      (sub.received skipped document fetched).validate = .ok ()) ∧
    (∀ (env : SubscriptionEnv) (s t : AppState) (id : String) (snapshot : UpdateSnapshot)
      (fetched : FetchResult) (parsed : Option ParseResult) (changed : Bool), s.Valid →
      updateSnapshot s id = .ok snapshot → FetchedFor snapshot.source fetched →
      updateParsed env.toContentEnv fetched = .ok parsed →
      updateContent env.text id snapshot fetched parsed s = .ok (t, changed) →
      ∀ sub ∈ t.subscriptions, sub.validate = .ok ()) ∧
    (∀ headers, ExactlyConverted headers) ∧
    ∀ (sub : Subscription) (minutes : UInt32), sub.validate = .ok () →
      (sub.persistedDeadline minutes).toNat = sub.persistedBase.toNat + minutes.toNat * 60000 :=
  ⟨fun _ _ skipped _ hsub hfetched hdocument => received_validate hsub hfetched skipped hdocument,
    fun _ _ _ _ _ _ _ _ hs hsnapshot hfetched hparsed h =>
      updateContent_validate hs hsnapshot hfetched hparsed h,
    exactlyConverted, fun _ minutes hsub => persistedDeadline_exact hsub minutes⟩

/-- A response that tells the last expiry that can be stored, and one day. -/
def expiringHeaders : HeaderMap := fun name =>
  if name = "subscription-userinfo" then some (Text.bytes "expire=9007199254740")
  else if name = "profile-update-interval" then some (Text.bytes "24")
  else none

/-- A subscription of a secure source. -/
def secureSubscription : Subscription where
  id := ⟨"sub-01"⟩
  name := "a"
  description := ""
  source := .remote "https://example.invalid/"
  lastSuccessAtMs := none
  lastAttemptAtMs := none
  httpMetadata := none
  remoteRequest := some ⟨none, 30, .direct, true⟩
  updatePolicy := ⟨true, none⟩
  skippedUnsupportedNodes := 0
  document := none

/-- Such a response is merged, and the subscription stays accepted. -/
theorem http_metadata_safe_expiring :
    (secureSubscription.received 0 none (.notModified (fetchedMetadata expiringHeaders true)
      (profileUpdateIntervalMinutes expiringHeaders) true)).validate = .ok () ∧
    (fetchedMetadata expiringHeaders true).subscriptionUserinfo =
      some ⟨none, none, none, some 9007199254740000⟩ ∧
    profileUpdateIntervalMinutes expiringHeaders = some 1440 := by
  refine ⟨?_, by decide +kernel, by decide +kernel⟩
  refine http_metadata_safe.1 secureSubscription _ 0 none (by decide +kernel) ?_ rfl
  exact ⟨SourceUrl, threeUrls, ⟨none, none⟩, fun _ => some ⟨304, expiringHeaders, []⟩, rfl⟩

end Veyra
