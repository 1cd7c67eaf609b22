import Veyra.Application.Documents
import Veyra.Application.HttpMetadata

/-!
# Veyra.Application.ConditionalRequests

The validators that an update sends.  A run records every exchange with a source next to the
state; along it, the document of a remote subscription that nobody edited is the body of the last
response that was committed for it, and its validators come from that response or from an answer
that confirmed it.
-/

namespace Veyra

open Check

variable {env : SubscriptionEnv} {s t : AppState}

/-! ## Requests and exchanges -/

/-- The conditional headers of `update_with_route`. -/
def UpdateSnapshot.conditionalHeaders (snapshot : UpdateSnapshot) : ConditionalHeaders :=
  if snapshot.needsBody then ⟨none, none⟩
  else ⟨snapshot.httpMetadata.bind (·.etag), snapshot.httpMetadata.bind (·.lastModified)⟩

/-- A request for a subscription and the answer to it; the answer may have been committed. -/
structure Exchange where
  id : String
  url : String
  request : ConditionalHeaders
  answer : FetchResult
  accepted : Bool
deriving DecidableEq

/-- The status was 200. -/
def FetchResult.isModified : FetchResult → Bool
  | .modified .. => true
  | .notModified .. => false

/-- The exchange whose answer an operation commits. -/
def SubscriptionOperation.exchanges (s : AppState) : SubscriptionOperation → List Exchange
  | .importRemote _ _ url _ _ fetched identity _ =>
    [⟨identityOf "sub" identity, url, ⟨none, none⟩, fetched, true⟩]
  | .update id fetched _ =>
    match updateSnapshot s id with
    | .error _ => []
    | .ok snapshot =>
      match snapshot.source with
      | .manual => []
      | .remote url => [⟨id, url, snapshot.conditionalHeaders, fetched, true⟩]
  | .edit input (some (fetched, _)) =>
    match input.urlReplacement with
    | none => []
    | some url => [⟨input.id, url, ⟨none, none⟩, fetched, true⟩]
  | _ => []

/-- The digest tells the saved content from the stored one. -/
def SubscriptionOperation.DigestTells (env : SubscriptionEnv) (s : AppState) :
    SubscriptionOperation → Prop
  | .document _ input => ∀ sub d, s.subscription? input.id = some sub → sub.document = some d →
      env.revisionFor d.format d.content = env.revisionFor input.format input.content →
      d.content = input.content
  | _ => True

/-- A run from a first start, with all exchanges for subscriptions so far.  An answer may be
refused for any reason: it does not parse, the candidate is invalid, the state is busy. -/
inductive History (env : SubscriptionEnv) : Option AppState → List Exchange → Prop
  | start : History env none []
  | commit {op : SubscriptionOperation} {current : Option AppState} {after : AppState}
      {exchanges : List Exchange} (before : History env current exchanges)
      (commit : SubscriptionCommit env op current after)
      (digests : op.DigestTells env (current.getD .empty)) :
      History env (some after) (exchanges ++ op.exchanges (current.getD .empty))
  | routing {routing : ProxyRouting.Env} {request : ProxyRouting.MutateRequest}
      {current : Option AppState} {after : AppState} {exchanges : List Exchange}
      (before : History env current exchanges)
      (commit : ProxyRouting.MutationCommit routing request (current.getD .empty) after) :
      History env (some after) exchanges
  | activation {before after : AppState} {exchanges : List Exchange}
      (earlier : History env (some before) exchanges) (commit : ActivationCommit before after) :
      History env (some after) exchanges
  | refusedUpdate {current : AppState} {exchanges : List Exchange} {id url : String}
      {snapshot : UpdateSnapshot} (answer : FetchResult)
      (before : History env (some current) exchanges)
      (captured : updateSnapshot current id = .ok snapshot) (source : snapshot.source = .remote url) :
      History env (some current)
        (exchanges ++ [⟨id, url, snapshot.conditionalHeaders, answer, false⟩])
  | refusedEdit {current : AppState} {exchanges : List Exchange} (id url : String)
      (answer : FetchResult) (before : History env (some current) exchanges) :
      History env (some current) (exchanges ++ [⟨id, url, ⟨none, none⟩, answer, false⟩])

/-! ## Where a cache comes from -/

/-- An answer for a subscription that was committed. -/
def Exchange.CommittedFor (e : Exchange) (id : String) : Prop := e.id = id ∧ e.accepted = true

/-- The content is the body of this response from the URL, every answer committed later confirmed
it, and the validators were returned by it or by one of these. -/
structure CacheOf (id url content : String) (validators : ConditionalHeaders) (response : Exchange)
    (later : List Exchange) : Prop where
  committed : response.CommittedFor id
  source : response.url = url
  body : ∃ metadata profile same, response.answer = .modified content metadata profile same
  confirmed : ∀ e ∈ later, e.CommittedFor id → e.url = url ∧ e.answer.isModified = false
  etag : ∀ tag, validators.etag = some tag →
    ∃ e ∈ response :: later, e.CommittedFor id ∧ e.answer.metadata.etag = some tag
  lastModified : ∀ date, validators.lastModified = some date →
    ∃ e ∈ response :: later, e.CommittedFor id ∧ e.answer.metadata.lastModified = some date

/-- The content is the body of the last 200 response from the URL that was committed. -/
def CacheOrigin (id url content : String) (validators : ConditionalHeaders)
    (exchanges : List Exchange) : Prop :=
  ∃ earlier response later, exchanges = earlier ++ response :: later ∧
    CacheOf id url content validators response later

/-- The validators of stored metadata. -/
def validatorsOf (metadata : Option SubscriptionHttpMetadata) : ConditionalHeaders :=
  ⟨metadata.bind (·.etag), metadata.bind (·.lastModified)⟩

/-- Merged validators are new or those from before. -/
theorem validatorsOf_merge (previous : Option SubscriptionHttpMetadata)
    (metadata : SubscriptionHttpMetadata) (same : Bool) :
    let merged := mergeMetadata (previous.getD ⟨none, none, none, none⟩) metadata same
    (∀ tag, (validatorsOf (some merged)).etag = some tag →
      metadata.etag = some tag ∨ (validatorsOf previous).etag = some tag) ∧
    ∀ date, (validatorsOf (some merged)).lastModified = some date →
      metadata.lastModified = some date ∨ (validatorsOf previous).lastModified = some date := by
  constructor
  · intro tag htag
    cases same <;> cases previous <;> simp [validatorsOf, mergeMetadata] at htag ⊢ <;> tauto
  · intro date hdate
    cases same <;> cases previous <;> simp [validatorsOf, mergeMetadata] at hdate ⊢ <;> tauto

namespace CacheOrigin

variable {id url content : String} {validators : ConditionalHeaders} {exchanges : List Exchange}

/-- A response that is committed starts a new cache. -/
theorem fetched (exchanges : List Exchange) (request : ConditionalHeaders)
    (metadata : SubscriptionHttpMetadata) (profile : Option UInt32) (same : Bool) :
    CacheOrigin id url content (validatorsOf (some metadata))
      (exchanges ++ [⟨id, url, request, .modified content metadata profile same, true⟩]) :=
  ⟨exchanges, _, [], rfl,
    { committed := ⟨rfl, rfl⟩
      source := rfl
      body := ⟨_, _, _, rfl⟩
      confirmed := by simp
      etag := fun _ htag => ⟨_, List.mem_singleton.mpr rfl, ⟨rfl, rfl⟩, htag⟩
      lastModified := fun _ hdate => ⟨_, List.mem_singleton.mpr rfl, ⟨rfl, rfl⟩, hdate⟩ }⟩

/-- More exchanges that are not committed for the subscription change nothing. -/
theorem append (h : CacheOrigin id url content validators exchanges) {more : List Exchange}
    (hmore : ∀ e ∈ more, ¬ e.CommittedFor id) :
    CacheOrigin id url content validators (exchanges ++ more) := by
  obtain ⟨earlier, response, later, rfl, hcache⟩ := h
  refine ⟨earlier, response, later ++ more, by simp, ?_⟩
  constructor
  · exact hcache.committed
  · exact hcache.source
  · exact hcache.body
  · intro e he hcommitted
    cases List.mem_append.mp he with
    | inl hlater => exact hcache.confirmed e hlater hcommitted
    | inr hnew => exact absurd hcommitted (hmore e hnew)
  · intro tag htag
    obtain ⟨e, he, hreturned⟩ := hcache.etag tag htag
    exact ⟨e, List.mem_append_left more he, hreturned⟩
  · intro date hdate
    obtain ⟨e, he, hreturned⟩ := hcache.lastModified date hdate
    exact ⟨e, List.mem_append_left more he, hreturned⟩

/-- An answer that confirms the cache may bring validators of its own. -/
theorem confirmed {previous : Option SubscriptionHttpMetadata}
    (h : CacheOrigin id url content (validatorsOf previous) exchanges)
    (request : ConditionalHeaders) (metadata : SubscriptionHttpMetadata) (profile : Option UInt32)
    (same : Bool) :
    CacheOrigin id url content
      (validatorsOf (some (mergeMetadata (previous.getD ⟨none, none, none, none⟩) metadata same)))
      (exchanges ++ [⟨id, url, request, .notModified metadata profile same, true⟩]) := by
  obtain ⟨earlier, response, later, rfl, hcache⟩ := h
  refine ⟨earlier, response, later ++ [⟨id, url, request, .notModified metadata profile same, true⟩],
    by simp, ?_⟩
  constructor
  · exact hcache.committed
  · exact hcache.source
  · exact hcache.body
  · intro e he hcommitted
    cases List.mem_append.mp he with
    | inl hlater => exact hcache.confirmed e hlater hcommitted
    | inr hnew =>
      obtain rfl := List.mem_singleton.mp hnew
      exact ⟨rfl, rfl⟩
  · intro tag htag
    have hfrom := (validatorsOf_merge previous metadata same).1 tag htag
    cases hfrom with
    | inl hnew => exact ⟨⟨id, url, request, .notModified metadata profile same, true⟩, by simp,
        ⟨rfl, rfl⟩, hnew⟩
    | inr hold =>
      obtain ⟨e, he, hreturned⟩ := hcache.etag tag hold
      exact ⟨e, List.mem_append_left _ he, hreturned⟩
  · intro date hdate
    have hfrom := (validatorsOf_merge previous metadata same).2 date hdate
    cases hfrom with
    | inl hnew => exact ⟨⟨id, url, request, .notModified metadata profile same, true⟩, by simp,
        ⟨rfl, rfl⟩, hnew⟩
    | inr hold =>
      obtain ⟨e, he, hreturned⟩ := hcache.lastModified date hold
      exact ⟨e, List.mem_append_left _ he, hreturned⟩

end CacheOrigin

/-! ## What a commit does to a cache -/

/-- Every remote document that follows its source is the body of its last committed response. -/
def Tracked (s : AppState) (exchanges : List Exchange) : Prop :=
  ∀ sub ∈ s.subscriptions, ∀ url, sub.source = .remote url → ∀ d, sub.document = some d →
    d.localOverride = false →
    CacheOrigin sub.id.val url d.content (validatorsOf sub.httpMetadata) exchanges

/-- Where the cache of a subscription comes from, after a commit with these exchanges. -/
inductive CacheStep (s : AppState) (exchanges : List Exchange) (sub : Subscription) : Prop
  | kept {old : Subscription} (before : old ∈ s.subscriptions) (id : sub.id = old.id)
      (source : sub.source = old.source) (metadata : sub.httpMetadata = old.httpMetadata)
      (document : ∀ d, sub.document = some d → d.localOverride = false → ∃ d',
        old.document = some d' ∧ d'.localOverride = false ∧ d'.content = d.content)
      (silent : ∀ e ∈ exchanges, e.id ≠ sub.id.val) : CacheStep s exchanges sub
  | fetched {url body : String} {request : ConditionalHeaders} {metadata : SubscriptionHttpMetadata}
      {profile : Option UInt32} {same : Bool} (source : sub.source = .remote url)
      (exchange : exchanges =
        [⟨sub.id.val, url, request, .modified body metadata profile same, true⟩])
      (document : ∀ d, sub.document = some d → d.content = body)
      (metadata : sub.httpMetadata = some metadata) : CacheStep s exchanges sub
  | confirmed {old : Subscription} {url : String} {request : ConditionalHeaders}
      {metadata : SubscriptionHttpMetadata} {profile : Option UInt32} {same : Bool}
      (before : old ∈ s.subscriptions) (id : sub.id = old.id) (source : sub.source = old.source)
      (remote : old.source = .remote url)
      (exchange : exchanges =
        [⟨sub.id.val, url, request, .notModified metadata profile same, true⟩])
      (document : sub.document = old.document)
      (metadata : sub.httpMetadata = some (mergeMetadata
        (old.httpMetadata.getD ⟨none, none, none, none⟩) metadata same)) :
      CacheStep s exchanges sub
  | untracked (follows : ∀ url, sub.source = .remote url → ∀ d, sub.document = some d →
      d.localOverride = true) : CacheStep s exchanges sub

/-- **Step.**  Such a commit keeps the documents tracked. -/
theorem Tracked.step {exchanges more : List Exchange} (h : Tracked s exchanges)
    (hstep : ∀ sub ∈ t.subscriptions, CacheStep s more sub) : Tracked t (exchanges ++ more) := by
  intro sub hsub url hurl d hd hfollows
  cases hstep sub hsub with
  | kept before id source metadata document silent =>
    obtain ⟨d', hd', hfollows', hcontent⟩ := document d hd hfollows
    have hold := h _ before url (source ▸ hurl) d' hd' hfollows'
    rw [id, metadata, ← hcontent]
    exact hold.append fun e he hcommitted => silent e he (id ▸ hcommitted.1)
  | fetched source exchange document metadata =>
    rw [hurl] at source
    cases source
    rw [exchange, metadata, ← document d hd]
    exact .fetched exchanges _ _ _ _
  | confirmed before id source remote exchange document metadata =>
    rw [source, remote] at hurl
    cases hurl
    have hold := h _ before _ remote d (document ▸ hd) hfollows
    rw [exchange, metadata, id]
    exact hold.confirmed _ _ _ _
  | untracked follows =>
    rw [follows url hurl d hd] at hfollows
    cases hfollows

/-! ### Updates -/

/-- Two changes of the first match are one. -/
theorem modifyFirst_modifyFirst {α : Type} {p : α → Bool} {f g : α → α} {xs : List α}
    (h : ∀ x, p x = true → p (f x) = true) :
    modifyFirst p g (modifyFirst p f xs) = modifyFirst p (fun x => g (f x)) xs := by
  induction xs with
  | nil => rfl
  | cons x xs ih =>
    by_cases hx : p x = true
    · rw [modifyFirst, if_pos hx, modifyFirst, if_pos (h x hx), modifyFirst, if_pos hx]
    · rw [modifyFirst, if_neg hx, modifyFirst, if_neg hx, modifyFirst, if_neg hx, ih]

/-- What is in a list of subscriptions after the one with an id was changed. -/
theorem mem_modifySubscription (hs : s.Valid) {id : String} {f : Subscription → Subscription}
    {old sub : Subscription} (hold : s.subscription? id = some old)
    (hsub : sub ∈ modifyFirst (fun sub => decide (sub.id.val = id)) f s.subscriptions) :
    (sub ∈ s.subscriptions ∧ sub.id.val ≠ id) ∨ sub = f old := by
  have hnodup := List.pairwise_map.mp hs.nodup_subscriptions
  have honce : s.subscriptions.Pairwise fun a b =>
      decide (a.id.val = id) = true → decide (b.id.val = id) = false := by
    refine hnodup.imp fun {a b} hne ha => ?_
    have ha : a.id.val = id := of_decide_eq_true ha
    exact decide_eq_false fun hb => hne (ha.trans hb.symm)
  rw [modifyFirst_eq_map honce] at hsub
  obtain ⟨other, hother, rfl⟩ := List.mem_map.mp hsub
  by_cases hid : other.id.val = id
  · rw [if_pos (decide_eq_true hid), subscription?_unique hs hold hother hid]
    exact .inr rfl
  · rw [if_neg (by simpa using hid)]
    exact .inl ⟨hother, hid⟩

/-- A document holds the body that it was read from. -/
theorem documentForBody_content {body : String} {format : SubscriptionFormat}
    {d : SubscriptionDocument} (h : documentForBody body format = some d) : d.content = body := by
  cases format <;> cases h <;> rfl

/-- What the content step of an update does to its subscription. -/
def Refetched (snapshot : UpdateSnapshot) (fetched : FetchResult) (old new : Subscription) : Prop :=
  new.id = old.id ∧ new.source = old.source ∧
  match fetched with
  | .modified body metadata _ _ => (∀ d, new.document = some d → d.content = body) ∧
      ∀ url, snapshot.source = .remote url → new.httpMetadata = some metadata
  | .notModified metadata _ same => new.document = old.document ∧
      new.httpMetadata = some (mergeMetadata
        (snapshot.httpMetadata.getD ⟨none, none, none, none⟩) metadata same)

/-- New content comes with the validators of its own response. -/
theorem updateContent_refetched {id : String} {snapshot : UpdateSnapshot} {fetched : FetchResult}
    {parsed : Option ParseResult} {changed : Bool}
    (h : updateContent env.text id snapshot fetched parsed s = .ok (t, changed)) :
    ∃ f, t.subscriptions = modifyFirst (fun sub => decide (sub.id.val = id)) f s.subscriptions ∧
      ∀ sub, Refetched snapshot fetched sub (f sub) := by
  cases updateContent_cases h with
  | kept => exact ⟨_, rfl, fun sub => ⟨rfl, rfl, rfl, rfl⟩⟩
  | replaced hreplace hremote _ =>
    obtain ⟨nodes, -, rfl, -, -⟩ := applyProviderReplacement_ok hreplace
    exact ⟨_, rfl, fun sub => ⟨rfl, rfl, fun d hd => documentForBody_content hd, hremote⟩⟩

/-- The commit of an update changes the subscription of the snapshot alone. -/
theorem commitUpdate_refetched {id : String} {snapshot : UpdateSnapshot} {fetched : FetchResult}
    {parsed : Option ParseResult} {now : UInt64} {changed : Bool}
    (h : commitUpdate env.text id snapshot fetched parsed now s = .ok (t, changed)) :
    updateSnapshot s id = .ok snapshot ∧
    ∃ f, t.subscriptions = modifyFirst (fun sub => decide (sub.id.val = id)) f s.subscriptions ∧
      ∀ sub, Refetched snapshot fetched sub (f sub) := by
  obtain ⟨content, hfound, hcontent, hraised, -⟩ := commitUpdate_cases h
  obtain ⟨f, hsubs, hf⟩ := updateContent_refetched hcontent
  obtain ⟨hkeeps, -, -⟩ := raiseGeneration_ok hraised
  refine ⟨hfound, fun sub => (f sub).succeededAt now, ?_, hf⟩
  have hstamped : t.subscriptions = modifyFirst (fun sub => decide (sub.id.val = id))
      (Subscription.succeededAt now) content.subscriptions := by
    rw [hkeeps]
    rfl
  rw [hstamped, hsubs]
  apply modifyFirst_modifyFirst
  intro sub hid
  rw [(hf sub).1]
  exact hid

/-- An update keeps the cache of each subscription sound. -/
theorem CacheStep.update (hs : s.Valid) {id : String} {snapshot : UpdateSnapshot}
    {fetched : FetchResult} {parsed : Option ParseResult} {now : UInt64} {changed : Bool}
    (h : commitUpdate env.text id snapshot fetched parsed now s = .ok (t, changed)) :
    ∀ sub ∈ t.subscriptions,
      CacheStep s ((SubscriptionOperation.update id fetched now).exchanges s) sub := by
  obtain ⟨hsnapshot, f, hsubs, hf⟩ := commitUpdate_refetched h
  obtain ⟨old, hold, hsource, hmetadata⟩ := updateSnapshot_subscription hsnapshot
  obtain ⟨hmem, hid⟩ := subscription?_found hold
  have hexchanges : (SubscriptionOperation.update id fetched now).exchanges s =
      match snapshot.source with
      | .manual => []
      | .remote url => [⟨id, url, snapshot.conditionalHeaders, fetched, true⟩] := by
    rw [SubscriptionOperation.exchanges, hsnapshot]
  intro sub hsub
  rw [hsubs] at hsub
  cases mem_modifySubscription hs hold hsub with
  | inl hother =>
    refine .kept hother.1 rfl rfl rfl (fun d hd hfollows => ⟨d, hd, hfollows, rfl⟩) ?_
    intro e he
    rw [hexchanges] at he
    cases hkind : snapshot.source with
    | manual => simp [hkind] at he
    | remote url =>
      simp only [hkind, List.mem_singleton] at he
      rw [he]
      exact Ne.symm hother.2
  | inr hchanged =>
    obtain ⟨hsameId, hsameSource, hcontent⟩ := hf old
    subst hchanged
    cases hkind : snapshot.source with
    | manual =>
      refine .untracked fun url hurl => ?_
      rw [hsameSource, ← hsource, hkind] at hurl
      cases hurl
    | remote url =>
      have hexchange : (SubscriptionOperation.update id fetched now).exchanges s =
          [⟨(f old).id.val, url, snapshot.conditionalHeaders, fetched, true⟩] := by
        rw [hexchanges, hkind, hsameId, hid]
      cases fetched with
      | modified body metadata profile same =>
        exact .fetched (hsameSource.trans (hsource.symm.trans hkind)) hexchange hcontent.1
          (hcontent.2 url hkind)
      | notModified metadata profile same =>
        exact .confirmed hmem hsameId hsameSource (hsource.symm.trans hkind) hexchange hcontent.1
          (hmetadata ▸ hcontent.2)

/-! ### Imports, failed attempts and deletions -/

/-- A subscription that is not asked about keeps its cache. -/
theorem CacheStep.same {exchanges : List Exchange} {sub : Subscription}
    (hsub : sub ∈ s.subscriptions) (hsilent : ∀ e ∈ exchanges, e.id ≠ sub.id.val) :
    CacheStep s exchanges sub :=
  .kept hsub rfl rfl rfl (fun d hd hfollows => ⟨d, hd, hfollows, rfl⟩) hsilent

/-- An import by hand has no validators. -/
theorem CacheStep.importManual {name description content : String} {input : ImportCommit}
    {identity : List UInt8} {now : UInt64} {current : Option AppState}
    (hprepared : prepareManualImport env name description content = .ok input)
    (h : commitImport env.text input identity now current = .ok t) :
    ∀ sub ∈ t.subscriptions, CacheStep (current.getD .empty) [] sub := by
  intro sub hsub
  rw [commitImport_subscriptions h, List.mem_append, List.mem_singleton] at hsub
  cases hsub with
  | inl hold => exact .same hold (by simp)
  | inr hnew =>
    obtain ⟨-, hsource, -⟩ := prepareManualImport_fields hprepared
    refine .untracked fun url hurl => ?_
    rw [hnew, importedSubscription, hsource] at hurl
    cases hurl

/-- What the remote arm of an import prepares from an answer. -/
theorem prepareRemoteImport_cache {name description url : String} {options : RemoteImportOptions}
    {initiallyEmpty : Bool} {fetched : FetchResult} {input : ImportCommit}
    (h : prepareRemoteImport env name description url options initiallyEmpty fetched =
      .ok input) :
    ∃ body metadata profile same, fetched = .modified body metadata profile same ∧
      input.source = .remote url ∧ input.httpMetadata = some metadata ∧
      ∀ d, input.document = some d → d.content = body := by
  obtain ⟨⟨checked, trimmed, request, policy⟩, -, h⟩ := ok_bind.mp h
  cases fetched with
  | notModified metadata profile same => cases h
  | modified body metadata profile same =>
    obtain ⟨parsed, -, h⟩ := ok_bind.mp h
    cases h
    exact ⟨_, _, _, _, rfl, rfl, rfl, fun d hd => documentForBody_content hd⟩

/-- A remote import has those of its response. -/
theorem CacheStep.importRemote {name description url : String} {options : RemoteImportOptions}
    {initiallyEmpty : Bool} {fetched : FetchResult} {input : ImportCommit} {identity : List UInt8}
    {now : UInt64} {current : Option AppState}
    (hprepared : prepareRemoteImport env name description url options initiallyEmpty fetched =
      .ok input)
    (h : commitImport env.text input identity now current = .ok t) :
    ∀ sub ∈ t.subscriptions, CacheStep (current.getD .empty)
      ((SubscriptionOperation.importRemote name description url options initiallyEmpty fetched
        identity now).exchanges (current.getD .empty)) sub := by
  intro sub hsub
  rw [commitImport_subscriptions h, List.mem_append, List.mem_singleton] at hsub
  cases hsub with
  | inl hold =>
    refine .same hold fun e he => ?_
    obtain ⟨_, -, hfresh, -⟩ := commitImport_cases h
    rw [List.mem_singleton.mp he]
    exact Ne.symm (hfresh sub hold)
  | inr hnew =>
    obtain ⟨body, metadata, profile, same, rfl, hsource, hmetadata, hdocument⟩ :=
      prepareRemoteImport_cache hprepared
    rw [hnew]
    exact .fetched hsource rfl hdocument hmetadata

/-- A failed attempt only leaves its time. -/
theorem commitFailedAttempt_subscriptions {snapshot : UpdateSnapshot} {attemptedAt : UInt64}
    (h : commitFailedAttempt snapshot attemptedAt s = .ok t) :
    t.subscriptions = modifyFirst
      (fun sub => decide (sub.id.val = snapshot.subscriptionId.val))
      (Subscription.attemptedAt attemptedAt) s.subscriptions := by
  obtain ⟨rfl, -⟩ := commitFailedAttempt_cases h
  rfl

/-- A failed attempt leaves the cache. -/
theorem CacheStep.failedAttempt {snapshot : UpdateSnapshot} {attemptedAt : UInt64}
    (h : commitFailedAttempt snapshot attemptedAt s = .ok t) :
    ∀ sub ∈ t.subscriptions, CacheStep s [] sub := by
  intro sub hsub
  rw [commitFailedAttempt_subscriptions h] at hsub
  cases mem_of_mem_modifyFirst hsub with
  | inl hold => exact .same hold (by simp)
  | inr hchanged =>
    obtain ⟨old, hold, -, rfl⟩ := hchanged
    exact .kept hold rfl rfl rfl (fun d hd hfollows => ⟨d, hd, hfollows, rfl⟩) (by simp)

/-- A deletion leaves the other caches. -/
theorem CacheStep.delete {id : String} {stopped : Bool} (h : commitDelete id stopped s = .ok t) :
    ∀ sub ∈ t.subscriptions, CacheStep s [] sub := by
  obtain ⟨found, raised, -, -, hraised, rfl, -⟩ := commitDelete_cases h
  obtain ⟨hkeeps, -, -⟩ := raiseGeneration_ok hraised
  intro sub hsub
  have hmem : sub ∈ raised.subscriptions := by
    split at hsub <;> exact hsub
  rw [hkeeps] at hmem
  exact .same (List.mem_filter.mp hmem).1 (by simp)

/-! ### Edits -/

/-- What an edit prepares: other settings at the same URL, or another URL. -/
theorem prepareEdit_cache {input : EditSubscription} {edited : Subscription} {urlChanged : Bool}
    (h : prepareEdit env input s = .ok (edited, urlChanged)) :
    ∃ old, s.subscription? input.id = some old ∧ edited.id = old.id ∧
      edited.document = old.document ∧ edited.httpMetadata = old.httpMetadata ∧
      (urlChanged = false → edited.source = old.source) ∧
      (urlChanged = true → ∃ url, input.urlReplacement = some url ∧ edited.source = .remote url) := by
  obtain ⟨old, hold, h⟩ := ok_bind.mp h
  obtain ⟨name, -, h⟩ := ok_bind.mp h
  obtain ⟨description, -, h⟩ := ok_bind.mp h
  refine ⟨old, okOr_eq_ok.mp hold, ?_⟩
  split at h
  · obtain ⟨-, h⟩ := ok_seq.mp h
    cases h
    exact ⟨rfl, rfl, rfl, fun _ => rfl, fun hchanged => by cases hchanged⟩
  · next url hsource =>
    obtain ⟨-, h⟩ := ok_seq.mp h
    obtain ⟨remote, -, h⟩ := ok_bind.mp h
    obtain ⟨patched, -, h⟩ := ok_bind.mp h
    obtain ⟨policy, -, h⟩ := ok_bind.mp h
    cases h
    refine ⟨rfl, rfl, rfl, fun hsame => ?_, fun hchanged => ?_⟩
    · have hurl : input.urlReplacement.getD url = url := by simpa using hsame
      rw [hurl, hsource]
    · cases hreplacement : input.urlReplacement with
      | none => simp [hreplacement] at hchanged
      | some replacement => exact ⟨replacement, rfl, rfl⟩

/-- The subscription that the commit of an edit puts in place. -/
def Subscription.replacedBy (edited : Subscription) : Option EditReplacement → Subscription
  | none => edited
  | some replacement =>
    (edited.withContent replacement.parsed.skipped.length (some replacement.metadata)
      replacement.document replacement.profileInterval).succeededAt replacement.now

/-- An edit changes its own subscription alone. -/
theorem commitEdit_subscriptions {baseline : AppState} {id : String} {edited : Subscription}
    {replacement : Option EditReplacement} {changed : Bool} (hid : edited.id.val = id)
    (h : commitEdit env.text baseline id edited replacement s = .ok (t, changed)) :
    s = baseline ∧ t.subscriptions = modifyFirst (fun sub => decide (sub.id.val = id))
      (fun _ => edited.replacedBy replacement) s.subscriptions := by
  obtain ⟨provider, hsame, -, hcontent, -⟩ := commitEdit_cases h
  refine ⟨hsame, ?_⟩
  cases replacement with
  | none =>
    cases hcontent
    rfl
  | some replacement =>
    obtain ⟨candidate, hreplace, hraised⟩ := editContent_cases hcontent
    obtain ⟨nodes, -, rfl, -, -⟩ := applyProviderReplacement_ok hreplace
    obtain ⟨hkeeps, -, -⟩ := raiseGeneration_ok hraised
    rw [hkeeps]
    exact modifyFirst_modifyFirst fun _ _ => decide_eq_true hid

/-- An edit keeps a cache, or has a new one with its new URL. -/
theorem CacheStep.edit (hs : s.Valid) {input : EditSubscription} {baseline : AppState}
    {edited : Subscription} {urlChanged changed : Bool} {fetched : Option (FetchResult × UInt64)}
    {replacement : Option EditReplacement}
    (hprepared : prepareEdit env input baseline = .ok (edited, urlChanged))
    (hreplaces : EditReplaces env baseline input.id urlChanged fetched replacement)
    (h : commitEdit env.text baseline input.id edited replacement s = .ok (t, changed)) :
    ∀ sub ∈ t.subscriptions,
      CacheStep s ((SubscriptionOperation.edit input fetched).exchanges s) sub := by
  obtain ⟨old, hold, hid, hdocument, hmetadata, hsame, hchanged⟩ := prepareEdit_cache hprepared
  have heditedId : edited.id.val = input.id := by rw [hid, (subscription?_found hold).2]
  obtain ⟨rfl, hsubs⟩ := commitEdit_subscriptions heditedId h
  have hsilent : ∀ e ∈ (SubscriptionOperation.edit input fetched).exchanges s, e.id = input.id := by
    intro e he
    unfold SubscriptionOperation.exchanges at he
    grind
  intro sub hsub
  rw [hsubs] at hsub
  cases mem_modifySubscription hs hold hsub with
  | inl hother => exact .same hother.1 fun e he => hsilent e he ▸ Ne.symm hother.2
  | inr hnew =>
    subst hnew
    cases replacement with
    | none =>
      cases fetched with
      | some answer => cases hreplaces
      | none =>
        have hmem := (subscription?_found hold).1
        refine .kept hmem hid (hsame hreplaces) hmetadata (fun d hd hfollows => ?_) ?_
        · exact ⟨d, hdocument ▸ hd, hfollows, rfl⟩
        · intro e he
          cases he
    | some replacement =>
      cases fetched with
      | none => cases hreplaces
      | some fetched =>
        obtain ⟨answer, now⟩ := fetched
        obtain ⟨hurlChanged, -, hanswer⟩ := hreplaces
        obtain ⟨url, hurl, hsource⟩ := hchanged hurlChanged
        obtain ⟨body, metadata, profile, same, parsed, rfl, -, rfl⟩ := editReplacement_ok hanswer
        have hexchange : (SubscriptionOperation.edit input
            (some (.modified body metadata profile same, now))).exchanges s =
            [⟨edited.id.val, url, ⟨none, none⟩, .modified body metadata profile same, true⟩] := by
          rw [SubscriptionOperation.exchanges, hurl, heditedId]
        exact .fetched hsource hexchange (fun d hd => documentForBody_content hd) rfl

/-! ### Document saves -/

/-- A document save drops the validators of a body that it replaces. -/
theorem CacheStep.document (hs : s.Valid) {worker : Option DocumentErrorCode}
    {input : DocumentSaveInput} {prepared : PreparedDocumentSave}
    (h : prepareDocumentSave env worker input s = .ok prepared)
    (hdigests : (SubscriptionOperation.document worker input).DigestTells env s) :
    ∀ sub ∈ prepared.next.subscriptions, CacheStep s [] sub := by
  obtain ⟨_, old, existing, _, _, _, _, -, hold, hexisting, hrevision, -, hreplace, hraised, -,
    rfl⟩ := prepareDocumentSave_cases h
  obtain ⟨nodes, -, rfl, -, -⟩ := applyProviderReplacement_ok hreplace
  obtain ⟨hkeeps, -, -⟩ := raiseGeneration_ok hraised
  obtain ⟨hmem, hid⟩ := subscription?_found hold
  intro sub hsub
  dsimp only at hsub
  rw [hkeeps] at hsub
  cases mem_modifySubscription hs hold hsub with
  | inl hother => exact .same hother.1 (by simp)
  | inr hnew =>
    subst hnew
    cases hchanged : documentChanged env input with
    | true =>
      -- an edited document no longer follows its source
      refine .untracked fun url hurl d hd => ?_
      have hremote : old.source = .remote url := hurl
      simp only [Subscription.withDocument, hremote, Option.some.injEq] at hd
      rw [← hd]
      rfl
    | false =>
      have hsameRevision : env.revisionFor existing.format existing.content =
          env.revisionFor input.format input.content := by
        have hexpected : env.revisionFor input.format input.content = input.expectedRevision := by
          simpa [documentChanged] using hchanged
        rw [hrevision, hexpected]
      have hcontent := hdigests old existing hold hexisting hsameRevision
      refine .kept hmem rfl rfl rfl (fun d hd hfollows => ⟨existing, hexisting, ?_, ?_⟩) (by simp)
      · cases hd
        exact hfollows
      · cases hd
        exact hcontent

/-- **Step.**  What every commit does to the caches. -/
theorem SubscriptionCommit.caches {op : SubscriptionOperation} {current : Option AppState}
    (hcurrent : ∀ s, current = some s → s.Valid) (h : SubscriptionCommit env op current t)
    (hdigests : op.DigestTells env (current.getD .empty)) :
    ∀ sub ∈ t.subscriptions,
      CacheStep (current.getD .empty) (op.exchanges (current.getD .empty)) sub := by
  cases h with
  | importManual prepared committed => exact CacheStep.importManual prepared committed
  | importRemote prepared committed => exact CacheStep.importRemote prepared committed
  | update captured answered read usable committed =>
    exact CacheStep.update (hcurrent _ rfl) committed
  | failedAttempt captured committed => exact CacheStep.failedAttempt committed
  | edit prepared replaces committed => exact CacheStep.edit (hcurrent _ rfl) prepared replaces committed
  | document prepares committed =>
    obtain ⟨hbase, rfl⟩ := commitPreparedDocument_ok committed
    obtain rfl := hbase.trans (prepareDocumentSave_before prepares)
    exact CacheStep.document (hcurrent _ rfl) prepares hdigests
  | delete committed => exact CacheStep.delete committed

/-! ## Every run -/

/-- Responses that were not accepted change nothing. -/
theorem Tracked.append {exchanges more : List Exchange} (h : Tracked s exchanges)
    (hmore : ∀ e ∈ more, e.accepted = false) : Tracked s (exchanges ++ more) := by
  intro sub hsub url hurl d hd hfollows
  refine (h sub hsub url hurl d hd hfollows).append fun e he hcommitted => ?_
  have haccepted : e.accepted = true := hcommitted.2
  rw [hmore e he] at haccepted
  cases haccepted

/-- Only the subscriptions count. -/
theorem Tracked.of_subscriptions {exchanges : List Exchange} (h : Tracked s exchanges)
    (hsame : t.subscriptions = s.subscriptions) : Tracked t exchanges :=
  fun sub hsub => h sub (hsame ▸ hsub)

/-- **Run.**  In every run the state is valid and its documents are tracked. -/
theorem History.tracked {current : Option AppState} {exchanges : List Exchange}
    (h : History env current exchanges) :
    (∀ s, current = some s → s.Valid) ∧ Tracked (current.getD .empty) exchanges := by
  induction h with
  | start => exact ⟨fun s hs => (by cases hs), fun sub hsub => (by cases hsub)⟩
  | commit before commit digests ih =>
    obtain ⟨hvalid, htracked⟩ := ih
    refine ⟨fun s hs => ?_, htracked.step (commit.caches hvalid digests)⟩
    cases hs
    exact (SubscriptionCommit.effect hvalid commit).1
  | routing before commit ih =>
    refine ⟨fun s hs => ?_, ih.2.of_subscriptions commit.subscriptions⟩
    cases hs
    obtain ⟨committed⟩ := commit
    exact (ProxyRouting.mutate_save committed).2.1
  | activation earlier commit ih =>
    refine ⟨fun s hs => ?_, ih.2.of_subscriptions commit.subscriptions⟩
    cases hs
    exact commit.valid
  | refusedUpdate answer before captured source ih =>
    refine ⟨ih.1, ih.2.append fun e he => ?_⟩
    rw [List.mem_singleton.mp he]
  | refusedEdit id url answer before ih =>
    refine ⟨ih.1, ih.2.append fun e he => ?_⟩
    rw [List.mem_singleton.mp he]

/-- A cache that a 304 may confirm: a node, and a document that nobody edited, with the body of
the last 200 response from the URL that was committed, and these validators of it. -/
structure UpdateSnapshot.CachedFrom (snapshot : UpdateSnapshot) (id url : String)
    (validators : ConditionalHeaders) (exchanges : List Exchange) : Prop where
  node : snapshot.nodes ≠ []
  document : ∃ d, snapshot.document = some d ∧ d.localOverride = false ∧
    CacheOrigin id url d.content validators exchanges

/-- A snapshot that does without a new body has such a cache. -/
theorem History.cachedFrom {exchanges : List Exchange} (h : History env (some s) exchanges)
    {id url : String} {snapshot : UpdateSnapshot} (hsnapshot : updateSnapshot s id = .ok snapshot)
    (hsource : snapshot.source = .remote url) (husable : snapshot.needsBody = false) :
    snapshot.CachedFrom id url snapshot.conditionalHeaders exchanges := by
  have hconditional : snapshot.conditionalHeaders = validatorsOf snapshot.httpMetadata := by
    rw [UpdateSnapshot.conditionalHeaders, husable]
    rfl
  obtain ⟨sub, hsub, hfields⟩ := ok_bind.mp hsnapshot
  obtain ⟨p, -, hfields⟩ := ok_bind.mp hfields
  obtain ⟨hmem, hid⟩ := subscription?_found (okOr_eq_ok.mp hsub)
  rw [UpdateSnapshot.needsBody, Bool.or_eq_false_iff] at husable
  obtain ⟨hnodes, hdocument⟩ := husable
  cases hfields
  rw [hconditional]
  refine ⟨by simpa using hnodes, ?_⟩
  cases hd : sub.document with
  | none => simp [hd] at hdocument
  | some d =>
    have hfollows : d.localOverride = false := by simpa [hd] using hdocument
    exact ⟨d, rfl, hfollows, hid ▸ h.tracked.2 sub hmem url hsource d hd hfollows⟩

/-- A request carries both validators or none. -/
theorem fetchSubscription_validators {U : Type} (lib : UrlLibrary U) (url : String)
    (conditional : ConditionalHeaders) (replies : ℕ → Option Reply) :
    ∀ r ∈ (fetchSubscription lib url conditional replies).1,
      r.ifNoneMatch.isSome ∨ r.ifModifiedSince.isSome →
      r.ifNoneMatch = conditional.etag ∧ r.ifModifiedSince = conditional.lastModified := by
  intro r hr hsent
  rw [fetchSubscription] at hr
  cases hparse : lib.parse url with
  | none => simp [hparse] at hr
  | some initial =>
    simp only [hparse] at hr
    split at hr
    · obtain ⟨-, hrequest⟩ := fetchFrom_requests (P := fun _ => True)
        (fun _ _ _ _ _ => trivial) maxRedirects trivial replies r hr
      rw [hrequest, requestFor] at hsent ⊢
      split
      · exact ⟨rfl, rfl⟩
      · next hother =>
        rw [if_neg hother] at hsent
        simp at hsent
    · cases hr

/-- **Conditional requests are sound.**  A request with validators is only sent for a cache whose
content is the body of the last committed response from that URL, and its validators were returned
with it or by an answer that confirmed it.  A 304 is only committed over such a cache; a failed
attempt leaves the time of the last success. -/
theorem conditional_requests_sound (env : SubscriptionEnv) (s : AppState)
    (exchanges : List Exchange) (h : History env (some s) exchanges) (id url : String)
    (snapshot : UpdateSnapshot) (hsnapshot : updateSnapshot s id = .ok snapshot)
    (hsource : snapshot.source = .remote url) :
    (∀ (U : Type) (lib : UrlLibrary U) (replies : ℕ → Option Reply),
      ∀ r ∈ (fetchSubscription lib url snapshot.conditionalHeaders replies).1,
        r.ifNoneMatch.isSome ∨ r.ifModifiedSince.isSome →
        snapshot.CachedFrom id url ⟨r.ifNoneMatch, r.ifModifiedSince⟩ exchanges) ∧
    (∀ metadata profile same now t,
      SubscriptionCommit env (.update id (.notModified metadata profile same) now) (some s) t →
      snapshot.CachedFrom id url snapshot.conditionalHeaders exchanges) ∧
    ∀ attemptedAt t, SubscriptionCommit env (.failedAttempt id attemptedAt) (some s) t →
      t.subscriptions.map (fun sub => (sub.id, sub.lastSuccessAtMs)) =
        s.subscriptions.map fun sub => (sub.id, sub.lastSuccessAtMs) := by
  refine ⟨fun U lib replies r hr hsent => ?_, ?_, ?_⟩
  · obtain ⟨hetag, hmodified⟩ := fetchSubscription_validators lib url _ replies r hr hsent
    cases hneeds : snapshot.needsBody with
    | true => simp [hetag, hmodified, UpdateSnapshot.conditionalHeaders, hneeds] at hsent
    | false =>
      rw [hetag, hmodified]
      exact h.cachedFrom hsnapshot hsource hneeds
  · intro metadata profile same now t hcommit
    cases hcommit with
    | update captured answered read usable committed =>
      obtain ⟨hfound, -⟩ := commitUpdate_refetched committed
      rw [hsnapshot] at hfound
      cases hfound
      exact h.cachedFrom hsnapshot hsource usable
  · intro attemptedAt t hcommit
    cases hcommit with
    | failedAttempt captured committed =>
      rw [commitFailedAttempt_subscriptions committed]
      exact map_modifyFirst fun _ _ _ => rfl

/-! ### Validators that outlive a response -/

def remoteEnv : SubscriptionEnv := { socksEnv with validateSourceUrl := fun _ => true }

/-- An import of `socksBody` from a secure source. -/
def remoteImport (metadata : SubscriptionHttpMetadata) : ImportCommit :=
  { socksImport with
    source := .remote "https://example.invalid/"
    remoteRequest := some ⟨none, 30, .direct, true⟩
    updatePolicy := ⟨false, none⟩
    httpMetadata := some metadata
    expectedInitiallyEmpty := some true }

def remoteState (metadata : SubscriptionHttpMetadata) : AppState :=
  { importCandidate (remoteImport metadata) [1] 1000 .empty with
    nodes := [ProxyNode.ofDraft remoteEnv.text ⟨"provider-01"⟩ socksDraft] }

def etagOnly (tag : String) : SubscriptionHttpMetadata := ⟨some tag, none, none, none⟩

/-- A 304 with a validator, to whatever request. -/
def laterAnswer : FetchResult := .notModified (etagOnly "\"b\"") none true

def noMetadata : SubscriptionHttpMetadata := ⟨none, none, none, none⟩

theorem remoteState_eq (metadata : SubscriptionHttpMetadata) : remoteState metadata =
    { importCandidate (remoteImport metadata) [1] 1000 .empty with
      nodes := [socksNodeOf "provider-01" "node-00be45e343119ef4"] } := by
  have htext : remoteEnv.text = socksEnv.text := rfl
  rw [remoteState, htext, ofDraft_socks]

theorem remoteState_history (metadata : SubscriptionHttpMetadata)
    (hvalid : (remoteState metadata).validate = .ok ()) :
    History remoteEnv (some (remoteState metadata)) [⟨"sub-01", "https://example.invalid/",
      ⟨none, none⟩, .modified socksBody metadata none true, true⟩] := by
  have hrequest : remoteImportRequest remoteEnv "office" "" "https://example.invalid/"
      ⟨none, 30, .direct, true, false, none⟩ =
      .ok ("office", "", ⟨none, 30, .direct, true⟩, ⟨false, none⟩) := by decide +kernel
  have hprepared : prepareRemoteImport remoteEnv "office" "" "https://example.invalid/"
      ⟨none, 30, .direct, true, false, none⟩ true (.modified socksBody metadata none true) =
      .ok (remoteImport metadata) := by
    rw [prepareRemoteImport, hrequest]
    exact ok_bind.mpr ⟨_, rfl, ok_bind.mpr ⟨_, socksBody_parsed, rfl⟩⟩
  have hcommitted : commitImport remoteEnv.text (remoteImport metadata) [1] 1000 none =
      .ok (remoteState metadata) := by
    have hprovider : identityOf "provider" [1] = "provider-01" := by decide
    refine commitImport_of rfl rfl rfl ?_ hvalid
    rw [hprovider]
    exact normalizeNodes_socks _
  have hcommit := SubscriptionCommit.importRemote hprepared hcommitted
  have hid : identityOf "sub" [1] = "sub-01" := by decide
  have hrun := History.commit .start hcommit trivial
  rw [SubscriptionOperation.exchanges, hid] at hrun
  exact hrun

/-- The import with a validator is accepted. -/
theorem remoteState_tagged : History remoteEnv (some (remoteState (etagOnly "\"a\"")))
    [⟨"sub-01", "https://example.invalid/", ⟨none, none⟩,
      .modified socksBody (etagOnly "\"a\"") none true, true⟩] := by
  refine remoteState_history _ ?_
  rw [remoteState_eq]
  decide +kernel

/-- The facts of the state after the import that the requests depend on. -/
theorem remoteState_snapshot : ∃ snapshot d,
    updateSnapshot (remoteState (etagOnly "\"a\"")) "sub-01" = .ok snapshot ∧
    snapshot.source = .remote "https://example.invalid/" ∧
    snapshot.conditionalHeaders = ⟨some "\"a\"", none⟩ ∧
    snapshot.document = some d ∧ d.content = socksBody := by
  have hok : (updateSnapshot (remoteState (etagOnly "\"a\"")) "sub-01").map (fun snapshot =>
      (snapshot.source, snapshot.conditionalHeaders, snapshot.document.map (·.content))) =
      .ok (.remote "https://example.invalid/", ⟨some "\"a\"", none⟩, some socksBody) := by
    decide +kernel
  obtain ⟨snapshot, hsnapshot, hfacts⟩ := map_eq_ok.mp hok
  obtain ⟨hsource, hrest⟩ := Prod.mk.inj hfacts
  obtain ⟨hconditional, hcontent⟩ := Prod.mk.inj hrest
  obtain ⟨d, hd, hbody⟩ := Option.map_eq_some_iff.mp hcontent
  exact ⟨snapshot, d, hsnapshot, hsource, hconditional, hd, hbody⟩

/-- A request with the validator of the import is sent for the body that was imported. -/
theorem conditional_requests_sound_imported :
    CacheOrigin "sub-01" "https://example.invalid/" socksBody ⟨some "\"a\"", none⟩
      [⟨"sub-01", "https://example.invalid/", ⟨none, none⟩,
        .modified socksBody (etagOnly "\"a\"") none true, true⟩] := by
  obtain ⟨snapshot, d, hsnapshot, hsource, hconditional, hd, hbody⟩ := remoteState_snapshot
  have hsound := (conditional_requests_sound remoteEnv _ _ remoteState_tagged "sub-01" _ snapshot
    hsnapshot hsource).1 SourceUrl threeUrls fun _ => none
  rw [hconditional] at hsound
  obtain ⟨-, found, hfound, -, horigin⟩ := hsound
    ⟨bareUrl "https" "example.invalid" "/", some "\"a\"", none⟩ List.mem_cons_self (.inl rfl)
  rw [hd] at hfound
  cases hfound
  exact hbody ▸ horigin

/-- The content is the body of the last of all 200 responses from the URL. -/
def LastResponse (id url content : String) (exchanges : List Exchange) : Prop :=
  ∃ earlier response later, exchanges = earlier ++ response :: later ∧ response.id = id ∧
    response.url = url ∧
    (∃ metadata profile same, response.answer = .modified content metadata profile same) ∧
    ∀ e ∈ later, e.id = id → e.url = url → e.answer.isModified = false

/-- A validator that a response brought, or a 304 that answered validators. -/
def AnswersValidators (id tag : String) (exchanges : List Exchange) : Prop :=
  ∃ e ∈ exchanges, e.id = id ∧ e.answer.metadata.etag = some tag ∧
    (e.answer.isModified = true ∨ e.request ≠ ⟨none, none⟩)

/-- After a response that does not parse, the validators of the stored body are sent all the same;
and so is a validator that a 304 brought to a request without any. -/
theorem older_validators_sent :
    ((updateParsed remoteEnv.toContentEnv (.modified "x" noMetadata none true)).isOk = false ∧
      ∃ s exchanges snapshot d, History remoteEnv (some s) exchanges ∧
      updateSnapshot s "sub-01" = .ok snapshot ∧
      snapshot.source = .remote "https://example.invalid/" ∧
      snapshot.conditionalHeaders = ⟨some "\"a\"", none⟩ ∧ snapshot.document = some d ∧
      ¬ LastResponse "sub-01" "https://example.invalid/" d.content exchanges) ∧
    ∃ s exchanges snapshot, History remoteEnv (some s) exchanges ∧
      updateSnapshot s "sub-01" = .ok snapshot ∧
      snapshot.conditionalHeaders = ⟨some "\"b\"", none⟩ ∧
      ¬ AnswersValidators "sub-01" "\"b\"" exchanges := by
  constructor
  · obtain ⟨snapshot, d, hsnapshot, hsource, hconditional, hd, hbody⟩ := remoteState_snapshot
    have hrefused := History.refusedUpdate (.modified "x" noMetadata none true) remoteState_tagged
      hsnapshot hsource
    refine ⟨by decide +kernel, _, _, snapshot, d, hrefused, hsnapshot, hsource, hconditional, hd, ?_⟩
    rintro ⟨earlier, response, later, hsplit, -, -, ⟨metadata, profile, same, hanswer⟩, hlater⟩
    rw [hbody] at hanswer
    cases earlier with
    | nil =>
      -- the last response that was committed is not the last one
      obtain ⟨-, rfl⟩ := List.cons.inj hsplit
      have hmodified := hlater _ (List.mem_singleton.mpr rfl) rfl rfl
      cases hmodified
    | cons first earlier =>
      obtain ⟨-, hrest⟩ := List.cons.inj hsplit
      cases earlier with
      | nil =>
        obtain ⟨rfl, -⟩ := List.cons.inj hrest
        have hwrong : "x" = socksBody := congrArg (fun answer : FetchResult => match answer with
          | .modified body _ _ _ => body
          | .notModified .. => "") hanswer
        exact absurd hwrong (by decide)
      | cons second earlier => simp at hrest
  · have hvalid : (remoteState noMetadata).validate = .ok () := by
      rw [remoteState_eq]
      decide +kernel
    have hrun := remoteState_history noMetadata hvalid
    have hok : (updateSnapshot (remoteState noMetadata) "sub-01" >>= fun snapshot =>
        updateFetched snapshot none false (.ok laterAnswer) >>= fun fetched =>
        commitUpdate remoteEnv.text "sub-01" snapshot laterAnswer none 2000
          (remoteState noMetadata) >>= fun committed =>
        updateSnapshot committed.1 "sub-01" >>= fun next =>
        .ok (snapshot.source, snapshot.conditionalHeaders, decide (fetched = laterAnswer),
          cacheUnavailable snapshot laterAnswer, next.conditionalHeaders)) =
        .ok (.remote "https://example.invalid/", ⟨none, none⟩, true, false,
          ⟨some "\"b\"", none⟩) := by
      rw [remoteState_eq]
      decide +kernel
    obtain ⟨snapshot, hsnapshot, hok⟩ := ok_bind.mp hok
    obtain ⟨fetched, hfetched, hok⟩ := ok_bind.mp hok
    obtain ⟨⟨after, changed⟩, hcommitted, hok⟩ := ok_bind.mp hok
    obtain ⟨next, hnext, hok⟩ := ok_bind.mp hok
    simp only [Except.ok.injEq, Prod.mk.injEq, decide_eq_true_eq] at hok
    obtain ⟨hsource, hrequest, rfl, husable, hconditional⟩ := hok
    have hcommit : SubscriptionCommit remoteEnv _ _ _ :=
      .update hsnapshot hfetched rfl husable hcommitted
    refine ⟨after, _, next, .commit hrun hcommit trivial, hnext, hconditional, ?_⟩
    rintro ⟨e, he, -, htag, hanswered⟩
    rw [SubscriptionOperation.exchanges, Option.getD_some, hsnapshot] at he
    simp only [hsource, hrequest, List.cons_append, List.nil_append, List.mem_cons,
      List.not_mem_nil, or_false] at he
    obtain rfl | rfl := he
    · cases htag
    · obtain hmodified | hconditions := hanswered
      · cases hmodified
      · exact hconditions rfl

end Veyra
