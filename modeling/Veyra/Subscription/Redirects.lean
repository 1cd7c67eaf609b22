import Veyra.Application.SubscriptionResponses
import Veyra.Subscription.Headers

/-!
# Veyra.Subscription.Redirects

The fetcher: one request after another along the redirects of a server that answers what it likes.

The URL library is a parameter.  What the server does is a stream of replies, one for each
request; a request that fails or that is cancelled by the timeout has none.
-/

namespace Veyra

/-- `reqwest::Url`, as far as the fetcher looks at it. -/
structure UrlLibrary (U : Type) where
  parse : String → Option U
  join : U → String → Option U
  view : U → SourceUrl
  /-- `port_or_known_default`. -/
  port : U → Option UInt16

structure ConditionalHeaders where
  etag : Option String
  lastModified : Option String
deriving DecidableEq

inductive FetchError
  | invalidUrl
  | requestFailed
  | invalidStatus
  | bodyTooLarge
  | invalidBody
deriving DecidableEq

/-- A request that was sent. -/
structure FetchRequest (U : Type) where
  url : U
  ifNoneMatch : Option String
  ifModifiedSince : Option String

/-- A response; a piece of its body that cannot be read is missing. -/
structure Reply where
  status : UInt16
  headers : HeaderMap
  chunks : List (Option (List UInt8))

def maxBodyBytes : Nat := 4 * 1024 * 1024

def maxRedirects : Nat := 5

/-- `validate_url`. -/
def validateUrlFrom (initialScheme : Option String) (url : SourceUrl) : Bool :=
  if url.username ≠ "" || url.password.isSome || url.host.isNone then false
  else if initialScheme = some "https" && url.scheme ≠ "https" then false
  else if url.scheme = "https" then true
  else url.scheme = "http" && ["127.0.0.1", "::1", "[::1]"].contains (url.host.getD "") &&
    url.query.isNone && url.fragment.isNone

/-- The loop over the chunks of a body. -/
def readChunks (bytes : List UInt8) : List (Option (List UInt8)) → Except FetchError (List UInt8)
  | [] => .ok bytes
  | none :: _ => .error .requestFailed
  | some chunk :: rest =>
    if bytes.length + chunk.length > maxBodyBytes then .error .bodyTooLarge
    else readChunks (bytes ++ chunk) rest

/-- The metadata that is handed over: without validators, if they are not those of the source. -/
def fetchedMetadata (headers : HeaderMap) (validatorsMatchSource : Bool) :
    SubscriptionHttpMetadata :=
  if validatorsMatchSource then responseMetadata headers
  else { responseMetadata headers with etag := none, lastModified := none }

/-- What becomes of a response that does not redirect. -/
def finalResult (reply : Reply) (validatorsMatchSource : Bool) : Except FetchError FetchResult :=
  if reply.status ≠ 200 then .error .invalidStatus
  else
    match readChunks [] reply.chunks with
    | .error error => .error error
    | .ok bytes =>
      match String.fromUTF8? ⟨bytes.toArray⟩ with
      | none => .error .invalidBody
      | some body => .ok (.modified body (fetchedMetadata reply.headers validatorsMatchSource)
          (profileUpdateIntervalMinutes reply.headers) validatorsMatchSource)

/-- What a reply leads to. -/
inductive Hop (U : Type)
  | done (result : Except FetchError FetchResult)
  | redirect (next : Except FetchError U)

section Fetch

variable {U : Type} (lib : UrlLibrary U)

/-- `origin`. -/
def UrlLibrary.origin (url : U) : String × Option String × Option UInt16 :=
  ((lib.view url).scheme, (lib.view url).host, lib.port url)

/-- The request for a URL: conditional at the origin of the initial URL alone. -/
def requestFor (initial : U) (conditional : ConditionalHeaders) (current : U) : FetchRequest U :=
  if lib.origin current = lib.origin initial then
    ⟨current, conditional.etag, conditional.lastModified⟩
  else ⟨current, none, none⟩

/-- The URL that a redirection names. -/
def nextUrl (initial current : U) (headers : HeaderMap) : Except FetchError U :=
  match headers.text "location" with
  | none => .error .requestFailed
  | some location =>
    match lib.join current location with
    | none => .error .invalidUrl
    | some next =>
      if validateUrlFrom (some (lib.view initial).scheme) (lib.view next) then .ok next
      else .error .invalidUrl

/-- The body of the loop after the request was sent. -/
def hop (initial current : U) (reply : Option Reply) : Hop U :=
  match reply with
  | none => .done (.error .requestFailed)
  | some reply =>
    if reply.status = 304 then
      .done (.ok (.notModified
        (fetchedMetadata reply.headers (lib.origin current = lib.origin initial))
        (profileUpdateIntervalMinutes reply.headers) (lib.origin current = lib.origin initial)))
    else if 300 ≤ reply.status && reply.status < 400 then
      .redirect (nextUrl lib initial current reply.headers)
    else .done (finalResult reply (lib.origin current = lib.origin initial))

/-- The loop of `fetch_with_redirects`, with the redirects that are left: the requests that were
sent, and the result. -/
def fetchFrom (initial : U) (conditional : ConditionalHeaders) :
    Nat → U → (ℕ → Option Reply) → List (FetchRequest U) × Except FetchError FetchResult
  | 0, current, replies =>
    match hop lib initial current (replies 0) with
    | .done result => ([requestFor lib initial conditional current], result)
    | .redirect _ => ([requestFor lib initial conditional current], .error .requestFailed)
  | left + 1, current, replies =>
    match hop lib initial current (replies 0) with
    | .done result => ([requestFor lib initial conditional current], result)
    | .redirect (.error error) => ([requestFor lib initial conditional current], .error error)
    | .redirect (.ok next) =>
      let rest := fetchFrom initial conditional left next fun n => replies (n + 1)
      (requestFor lib initial conditional current :: rest.1, rest.2)

/-- `fetch_subscription_with_timeout`. -/
def fetchSubscription (source : String) (conditional : ConditionalHeaders)
    (replies : ℕ → Option Reply) : List (FetchRequest U) × Except FetchError FetchResult :=
  match lib.parse source with
  | none => ([], .error .invalidUrl)
  | some initial =>
    if validateUrlFrom none (lib.view initial) then
      fetchFrom lib initial conditional maxRedirects initial replies
    else ([], .error .invalidUrl)

end Fetch

/-! ## One hop -/

section Hops

variable {U : Type} {lib : UrlLibrary U} {initial current : U}

/-- What is accepted after an initial URL is accepted as an initial one. -/
theorem validateUrlFrom_some {scheme : String} {url : SourceUrl}
    (h : validateUrlFrom (some scheme) url = true) :
    validateUrlFrom none url = true ∧ (scheme = "https" → url.scheme = "https") := by
  unfold validateUrlFrom at h ⊢
  grind

/-- An accepted URL is secure, or plain. -/
theorem scheme_of_validateUrlFrom {url : SourceUrl} (h : validateUrlFrom none url = true) :
    url.scheme = "https" ∨ url.scheme = "http" := by
  unfold validateUrlFrom at h
  grind

theorem nextUrl_ok {headers : HeaderMap} {next : U}
    (h : nextUrl lib initial current headers = .ok next) :
    validateUrlFrom (some (lib.view initial).scheme) (lib.view next) = true := by
  unfold nextUrl at h
  grind

/-- The metadata of a fetch result. -/
def FetchResult.metadata : FetchResult → SubscriptionHttpMetadata
  | .modified _ metadata _ _ => metadata
  | .notModified metadata _ _ => metadata

/-- The interval of a fetch result. -/
def FetchResult.profileInterval : FetchResult → Option UInt32
  | .modified _ _ profile _ => profile
  | .notModified _ profile _ => profile

/-- A hop that ends in a result read the headers of the reply at its URL. -/
theorem hop_done {reply : Option Reply} {fetched : FetchResult}
    (h : hop lib initial current reply = .done (.ok fetched)) :
    ∃ headers, fetched.metadata =
        fetchedMetadata headers (lib.origin current = lib.origin initial) ∧
      fetched.profileInterval = profileUpdateIntervalMinutes headers := by
  unfold hop at h
  split at h
  · cases h
  · next reply =>
    split at h
    · cases h
      exact ⟨reply.headers, rfl, rfl⟩
    · split at h
      · cases h
      · rw [Hop.done.injEq, finalResult] at h
        split at h
        · cases h
        · split at h
          · cases h
          · split at h
            · cases h
            · cases h
              exact ⟨reply.headers, rfl, rfl⟩

theorem hop_redirect {reply : Option Reply} {next : Except FetchError U}
    (h : hop lib initial current reply = .redirect next) :
    ∃ headers, next = nextUrl lib initial current headers := by
  unfold hop at h
  split at h
  · cases h
  · next reply =>
    split at h
    · cases h
    · split at h
      · cases h
        exact ⟨reply.headers, rfl⟩
      · cases h

/-! ## The loop -/

variable {conditional : ConditionalHeaders}

/-- **The rule of the loop.**  It ends at a hop, gives up, or goes on at the next URL. -/
theorem fetchFrom_induct {P : U → List (FetchRequest U) × Except FetchError FetchResult → Prop}
    (hdone : ∀ current reply result, hop lib initial current reply = .done result →
      P current ([requestFor lib initial conditional current], result))
    (hstop : ∀ current error, P current ([requestFor lib initial conditional current], .error error))
    (hnext : ∀ current headers next run, nextUrl lib initial current headers = .ok next →
      P next run → P current (requestFor lib initial conditional current :: run.1, run.2)) :
    ∀ left current replies, P current (fetchFrom lib initial conditional left current replies) := by
  intro left
  induction left with
  | zero =>
    intro current replies
    rw [fetchFrom]
    cases hhop : hop lib initial current (replies 0) with
    | done result => exact hdone _ _ _ hhop
    | redirect next => exact hstop _ _
  | succ left ih =>
    intro current replies
    rw [fetchFrom]
    cases hhop : hop lib initial current (replies 0) with
    | done result => exact hdone _ _ _ hhop
    | redirect next =>
      cases hnexts : next with
      | error error => exact hstop _ _
      | ok url =>
        obtain ⟨headers, hheaders⟩ := hop_redirect hhop
        exact hnext _ headers _ _ (hheaders.symm.trans hnexts) (ih _ _)

/-- The loop sends one request, and one for each redirect that it follows. -/
theorem fetchFrom_length (left : Nat) (current : U) (replies : ℕ → Option Reply) :
    (fetchFrom lib initial conditional left current replies).1.length ≤ left + 1 := by
  induction left generalizing current replies with
  | zero =>
    rw [fetchFrom]
    cases hop lib initial current (replies 0) <;> exact Nat.le_refl 1
  | succ left ih =>
    rw [fetchFrom]
    cases hop lib initial current (replies 0) with
    | done result => exact Nat.le_add_left 1 _
    | redirect next =>
      cases next with
      | error error => exact Nat.le_add_left 1 _
      | ok url => exact Nat.succ_le_succ (ih url _)

@[simp] theorem requestFor_url : (requestFor lib initial conditional current).url = current := by
  unfold requestFor
  split <;> rfl

/-- The loop after a redirect that is followed. -/
theorem fetchFrom_redirect {left : Nat} {replies : ℕ → Option Reply} {next : U}
    (h : hop lib initial current (replies 0) = .redirect (.ok next)) :
    (fetchFrom lib initial conditional (left + 1) current replies).1 =
      requestFor lib initial conditional current ::
        (fetchFrom lib initial conditional left next fun n => replies (n + 1)).1 := by
  rw [fetchFrom, h]

/-- The loop starts with a request for its URL. -/
theorem fetchFrom_cons (left : Nat) (current : U) (replies : ℕ → Option Reply) :
    ∃ rest, (fetchFrom lib initial conditional left current replies).1 =
      requestFor lib initial conditional current :: rest := by
  refine fetchFrom_induct (P := fun url run => ∃ rest,
    run.1 = requestFor lib initial conditional url :: rest) ?_ ?_ ?_ left current replies
  · exact fun _ _ _ _ => ⟨[], rfl⟩
  · exact fun _ _ => ⟨[], rfl⟩
  · exact fun _ _ _ run _ _ => ⟨run.1, rfl⟩

/-- What every request of the loop satisfies, if the first does and each accepted redirect leads
to one that does. -/
theorem fetchFrom_requests {P : U → Prop}
    (hnext : ∀ url headers next, P url → nextUrl lib initial url headers = .ok next → P next)
    (left : Nat) (hcurrent : P current) (replies : ℕ → Option Reply) :
    ∀ r ∈ (fetchFrom lib initial conditional left current replies).1,
      P r.url ∧ r = requestFor lib initial conditional r.url := by
  have hone : ∀ url, P url → ∀ r ∈ [requestFor lib initial conditional url],
      P r.url ∧ r = requestFor lib initial conditional r.url := by
    intro url hurl r hr
    obtain rfl := List.mem_singleton.mp hr
    rw [requestFor_url]
    exact ⟨hurl, rfl⟩
  refine fetchFrom_induct (P := fun url run => P url → ∀ r ∈ run.1,
    P r.url ∧ r = requestFor lib initial conditional r.url) ?_ ?_ ?_ left current replies hcurrent
  · intro url reply result _ hurl
    exact hone url hurl
  · intro url error hurl
    exact hone url hurl
  · intro url headers next run hurls ih hurl r hr
    cases List.mem_cons.mp hr with
    | inl hfirst => exact hone url hurl r (List.mem_singleton.mpr hfirst)
    | inr hrest => exact ih (hnext url headers next hurl hurls) r hrest

/-- A result is told at the URL of the last request. -/
theorem fetchFrom_result (left : Nat) (replies : ℕ → Option Reply) {fetched : FetchResult}
    (h : (fetchFrom lib initial conditional left current replies).2 = .ok fetched) :
    ∃ last headers, (fetchFrom lib initial conditional left current replies).1.getLast? = some last ∧
      fetched.metadata = fetchedMetadata headers (lib.origin last.url = lib.origin initial) ∧
      fetched.profileInterval = profileUpdateIntervalMinutes headers := by
  refine fetchFrom_induct (P := fun _ run => run.2 = .ok fetched → ∃ last headers,
    run.1.getLast? = some last ∧
      fetched.metadata = fetchedMetadata headers (lib.origin last.url = lib.origin initial) ∧
      fetched.profileInterval = profileUpdateIntervalMinutes headers)
    ?_ ?_ ?_ left current replies h
  · intro url reply result hhop hresult
    have hok : result = .ok fetched := hresult
    obtain ⟨headers, hmetadata, hprofile⟩ := hop_done (hok ▸ hhop)
    refine ⟨requestFor lib initial conditional url, headers, rfl, ?_, hprofile⟩
    rw [requestFor_url]
    exact hmetadata
  · intro url error hresult
    cases hresult
  · intro url headers next run _ ih hresult
    obtain ⟨last, read, hlast, hread⟩ := ih hresult
    refine ⟨last, read, ?_, hread⟩
    rw [List.getLast?_cons, hlast]
    rfl

end Hops

/-! ## Every chain of replies -/

section Chains

variable {U : Type} (lib : UrlLibrary U) (source : String)

/-- A few requests, each to an accepted URL; validators go to the origin of the source alone, and
are told of responses from there alone. -/
structure Guarded (run : List (FetchRequest U) × Except FetchError FetchResult) : Prop where
  few : run.1.length ≤ maxRedirects + 1
  accepted : ∀ r ∈ run.1, validateUrlFrom none (lib.view r.url) = true
  sent : ∀ r ∈ run.1, r.ifNoneMatch.isSome ∨ r.ifModifiedSince.isSome →
    ∃ initial, lib.parse source = some initial ∧ lib.origin r.url = lib.origin initial
  told : ∀ fetched, run.2 = .ok fetched →
    fetched.metadata.etag.isSome ∨ fetched.metadata.lastModified.isSome →
    ∃ initial last, lib.parse source = some initial ∧ run.1.getLast? = some last ∧
      lib.origin last.url = lib.origin initial

/-- After a secure URL no plain one is requested. -/
def NeverDowngrades (run : List (FetchRequest U) × Except FetchError FetchResult) : Prop :=
  run.1.Pairwise fun before after =>
    (lib.view before.url).scheme = "https" → (lib.view after.url).scheme ≠ "http"

/-- A location that spells a URL of its own, whatever it is joined to. -/
structure UrlLibrary.Spells (location : String) (url : U) (scheme host : String) : Prop where
  joined : ∀ base, lib.join base location = some url
  scheme : (lib.view url).scheme = scheme
  username : (lib.view url).username = ""
  password : (lib.view url).password = none
  host : (lib.view url).host = some host
  query : (lib.view url).query = none
  fragment : (lib.view url).fragment = none

variable {lib source} {conditional : ConditionalHeaders}

/-- Every fetch is guarded, whatever the server replies. -/
theorem fetchSubscription_guarded (replies : ℕ → Option Reply) :
    Guarded lib source (fetchSubscription lib source conditional replies) := by
  unfold fetchSubscription
  cases hparse : lib.parse source with
  | none =>
    exact ⟨Nat.zero_le _, by simp, by simp, fun _ h => by cases h⟩
  | some initial =>
    dsimp only
    by_cases hinitial : validateUrlFrom none (lib.view initial) = true
    swap
    · rw [if_neg hinitial]
      exact ⟨Nat.zero_le _, by simp, by simp, fun _ h => by cases h⟩
    rw [if_pos hinitial]
    have hrequests := @fetchFrom_requests U lib initial initial conditional
      (fun url => validateUrlFrom none (lib.view url) = true)
      (fun url headers next _ h => (validateUrlFrom_some (nextUrl_ok h)).1)
      maxRedirects hinitial replies
    refine ⟨fetchFrom_length _ _ _, fun r hr => (hrequests r hr).1, fun r hr hsent => ?_,
      fun fetched hfetched htold => ?_⟩
    · refine ⟨initial, hparse, ?_⟩
      by_contra horigin
      rw [(hrequests r hr).2, requestFor, if_neg horigin] at hsent
      simp at hsent
    · obtain ⟨last, headers, hlast, hmetadata, -⟩ := fetchFrom_result maxRedirects replies hfetched
      refine ⟨initial, last, hparse, hlast, ?_⟩
      by_contra horigin
      rw [hmetadata, decide_eq_false horigin] at htold
      simp [fetchedMetadata] at htold

/-- A secure source stays secure. -/
theorem never_downgrades_of_secure {initial : U} (hparse : lib.parse source = some initial)
    (hsecure : (lib.view initial).scheme = "https") (replies : ℕ → Option Reply) :
    NeverDowngrades lib (fetchSubscription lib source conditional replies) := by
  unfold fetchSubscription
  rw [hparse]
  dsimp only
  by_cases hinitial : validateUrlFrom none (lib.view initial) = true
  swap
  · rw [if_neg hinitial]
    exact List.Pairwise.nil
  rw [if_pos hinitial]
  have hrequests := @fetchFrom_requests U lib initial initial conditional
    (fun url => (lib.view url).scheme = "https")
    (fun url headers next _ h => (validateUrlFrom_some (nextUrl_ok h)).2 hsecure)
    maxRedirects hsecure replies
  refine List.pairwise_of_forall_mem_list fun before _ after hafter _ hplain => ?_
  have hscheme := (hrequests after hafter).1
  rw [hplain] at hscheme
  exact absurd hscheme (by decide)

/-- A response that redirects to a location. -/
def redirectTo (location : String) : Reply where
  status := 302
  headers := fun name => if name = "location" then some (Text.bytes location) else none
  chunks := []

/-- A location that spells an accepted URL is followed, if the source is not secure. -/
theorem hop_redirectTo {initial current url : U} {location scheme host : String}
    (hspells : lib.Spells location url scheme host)
    (htext : headerText (Text.bytes location) = some location)
    (hplain : (lib.view initial).scheme = "http")
    (haccepted : scheme = "https" ∨ scheme = "http" ∧ host = "127.0.0.1") :
    hop lib initial current (some (redirectTo location)) = .redirect (.ok url) := by
  have hlocation : HeaderMap.text (redirectTo location).headers "location" = some location := by
    simp [HeaderMap.text, redirectTo, htext]
  have hvalid : validateUrlFrom (some (lib.view initial).scheme) (lib.view url) = true := by
    rw [validateUrlFrom, hspells.username, hspells.password, hspells.host, hspells.scheme,
      hspells.query, hspells.fragment, hplain]
    rcases haccepted with rfl | ⟨rfl, rfl⟩ <;> rfl
  have hnext : nextUrl lib initial current (redirectTo location).headers = .ok url := by
    rw [nextUrl, hlocation]
    dsimp only
    rw [hspells.joined current]
    exact if_pos hvalid
  rw [hop, hnext]
  rfl

/-- **Redirects.**  Every fetch is guarded.  That no plain URL is ever requested after a secure one
holds for every chain of replies exactly when the source is not an accepted plain URL: only the
scheme of the source is looked at when a redirect is followed. -/
theorem redirects_safe_iff {secure plain : U}
    (hsecure : lib.Spells "https://example.invalid/" secure "https" "example.invalid")
    (hplain : lib.Spells "http://127.0.0.1/" plain "http" "127.0.0.1") :
    (∀ replies, Guarded lib source (fetchSubscription lib source conditional replies)) ∧
    ((∀ replies, Guarded lib source (fetchSubscription lib source conditional replies) ∧
        NeverDowngrades lib (fetchSubscription lib source conditional replies)) ↔
      ∀ initial, lib.parse source = some initial →
        validateUrlFrom none (lib.view initial) = true → (lib.view initial).scheme ≠ "http") := by
  refine ⟨fetchSubscription_guarded, fun h initial hparse hinitial hscheme => ?_, fun h replies => ?_⟩
  · -- the server redirects to a secure URL, and from there to a plain one
    have hchain := (h fun n => if n = 0 then some (redirectTo "https://example.invalid/")
      else if n = 1 then some (redirectTo "http://127.0.0.1/") else none).2
    rw [NeverDowngrades, fetchSubscription, hparse] at hchain
    dsimp only at hchain
    rw [if_pos hinitial, maxRedirects, fetchFrom_redirect (hop_redirectTo hsecure (by decide) hscheme
      (.inl rfl)), fetchFrom_redirect (hop_redirectTo hplain (by decide) hscheme
      (.inr ⟨rfl, rfl⟩))] at hchain
    obtain ⟨rest, hrest⟩ := @fetchFrom_cons U lib initial conditional 3 plain
      fun n => (fun n => if n = 0 then some (redirectTo "https://example.invalid/")
        else if n = 1 then some (redirectTo "http://127.0.0.1/") else none) (n + 1 + 1)
    rw [hrest, List.pairwise_cons, List.pairwise_cons] at hchain
    have hnever := hchain.2.1 _ List.mem_cons_self
    rw [requestFor_url, requestFor_url] at hnever
    exact hnever hsecure.scheme hplain.scheme
  · refine ⟨fetchSubscription_guarded replies, ?_⟩
    cases hparse : lib.parse source with
    | none =>
      rw [NeverDowngrades, fetchSubscription, hparse]
      exact List.Pairwise.nil
    | some initial =>
      by_cases hinitial : validateUrlFrom none (lib.view initial) = true
      · exact never_downgrades_of_secure hparse
          ((scheme_of_validateUrlFrom hinitial).resolve_right (h initial hparse hinitial)) replies
      · rw [NeverDowngrades, fetchSubscription, hparse]
        dsimp only
        rw [if_neg hinitial]
        exact List.Pairwise.nil

end Chains

/-- A URL without credentials, query and fragment. -/
def bareUrl (scheme host path : String) : SourceUrl where
  scheme
  username := ""
  password := none
  host := some host
  query := none
  fragment := none
  origin := String.ofList (scheme.toList ++ "://".toList ++ host.toList)
  path

/-- A library that knows three URLs, all of them absolute. -/
def threeUrls : UrlLibrary SourceUrl where
  parse text :=
    if text = "https://example.invalid/" then some (bareUrl "https" "example.invalid" "/")
    else if text = "http://127.0.0.1/" then some (bareUrl "http" "127.0.0.1" "/")
    else if text = "http://127.0.0.1/sub" then some (bareUrl "http" "127.0.0.1" "/sub")
    else none
  join _ location :=
    if location = "https://example.invalid/" then some (bareUrl "https" "example.invalid" "/")
    else if location = "http://127.0.0.1/" then some (bareUrl "http" "127.0.0.1" "/")
    else none
  view := id
  port url := if url.scheme = "https" then some 443 else some 80

/-- From a secure source a redirection to a plain URL is not followed. -/
theorem redirects_safe_iff_secure :
    NeverDowngrades threeUrls
      (fetchSubscription threeUrls "https://example.invalid/" ⟨some "v1", none⟩
        fun _ => some (redirectTo "http://127.0.0.1/")) := by
  have hsecure : threeUrls.Spells "https://example.invalid/" (bareUrl "https" "example.invalid" "/")
      "https" "example.invalid" := ⟨fun _ => rfl, rfl, rfl, rfl, rfl, rfl, rfl⟩
  have hplain : threeUrls.Spells "http://127.0.0.1/" (bareUrl "http" "127.0.0.1" "/")
      "http" "127.0.0.1" := ⟨fun _ => rfl, rfl, rfl, rfl, rfl, rfl, rfl⟩
  refine ((redirects_safe_iff hsecure hplain).2.mpr ?_ _).2
  intro initial hparse _
  cases hparse
  decide

/-- From a plain source a secure URL can lead back to a plain one. -/
theorem redirects_downgrade :
    ¬∀ replies, NeverDowngrades threeUrls
      (fetchSubscription threeUrls "http://127.0.0.1/sub" ⟨none, none⟩ replies) := by
  intro h
  have hchain := h fun n => if n = 0 then some (redirectTo "https://example.invalid/")
    else if n = 1 then some (redirectTo "http://127.0.0.1/") else none
  have hschemes : ((fetchSubscription threeUrls "http://127.0.0.1/sub" ⟨none, none⟩ fun n =>
      if n = 0 then some (redirectTo "https://example.invalid/")
      else if n = 1 then some (redirectTo "http://127.0.0.1/") else none).1.map
        (·.url.scheme)) = ["http", "https", "http"] := by decide
  have hpairs := List.Pairwise.map (S := fun before after : String =>
    before = "https" → after ≠ "http") (fun r : FetchRequest SourceUrl => r.url.scheme)
    (fun _ _ hab => hab) hchain
  rw [hschemes] at hpairs
  exact absurd hpairs (by decide)

end Veyra
