import Veyra.Frontend.Subscriptions

/-!
# Veyra.Frontend.SubscriptionAgreement

The decoders of the subscription page against the responses of the backend.
`parseSummary_response` and `parseSettings_response` say when one response is
accepted, `summaryReadable_iff` and `settingsReadable_iff` what validation
leaves of these conditions: what a name may contain, and that a policy without
automatic updates has no interval.
-/

namespace Veyra.Frontend

open Browser Check

/-! ## The same values -/

def SubscriptionTrafficSummary.of (traffic : SubscriptionTraffic) : SubscriptionTrafficSummary :=
  { upload := traffic.upload.map (·.toNat)
    download := traffic.download.map (·.toNat)
    total := traffic.total.map (·.toNat)
    expireAtMs := traffic.expireAtMs.map (·.toNat) }

def SubscriptionSummary.of (summary : Veyra.SubscriptionSummary) : SubscriptionSummary :=
  { id := summary.id
    name := summary.name
    description := summary.description
    sourceKind := summary.sourceKind
    nodeCount := summary.nodeCount.toNat
    skippedNodeCount := summary.skippedNodeCount.toNat
    lastSuccessAtMs := summary.lastSuccessAtMs.map (·.toNat)
    traffic := summary.traffic.map .of
    allowAutoUpdate := summary.allowAutoUpdate
    updateIntervalMinutes := summary.updateIntervalMinutes.map (·.toNat)
    active := summary.active
    activeConfigurationGeneration := summary.activeConfigurationGeneration.map (·.toNat)
    shareable := summary.shareable }

def RemoteRequest.of (request : RemoteRequestSettings) : RemoteRequest :=
  { timeoutSeconds := request.timeoutSeconds.toNat
    proxyMode := request.proxyMode
    verifyTls := request.verifyTls }

def UpdatePolicy.of (policy : SubscriptionUpdatePolicy) : UpdatePolicy :=
  { allowAutoUpdate := policy.allowAutoUpdate
    intervalMinutes := policy.intervalMinutes.map (·.toNat) }

def SubscriptionSettings.of (settings : Veyra.SubscriptionSettings) : SubscriptionSettings :=
  { id := settings.id
    name := settings.name
    description := settings.description
    sourceKind := settings.sourceKind
    urlPreview := settings.urlPreview
    hasCustomUserAgent := settings.hasCustomUserAgent
    remoteRequest := settings.remoteRequest.map .of
    updatePolicy := .of settings.updatePolicy
    shareable := settings.shareable }

/-! ## Single values -/

/-- A number that a script holds exactly. -/
def Safe (value : Option UInt64) : Prop := ∀ n, value = some n → n.toNat ≤ Browser.maxSafeInteger

/-- An interval that the decoder takes. -/
def LongInterval (value : Option UInt32) : Prop := ∀ n, value = some n → 1440 ≤ n.toNat

/-- An optional number is read if a script holds it. -/
theorem nullable_u64 (value : Option UInt64) :
    Decodes (nullable safeInteger (ofOption numberU64 value)) (Safe value)
      (value.map (·.toNat)) :=
  nullable_ofOption (fun _ => by simp) safeInteger_posInt value

/-- A script holds every number of 32 bits. -/
theorem safeInteger_u32 (n : UInt32) : Decodes (safeInteger (numberU32 n)) True n.toNat := by
  refine (safeInteger_posInt n.toUInt64).congr (iff_true_intro ?_)
  have hlt := n.toNat_lt
  rw [UInt32.toNat_toUInt64, Browser.maxSafeInteger]
  omega

/-- And every number of 16 bits. -/
theorem safeInteger_u16 (n : UInt16) : Decodes (safeInteger (numberU16 n)) True n.toNat := by
  refine (safeInteger_posInt n.toUInt64).congr (iff_true_intro ?_)
  have hlt := n.toNat_lt
  rw [UInt16.toNat_toUInt64, Browser.maxSafeInteger]
  omega

/-- An interval is read from a day on. -/
theorem nullableInterval_u32 (value : Option UInt32) :
    Decodes (nullableInterval (ofOption numberU32 value)) (LongInterval value)
      (value.map (·.toNat)) := by
  refine nullable_ofOption (fun _ => by simp [numberU32]) (fun n => ?_) value
  have hread : Decodes (safeInteger (numberU32 n) >>= fun k => do
      guard (k > 0 ∧ k ≥ 1440)
      some k) _ n.toNat :=
    Decodes.bind (safeInteger_u32 n) fun _ => Decodes.bind (Decodes.guarded _) fun _ => .pure _
  refine hread.congr ?_
  simp only [true_and, and_true]
  omega

/-- A timeout is read from five seconds to two minutes. -/
theorem timeout_u16 (n : UInt16) :
    Decodes (timeout (numberU16 n)) (5 ≤ n.toNat ∧ n.toNat ≤ 120) n.toNat := by
  have hread : Decodes (timeout (numberU16 n)) _ n.toNat :=
    Decodes.bind (safeInteger_u16 n) fun _ => Decodes.bind (Decodes.guarded _) fun _ => .pure _
  refine hread.congr ?_
  simp only [true_and, and_true]
  omega

theorem safeText_str (s : String) (maximum : Nat) (allowEmpty : Bool) :
    Decodes (safeText maximum allowEmpty (.str s)) (isSafeText s maximum allowEmpty = true) s := by
  have hread : Decodes (safeText maximum allowEmpty (.str s)) _ s :=
    Decodes.bind (text_str s) fun _ => Decodes.bind (Decodes.guarded _) fun _ => .pure _
  exact hread.congr (by simp)

/-- Both sides have the same names for the kinds of sources. -/
theorem sourceKind_str (kind : SubscriptionSourceKind) :
    Decodes (oneOf sourceKinds (.str kind.name)) True kind := by
  cases kind <;> exact oneOf_str rfl

/-- And for the proxy modes. -/
theorem proxyMode_str (mode : SubscriptionProxyMode) :
    Decodes (oneOf proxyModes (.str mode.name)) True mode := by
  cases mode <;> exact oneOf_str rfl

/-! ## Summaries -/

/-- The traffic of a subscription is read if a script holds its numbers. -/
theorem parseTraffic_response (traffic : SubscriptionTraffic) :
    Decodes (parseTraffic traffic.response)
      (Safe traffic.upload ∧ Safe traffic.download ∧ Safe traffic.total ∧ Safe traffic.expireAtMs)
      (.of traffic) := by
  have hread : Decodes (parseTraffic traffic.response) _ (.of traffic) :=
    Decodes.bind (exactly_obj rfl) fun _ =>
    Decodes.bind (member_of rfl (nullable_u64 _)) fun _ =>
    Decodes.bind (member_of rfl (nullable_u64 _)) fun _ =>
    Decodes.bind (member_of rfl (nullable_u64 _)) fun _ =>
    Decodes.bind (member_of rfl (nullable_u64 _)) fun _ =>
    Decodes.pure _
  exact hread.congr (by simp)

/-- What the decoder asks of a summary. -/
structure SummaryReadable (summary : Veyra.SubscriptionSummary) : Prop where
  id : summary.id ≠ ""
  name : isSafeText summary.name 80 false = true
  description : isSafeText summary.description 280 true = true
  nodeCount : summary.nodeCount.toNat ≤ Browser.maxSafeInteger
  lastSuccessAtMs : Safe summary.lastSuccessAtMs
  interval : LongInterval summary.updateIntervalMinutes
  generation : Safe summary.activeConfigurationGeneration
  active : summary.active = summary.activeConfigurationGeneration.isSome
  policy : summary.allowAutoUpdate = true ∨ summary.updateIntervalMinutes = none
  manual : summary.sourceKind = .manual → summary.allowAutoUpdate = false ∧
    summary.updateIntervalMinutes = none ∧ summary.shareable = false
  traffic : ∀ traffic, summary.traffic = some traffic → Safe traffic.upload ∧
    Safe traffic.download ∧ Safe traffic.total ∧ Safe traffic.expireAtMs

/-- **Spec.**  A summary is read exactly when it is readable, and as it was sent. -/
theorem parseSummary_response (summary : Veyra.SubscriptionSummary) :
    Decodes (parseSummary summary.response) (SummaryReadable summary) (.of summary) := by
  have hread : Decodes (parseSummary summary.response) _ (.of summary) :=
    Decodes.bind (exactly_obj (by simp only [List.map_cons, List.map_nil]; decide)) fun _ =>
    Decodes.bind (member_of rfl (nonEmptyText_str _)) fun _ =>
    Decodes.bind (member_of rfl (safeText_str _ _ _)) fun _ =>
    Decodes.bind (member_of rfl (safeText_str _ _ _)) fun _ =>
    Decodes.bind (member_of rfl (sourceKind_str _)) fun _ =>
    Decodes.bind (member_of rfl (safeInteger_posInt _)) fun _ =>
    Decodes.bind (member_of rfl (safeInteger_u32 _)) fun _ =>
    Decodes.bind (Decodes.guarded _) fun _ =>
    Decodes.bind (member_of rfl (nullable_u64 _)) fun _ =>
    Decodes.bind (member_of rfl (boolean_bool _)) fun _ =>
    Decodes.bind (member_of rfl (nullableInterval_u32 _)) fun _ =>
    Decodes.bind (member_of rfl (boolean_bool _)) fun _ =>
    Decodes.bind (member_of rfl (nullable_u64 _)) fun _ =>
    Decodes.bind (Decodes.guarded _) fun _ =>
    Decodes.bind (member_of rfl (boolean_bool _)) fun _ =>
    Decodes.bind (Decodes.guarded _) fun _ =>
    Decodes.bind (Decodes.guarded _) fun _ =>
    Decodes.bind (member_of rfl
      (nullable_ofOption (fun _ => by simp [SubscriptionTraffic.response]) parseTraffic_response
        _)) fun _ =>
    Decodes.pure _
  have hskipped : summary.skippedNodeCount.toNat ≤ 0xffffffff := by
    have hlt := summary.skippedNodeCount.toNat_lt
    omega
  refine hread.congr ?_
  simp only [true_and, and_true, hskipped, Option.isSome_map, Option.map_eq_none_iff]
  constructor
  · rintro ⟨h1, h2, h3, h4, h5, h6, h7, h8, h9, h10, h11⟩
    exact ⟨h1, h2, h3, h4, h5, h6, h7, h8, h9, by simpa [not_or] using h10, h11⟩
  · intro h
    exact ⟨h.id, h.name, h.description, h.nodeCount, h.lastSuccessAtMs, h.interval, h.generation,
      h.active, h.policy, by simpa [not_or] using h.manual, h.traffic⟩

/-! ## Settings -/

/-- A policy is read as it was sent. -/
theorem parseUpdatePolicy_response (policy : SubscriptionUpdatePolicy) :
    Decodes (parseUpdatePolicy policy.response) (LongInterval policy.intervalMinutes)
      (.of policy) := by
  have hread : Decodes (parseUpdatePolicy policy.response) _ (.of policy) :=
    Decodes.bind (exactly_obj rfl) fun _ =>
    Decodes.bind (member_of rfl (boolean_bool _)) fun _ =>
    Decodes.bind (member_of rfl (nullableInterval_u32 _)) fun _ =>
    Decodes.pure _
  exact hread.congr (by simp)

/-- The request settings are read as they were sent. -/
theorem parseRemoteRequest_response (request : RemoteRequestSettings) :
    Decodes (parseRemoteRequest request.response)
      (5 ≤ request.timeoutSeconds.toNat ∧ request.timeoutSeconds.toNat ≤ 120) (.of request) := by
  have hread : Decodes (parseRemoteRequest request.response) _ (.of request) :=
    Decodes.bind (exactly_obj rfl) fun _ =>
    Decodes.bind (member_of rfl (timeout_u16 _)) fun _ =>
    Decodes.bind (member_of rfl (proxyMode_str _)) fun _ =>
    Decodes.bind (member_of rfl (boolean_bool _)) fun _ =>
    Decodes.pure _
  exact hread.congr (by simp)

/-- A preview is read if the browser finds nothing to hide in it. -/
theorem urlPreview_str (url : String → Option BrowserUrl) (s : String) :
    Decodes (urlPreview url (.str s)) (isSafeUrlPreview url s = true) s := by
  have hread : Decodes (urlPreview url (.str s)) _ s :=
    Decodes.bind (text_str s) fun _ => Decodes.bind (Decodes.guarded _) fun _ => .pure _
  exact hread.congr (by simp)

/-- What the decoder asks of the settings. -/
structure SettingsReadable (url : String → Option BrowserUrl)
    (settings : Veyra.SubscriptionSettings) : Prop where
  id : settings.id ≠ ""
  name : isSafeText settings.name 80 false = true
  description : isSafeText settings.description 280 true = true
  preview : ∀ preview, settings.urlPreview = some preview → isSafeUrlPreview url preview = true
  interval : LongInterval settings.updatePolicy.intervalMinutes
  timeout : ∀ request, settings.remoteRequest = some request →
    5 ≤ request.timeoutSeconds.toNat ∧ request.timeoutSeconds.toNat ≤ 120
  remote : decide (settings.sourceKind = .remote) = settings.remoteRequest.isSome
  policy : settings.updatePolicy.allowAutoUpdate = true ∨
    settings.updatePolicy.intervalMinutes = none
  manual : settings.sourceKind = .manual → settings.urlPreview = none ∧
    settings.hasCustomUserAgent = false ∧ settings.updatePolicy.allowAutoUpdate = false ∧
    settings.updatePolicy.intervalMinutes = none ∧ settings.shareable = false

/-- **Spec.**  Settings are read exactly when they are readable, and as they were sent. -/
theorem parseSettings_response (url : String → Option BrowserUrl)
    (settings : Veyra.SubscriptionSettings) :
    Decodes (parseSettings url settings.response) (SettingsReadable url settings)
      (.of settings) := by
  have hread : Decodes (parseSettings url settings.response) _ (.of settings) :=
    Decodes.bind (exactly_obj rfl) fun _ =>
    Decodes.bind (member_of rfl (nonEmptyText_str _)) fun _ =>
    Decodes.bind (member_of rfl (safeText_str _ _ _)) fun _ =>
    Decodes.bind (member_of rfl (safeText_str _ _ _)) fun _ =>
    Decodes.bind (member_of rfl (sourceKind_str _)) fun _ =>
    Decodes.bind (member_of rfl
      ((nullable_ofOption (fun _ => by simp) (urlPreview_str url) _).congr_value (by simp))) fun _ =>
    Decodes.bind (member_of rfl (boolean_bool _)) fun _ =>
    Decodes.bind (member_of rfl (boolean_bool _)) fun _ =>
    Decodes.bind (member_of rfl (parseUpdatePolicy_response _)) fun _ =>
    Decodes.bind (member_of rfl
      (nullable_ofOption (fun _ => by simp [RemoteRequestSettings.response])
        parseRemoteRequest_response _)) fun _ =>
    Decodes.bind (Decodes.guarded _) fun _ =>
    Decodes.bind (Decodes.guarded _) fun _ =>
    Decodes.bind (Decodes.guarded _) fun _ =>
    Decodes.pure _
  refine hread.congr ?_
  simp only [true_and, and_true, Option.isSome_map, UpdatePolicy.of, Option.map_eq_none_iff]
  constructor
  · rintro ⟨h1, h2, h3, h4, h5, h6, h7, h8, h9⟩
    exact ⟨h1, h2, h3, h4, h5, h6, h7, h8, by simpa [not_or] using h9⟩
  · intro h
    exact ⟨h.id, h.name, h.description, h.preview, h.interval, h.timeout, h.remote, h.policy,
      by simpa [not_or] using h.manual⟩

/-! ## Results -/

/-- The names of the errors are the ones the page knows. -/
theorem parseError_response (error : SubscriptionOperationError) :
    parseError (errorResponse error) = some error := by
  cases error <;> rfl

/-- A result with the status `ok` is not an error. -/
theorem parseError_ok (members : List (String × Json)) :
    parseError (.obj (("status", .str "ok") :: members)) = none := by
  rw [parseError]
  cases hkeys : exactly ["status", "error"] (.obj (("status", .str "ok") :: members)) with
  | none => rfl
  | some ms =>
    have hmembers : ms = ("status", .str "ok") :: members := by
      rw [exactly] at hkeys
      split at hkeys
      · exact (Option.some.inj hkeys).symm
      · cases hkeys
    subst hmembers
    rfl

/-- A response with an `ok` status is read as the value. -/
theorem parseResult_ok {α : Type} {read : Reader α} {members : List (String × Json)} {P : Prop}
    {a : α} (h : Decodes (read (.obj (("status", .str "ok") :: members))) P a) :
    Decodes (parseResult read (.obj (("status", .str "ok") :: members))) P (.ok a) := by
  rw [parseResult, parseError_ok]
  exact h.map SubscriptionResult.ok

theorem status_ok (members : List (String × Json)) :
    Decodes (status "ok" (("status", .str "ok") :: members)) True () :=
  member_of rfl (oneOf_str rfl)

/-- A list is read exactly when each of its summaries is: one that is not spoils it. -/
theorem parseListResult_ok (values : List Veyra.SubscriptionSummary) :
    Decodes (parseListResult (listResponse (.ok values))) (∀ v ∈ values, SummaryReadable v)
      (.ok (values.map .of)) := by
  refine parseResult_ok (Decodes.congr (Decodes.bind (exactly_obj rfl) fun _ =>
    Decodes.bind (status_ok _) fun _ => member_of rfl
      (arrayOf_map values fun v _ => parseSummary_response v)) ?_)
  simp

/-- The result of an import. -/
theorem parseSummaryResult_ok (summary : Veyra.SubscriptionSummary) :
    Decodes (parseSummaryResult (importResponse (.ok summary))) (SummaryReadable summary)
      (.ok (.of summary)) := by
  refine parseResult_ok (Decodes.congr (Decodes.bind (exactly_obj rfl) fun _ =>
    Decodes.bind (status_ok _) fun _ => member_of rfl (parseSummary_response summary)) ?_)
  simp

/-- The result of an update or an edit. -/
theorem parseChangedResult_ok (summary : Veyra.SubscriptionSummary) (changed : Bool) :
    Decodes (parseChangedResult (updateResponse (.ok (summary, changed))))
      (SummaryReadable summary) (.ok (.of summary, changed)) := by
  refine parseResult_ok (Decodes.congr (Decodes.bind (exactly_obj rfl) fun _ =>
    Decodes.bind (status_ok _) fun _ => Decodes.bind (member_of rfl (boolean_bool changed)) fun _ =>
    Decodes.bind (member_of rfl (parseSummary_response summary)) fun _ => Decodes.pure _) ?_)
  simp

/-- The result of an activation, whose summary shows the same generation. -/
theorem parseActivated_ok {outcome operationId : String} (summary : Veyra.SubscriptionSummary)
    (generation : UInt64) (houtcome : outcome ∈ ["activated", "alreadyCurrent", "reactivated"])
    (hoperation : operationId ≠ "") (hactive : summary.active = true)
    (hgeneration : summary.activeConfigurationGeneration = some generation)
    (hreadable : SummaryReadable summary) :
    parseActivated (activatedResponse outcome operationId summary generation) =
      some (outcome, operationId, .of summary, generation.toNat) := by
  have hname : ([("activated", "activated"), ("alreadyCurrent", "alreadyCurrent"),
      ("reactivated", "reactivated")] : List (String × String)).lookup outcome = some outcome := by
    simp only [List.mem_cons, List.not_mem_nil, or_false] at houtcome
    rcases houtcome with rfl | rfl | rfl <;> rfl
  have hread : Decodes (parseActivated (activatedResponse outcome operationId summary generation))
      _ (outcome, operationId, .of summary, generation.toNat) :=
    Decodes.bind (exactly_obj rfl) fun _ =>
    Decodes.bind (status_ok _) fun _ =>
    Decodes.bind (member_of rfl (oneOf_str hname)) fun _ =>
    Decodes.bind (member_of rfl (nonEmptyText_str _)) fun _ =>
    Decodes.bind (member_of rfl (safeInteger_posInt _)) fun _ =>
    Decodes.bind (member_of rfl (parseSummary_response _)) fun _ =>
    Decodes.bind (Decodes.guarded _) fun _ => Decodes.pure _
  apply hread.eq_some
  have hsafe := hreadable.generation generation hgeneration
  simp [SubscriptionSummary.of, hoperation, hsafe, hreadable, hactive, hgeneration]

/-- The result of a request for settings. -/
theorem parseSettingsResult_ok (url : String → Option BrowserUrl)
    (settings : Veyra.SubscriptionSettings) :
    Decodes (parseSettingsResult url (settingsResponse (.ok settings)))
      (SettingsReadable url settings) (.ok (.of settings)) := by
  refine parseResult_ok (Decodes.congr (Decodes.bind (exactly_obj rfl) fun _ =>
    Decodes.bind (status_ok _) fun _ => member_of rfl (parseSettings_response url settings)) ?_)
  simp

/-! ## Saved documents -/

def DocumentApply.of : DocumentApplyResult → DocumentApply
  | .notRequired => .notRequired
  | .ready operationId generation => .ready operationId generation.toNat
  | .failed operationId generation error => .failed operationId generation.toNat error

/-- What the decoder asks of the answer to a save: an operation, and a generation that a script
holds exactly. -/
def ApplyReadable : DocumentApplyResult → Prop
  | .notRequired => True
  | .ready operationId generation | .failed operationId generation _ =>
    operationId ≠ "" ∧ generation.toNat ≤ Browser.maxSafeInteger

theorem documentApplyError_str (error : DocumentApplyError) :
    Decodes (oneOf documentApplyErrors (.str error.code)) True error := by
  cases error <;> exact oneOf_str rfl

theorem parseApply_response (apply : DocumentApplyResult) :
    Decodes (parseApply apply.response) (ApplyReadable apply) (.of apply) := by
  cases apply with
  | notRequired => exact .of_eq rfl
  | ready operationId generation =>
    have hread : Decodes (parseApply (DocumentApplyResult.ready operationId generation).response) _
        (.ready operationId generation.toNat) :=
      Decodes.bind (exactly_obj rfl) fun _ =>
      Decodes.bind (member_of rfl (nonEmptyText_str _)) fun _ =>
      Decodes.bind (member_of rfl (safeInteger_posInt _)) fun _ =>
      Decodes.pure _
    exact hread.congr (by simp [ApplyReadable])
  | failed operationId generation error =>
    have hread : Decodes
        (parseApply (DocumentApplyResult.failed operationId generation error).response) _
        (.failed operationId generation.toNat error) :=
      Decodes.bind (exactly_obj rfl) fun _ =>
      Decodes.bind (member_of rfl (nonEmptyText_str _)) fun _ =>
      Decodes.bind (member_of rfl (safeInteger_posInt _)) fun _ =>
      Decodes.bind (member_of rfl (documentApplyError_str _)) fun _ =>
      Decodes.pure _
    exact hread.congr (by simp [ApplyReadable])

theorem documentRevision_str (s : String) :
    Decodes (documentRevision (.str s)) (isDocumentRevision s = true) s := by
  have hread : Decodes (documentRevision (.str s)) _ s :=
    Decodes.bind (text_str s) fun _ => Decodes.bind (Decodes.guarded _) fun _ => .pure _
  exact hread.congr (by simp)

/-- The answer to a save that went well. -/
theorem parseSaveResult_ok (summary : Veyra.SubscriptionSummary) (revision : String)
    (apply : DocumentApplyResult) :
    Decodes (parseSaveResult (saveDocumentResponse summary (.ok revision apply)))
      (isDocumentRevision revision = true ∧ ApplyReadable apply ∧ SummaryReadable summary)
      (.ok (.of summary) revision (.of apply)) := by
  have hread : Decodes (parseSaved (saveDocumentResponse summary (.ok revision apply))) _
      (.ok (.of summary) revision (.of apply)) :=
    Decodes.bind (exactly_obj rfl) fun _ =>
    Decodes.bind (status_ok _) fun _ =>
    Decodes.bind (member_of rfl (documentRevision_str _)) fun _ =>
    Decodes.bind (member_of rfl (parseApply_response _)) fun _ =>
    Decodes.bind (member_of rfl (parseSummary_response _)) fun _ =>
    Decodes.pure _
  exact hread.congr (by simp)

/-- The page knows every error of a save. -/
theorem parseSaveResult_error (summary : Veyra.SubscriptionSummary) (operationId : Option String)
    (error : DocumentSaveError) (hoperation : operationId ≠ some "") :
    parseSaveResult (saveDocumentResponse summary (.error operationId error)) =
      some (.failure ⟨error.code, operationId, none⟩) := by
  have hknown : error.code ∈ documentMessages ∨ error.code ∈ errorMessages := by
    cases error <;> decide
  have hread : ∀ ms : List (String × Json), ms.lookup "status" = some (.str "error") →
      ms.lookup "error" = some (.str error.code) →
      (∀ m ∈ ms, m.1 ∈ ["status", "error", "operationId", "location"]) →
      ms.lookup "location" = none → ∀ found, optionalMember ms "operationId" nonEmptyText =
        some found → parseSaveResult (.obj ms) = some (.failure ⟨error.code, found, none⟩) := by
    intro ms hstatus herror hkeys hlocation found hfound
    have hcode : member ms "error" text = some error.code := by
      simp [member, herror, text, Json.asStr?]
    have hnowhere : optionalMember ms "location" parseLocation = some none := by
      rw [optionalMember, hlocation]
    have hmembers : parseFailureMembers ms = some ⟨error.code, found, none⟩ := by
      rw [parseFailureMembers, hcode, hfound, hnowhere]
      dsimp only [Option.bind_eq_bind, Option.bind_some]
      rw [guard, guard, if_pos hknown, if_pos hkeys]
      rfl
    have hfailure : parseDocumentFailure (.obj ms) = some (some ⟨error.code, found, none⟩) := by
      rw [parseDocumentFailure, hstatus, hmembers]
      rfl
    rw [parseSaveResult, hfailure]
    rfl
  cases operationId with
  | none => exact hread _ rfl rfl (by simp) rfl none rfl
  | some operationId =>
    have hne : operationId ≠ "" := fun h => hoperation (congrArg some h)
    exact hread _ rfl rfl (by simp) rfl (some operationId)
      (congrArg (Option.map some) ((nonEmptyText_str operationId).eq_some hne))

/-! ## What validation leaves open -/

/-- What the page shows of a name: at most eighty characters, without surrounding white space
in the sense of the backend. -/
def shownName (name : String) : List Char := (Text.trim name).toList.take 80

/-- The page can show the name: there is no control character in what it shows, and it is not
white space in the sense of the browser. -/
def displayable (name : String) : Bool :=
  (shownName name).isEmpty ||
    !(shownName name).all Browser.isWhite && !(shownName name).any Browser.isControl

/-- A shown name is safe text when the page can display the stored one. -/
theorem isSafeText_displayName (name : String) :
    isSafeText (safeDisplayName name) 80 false = displayable name := by
  rw [safeDisplayName, displayable, shownName]
  by_cases hempty : Text.trim name = ""
  · rw [if_pos hempty, hempty]
    decide
  · rw [if_neg hempty, isSafeText, Browser.blank, String.toList_ofList]
    have hnonempty : ((Text.trim name).toList.take 80).isEmpty = false := by
      simpa [List.isEmpty_iff] using hempty
    simp [hnonempty]

/-- Names come out of `validate_name` without surrounding white space. -/
theorem displayable_of_validateName {name checked : String} (h : validateName name = .ok checked) :
    displayable checked = displayable name := by
  rw [validateName] at h
  split at h <;> cases h
  rw [displayable, displayable, shownName, shownName, Text.trim_trim]

end Veyra.Frontend

namespace Veyra

open Browser Check Frontend

/-- The page can show the subscription: its name, and its policy, which has an interval only
together with automatic updates. -/
structure Subscription.Displayable (sub : Subscription) : Prop where
  name : displayable sub.name = true
  policy : sub.updatePolicy.allowAutoUpdate = true ∨ sub.updatePolicy.intervalMinutes = none

/-- What `Subscription::validate` establishes of the fields that a response shows. -/
structure Subscription.Checked (sub : Subscription) : Prop where
  lastSuccessAtMs : Safe sub.lastSuccessAtMs
  description : isSafeText sub.description 280 true = true
  interval : LongInterval sub.updatePolicy.intervalMinutes
  traffic : ∀ metadata, sub.httpMetadata = some metadata →
    ∀ traffic, metadata.subscriptionUserinfo = some traffic → Safe traffic.upload ∧
      Safe traffic.download ∧ Safe traffic.total ∧ Safe traffic.expireAtMs
  remote : ∀ url, sub.source = .remote url → ∃ request, sub.remoteRequest = some request ∧
    5 ≤ request.timeoutSeconds.toNat ∧ request.timeoutSeconds.toNat ≤ 120
  manual : sub.source = .manual → sub.remoteRequest = none ∧
    sub.updatePolicy.allowAutoUpdate = false ∧ sub.updatePolicy.intervalMinutes = none

/-- Both sides have the same bound. -/
theorem toNat_maxSafeInteger : Veyra.maxSafeInteger.toNat = Browser.maxSafeInteger := rfl

theorem safe_of_all {value : Option UInt64}
    (h : value.all (· ≤ Veyra.maxSafeInteger) = true) : Safe value := by
  rintro n rfl
  rw [← toNat_maxSafeInteger]
  exact UInt64.le_iff_toNat_le.mp (by simpa using h)

/-- The backend knows every control character of the page. -/
theorem isControl_of_control {c : Char} (h : Browser.isControl c = true) :
    Text.isControl c = true := by
  rw [Browser.isControl, Bool.or_eq_true, decide_eq_true_eq, beq_iff_eq] at h
  rw [Text.isControl, Bool.or_eq_true, Bool.and_eq_true, decide_eq_true_eq, decide_eq_true_eq,
    decide_eq_true_eq]
  omega

/-- Validation establishes everything but the name and the policy. -/
theorem Subscription.checked_of_validate {sub : Subscription} (h : sub.validate = .ok ()) :
    sub.Checked := by
  obtain ⟨hbasic, h⟩ := ok_seq.mp h
  obtain ⟨hsource, h⟩ := ok_seq.mp h
  obtain ⟨hmetadata, hpolicy⟩ := ok_seq.mp h
  simp only [reject_eq_ok, Bool.or_eq_false_iff, List.any_cons, List.any_nil,
    decide_eq_false_iff_not, Bool.not_eq_false'] at hbasic hsource hmetadata hpolicy
  obtain ⟨⟨⟨⟨⟨hsuccess, -⟩, -⟩, hlength⟩, hcontrol⟩, -⟩ := hbasic
  rw [Subscription.sourceRejected] at hsource
  constructor
  · rintro n hn
    rw [hn] at hsuccess
    rw [← toNat_maxSafeInteger]
    exact UInt64.le_iff_toNat_le.mp (UInt64.not_lt.mp (by simpa using hsuccess))
  · have hnone : sub.description.toList.any Browser.isControl = false := by
      rw [List.any_eq_false] at hcontrol ⊢
      exact fun c hc hbad => hcontrol c hc (isControl_of_control hbad)
    have hle : sub.description.toList.length ≤ 280 := Nat.not_lt.mp hlength
    rw [isSafeText, hnone]
    simp only [Bool.true_or, Bool.true_and, Bool.not_false, Bool.and_true, decide_eq_true_eq]
    exact hle
  · rintro n hn
    rw [SubscriptionUpdatePolicy.isValid, hn] at hpolicy
    exact UInt32.le_iff_toNat_le.mp (by simpa using hpolicy)
  · intro metadata hmeta traffic htraffic
    rw [hmeta] at hmetadata
    have hvalid : metadata.isValid = true := by simpa using hmetadata
    rw [SubscriptionHttpMetadata.isValid, Bool.and_eq_true, htraffic] at hvalid
    have htrafficValid : traffic.isValid = true := by simpa using hvalid.2
    rw [SubscriptionTraffic.isValid] at htrafficValid
    simp only [List.all_cons, List.all_nil, Bool.and_true, Bool.and_eq_true] at htrafficValid
    obtain ⟨hupload, hdownload, htotal, hexpire⟩ := htrafficValid
    exact ⟨safe_of_all hupload, safe_of_all hdownload, safe_of_all htotal, safe_of_all hexpire⟩
  · intro url hurl
    rw [hurl] at hsource
    simp only [Bool.or_eq_false_iff, Bool.not_eq_false', Option.any_eq_true] at hsource
    obtain ⟨-, request, hrequest, hvalid⟩ := hsource
    rw [RemoteRequestOptions.isValid, Bool.and_eq_true, Bool.and_eq_true, decide_eq_true_eq,
      decide_eq_true_eq] at hvalid
    exact ⟨request, hrequest, UInt16.le_iff_toNat_le.mp hvalid.1.1,
      UInt16.le_iff_toNat_le.mp hvalid.1.2⟩
  · intro hmanual
    rw [hmanual] at hsource
    simp only [Bool.or_eq_false_iff, Option.isSome_eq_false_iff, Option.isNone_iff_eq_none]
      at hsource
    exact ⟨hsource.1.1.1.2, hsource.1.1.2, hsource.1.2⟩

variable {s t : AppState} {sub : Subscription}

/-- The id of a stored subscription is not empty. -/
theorem subscription_id_ne (hs : s.Valid) (hsub : sub ∈ s.subscriptions) : sub.id.val ≠ "" :=
  Text.ne_empty_of_not_blank
    ((uniqueIds_eq_ok.mp hs.subscriptionIds).1 sub.id.val (List.mem_map_of_mem hsub))

/-- Of a valid state, a summary is readable when the page can show the subscription and its
count is safe. -/
theorem summaryReadable_iff (hs : s.Valid) (hsub : sub ∈ s.subscriptions) :
    SummaryReadable (summaryFor s sub) ↔
      sub.Displayable ∧ s.nodeCount sub.id ≤ Veyra.maxSafeInteger := by
  have hchecked := Subscription.checked_of_validate (hs.subscriptions sub hsub)
  rw [UInt64.le_iff_toNat_le]
  constructor
  · intro h
    have hname := h.name
    rw [summaryFor, isSafeText_displayName] at hname
    exact ⟨⟨hname, h.policy⟩, h.nodeCount⟩
  · rintro ⟨hdisplayable, hcount⟩
    constructor
    · exact subscription_id_ne hs hsub
    · rw [summaryFor, isSafeText_displayName]
      exact hdisplayable.name
    · exact hchecked.description
    · exact hcount
    · exact hchecked.lastSuccessAtMs
    · exact hchecked.interval
    · intro n hn
      simp only [summaryFor] at hn
      split at hn
      · cases hn
        rw [← toNat_maxSafeInteger]
        exact UInt64.le_iff_toNat_le.mp hs.generation
      · cases hn
    · by_cases hactive : s.activeSubscriptionId = some sub.id <;> simp [summaryFor, hactive]
    · exact hdisplayable.policy
    · intro hkind
      have hmanual : sub.source = .manual := by
        cases hsource : sub.source with
        | manual => rfl
        | remote url => simp [summaryFor, hsource, SubscriptionSource.kind] at hkind
      obtain ⟨-, hallow, hinterval⟩ := hchecked.manual hmanual
      exact ⟨hallow, hinterval, by simp [summaryFor, hmanual, SubscriptionSource.isRemote]⟩
    · intro traffic htraffic
      simp only [summaryFor, Option.bind_eq_some_iff] at htraffic
      obtain ⟨metadata, hmetadata, htraffic⟩ := htraffic
      exact hchecked.traffic metadata hmetadata traffic htraffic

/-! ## URL previews -/

/-- The two URL parsers agree on what a preview is: the browser parses the origin and the path
of an `https` or `http` URL with a host, and finds no credentials, query or fragment there. -/
def PreviewsParse (parse : String → Option SourceUrl) (url : String → Option BrowserUrl) : Prop :=
  ∀ value u, parse value = some u → u.host.isSome = true → u.scheme = "https" ∨ u.scheme = "http" →
    ∃ v, url (u.origin ++ u.path) = some v ∧ v.username = "" ∧ v.password = "" ∧
      v.search = "" ∧ v.hash = ""

/-- An accepted URL is an `https` or an `http` one. -/
theorem scheme_of_validateUrl {u : SourceUrl} (h : validateUrl u = true) :
    u.scheme = "https" ∨ u.scheme = "http" := by
  rw [validateUrl] at h
  split at h
  · cases h
  · split at h
    · exact .inl (by assumption)
    · simp only [Bool.and_eq_true, decide_eq_true_eq] at h
      exact .inr h.1.1.1

/-- The preview of an accepted source URL is a safe one. -/
theorem preview_safe {parse : String → Option SourceUrl} {url : String → Option BrowserUrl}
    (hpreviews : PreviewsParse parse url) {source preview : String}
    (haccepted : validateSourceUrl parse source = true)
    (h : safeUrlPreview parse source = some preview) : isSafeUrlPreview url preview = true := by
  obtain ⟨u, hu, h⟩ := Option.bind_eq_some_iff.mp h
  obtain ⟨host, hhost, h⟩ := Option.bind_eq_some_iff.mp h
  cases h
  rw [validateSourceUrl] at haccepted
  split at haccepted
  · cases haccepted
  · rw [hu, Option.any_some] at haccepted
    obtain ⟨v, hv, husername, hpassword, hsearch, hhash⟩ :=
      hpreviews source u hu (by rw [hhost]; rfl) (scheme_of_validateUrl haccepted)
    simp [isSafeUrlPreview, hv, husername, hpassword, hsearch, hhash]

/-- Of a valid state whose URLs were accepted, settings are readable when the page can show
the subscription. -/
theorem settingsReadable_iff {parse : String → Option SourceUrl}
    {url : String → Option BrowserUrl} (hpreviews : PreviewsParse parse url) (hs : s.Valid)
    (hsub : sub ∈ s.subscriptions)
    (haccepted : ∀ source, sub.source = .remote source → validateSourceUrl parse source = true) :
    SettingsReadable url (settingsFor parse sub) ↔ sub.Displayable := by
  have hchecked := Subscription.checked_of_validate (hs.subscriptions sub hsub)
  constructor
  · intro h
    have hname := h.name
    rw [settingsFor, isSafeText_displayName] at hname
    exact ⟨hname, h.policy⟩
  · intro hdisplayable
    constructor
    · exact subscription_id_ne hs hsub
    · rw [settingsFor, isSafeText_displayName]
      exact hdisplayable.name
    · exact hchecked.description
    · intro preview hpreview
      simp only [settingsFor] at hpreview
      split at hpreview
      · next source hsource => exact preview_safe hpreviews (haccepted source hsource) hpreview
      · cases hpreview
    · exact hchecked.interval
    · intro request hrequest
      cases hsource : sub.source with
      | manual => simp [settingsFor, (hchecked.manual hsource).1] at hrequest
      | remote source =>
        obtain ⟨stored, hstored, hbounds⟩ := hchecked.remote source hsource
        simp only [settingsFor, hstored, Option.map_some, Option.some.injEq] at hrequest
        rw [← hrequest]
        exact hbounds
    · cases hsource : sub.source with
      | manual => simp [settingsFor, hsource, SubscriptionSource.kind, (hchecked.manual hsource).1]
      | remote source =>
        obtain ⟨stored, hstored, -⟩ := hchecked.remote source hsource
        simp [settingsFor, hsource, SubscriptionSource.kind, hstored]
    · exact hdisplayable.policy
    · intro hkind
      have hmanual : sub.source = .manual := by
        cases hsource : sub.source with
        | manual => rfl
        | remote source => simp [settingsFor, hsource, SubscriptionSource.kind] at hkind
      obtain ⟨hrequest, hallow, hinterval⟩ := hchecked.manual hmanual
      simp [settingsFor, hmanual, hrequest, hallow, hinterval, SubscriptionSource.isRemote]

end Veyra
