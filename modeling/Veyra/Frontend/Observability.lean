import Veyra.Application.ApplyState
import Veyra.Application.ObservationResponses
import Veyra.Frontend.SubscriptionAgreement

/-!
# Veyra.Frontend.Observability

The decoder of runtime observations, which throws away a whole observation for
one field that does not fit, against what the backend sends.

`parseRuntimeObservation_response` says when one observation is accepted;
`observation_accepted` that everything is accepted that is sent in a run.
-/

namespace Veyra.Frontend

open Browser SubscriptionSwitchStatus

/-! ## The decoder -/

inductive CaptureMode
  | off
  | systemProxy
  | recoveryRequired
deriving DecidableEq, Repr

inductive Lifecycle
  | notAttached
  | stopped
  | ready
  | recoveryRequired
deriving DecidableEq, Repr

inductive LogCategory
  | runtime
  | proxy
  | subscription
deriving DecidableEq, Repr

inductive LogLevel
  | info
  | warn
  | error
deriving DecidableEq, Repr

structure LogSummary where
  category : LogCategory
  level : LogLevel
  occurrences : Nat
deriving DecidableEq, Repr

structure TrafficSample where
  sampledAtMs : Nat
  uploadRateBps : JsonNumber
  downloadRateBps : JsonNumber
deriving DecidableEq, Repr

structure RuntimeObservation where
  source : ObservationSource
  revision : Nat
  observedAtMs : Nat
  trafficHistory : List TrafficSample
  captureMode : CaptureMode
  sidecarLifecycle : Lifecycle
  uploadRateBps : JsonNumber
  downloadRateBps : JsonNumber
  uploadTotalBytes : Nat
  downloadTotalBytes : Nat
  connectionCount : Nat
  logSummary : List LogSummary
  appliedSubscriptionId : Option String
  appliedConfigurationGeneration : Option Nat
  subscriptionSwitch : Option SubscriptionSwitch
  managedProxyAvailable : Bool
  coreMemoryBytes : Option Nat
deriving DecidableEq, Repr

/-- `isObservationSource`. -/
def observationSources : List (String × ObservationSource) :=
  [("mock", .mockOnly), ("runtime", .managedSidecar)]

/-- `isCaptureMode`. -/
def captureModes : List (String × CaptureMode) :=
  [("off", .off), ("systemProxy", .systemProxy), ("recoveryRequired", .recoveryRequired)]

/-- `isSidecarLifecycle`. -/
def sidecarLifecycles : List (String × Lifecycle) :=
  [("notAttached", .notAttached), ("stopped", .stopped), ("ready", .ready),
   ("recoveryRequired", .recoveryRequired)]

/-- `isLogCategory`. -/
def logCategories : List (String × LogCategory) :=
  [("runtime", .runtime), ("proxy", .proxy), ("subscription", .subscription)]

/-- `isLogLevel`. -/
def logLevels : List (String × LogLevel) :=
  [("info", .info), ("warn", .warn), ("error", .error)]

/-- `isSwitchStatus`. -/
def switchStatuses : List (String × SubscriptionSwitchStatus) :=
  [("queued", .queued), ("checking", .checking), ("prepared", .prepared),
   ("persisted", .persisted), ("applying", .applying), ("ready", .ready),
   ("cancelled", .cancelled), ("failed", .failed)]

/-- `isSwitchError`. -/
def switchErrors : List (String × SubscriptionSwitchErrorCode) :=
  [("cancelled", .cancelled), ("busy", .busy), ("stateUnavailable", .stateUnavailable),
   ("configurationFailed", .configurationFailed), ("saveFailed", .saveFailed),
   ("stopFailed", .stopFailed), ("startFailed", .startFailed),
   ("recoveryRequired", .recoveryRequired), ("operationTimedOut", .operationTimedOut)]

def observationKeys : List String :=
  ["source", "revision", "observedAtMs", "trafficHistory", "captureMode", "sidecarLifecycle",
   "uploadRateBps", "downloadRateBps", "uploadTotalBytes", "downloadTotalBytes",
   "connectionCount", "logSummary", "appliedSubscriptionId", "appliedConfigurationGeneration",
   "subscriptionSwitch", "managedProxyAvailable", "coreMemoryBytes"]

def logSummaryKeys : List String := ["category", "level", "occurrences"]

def trafficSampleKeys : List String := ["sampledAtMs", "uploadRateBps", "downloadRateBps"]

def parseLogSummary : Reader LogSummary := fun value => do
  let ms ← exactly logSummaryKeys value
  let category ← member ms "category" (oneOf logCategories)
  let level ← member ms "level" (oneOf logLevels)
  let occurrences ← member ms "occurrences" safeInteger
  some { category, level, occurrences }

/-- The error that a phase asks for. -/
def switchError : SubscriptionSwitchStatus → Reader (Option SubscriptionSwitchErrorCode)
  | .failed => fun value => do
    let code ← oneOf switchErrors value
    guard (code ≠ .cancelled)
    some (some code)
  | .cancelled => fun value => (oneOf [("cancelled", .cancelled)] value).map some
  | _ => fun value => match value with
    | .null => some none
    | _ => none

/-- `isSubscriptionSwitch`. -/
def parseSubscriptionSwitch : Reader SubscriptionSwitch := fun value => do
  let ms ← exactly ["operationId", "status", "errorCode"] value
  let operationId ← member ms "operationId" nonEmptyText
  let status ← member ms "status" (oneOf switchStatuses)
  let errorCode ← member ms "errorCode" (switchError status)
  some { operationId, status, errorCode }

/-- A sample of an observation at the given time, after one at the time of its predecessor. -/
def parseTrafficSample (observedAtMs : Nat) (previous : Option Nat) : Reader TrafficSample :=
  fun point => do
    let ms ← exactly trafficSampleKeys point
    let sampledAtMs ← member ms "sampledAtMs" safeInteger
    guard (sampledAtMs ≤ observedAtMs)
    guard (observedAtMs - sampledAtMs ≤ 600000)
    let uploadRateBps ← member ms "uploadRateBps" nonNegativeNumber
    let downloadRateBps ← member ms "downloadRateBps" nonNegativeNumber
    guard (∀ before ∈ previous, before < sampledAtMs)
    some { sampledAtMs, uploadRateBps, downloadRateBps }

/-- The samples in their order. -/
def parseTrafficHistory (observedAtMs : Nat) :
    Option Nat → List Json → Option (List TrafficSample)
  | _, [] => some []
  | previous, point :: points => do
    let sample ← parseTrafficSample observedAtMs previous point
    let samples ← parseTrafficHistory observedAtMs (some sample.sampledAtMs) points
    some (sample :: samples)

/-- An array of at most as many items. -/
def shortArray (maximum : Nat) : Reader (List Json)
  | .arr points => if points.length ≤ maximum then some points else none
  | _ => none

def parseRuntimeObservation : Reader RuntimeObservation := fun value => do
  let ms ← exactly observationKeys value
  let source ← member ms "source" (oneOf observationSources)
  let revision ← member ms "revision" safeInteger
  let observedAtMs ← member ms "observedAtMs" safeInteger
  let points ← member ms "trafficHistory" (shortArray 600)
  let captureMode ← member ms "captureMode" (oneOf captureModes)
  let sidecarLifecycle ← member ms "sidecarLifecycle" (oneOf sidecarLifecycles)
  let uploadRateBps ← member ms "uploadRateBps" nonNegativeNumber
  let downloadRateBps ← member ms "downloadRateBps" nonNegativeNumber
  let uploadTotalBytes ← member ms "uploadTotalBytes" safeInteger
  let downloadTotalBytes ← member ms "downloadTotalBytes" safeInteger
  let connectionCount ← member ms "connectionCount" safeInteger
  let appliedSubscriptionId ← member ms "appliedSubscriptionId" (Browser.nullable nonEmptyText)
  let appliedConfigurationGeneration ←
    member ms "appliedConfigurationGeneration" (Browser.nullable safeInteger)
  guard (appliedSubscriptionId.isSome = appliedConfigurationGeneration.isSome)
  let subscriptionSwitch ← member ms "subscriptionSwitch" (Browser.nullable parseSubscriptionSwitch)
  let managedProxyAvailable ← member ms "managedProxyAvailable" boolean
  let coreMemoryBytes ← member ms "coreMemoryBytes" (Browser.nullable safeInteger)
  guard (∀ change ∈ subscriptionSwitch, change.status = .ready →
    sidecarLifecycle = .ready ∧ appliedSubscriptionId.isSome ∧
      appliedConfigurationGeneration.isSome)
  let trafficHistory ← parseTrafficHistory observedAtMs none points
  let logSummary ← member ms "logSummary" (arrayOf parseLogSummary)
  some { source, revision, observedAtMs, trafficHistory, captureMode, sidecarLifecycle
         uploadRateBps, downloadRateBps, uploadTotalBytes, downloadTotalBytes, connectionCount
         logSummary, appliedSubscriptionId, appliedConfigurationGeneration, subscriptionSwitch
         managedProxyAvailable, coreMemoryBytes }

/-! ## The same values -/

/-- `map_capture_mode`, as it is read. -/
def CaptureMode.of : ObservedCaptureMode → CaptureMode
  | .notObserved | .off => .off
  | .systemProxy => .systemProxy
  | .recoveryRequired => .recoveryRequired

def Lifecycle.of : ObservedSidecarLifecycle → Lifecycle
  | .notObserved => .notAttached
  | .stopped => .stopped
  | .ready => .ready
  | .recoveryRequired => .recoveryRequired

def LogCategory.of : ObservationLogCategory → LogCategory
  | .runtime => .runtime
  | .connectivity => .proxy
  | .recovery => .subscription

def LogLevel.of : ObservationLogLevel → LogLevel
  | .info => .info
  | .warning => .warn
  | .error => .error

def LogSummary.of (summary : ObservationLogSummary) : LogSummary :=
  { category := .of summary.category, level := .of summary.level, occurrences := 1 }

def TrafficSample.of (point : TrafficHistoryPoint) : TrafficSample :=
  { sampledAtMs := point.sampledAtMs.toNat
    uploadRateBps := .posInt point.uploadRateBps
    downloadRateBps := .posInt point.downloadRateBps }

def RuntimeObservation.of (s : RuntimeObservationSnapshot) : RuntimeObservation :=
  { source := s.source
    revision := s.revision.toNat
    observedAtMs := s.observedAtMs.toNat
    trafficHistory := s.trafficHistory.map .of
    captureMode := .of s.captureMode
    sidecarLifecycle := .of s.sidecarLifecycle
    uploadRateBps := .posInt s.traffic.uploadBytesPerSecond
    downloadRateBps := .posInt s.traffic.downloadBytesPerSecond
    uploadTotalBytes := s.traffic.uploadTotalBytes.toNat
    downloadTotalBytes := s.traffic.downloadTotalBytes.toNat
    connectionCount := s.connections.active.toNat
    logSummary := s.latestLog.toList.map .of
    appliedSubscriptionId := s.appliedSubscriptionId
    appliedConfigurationGeneration := s.appliedConfigurationGeneration.map (·.toNat)
    subscriptionSwitch := s.subscriptionSwitch
    managedProxyAvailable := s.managedProxyAvailable
    coreMemoryBytes := s.coreMemoryBytes.map (·.toNat) }

/-! ## Single values -/

/-- Both sides have the same names for the sources. -/
theorem source_str (source : ObservationSource) :
    Decodes (oneOf observationSources (.str (mapSource source))) True source := by
  cases source <;> exact oneOf_str rfl

/-- And for the capture modes. -/
theorem captureMode_str (mode : ObservedCaptureMode) :
    Decodes (oneOf captureModes (.str (mapCaptureMode mode))) True (.of mode) := by
  cases mode <;> exact oneOf_str rfl

/-- And for the lifecycles. -/
theorem lifecycle_str (lifecycle : ObservedSidecarLifecycle) :
    Decodes (oneOf sidecarLifecycles (.str (mapSidecarLifecycle lifecycle))) True
      (.of lifecycle) := by
  cases lifecycle <;> exact oneOf_str rfl

/-- And for the phases of a switch. -/
theorem switchStatus_str (status : SubscriptionSwitchStatus) :
    Decodes (oneOf switchStatuses (.str status.name)) True status := by
  cases status <;> exact oneOf_str rfl

/-- And for its errors. -/
theorem switchError_str (code : SubscriptionSwitchErrorCode) :
    Decodes (oneOf switchErrors (.str code.name)) True code := by
  cases code <;> exact oneOf_str rfl

/-- A log entry is read as it was sent. -/
theorem parseLogSummary_response (summary : ObservationLogSummary) :
    Decodes (parseLogSummary summary.response) True (.of summary) := by
  have hcategory : Decodes (oneOf logCategories (.str (mapLogCategory summary.category))) True
      (.of summary.category) := by
    cases summary.category <;> exact oneOf_str rfl
  have hlevel : Decodes (oneOf logLevels (.str (mapLogLevel summary.level))) True
      (.of summary.level) := by
    cases summary.level <;> exact oneOf_str rfl
  have hread : Decodes (parseLogSummary summary.response) _ (.of summary) :=
    Decodes.bind (exactly_obj rfl) fun _ =>
    Decodes.bind (member_of rfl hcategory) fun _ =>
    Decodes.bind (member_of rfl hlevel) fun _ =>
    Decodes.bind (member_of rfl (safeInteger_u32 1)) fun _ =>
    Decodes.pure _
  exact hread.congr (by simp)

/-! ## Switches -/

/-- The error that is written is the one that the phase asks for. -/
theorem switchError_response (status : SubscriptionSwitchStatus)
    (code : Option SubscriptionSwitchErrorCode) :
    Decodes (switchError status (ofOption (fun code => .str (SubscriptionSwitchErrorCode.name code))
      code)) (status.Allows code) code := by
  cases status with
  | queued | checking | prepared | persisted | applying | ready =>
    cases code with
    | none => exact (Decodes.pure none).congr (iff_of_true trivial rfl)
    | some code => exact (Decodes.of_none rfl).congr (iff_of_false id (by simp [Allows]))
  | cancelled =>
    cases code with
    | none => exact (Decodes.of_none rfl).congr (iff_of_false id (by simp [Allows]))
    | some code =>
      cases code with
      | cancelled => exact (Decodes.of_eq rfl).congr (iff_of_true trivial rfl)
      | busy | stateUnavailable | configurationFailed | saveFailed | stopFailed | startFailed
      | recoveryRequired | operationTimedOut =>
        exact (Decodes.of_none rfl).congr (iff_of_false id (by simp [Allows]))
  | failed =>
    cases code with
    | none => exact (Decodes.of_none rfl).congr (iff_of_false id (by simp [Allows]))
    | some code =>
      have hread : Decodes (switchError .failed (.str code.name)) _ (some code) :=
        Decodes.bind (switchError_str code) fun _ =>
        Decodes.bind (Decodes.guarded _) fun _ =>
        Decodes.pure _
      exact hread.congr (by simp [Allows])

/-- A switch is read if its phase and its error fit. -/
theorem parseSubscriptionSwitch_response (change : SubscriptionSwitch) :
    Decodes (parseSubscriptionSwitch change.response) change.Sound change := by
  have hread : Decodes (parseSubscriptionSwitch change.response) _ change :=
    Decodes.bind (exactly_obj rfl) fun _ =>
    Decodes.bind (member_of rfl (nonEmptyText_str _)) fun _ =>
    Decodes.bind (member_of rfl (switchStatus_str _)) fun _ =>
    Decodes.bind (member_of rfl (switchError_response _ _)) fun _ =>
    Decodes.pure _
  refine hread.congr ?_
  constructor
  · intro h
    exact ⟨h.2.1, h.2.2.2.1⟩
  · intro h
    exact ⟨trivial, h.operationId, trivial, h.errorCode, trivial⟩

/-! ## Traffic history -/

/-- What the decoder asks of a sample of an observation at the given time. -/
structure SampleReadable (observedAtMs : Nat) (point : TrafficHistoryPoint) : Prop where
  safe : point.sampledAtMs.toNat ≤ Browser.maxSafeInteger
  past : point.sampledAtMs.toNat ≤ observedAtMs
  recent : observedAtMs - point.sampledAtMs.toNat ≤ 600000

/-- A sample is read if it is neither too old nor ahead of its time. -/
theorem parseTrafficSample_response {observedAtMs : Nat} {point : TrafficHistoryPoint}
    (h : SampleReadable observedAtMs point) (previous : Option Nat) :
    Decodes (parseTrafficSample observedAtMs previous point.response)
      (∀ before ∈ previous, before < point.sampledAtMs.toNat) (.of point) := by
  have hread : Decodes (parseTrafficSample observedAtMs previous point.response) _ (.of point) :=
    Decodes.bind (exactly_obj rfl) fun _ =>
    Decodes.bind (member_of rfl (safeInteger_posInt _)) fun _ =>
    Decodes.bind (Decodes.guarded _) fun _ =>
    Decodes.bind (Decodes.guarded _) fun _ =>
    Decodes.bind (member_of rfl (nonNegativeNumber_posInt _)) fun _ =>
    Decodes.bind (member_of rfl (nonNegativeNumber_posInt _)) fun _ =>
    Decodes.bind (Decodes.guarded _) fun _ =>
    Decodes.pure _
  refine hread.congr ?_
  simp only [h.safe, h.past, h.recent, true_and, and_true]

/-- Samples in the order of their times are read, each after its predecessor. -/
theorem parseTrafficHistory_response {observedAtMs : Nat} {points : List TrafficHistoryPoint}
    (hpoints : ∀ point ∈ points, SampleReadable observedAtMs point)
    (hsorted : points.Pairwise fun a b => a.sampledAtMs < b.sampledAtMs) (previous : Option Nat)
    (hprevious : ∀ before ∈ previous, ∀ point ∈ points, before < point.sampledAtMs.toNat) :
    parseTrafficHistory observedAtMs previous (points.map TrafficHistoryPoint.response) =
      some (points.map .of) := by
  induction points generalizing previous with
  | nil => rfl
  | cons point points ih =>
    obtain ⟨hbelow, hrest⟩ := List.pairwise_cons.mp hsorted
    have hsample := (parseTrafficSample_response (hpoints point List.mem_cons_self)
      previous).eq_some fun before hbefore => hprevious before hbefore point List.mem_cons_self
    have hsamples := ih (fun p hp => hpoints p (List.mem_cons_of_mem _ hp)) hrest
      (some point.sampledAtMs.toNat) fun before hbefore p hp => by
        cases hbefore
        exact UInt64.lt_iff_toNat_lt.mp (hbelow p hp)
    rw [List.map_cons, parseTrafficHistory, hsample]
    have hof : (TrafficSample.of point).sampledAtMs = point.sampledAtMs.toNat := rfl
    simp only [Option.bind_eq_bind, Option.bind_some, hof, hsamples, List.map_cons]

theorem shortArray_arr {maximum : Nat} {values : List Json} (h : values.length ≤ maximum) :
    Decodes (shortArray maximum (.arr values)) True values := .of_eq (if_pos h)

/-! ## Observations -/

/-- A number that a script holds exactly, on either side. -/
theorem safe_toNat {n : UInt64} (h : n ≤ Veyra.maxSafeInteger) :
    n.toNat ≤ Browser.maxSafeInteger := by
  rw [← toNat_maxSafeInteger]
  exact UInt64.le_iff_toNat_le.mp h

/-- The samples of a consistent observation are readable. -/
theorem sampleReadable {s : RuntimeObservationSnapshot} (h : s.Consistent)
    (hobserved : s.observedAtMs.toNat ≤ Browser.maxSafeInteger) {point : TrafficHistoryPoint}
    (hpoint : point ∈ s.trafficHistory) : SampleReadable s.observedAtMs.toNat point := by
  have hpast := UInt64.le_iff_toNat_le.mp (h.chronological.past point hpoint)
  exact ⟨hpast.trans hobserved, hpast, h.pruned.recent point hpoint⟩

/-- The applied subscription is read as it was sent. -/
theorem appliedSubscriptionId_response {s : RuntimeObservationSnapshot} (h : s.AppliedSound) :
    Decodes (Browser.nullable nonEmptyText (ofOption .str s.appliedSubscriptionId)) True
      s.appliedSubscriptionId := by
  have hread := nullable_ofOption (fun _ => by simp) nonEmptyText_str s.appliedSubscriptionId
  refine (hread.congr (iff_true_intro ?_)).congr_value Option.map_id'
  intro id hid
  obtain ⟨hnone, -⟩ | ⟨id', generation, hid', -, hne, -⟩ := h
  · rw [hnone] at hid
    cases hid
  · rw [hid'] at hid
    cases hid
    exact hne

/-- The applied generation is read as it was sent. -/
theorem appliedGeneration_response {s : RuntimeObservationSnapshot} (h : s.AppliedSound) :
    Decodes (Browser.nullable safeInteger (ofOption numberU64 s.appliedConfigurationGeneration)) True
      (s.appliedConfigurationGeneration.map (·.toNat)) := by
  refine (nullable_u64 _).congr (iff_true_intro ?_)
  intro generation hgeneration
  obtain ⟨-, hnone⟩ | ⟨id, generation', -, hgeneration', -, hle⟩ := h
  · rw [hnone] at hgeneration
    cases hgeneration
  · rw [hgeneration'] at hgeneration
    cases hgeneration
    exact safe_toNat hle

/-- The applied tuple is whole or missing. -/
theorem applied_whole {s : RuntimeObservationSnapshot} (h : s.AppliedSound) :
    s.appliedSubscriptionId.isSome = s.appliedConfigurationGeneration.isSome := by
  obtain ⟨hid, hgeneration⟩ | ⟨id, generation, hid, hgeneration, -, -⟩ := h
  · rw [hid, hgeneration]
    rfl
  · rw [hid, hgeneration]
    rfl

/-- The switch of a sound observation is read as it was sent. -/
theorem switch_response {s : RuntimeObservationSnapshot} (h : s.FieldsSound Veyra.maxSafeInteger) :
    Decodes (Browser.nullable parseSubscriptionSwitch
      (ofOption SubscriptionSwitch.response s.subscriptionSwitch)) True s.subscriptionSwitch := by
  have hread := nullable_ofOption (fun change => by simp [SubscriptionSwitch.response])
    parseSubscriptionSwitch_response s.subscriptionSwitch
  exact (hread.congr (iff_true_intro h.switched)).congr_value Option.map_id'

/-- The memory size is read as it was sent. -/
theorem memory_response {s : RuntimeObservationSnapshot} (h : s.FieldsSound Veyra.maxSafeInteger) :
    Decodes (Browser.nullable safeInteger (ofOption numberU64 s.coreMemoryBytes)) True
      (s.coreMemoryBytes.map (·.toNat)) :=
  (nullable_u64 _).congr (iff_true_intro fun bytes hbytes => safe_toNat (h.memory bytes hbytes))

/-- A total within its bound is read as it was sent. -/
theorem total_response {n : UInt64} (h : n ≤ Veyra.maxSafeInteger) :
    Decodes (safeInteger (numberU64 n)) True n.toNat :=
  (safeInteger_posInt n).congr (iff_true_intro (safe_toNat h))

/-- A consistent observation is accepted exactly when its revision and its time are numbers that
a script holds. -/
theorem parseRuntimeObservation_response {s : RuntimeObservationSnapshot} (h : s.Consistent) :
    Decodes (parseRuntimeObservation s.response)
      (s.revision.toNat ≤ Browser.maxSafeInteger ∧
        s.observedAtMs.toNat ≤ Browser.maxSafeInteger) (.of s) := by
  have hfields := h.fields
  have hlength : (s.trafficHistory.map TrafficHistoryPoint.response).length ≤ 600 := by
    rw [List.length_map]
    exact h.pruned.length
  have hlogs := arrayOf_map s.latestLog.toList fun summary _ => parseLogSummary_response summary
  have hwhole : s.appliedSubscriptionId.isSome =
      (s.appliedConfigurationGeneration.map (·.toNat)).isSome := by
    rw [applied_whole hfields.applied, Option.isSome_map]
  have hready : ∀ change ∈ s.subscriptionSwitch, change.status = .ready →
      Lifecycle.of s.sidecarLifecycle = .ready ∧ s.appliedSubscriptionId.isSome = true ∧
        (s.appliedConfigurationGeneration.map (·.toNat)).isSome = true := by
    intro change hchange hstatus
    obtain ⟨hlifecycle, happlied⟩ := hfields.ready change hchange hstatus
    exact ⟨hlifecycle ▸ rfl, happlied, hwhole ▸ happlied⟩
  have hread : Decodes (parseRuntimeObservation s.response) _ (.of s) :=
    Decodes.bind (exactly_obj (by simp only [List.map_cons, List.map_nil]; decide)) fun _ =>
    Decodes.bind (member_of rfl (source_str _)) fun _ =>
    Decodes.bind (member_of rfl (safeInteger_posInt _)) fun _ =>
    Decodes.bind (member_of rfl (safeInteger_posInt _)) fun hobserved =>
    Decodes.bind (member_of rfl (shortArray_arr hlength)) fun _ =>
    Decodes.bind (member_of rfl (captureMode_str _)) fun _ =>
    Decodes.bind (member_of rfl (lifecycle_str _)) fun _ =>
    Decodes.bind (member_of rfl (nonNegativeNumber_posInt _)) fun _ =>
    Decodes.bind (member_of rfl (nonNegativeNumber_posInt _)) fun _ =>
    Decodes.bind (member_of rfl (total_response hfields.traffic.upload)) fun _ =>
    Decodes.bind (member_of rfl (total_response hfields.traffic.download)) fun _ =>
    Decodes.bind (member_of rfl (safeInteger_u32 _)) fun _ =>
    Decodes.bind (member_of rfl (appliedSubscriptionId_response hfields.applied)) fun _ =>
    Decodes.bind (member_of rfl (appliedGeneration_response hfields.applied)) fun _ =>
    Decodes.bind (Decodes.passes hwhole) fun _ =>
    Decodes.bind (member_of rfl (switch_response hfields)) fun _ =>
    Decodes.bind (member_of rfl (boolean_bool _)) fun _ =>
    Decodes.bind (member_of rfl (memory_response hfields)) fun _ =>
    Decodes.bind (Decodes.passes hready) fun _ =>
    Decodes.bind (Decodes.of_eq (parseTrafficHistory_response
      (fun _ hpoint => sampleReadable h hobserved hpoint) h.chronological.sorted none
      (fun _ hnone => by cases hnone))) fun _ =>
    Decodes.bind (member_of rfl hlogs) fun _ =>
    Decodes.pure _
  exact hread.congr (by simp)

/-! ## Runs -/

open Transition

/-- **Everything that is sent is accepted.**  Whatever records the controller, its worker and the
sampler write, in whatever order, under a clock that does not go back: as long as the clock and
the number of records are numbers that a script holds, the page reads every delta and every
snapshot as it was sent, and what is sent is consistent. -/
theorem observation_accepted {P Bytes Value : Type} [DecidableEq Value]
    (env : RuntimeEnv P Bytes Value) {calls : List ObservationCall} {log : ObservationLog}
    (run : Runs ObservationLog.step (ObservationLog.Follows (ManagedRuntime.Performed env)) .start
      calls log)
    (hclock : ∀ call ∈ calls, call.now ≤ Veyra.maxSafeInteger)
    (hcount : ObservationLog.records calls ≤ Browser.maxSafeInteger) :
    ∀ payload ∈ log.sent,
      parseRuntimeObservation payload.response = some (.of payload.observation) ∧
        payload.observation.Consistent := by
  intro payload hpayload
  have hconsistent := (ObservationLog.consistent_of_run
    (fun _ hperformed => hperformed.sound) run).2 payload hpayload
  obtain ⟨hrevision, call, hcall, hobserved⟩ :=
    (ObservationLog.bounded_of_run run).2 payload hpayload
  refine ⟨?_, hconsistent⟩
  rw [Payload.response_eq]
  refine (parseRuntimeObservation_response hconsistent).eq_some ⟨hrevision.trans hcount, ?_⟩
  rw [hobserved]
  exact safe_toNat (hclock call hcall)

/-- The operation id of the switch. -/
def switchId : String := operationIdOf (List.replicate 16 7)

/-- What the running core reports. -/
def sampledCore : ClashRuntimeObservation :=
  { connections := ⟨2048, 4096, 3⟩, traffic := some ⟨512, 1024, 2048, 4096⟩, latestLog := none }

/-- The runtime is started, its subscription is applied again, and the core is sampled. -/
def sampledRun : List (RuntimeEvent UInt64) :=
  [.start (.ok laterState) false (some 0) (some apiSecret),
   .activate ⟨⟨"sub", true, some 2, switchId⟩,
      ⟨false, true, .ok laterState, some apiSecret, true⟩, .mock⟩ none
      ⟨false, true, true, true, false, true⟩ laterState,
   .sample ⟨some sampledCore, some 65536⟩]

theorem sampledRun_genuine :
    ∀ e ∈ sampledRun, ∀ w : ManagedRuntime UInt64 Document, w.Genuine e := by
  have hsound : sampledCore.Within Veyra.maxSafeInteger := fun traffic h => by
    cases h
    exact ⟨by decide, by decide⟩
  rw [sampledRun, List.forall_mem_cons, List.forall_mem_cons, List.forall_mem_singleton]
  refine ⟨fun _ => ⟨trivial, trivial⟩, fun _ => ⟨⟨_, rfl, rfl⟩, trivial⟩,
    fun _ => ⟨trivial, fun observation h => ?_⟩⟩
  cases h
  exact hsound

/-- The records one second after the other, then a read. -/
def sampledCalls (records : List Record) : List ObservationCall :=
  records.mapIdx (fun i record => .record (.ofNat (1000 * (i + 1))) record) ++ [.read 20000]

/-- The clock does not go back, and what is recorded is in the list. -/
def followsCheck (records : List Record) (log : ObservationLog) (call : ObservationCall) : Bool :=
  log.observations.observedAtMs ≤ call.now &&
    match call with
    | .record _ record => records.contains record
    | .read _ => true

/-- A switch that is ready, one sample in the history, and the memory of the core. -/
def showsSample (last : Payload) : Bool :=
  last.observation.subscriptionSwitch = some ⟨switchId, .ready, none⟩ &&
    last.observation.trafficHistory.length = 1 && last.observation.coreMemoryBytes = some 65536

/-- What is recorded from a start to a sample is accepted, with the switch that is ready then. -/
theorem observation_accepted_sampled :
    ∃ calls log, Runs ObservationLog.step
        (ObservationLog.Follows (ManagedRuntime.Performed plainEnv)) .start calls log ∧
      log.sent.getLast?.any showsSample = true ∧
      ∀ payload ∈ log.sent,
        parseRuntimeObservation payload.response = some (.of payload.observation) ∧
          payload.observation.Consistent := by
  have hfacts : (evaluate (ManagedRuntime.step plainEnv) (fun _ _ => true) .new sampledRun).any
      (fun w => (evaluate ObservationLog.step (followsCheck w.recorded) .start
          (sampledCalls w.recorded)).any (·.sent.getLast?.any showsSample) &&
        (sampledCalls w.recorded).all (·.now ≤ Veyra.maxSafeInteger) &&
        ObservationLog.records (sampledCalls w.recorded) ≤ Browser.maxSafeInteger) = true := by
    decide +kernel
  obtain ⟨w, hw, hfacts⟩ := (Option.any_eq_true _ _).mp hfacts
  obtain ⟨hfacts, hcount⟩ := Bool.and_eq_true_iff.mp hfacts
  obtain ⟨hlog, hclock⟩ := Bool.and_eq_true_iff.mp hfacts
  obtain ⟨log, hlog, hshows⟩ := (Option.any_eq_true _ _).mp hlog
  have run : Runs (ManagedRuntime.step plainEnv) ManagedRuntime.Genuine .new sampledRun w :=
    (Runs.of_free hw).of_forall_mem sampledRun_genuine
  have hfollows : ∀ s e, followsCheck w.recorded s e = true →
      ObservationLog.Follows (ManagedRuntime.Performed plainEnv) s e := by
    intro s e hcheck
    obtain ⟨hnow, hrecorded⟩ := Bool.and_eq_true_iff.mp hcheck
    refine ⟨of_decide_eq_true hnow, fun now record he => ?_⟩
    subst he
    exact ⟨_, w, run, List.contains_iff_mem.mp hrecorded⟩
  have hlogged := Runs.of_evaluate hfollows hlog
  refine ⟨_, log, hlogged, hshows,
    observation_accepted plainEnv hlogged ?_ (of_decide_eq_true hcount)⟩
  exact fun call hcall => of_decide_eq_true (List.all_eq_true.mp hclock call hcall)

/-- A clock beyond the numbers that a script holds: the snapshot that is read then is rejected. -/
theorem late_observation_rejected :
    ∃ log : ObservationLog,
      Runs ObservationLog.step (ObservationLog.Follows (ManagedRuntime.Performed plainEnv)) .start
        [.read 9007199254740992] log ∧
      ∃ payload ∈ log.sent, parseRuntimeObservation payload.response = none := by
  have run : Runs ObservationLog.step (ObservationLog.Follows (ManagedRuntime.Performed plainEnv))
      .start [.read 9007199254740992] _ :=
    Runs.refl.tail ⟨by decide, fun _ _ h => by cases h⟩ rfl
  refine ⟨_, run, .snapshot _, List.mem_singleton_self _, ?_⟩
  have hconsistent : (RuntimeObservationSnapshot.mock.read 9007199254740992).Consistent :=
    .read .mock (by decide)
  exact (parseRuntimeObservation_response hconsistent).eq_none fun h => absurd h.2 (by decide)

end Veyra.Frontend
