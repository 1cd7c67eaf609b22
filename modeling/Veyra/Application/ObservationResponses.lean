import Veyra.Application.ObservationRecords
import Veyra.Application.SubscriptionResponses

/-!
# Veyra.Application.ObservationResponses

What the interface is sent of the runtime observation: a delta with every
record, a snapshot with every read, both in the same JSON.

The fields of an observation are written by different records and cleared by
others; what holds between them is `Consistent`, an invariant of every sequence
of sound records under a clock that does not go back (`consistent_of_run`).
-/

namespace Veyra

open Transition
open Browser (ofOption)

/-! ## The JSON of an observation -/

/-- `map_source`. -/
def mapSource : ObservationSource → String
  | .mockOnly => "mock"
  | .managedSidecar => "runtime"

/-- `map_capture_mode`. -/
def mapCaptureMode : ObservedCaptureMode → String
  | .notObserved => "off"
  | .off => "off"
  | .systemProxy => "systemProxy"
  | .recoveryRequired => "recoveryRequired"

/-- `map_sidecar_lifecycle`. -/
def mapSidecarLifecycle : ObservedSidecarLifecycle → String
  | .notObserved => "notAttached"
  | .stopped => "stopped"
  | .ready => "ready"
  | .recoveryRequired => "recoveryRequired"

/-- `map_log_category`. -/
def mapLogCategory : ObservationLogCategory → String
  | .runtime => "runtime"
  | .connectivity => "proxy"
  | .recovery => "subscription"

/-- `map_log_level`. -/
def mapLogLevel : ObservationLogLevel → String
  | .info => "info"
  | .warning => "warn"
  | .error => "error"

def SubscriptionSwitchStatus.name : SubscriptionSwitchStatus → String
  | .queued => "queued"
  | .checking => "checking"
  | .prepared => "prepared"
  | .persisted => "persisted"
  | .applying => "applying"
  | .ready => "ready"
  | .cancelled => "cancelled"
  | .failed => "failed"

def SubscriptionSwitchErrorCode.name : SubscriptionSwitchErrorCode → String
  | .cancelled => "cancelled"
  | .busy => "busy"
  | .stateUnavailable => "stateUnavailable"
  | .configurationFailed => "configurationFailed"
  | .saveFailed => "saveFailed"
  | .stopFailed => "stopFailed"
  | .startFailed => "startFailed"
  | .recoveryRequired => "recoveryRequired"
  | .operationTimedOut => "operationTimedOut"

def SubscriptionSwitch.response (change : SubscriptionSwitch) : Json :=
  .obj
    [("operationId", .str change.operationId),
     ("status", .str change.status.name),
     ("errorCode", ofOption (fun code => .str (SubscriptionSwitchErrorCode.name code))
       change.errorCode)]

/-- `TrafficHistoryPointResponse`. -/
def TrafficHistoryPoint.response (point : TrafficHistoryPoint) : Json :=
  .obj
    [("sampledAtMs", numberU64 point.sampledAtMs),
     ("uploadRateBps", numberU64 point.uploadRateBps),
     ("downloadRateBps", numberU64 point.downloadRateBps)]

/-- `ObservationLogSummaryResponse`; the message is not sent. -/
def ObservationLogSummary.response (summary : ObservationLogSummary) : Json :=
  .obj
    [("category", .str (mapLogCategory summary.category)),
     ("level", .str (mapLogLevel summary.level)),
     ("occurrences", numberU32 1)]

/-- `RuntimeObservationResponse`, from a snapshot. -/
def RuntimeObservationSnapshot.response (s : RuntimeObservationSnapshot) : Json :=
  .obj
    [("source", .str (mapSource s.source)),
     ("revision", numberU64 s.revision),
     ("observedAtMs", numberU64 s.observedAtMs),
     ("trafficHistory", .arr (s.trafficHistory.map TrafficHistoryPoint.response)),
     ("captureMode", .str (mapCaptureMode s.captureMode)),
     ("sidecarLifecycle", .str (mapSidecarLifecycle s.sidecarLifecycle)),
     ("appliedSubscriptionId", ofOption .str s.appliedSubscriptionId),
     ("appliedConfigurationGeneration", ofOption numberU64 s.appliedConfigurationGeneration),
     ("subscriptionSwitch", ofOption SubscriptionSwitch.response s.subscriptionSwitch),
     ("managedProxyAvailable", .bool s.managedProxyAvailable),
     ("coreMemoryBytes", ofOption numberU64 s.coreMemoryBytes),
     ("uploadRateBps", numberU64 s.traffic.uploadBytesPerSecond),
     ("downloadRateBps", numberU64 s.traffic.downloadBytesPerSecond),
     ("uploadTotalBytes", numberU64 s.traffic.uploadTotalBytes),
     ("downloadTotalBytes", numberU64 s.traffic.downloadTotalBytes),
     ("connectionCount", numberU32 s.connections.active),
     ("logSummary", .arr (s.latestLog.toList.map ObservationLogSummary.response))]

/-- `RuntimeObservationResponse`, from a delta. -/
def RuntimeObservationDelta.response (d : RuntimeObservationDelta) : Json :=
  d.toRuntimeObservationSnapshot.response

/-! ## Emitted observations -/

/-- What the interface is sent. -/
inductive Payload
  | delta (delta : RuntimeObservationDelta)
  | snapshot (snapshot : RuntimeObservationSnapshot)
deriving DecidableEq, Repr

def Payload.response : Payload → Json
  | .delta d => d.response
  | .snapshot s => s.response

/-- The observation that a payload carries. -/
def Payload.observation : Payload → RuntimeObservationSnapshot
  | .delta d => d.toRuntimeObservationSnapshot
  | .snapshot s => s

theorem Payload.response_eq (payload : Payload) :
    payload.response = payload.observation.response := by
  cases payload <;> rfl

/-- A call on the observation, with the clock that it reads under the lock. -/
inductive ObservationCall
  | record (now : UInt64) (record : Record)
  | read (now : UInt64)
deriving DecidableEq, Repr

def ObservationCall.now : ObservationCall → UInt64
  | .record now _ | .read now => now

/-- The observation and all that was sent of it. -/
structure ObservationLog where
  observations : RuntimeObservationSnapshot
  sent : List Payload
deriving DecidableEq, Repr

namespace ObservationLog

def start : ObservationLog := ⟨.mock, []⟩

/-- `update` publishes a delta, `snapshot` returns what it brought up to date. -/
def step (log : ObservationLog) : ObservationCall → Option ObservationLog
  | .record now record =>
    let observations := log.observations.update now fun s => record.change s
    some ⟨observations, log.sent ++ [.delta ⟨observations⟩]⟩
  | .read now =>
    let observations := log.observations.read now
    some ⟨observations, log.sent ++ [.snapshot observations]⟩

/-- The clock does not go back, and a record is one of the given ones. -/
def Follows (performed : Record → Prop) (log : ObservationLog) (e : ObservationCall) : Prop :=
  log.observations.observedAtMs ≤ e.now ∧
    ∀ now record, e = .record now record → performed record

end ObservationLog

/-! ## The invariant -/

namespace RuntimeObservationSnapshot

/-- The samples are in the order of their times, and none is newer than the observation. -/
structure Chronological (s : RuntimeObservationSnapshot) : Prop where
  sorted : s.trafficHistory.Pairwise fun a b => a.sampledAtMs < b.sampledAtMs
  past : ∀ point ∈ s.trafficHistory, point.sampledAtMs ≤ s.observedAtMs

/-- The samples are of the last window, and fit. -/
structure Pruned (s : RuntimeObservationSnapshot) : Prop where
  recent : ∀ point ∈ s.trafficHistory,
    s.observedAtMs.toNat - point.sampledAtMs.toNat ≤ trafficHistoryWindowMs.toNat
  length : s.trafficHistory.length ≤ trafficHistoryCapacity

/-- What every observation satisfies that is sent. -/
structure Consistent (s : RuntimeObservationSnapshot) : Prop where
  chronological : s.Chronological
  pruned : s.Pruned
  fields : s.FieldsSound maxSafeInteger

variable {s t : RuntimeObservationSnapshot} {now : UInt64} {record : Record}

/-! ### The history -/

/-- A point of the present keeps the order. -/
theorem Chronological.push (h : s.Chronological) {point : TrafficHistoryPoint}
    (hpoint : point.sampledAtMs = s.observedAtMs) :
    (pushTrafficPoint s.trafficHistory point).Pairwise
        (fun a b => a.sampledAtMs < b.sampledAtMs) ∧
      ∀ p ∈ pushTrafficPoint s.trafficHistory point, p.sampledAtMs ≤ s.observedAtMs := by
  obtain ⟨sorted, past⟩ := h
  revert sorted past
  cases s.trafficHistory using List.reverseRecOn with
  | nil =>
    intro _ _
    simp [pushTrafficPoint, hpoint]
  | append_singleton rest last =>
    intro sorted past
    obtain ⟨hrest, -, hbefore⟩ := List.pairwise_append.mp sorted
    have hlast : last.sampledAtMs ≤ s.observedAtMs := past last (by simp)
    have hlt : ∀ p ∈ rest, p.sampledAtMs < last.sampledAtMs := fun p hp =>
      hbefore p hp last (List.mem_singleton_self _)
    have hpairwise : ∀ kept : List TrafficHistoryPoint,
        kept.Pairwise (fun a b => a.sampledAtMs < b.sampledAtMs) →
        (∀ p ∈ kept, p.sampledAtMs < point.sampledAtMs) →
        (kept ++ [point]).Pairwise (fun a b => a.sampledAtMs < b.sampledAtMs) ∧
          ∀ p ∈ kept ++ [point], p.sampledAtMs ≤ s.observedAtMs := by
      intro kept hkept hbelow
      refine ⟨List.pairwise_append.mpr ⟨hkept, List.pairwise_singleton _ _, ?_⟩, ?_⟩
      · intro a ha b hb
        rw [List.mem_singleton.mp hb]
        exact hbelow a ha
      · intro p hp
        rw [List.mem_append, List.mem_singleton] at hp
        cases hp with
        | inl hold => exact hpoint ▸ UInt64.le_of_lt (hbelow p hold)
        | inr hnew => exact hnew ▸ UInt64.le_of_eq hpoint
    rw [pushTrafficPoint, List.getLast?_append, List.dropLast_append_of_ne_nil (by simp)]
    by_cases hsame : last.sampledAtMs = point.sampledAtMs
    · -- the point replaces the last one
      rw [if_pos (by simp [hsame])]
      simp only [List.dropLast_singleton, List.append_nil]
      exact hpairwise rest hrest fun p hp => hsame ▸ hlt p hp
    · have hbelow : last.sampledAtMs < point.sampledAtMs := by
        rw [hpoint] at hsame ⊢
        exact UInt64.lt_of_le_of_ne hlast hsame
      rw [if_neg (by simp [hsame])]
      refine hpairwise _ sorted fun p hp => ?_
      rw [List.mem_append, List.mem_singleton] at hp
      cases hp with
      | inl hold => exact UInt64.lt_trans (hlt p hold) hbelow
      | inr hnew => exact hnew ▸ hbelow

/-- What a sample does to the history. -/
theorem history_applyManagedObservation (s : RuntimeObservationSnapshot)
    (observation : ClashRuntimeObservation) :
    (s.applyManagedObservation observation).observedAtMs = s.observedAtMs ∧
      ((s.applyManagedObservation observation).trafficHistory = s.trafficHistory ∨
        ∃ point, point.sampledAtMs = s.observedAtMs ∧
          (s.applyManagedObservation observation).trafficHistory =
            pushTrafficPoint s.trafficHistory point) := by
  obtain ⟨connections, traffic, latestLog⟩ := observation
  cases traffic with
  | none =>
    cases latestLog with
    | none => exact ⟨rfl, .inl rfl⟩
    | some log => exact ⟨rfl, .inl rfl⟩
  | some traffic =>
    cases latestLog with
    | none => exact ⟨rfl, .inr ⟨_, rfl, rfl⟩⟩
    | some log => exact ⟨rfl, .inr ⟨_, rfl, rfl⟩⟩

/-- A failure keeps the history or clears it. -/
theorem history_withLifecycle (s : RuntimeObservationSnapshot)
    (lifecycle : Option ObservedSidecarLifecycle) :
    (s.withLifecycle lifecycle).observedAtMs = s.observedAtMs ∧
      ((s.withLifecycle lifecycle).trafficHistory = s.trafficHistory ∨
        (s.withLifecycle lifecycle).trafficHistory = []) := by
  cases lifecycle with
  | none => exact ⟨rfl, .inl rfl⟩
  | some lifecycle =>
    rw [withLifecycle]
    split
    · exact ⟨rfl, .inr rfl⟩
    · exact ⟨rfl, .inl rfl⟩

/-- A record keeps the history, clears it, or adds a sample of the present. -/
theorem history_change (s : RuntimeObservationSnapshot) (record : Record) :
    (record.change s).observedAtMs = s.observedAtMs ∧
      ((record.change s).trafficHistory = s.trafficHistory ∨
        (record.change s).trafficHistory = [] ∨
        ∃ point, point.sampledAtMs = s.observedAtMs ∧
          (record.change s).trafficHistory = pushTrafficPoint s.trafficHistory point) := by
  cases record with
  | managedObservation observation =>
    obtain ⟨htime, hhistory⟩ := history_applyManagedObservation s observation
    exact ⟨htime, hhistory.imp_right .inr⟩
  | managedSample observation bytes =>
    obtain ⟨htime, hhistory⟩ := history_applyManagedObservation s observation
    exact ⟨htime, hhistory.imp_right .inr⟩
  | managedReady => exact ⟨rfl, .inr (.inl rfl)⟩
  | managedStopped => exact ⟨rfl, .inr (.inl rfl)⟩
  | managedRecovery => exact ⟨rfl, .inr (.inl rfl)⟩
  | managedFailure lifecycle failure =>
    obtain ⟨htime, hhistory⟩ := history_withLifecycle s lifecycle
    exact ⟨htime, hhistory.imp_right .inl⟩
  | subscriptionSwitch change =>
    rw [Record.change]
    split <;> exact ⟨rfl, .inl rfl⟩
  | subscriptionReady => exact ⟨rfl, .inr (.inl rfl)⟩

theorem Chronological.change (h : s.Chronological) (record : Record) :
    (record.change s).Chronological := by
  obtain ⟨htime, hhistory⟩ := history_change s record
  obtain hsame | hcleared | ⟨point, hpoint, hpushed⟩ := hhistory
  · refine ⟨hsame ▸ h.sorted, ?_⟩
    rw [hsame, htime]
    exact h.past
  · refine ⟨?_, ?_⟩ <;> rw [hcleared]
    · exact .nil
    · simp
  · obtain ⟨hsorted, hpast⟩ := h.push hpoint
    refine ⟨hpushed ▸ hsorted, ?_⟩
    rw [hpushed, htime]
    exact hpast

theorem Chronological.refreshObservedTime (h : s.Chronological) (hnow : s.observedAtMs ≤ now) :
    (s.refreshObservedTime now).Chronological :=
  ⟨h.sorted, fun point hpoint => UInt64.le_trans (h.past point hpoint) hnow⟩

theorem pruneTrafficHistory_sublist (s : RuntimeObservationSnapshot) :
    s.pruneTrafficHistory.trafficHistory.Sublist s.trafficHistory := by
  rw [RuntimeObservationSnapshot.pruneTrafficHistory]
  dsimp only
  exact (List.drop_sublist _ _).trans List.filter_sublist

theorem Chronological.pruneTrafficHistory (h : s.Chronological) :
    s.pruneTrafficHistory.Chronological := by
  have hkept := s.pruneTrafficHistory_sublist
  constructor
  · exact h.sorted.sublist hkept
  · intro point hpoint
    have hpast := h.past point (hkept.subset hpoint)
    rw [RuntimeObservationSnapshot.pruneTrafficHistory]
    exact hpast

/-- `prune_traffic_history` leaves what is recent, and no more than fits. -/
theorem pruned_pruneTrafficHistory (s : RuntimeObservationSnapshot) :
    s.pruneTrafficHistory.Pruned := by
  constructor
  · intro point hpoint
    rw [RuntimeObservationSnapshot.pruneTrafficHistory] at hpoint ⊢
    dsimp only at hpoint ⊢
    have hkept := List.mem_filter.mp ((List.drop_sublist _ _).subset hpoint)
    have hrecent := of_decide_eq_true hkept.2
    split at hrecent
    · next hle =>
      rw [UInt64.le_iff_toNat_le, UInt64.toNat_sub_of_le _ _ hle] at hrecent
      omega
    · next hgt =>
      rw [UInt64.le_iff_toNat_le] at hgt
      omega
  · rw [RuntimeObservationSnapshot.pruneTrafficHistory, List.length_drop]
    omega

/-! ### Updates and reads -/

theorem Consistent.mock : mock.Consistent where
  chronological := ⟨.nil, fun _ h => by cases h⟩
  pruned := ⟨fun _ h => (by cases h), Nat.zero_le _⟩
  fields := .mock

theorem Consistent.read (h : s.Consistent) (hnow : s.observedAtMs ≤ now) :
    (s.read now).Consistent where
  chronological := (h.chronological.refreshObservedTime hnow).pruneTrafficHistory
  pruned := pruned_pruneTrafficHistory _
  fields := h.fields.read now

theorem Consistent.withRevision (h : s.Consistent) (revision : UInt64) :
    ({ s with revision } : RuntimeObservationSnapshot).Consistent where
  chronological := ⟨h.chronological.sorted, h.chronological.past⟩
  pruned := ⟨h.pruned.recent, h.pruned.length⟩
  fields := h.fields.withRevision revision

theorem Consistent.update (h : s.Consistent) (hnow : s.observedAtMs ≤ now)
    (hrecord : record.Sound maxSafeInteger) :
    (s.update now fun s => record.change s).Consistent := by
  have hchronological :=
    ((h.chronological.refreshObservedTime hnow).change record).pruneTrafficHistory
  have hpruned := pruned_pruneTrafficHistory (record.change (s.refreshObservedTime now))
  have hfields := ((h.fields.refreshObservedTime now).change hrecord).pruneTrafficHistory
  rw [RuntimeObservationSnapshot.update]
  exact Consistent.withRevision ⟨hchronological, hpruned, hfields⟩ _

/-- A record does not touch the revision itself. -/
theorem revision_change (s : RuntimeObservationSnapshot) (record : Record) :
    (record.change s).revision = s.revision := by
  have hsample : ∀ observation, (s.applyManagedObservation observation).revision = s.revision := by
    intro observation
    obtain ⟨connections, traffic, latestLog⟩ := observation
    cases traffic <;> cases latestLog <;> rfl
  cases record with
  | managedObservation observation => exact hsample observation
  | managedSample observation bytes => exact hsample observation
  | managedReady | managedStopped | managedRecovery | subscriptionReady => rfl
  | managedFailure lifecycle failure =>
    cases lifecycle with
    | none => rfl
    | some lifecycle => cases lifecycle <;> rfl
  | subscriptionSwitch change =>
    rw [Record.change]
    split <;> rfl

theorem revision_update (s : RuntimeObservationSnapshot) (now : UInt64) (record : Record) :
    (s.update now fun s => record.change s).revision = nextRevision s.revision := by
  have hkept : ∀ t : RuntimeObservationSnapshot, t.pruneTrafficHistory.revision = t.revision :=
    fun t => by rw [RuntimeObservationSnapshot.pruneTrafficHistory]
  have hchanged := hkept (record.change (s.refreshObservedTime now))
  rw [revision_change (s.refreshObservedTime now) record] at hchanged
  exact congrArg nextRevision hchanged

/-- An observation is made at the time of its call. -/
theorem observedAtMs_update (s : RuntimeObservationSnapshot) (now : UInt64) (record : Record) :
    (s.update now fun s => record.change s).observedAtMs = now := by
  have htime := (history_change (s.refreshObservedTime now) record).1
  rw [RuntimeObservationSnapshot.update, RuntimeObservationSnapshot.pruneTrafficHistory]
  dsimp only
  exact htime

end RuntimeObservationSnapshot

/-! ## Runs -/

namespace ObservationLog

variable {log : ObservationLog} {events : List ObservationCall} {performed : Record → Prop}

/-- **Run lemma.**  Whatever sound records come in whatever order, everything that was sent is
consistent. -/
theorem consistent_of_run
    (hperformed : ∀ record, performed record → record.Sound maxSafeInteger)
    (run : Runs step (Follows performed) start events log) :
    log.observations.Consistent ∧ ∀ payload ∈ log.sent, payload.observation.Consistent := by
  induction run with
  | refl => exact ⟨.mock, fun _ h => by cases h⟩
  | @tail _ s _ e _ meets next ih =>
    obtain ⟨hcurrent, hsent⟩ := ih
    obtain ⟨hnow, hrecords⟩ := meets
    have hlast : ∀ payload : Payload, payload.observation.Consistent →
        ∀ p ∈ s.sent ++ [payload], p.observation.Consistent := by
      intro payload hpayload p hp
      rw [List.mem_append, List.mem_singleton] at hp
      cases hp with
      | inl hold => exact hsent p hold
      | inr hnew => exact hnew ▸ hpayload
    cases e with
    | record now record =>
      cases next
      have hnext := hcurrent.update hnow (hperformed record (hrecords now record rfl))
      exact ⟨hnext, hlast _ hnext⟩
    | read now =>
      cases next
      have hnext := hcurrent.read hnow
      exact ⟨hnext, hlast _ hnext⟩

/-- The number of records among the calls. -/
def records (events : List ObservationCall) : Nat :=
  events.countP fun e => match e with
    | .record .. => true
    | .read _ => false

theorem nextRevision_le (revision : UInt64) :
    (RuntimeObservationSnapshot.nextRevision revision).toNat ≤ revision.toNat + 1 := by
  rw [RuntimeObservationSnapshot.nextRevision]
  split
  · omega
  · rw [UInt64.toNat_add]
    exact Nat.mod_le _ _

/-- A revision counts records, and a time is one that the clock showed. -/
theorem bounded_of_run (run : Runs step (Follows performed) start events log) :
    log.observations.revision.toNat ≤ records events ∧
      ∀ payload ∈ log.sent, payload.observation.revision.toNat ≤ records events ∧
        ∃ e ∈ events, payload.observation.observedAtMs = e.now := by
  induction run with
  | refl => exact ⟨Nat.le_refl 0, fun _ h => by cases h⟩
  | @tail events s _ e _ _ next ih =>
    obtain ⟨hcurrent, hsent⟩ := ih
    have hgrows : records events ≤ records (events ++ [e]) := by
      rw [records, records, List.countP_append]
      exact Nat.le_add_right _ _
    have hlast : ∀ payload : Payload,
        payload.observation.revision.toNat ≤ records (events ++ [e]) →
        payload.observation.observedAtMs = e.now →
        ∀ p ∈ s.sent ++ [payload], p.observation.revision.toNat ≤ records (events ++ [e]) ∧
          ∃ e' ∈ events ++ [e], p.observation.observedAtMs = e'.now := by
      intro payload hrevision htime p hp
      rw [List.mem_append, List.mem_singleton] at hp
      cases hp with
      | inl hold =>
        obtain ⟨hle, e', he', hobserved⟩ := hsent p hold
        exact ⟨hle.trans hgrows, e', List.mem_append_left _ he', hobserved⟩
      | inr hnew => exact ⟨hnew ▸ hrevision, e, by simp, hnew ▸ htime⟩
    cases e with
    | record now record =>
      cases next
      have hcount : records (events ++ [.record now record]) = records events + 1 := by
        rw [records, List.countP_append]
        rfl
      have hrevision : (s.observations.update now fun s => record.change s).revision.toNat ≤
          records (events ++ [.record now record]) := by
        have hnext := nextRevision_le s.observations.revision
        rw [RuntimeObservationSnapshot.revision_update]
        omega
      exact ⟨hrevision, hlast (.delta ⟨_⟩) hrevision
        (RuntimeObservationSnapshot.observedAtMs_update _ _ _)⟩
    | read now =>
      cases next
      exact ⟨hcurrent.trans hgrows, hlast (.snapshot _) (hcurrent.trans hgrows) rfl⟩

end ObservationLog

end Veyra
