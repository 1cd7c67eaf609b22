import Veyra.Application.HttpMetadata
import Veyra.Application.Observability
import Veyra.Lib.Transition
import Veyra.Lib.Window

/-!
# Veyra.Application.TrafficHistory

The traffic history that an observation keeps, over every sequence of calls.

The samples that were recorded since the history was last cleared are a list that only grows
(`samplesSinceClear`).  The kept history is a window on it: of each instant the last sample, of
the last ten minutes, at most so many (`lastSamples`).

* `history_of_run` -- after every run the kept history is that window.
-/

namespace Veyra

open Transition Window

/-! ## Calls -/

/-- `sanitized_summary`: nothing of a raw detail is kept. -/
def sanitizedSummary (rawDetail : String) : String :=
  let lower := Text.lower rawDetail
  let hasSensitiveDetail := ["secret", "token", "password", "uuid", "private", "reality",
    "authorization", "bearer", "://"].any (Text.contains lower ·)
  if hasSensitiveDetail then "Sensitive runtime detail omitted"
  else if Text.blank rawDetail then "Runtime event recorded without detail"
  else "Runtime event recorded"

/-- A call of one of the `record_*` functions that simulate a runtime. -/
inductive MockRecord
  | runtimeState (captureMode : ObservedCaptureMode) (sidecarLifecycle : ObservedSidecarLifecycle)
  | traffic (uploadBytesPerSecond downloadBytesPerSecond uploadedBytes downloadedBytes : UInt64)
  | connectionCount (active : UInt32)
  | runtimeLog (level : ObservationLogLevel) (category : ObservationLogCategory)
      (rawDetail : String)

def MockRecord.change (s : RuntimeObservationSnapshot) : MockRecord → RuntimeObservationSnapshot
  | .runtimeState captureMode sidecarLifecycle => { s with captureMode, sidecarLifecycle }
  | .traffic uploadBytesPerSecond downloadBytesPerSecond uploadedBytes downloadedBytes =>
    { s with
      traffic :=
        { uploadBytesPerSecond, downloadBytesPerSecond
          uploadTotalBytes := saturatingAdd s.traffic.uploadTotalBytes uploadedBytes
          downloadTotalBytes := saturatingAdd s.traffic.downloadTotalBytes downloadedBytes } }
  | .connectionCount active => { s with connections := ⟨active⟩ }
  | .runtimeLog level category rawDetail =>
    { s with latestLog := some { level, category, message := sanitizedSummary rawDetail } }

/-- A call on the observation, at the time that it reads from the clock. -/
inductive TimedCall
  | managed (now : UInt64) (record : Record)
  | mock (now : UInt64) (record : MockRecord)
  | snapshot (now : UInt64)

def TimedCall.now : TimedCall → UInt64
  | .managed now _ | .mock now _ | .snapshot now => now

namespace RuntimeObservationSnapshot

/-- One call. -/
def step (s : RuntimeObservationSnapshot) : TimedCall → Option RuntimeObservationSnapshot
  | .managed now record => some (s.update now fun s => record.change s)
  | .mock now record => some (s.update now fun s => record.change s)
  | .snapshot now => some (s.read now)

/-- The clock never goes back. -/
def ClockForward (s : RuntimeObservationSnapshot) (call : TimedCall) : Prop :=
  s.observedAtMs ≤ call.now

instance (s : RuntimeObservationSnapshot) (call : TimedCall) : Decidable (s.ClockForward call) :=
  inferInstanceAs (Decidable (s.observedAtMs ≤ call.now))

end RuntimeObservationSnapshot

/-! ## What should be kept -/

/-- The sample that a record brings. -/
def Record.sample (now : UInt64) : Record → Option TrafficHistoryPoint
  | .managedObservation observation | .managedSample observation _ =>
    observation.traffic.map fun traffic =>
      { sampledAtMs := now
        uploadRateBps := traffic.uploadBytesPerSecond
        downloadRateBps := traffic.downloadBytesPerSecond }
  | _ => none

theorem Record.sample_time {now : UInt64} {record : Record} {point : TrafficHistoryPoint}
    (h : record.sample now = some point) : point.sampledAtMs = now := by
  cases record with
  | managedObservation observation | managedSample observation bytes =>
    obtain ⟨traffic, -, rfl⟩ := Option.map_eq_some_iff.mp h
    rfl
  | _ => cases h

/-- The records of a lifecycle change after which no earlier sample is shown. -/
def Record.clears : Record → Bool
  | .managedReady | .managedStopped | .managedRecovery | .subscriptionReady .. => true
  | .managedFailure lifecycle _ => lifecycle.any (· ≠ .ready)
  | _ => false

/-- The samples that count after a call, of those that counted before. -/
def TimedCall.samples (samples : List TrafficHistoryPoint) : TimedCall → List TrafficHistoryPoint
  | .managed now record => if record.clears then [] else samples ++ (record.sample now).toList
  | _ => samples

/-- All samples since the last clearing, in the order in which they were recorded. -/
def samplesSinceClear (calls : List TimedCall) : List TrafficHistoryPoint :=
  calls.foldl TimedCall.samples []

/-- The time of a sample. -/
def TrafficHistoryPoint.time (point : TrafficHistoryPoint) : Nat := point.sampledAtMs.toNat

/-- Of each instant the last sample, of the last ten minutes, at most 600. -/
def lastSamples (now : UInt64) (samples : List TrafficHistoryPoint) : List TrafficHistoryPoint :=
  recent TrafficHistoryPoint.time (now.toNat - 600000) 600
    (latest TrafficHistoryPoint.time samples)

/-! ## What is kept -/

namespace RuntimeObservationSnapshot

variable {s t : RuntimeObservationSnapshot} {samples : List TrafficHistoryPoint}

theorem applyManagedObservation_history (s : RuntimeObservationSnapshot)
    (observation : ClashRuntimeObservation) :
    (s.applyManagedObservation observation).observedAtMs = s.observedAtMs ∧
      (s.applyManagedObservation observation).trafficHistory =
        match (Record.managedObservation observation).sample s.observedAtMs with
        | none => s.trafficHistory
        | some point => pushTrafficPoint s.trafficHistory point := by
  obtain ⟨connections, traffic, latestLog⟩ := observation
  cases traffic with
  | none => cases latestLog <;> exact ⟨rfl, rfl⟩
  | some traffic => cases latestLog <;> exact ⟨rfl, rfl⟩

/-- A record clears the history, or adds its sample to it. -/
theorem record_history (s : RuntimeObservationSnapshot) (record : Record) :
    (record.change s).observedAtMs = s.observedAtMs ∧
      (record.change s).trafficHistory =
        if record.clears then []
        else match record.sample s.observedAtMs with
          | none => s.trafficHistory
          | some point => pushTrafficPoint s.trafficHistory point := by
  cases record with
  | managedObservation observation => exact s.applyManagedObservation_history observation
  | managedSample observation bytes => exact s.applyManagedObservation_history observation
  | managedReady | managedStopped | managedRecovery | subscriptionReady => exact ⟨rfl, rfl⟩
  | managedFailure lifecycle failure =>
    cases lifecycle with
    | none => exact ⟨rfl, rfl⟩
    | some lifecycle => cases lifecycle <;> exact ⟨rfl, rfl⟩
  | subscriptionSwitch change =>
    rw [Record.change]
    split <;> exact ⟨rfl, rfl⟩

theorem mock_history (s : RuntimeObservationSnapshot) (record : MockRecord) :
    (record.change s).observedAtMs = s.observedAtMs ∧
      (record.change s).trafficHistory = s.trafficHistory := by
  cases record <;> exact ⟨rfl, rfl⟩

theorem pushTrafficPoint_eq (history : List TrafficHistoryPoint) (point : TrafficHistoryPoint) :
    pushTrafficPoint history point = push TrafficHistoryPoint.time history point := by
  simp only [pushTrafficPoint, push, TrafficHistoryPoint.time, UInt64.toNat_inj]

theorem pruneTrafficHistory_eq (s : RuntimeObservationSnapshot) :
    s.pruneTrafficHistory.trafficHistory =
      recent TrafficHistoryPoint.time (s.observedAtMs.toNat - 600000) 600 s.trafficHistory := by
  have holdest : (if trafficHistoryWindowMs ≤ s.observedAtMs
      then s.observedAtMs - trafficHistoryWindowMs else 0).toNat =
        s.observedAtMs.toNat - 600000 := by
    have hwindow : trafficHistoryWindowMs.toNat = 600000 := rfl
    split
    · next hle => rw [UInt64.toNat_sub_of_le _ _ hle, hwindow]
    · next hgt =>
      rw [UInt64.le_iff_toNat_le, hwindow] at hgt
      rw [UInt64.toNat_zero]
      omega
  have hrecent : ∀ oldest : UInt64, oldest.toNat = s.observedAtMs.toNat - 600000 →
      (fun point : TrafficHistoryPoint => decide (oldest ≤ point.sampledAtMs)) =
        fun point => decide (s.observedAtMs.toNat - 600000 ≤ point.time) := by
    intro oldest holdest
    funext point
    rw [decide_eq_decide, UInt64.le_iff_toNat_le, holdest, TrafficHistoryPoint.time]
  rw [pruneTrafficHistory, recent, List.rtake]
  dsimp only
  rw [hrecent _ holdest, trafficHistoryCapacity]

theorem pruneTrafficHistory_time (s : RuntimeObservationSnapshot) :
    s.pruneTrafficHistory.observedAtMs = s.observedAtMs := by
  rw [pruneTrafficHistory]

/-- The kept history is the window on the samples, which are those of the past, in their order. -/
structure Tracks (s : RuntimeObservationSnapshot) (samples : List TrafficHistoryPoint) : Prop where
  sorted : samples.Pairwise fun a b => a.time ≤ b.time
  past : ∀ point ∈ samples, point.time ≤ s.observedAtMs.toNat
  kept : s.trafficHistory = lastSamples s.observedAtMs samples

/-- Time passes over the window. -/
theorem Tracks.later (h : s.Tracks samples) {now : UInt64} (hnow : s.observedAtMs ≤ now)
    (hhistory : t.trafficHistory = s.trafficHistory) (htime : t.observedAtMs = now) :
    t.pruneTrafficHistory.Tracks samples where
  sorted := h.sorted
  past point hpoint := by
    rw [pruneTrafficHistory_time, htime]
    exact (h.past point hpoint).trans (UInt64.le_iff_toNat_le.mp hnow)
  kept := by
    have hle := UInt64.le_iff_toNat_le.mp hnow
    rw [pruneTrafficHistory_eq, pruneTrafficHistory_time, hhistory, htime, h.kept, lastSamples, lastSamples,
      recent_recent (latest_increasing h.sorted) (by omega)]

/-- A sample of now is recorded. -/
theorem Tracks.sampled (h : s.Tracks samples) {now : UInt64} (hnow : s.observedAtMs ≤ now)
    {point : TrafficHistoryPoint} (hpoint : point.sampledAtMs = now)
    (hhistory : t.trafficHistory = pushTrafficPoint s.trafficHistory point)
    (htime : t.observedAtMs = now) : t.pruneTrafficHistory.Tracks (samples ++ [point]) := by
  have hle := UInt64.le_iff_toNat_le.mp hnow
  have hpoint : point.time = now.toNat := congrArg UInt64.toNat hpoint
  have hbefore : ∀ sample ∈ samples, sample.time ≤ point.time := fun sample hsample =>
    (h.past sample hsample).trans (hpoint ▸ hle)
  have hincreasing := latest_increasing h.sorted
  have hlatest : ∀ sample ∈ latest TrafficHistoryPoint.time samples, sample.time ≤ point.time :=
    fun sample hsample => hbefore sample ((latest_sublist _ _).subset hsample)
  constructor
  · refine List.pairwise_append.mpr ⟨h.sorted, List.pairwise_singleton _ _, ?_⟩
    intro sample hsample other hother
    rw [List.mem_singleton.mp hother]
    exact hbefore sample hsample
  · intro sample hsample
    rw [pruneTrafficHistory_time, htime]
    cases List.mem_append.mp hsample with
    | inl hold => exact hpoint ▸ hbefore sample hold
    | inr hnew => rw [List.mem_singleton.mp hnew, hpoint]
  · rw [pruneTrafficHistory_eq, pruneTrafficHistory_time, hhistory, htime, h.kept, lastSamples,
      lastSamples, pushTrafficPoint_eq, recent_push hincreasing hlatest (by omega) (by omega),
      latest_concat, push_eq hincreasing hlatest]

/-- A cleared history is the window on no samples. -/
theorem tracks_cleared (hhistory : t.trafficHistory = []) : t.pruneTrafficHistory.Tracks [] where
  sorted := .nil
  past _ hpoint := by cases hpoint
  kept := by
    rw [pruneTrafficHistory_eq, hhistory, recent_nil, lastSamples, latest, recent_nil]

/-- A revision is not part of the history. -/
theorem Tracks.withRevision (h : s.Tracks samples) (revision : UInt64) :
    Tracks { s with revision } samples :=
  ⟨h.sorted, h.past, h.kept⟩

/-- One call keeps the history a window. -/
theorem Tracks.step (h : s.Tracks samples) {call : TimedCall} (hclock : s.ClockForward call)
    (hstep : s.step call = some t) : t.Tracks (call.samples samples) := by
  cases call with
  | managed now record =>
    cases hstep
    apply Tracks.withRevision
    obtain ⟨htime, hhistory⟩ := record_history (s.refreshObservedTime now) record
    rw [TimedCall.samples]
    by_cases hclears : record.clears = true
    · rw [if_pos hclears] at hhistory ⊢
      exact tracks_cleared hhistory
    · rw [if_neg hclears] at hhistory ⊢
      cases hsample : record.sample now with
      | none =>
        rw [refreshObservedTime] at hhistory
        rw [hsample] at hhistory
        rw [Option.toList_none, List.append_nil]
        exact h.later hclock hhistory htime
      | some point =>
        rw [refreshObservedTime] at hhistory
        rw [hsample] at hhistory
        exact h.sampled hclock (Record.sample_time hsample) hhistory htime
  | mock now record =>
    cases hstep
    apply Tracks.withRevision
    obtain ⟨htime, hhistory⟩ := mock_history (s.refreshObservedTime now) record
    exact h.later hclock hhistory htime
  | snapshot now =>
    cases hstep
    exact h.later hclock rfl rfl

end RuntimeObservationSnapshot

open RuntimeObservationSnapshot

/-- **The traffic history.**  After every sequence of calls with a clock that never goes back the
kept samples have strictly increasing times, are of the last ten minutes, are at most 600, and are
the last samples since the last clearing, the last one of each instant. -/
theorem history_of_run {calls : List TimedCall} {s : RuntimeObservationSnapshot}
    (run : Runs RuntimeObservationSnapshot.step ClockForward .mock calls s) :
    s.trafficHistory.Pairwise (fun a b => a.sampledAtMs < b.sampledAtMs) ∧
      (∀ point ∈ s.trafficHistory, point.sampledAtMs ≤ s.observedAtMs ∧
        s.observedAtMs.toNat - point.sampledAtMs.toNat ≤ 600000) ∧
      s.trafficHistory.length ≤ 600 ∧
      s.trafficHistory = lastSamples s.observedAtMs (samplesSinceClear calls) := by
  have htracks : s.Tracks (samplesSinceClear calls) := by
    induction run with
    | refl => exact ⟨.nil, fun _ hpoint => absurd hpoint List.not_mem_nil, rfl⟩
    | tail run hclock hstep ih =>
      rw [samplesSinceClear, List.foldl_append]
      exact ih.step hclock hstep
  have hincreasing := latest_increasing htracks.sorted
  rw [htracks.kept]
  refine ⟨?_, ?_, recent_length_le, rfl⟩
  · exact hincreasing.recent.imp fun hab => UInt64.lt_iff_toNat_lt.mpr hab
  · intro point hpoint
    obtain ⟨hmem, hrecent⟩ := mem_recent hpoint
    have hpast := htracks.past point ((latest_sublist _ _).subset hmem)
    have htime : point.sampledAtMs.toNat = point.time := rfl
    exact ⟨UInt64.le_iff_toNat_le.mpr hpast, by omega⟩

/-- A sample of the core with two rates. -/
def rates (up down : UInt64) : Record :=
  .managedObservation ⟨⟨0, 0, 1⟩, some ⟨up, down, 0, 0⟩, none⟩

/-- Two samples in one millisecond, and a third one later. -/
def threeSamples : List TimedCall :=
  [.managed 0 .managedReady, .managed 7 (rates 1 1), .managed 7 (rates 2 2),
    .managed 600007 (rates 3 3)]

/-- The first of the two was replaced, and the second one is just recent. -/
theorem history_of_run_threeSamples : ∃ s : RuntimeObservationSnapshot,
    s.trafficHistory = [⟨7, 2, 2⟩, ⟨600007, 3, 3⟩] ∧
      s.trafficHistory = lastSamples s.observedAtMs (samplesSinceClear threeSamples) := by
  have hrun : Runs RuntimeObservationSnapshot.step ClockForward .mock threeSamples _ :=
    .of_evaluate (fun _ _ h => of_decide_eq_true h) rfl
  exact ⟨_, rfl, (history_of_run hrun).2.2.2⟩

end Veyra
