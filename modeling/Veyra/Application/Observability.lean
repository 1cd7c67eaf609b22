import Veyra.Lib.Text

/-!
# Veyra.Application.Observability

The runtime observation that the interface reads: one record in memory, which
the `record_*` functions change and `update` stamps with a time and a revision.

A `record_*` call is a `Record`; `Record.change` is what it does to the
snapshot.  The functions that only tests call are left out.
-/

namespace Veyra

/-! ## The snapshot -/

inductive ObservationSource
  | mockOnly
  | managedSidecar
deriving DecidableEq, Repr

inductive ObservedCaptureMode
  | notObserved
  | off
  | systemProxy
  | recoveryRequired
deriving DecidableEq, Repr

inductive ObservedSidecarLifecycle
  | notObserved
  | stopped
  | ready
  | recoveryRequired
deriving DecidableEq, Repr

structure TrafficObservation where
  uploadBytesPerSecond : UInt64
  downloadBytesPerSecond : UInt64
  uploadTotalBytes : UInt64
  downloadTotalBytes : UInt64
deriving DecidableEq, Repr

def TrafficObservation.default : TrafficObservation := ⟨0, 0, 0, 0⟩

def trafficHistoryWindowMs : UInt64 := 600000
def trafficHistoryCapacity : Nat := 600

structure TrafficHistoryPoint where
  sampledAtMs : UInt64
  uploadRateBps : UInt64
  downloadRateBps : UInt64
deriving DecidableEq, Repr

structure ConnectionObservation where
  active : UInt32
deriving DecidableEq, Repr

inductive ObservationLogLevel
  | info
  | warning
  | error
deriving DecidableEq, Repr

inductive ObservationLogCategory
  | runtime
  | connectivity
  | recovery
deriving DecidableEq, Repr

structure ObservationLogSummary where
  level : ObservationLogLevel
  category : ObservationLogCategory
  message : String
deriving DecidableEq, Repr

inductive ManagedRuntimeFailure
  | configuration
  | start
  | stop
  | observation
  | worker
deriving DecidableEq, Repr

inductive SubscriptionSwitchStatus
  | queued
  | checking
  | prepared
  | persisted
  | applying
  | ready
  | cancelled
  | failed
deriving DecidableEq, Repr

/-- The phases after which a switch makes no further progress. -/
def SubscriptionSwitchStatus.isTerminal : SubscriptionSwitchStatus → Bool
  | .ready | .cancelled | .failed => true
  | .queued | .checking | .prepared | .persisted | .applying => false

inductive SubscriptionSwitchErrorCode
  | cancelled
  | busy
  | stateUnavailable
  | configurationFailed
  | saveFailed
  | stopFailed
  | startFailed
  | recoveryRequired
  | operationTimedOut
deriving DecidableEq, Repr

structure SubscriptionSwitch where
  operationId : String
  status : SubscriptionSwitchStatus
  errorCode : Option SubscriptionSwitchErrorCode
deriving DecidableEq, Repr

structure RuntimeObservationSnapshot where
  appliedSubscriptionId : Option String
  appliedConfigurationGeneration : Option UInt64
  subscriptionSwitch : Option SubscriptionSwitch
  managedProxyAvailable : Bool
  coreMemoryBytes : Option UInt64
  revision : UInt64
  observedAtMs : UInt64
  trafficHistory : List TrafficHistoryPoint
  source : ObservationSource
  captureMode : ObservedCaptureMode
  sidecarLifecycle : ObservedSidecarLifecycle
  traffic : TrafficObservation
  connections : ConnectionObservation
  latestLog : Option ObservationLogSummary
deriving DecidableEq, Repr

/-- The snapshot of `new_mock`. -/
def RuntimeObservationSnapshot.mock : RuntimeObservationSnapshot where
  appliedSubscriptionId := none
  appliedConfigurationGeneration := none
  subscriptionSwitch := none
  managedProxyAvailable := false
  coreMemoryBytes := none
  revision := 0
  observedAtMs := 0
  trafficHistory := []
  source := .mockOnly
  captureMode := .notObserved
  sidecarLifecycle := .notObserved
  traffic := .default
  connections := ⟨0⟩
  latestLog := none

/-- `RuntimeObservationDelta`: the fields of the snapshot, published. -/
structure RuntimeObservationDelta extends RuntimeObservationSnapshot
deriving DecidableEq, Repr

/-! ## Samples of the core -/

structure ClashConnectionSnapshot where
  uploadTotalBytes : UInt64
  downloadTotalBytes : UInt64
  connectionCount : UInt32
deriving DecidableEq, Repr

inductive ClashLogLevel
  | info
  | warning
  | error
deriving DecidableEq, Repr

inductive ClashLogCategory
  | runtime
  | recovery
deriving DecidableEq, Repr

structure ClashLogSummary where
  level : ClashLogLevel
  category : ClashLogCategory
  message : String
deriving DecidableEq, Repr

/-- `ClashRuntimeObservation`; its traffic has the fields of a `TrafficObservation`. -/
structure ClashRuntimeObservation where
  connections : ClashConnectionSnapshot
  traffic : Option TrafficObservation
  latestLog : Option ClashLogSummary
deriving DecidableEq, Repr

/-- `map_managed_log_level`. -/
def mapManagedLogLevel : ClashLogLevel → ObservationLogLevel
  | .info => .info
  | .warning => .warning
  | .error => .error

/-- `map_managed_log_category`. -/
def mapManagedLogCategory : ClashLogCategory → ObservationLogCategory
  | .runtime => .runtime
  | .recovery => .recovery

/-- A point replaces the last one when it was sampled at the same time. -/
def pushTrafficPoint (history : List TrafficHistoryPoint) (point : TrafficHistoryPoint) :
    List TrafficHistoryPoint :=
  if history.getLast?.any (·.sampledAtMs = point.sampledAtMs) then history.dropLast ++ [point]
  else history ++ [point]

namespace RuntimeObservationSnapshot

/-- The traffic part of `apply_managed_observation`. -/
def withTraffic (s : RuntimeObservationSnapshot) :
    Option TrafficObservation → RuntimeObservationSnapshot
  | none => s
  | some traffic =>
    { s with
      traffic
      trafficHistory := pushTrafficPoint s.trafficHistory
        { sampledAtMs := s.observedAtMs
          uploadRateBps := traffic.uploadBytesPerSecond
          downloadRateBps := traffic.downloadBytesPerSecond } }

/-- The log part of `apply_managed_observation`. -/
def withLog (s : RuntimeObservationSnapshot) : Option ClashLogSummary → RuntimeObservationSnapshot
  | none => s
  | some log =>
    { s with
      latestLog := some ⟨mapManagedLogLevel log.level, mapManagedLogCategory log.category, log.message⟩ }

/-- `apply_managed_observation`. -/
def applyManagedObservation (observation : ClashRuntimeObservation)
    (s : RuntimeObservationSnapshot) : RuntimeObservationSnapshot :=
  let s := { s with
    source := .managedSidecar
    sidecarLifecycle := .ready
    connections := ⟨observation.connections.connectionCount⟩ }
  (s.withTraffic observation.traffic).withLog observation.latestLog

/-! ## Records -/

/-- The common part of `record_managed_ready` and `record_managed_stopped`: nothing of an
old child is kept. -/
def reset (lifecycle : ObservedSidecarLifecycle) (s : RuntimeObservationSnapshot) :
    RuntimeObservationSnapshot :=
  { s with
    appliedSubscriptionId := none
    appliedConfigurationGeneration := none
    managedProxyAvailable := false
    coreMemoryBytes := none
    subscriptionSwitch := none
    source := .managedSidecar
    captureMode := .off
    sidecarLifecycle := lifecycle
    traffic := .default
    trafficHistory := []
    connections := ⟨0⟩
    latestLog := none }

/-- A switch that reported `Ready` is forgotten once the runtime is not. -/
def dropReadySwitch (s : RuntimeObservationSnapshot) : Option SubscriptionSwitch :=
  if s.subscriptionSwitch.any (·.status = .ready) then none else s.subscriptionSwitch

/-- `record_managed_recovery`. -/
def managedRecovery (s : RuntimeObservationSnapshot) : RuntimeObservationSnapshot :=
  { s with
    managedProxyAvailable := false
    coreMemoryBytes := none
    subscriptionSwitch := s.dropReadySwitch
    source := .managedSidecar
    sidecarLifecycle := .recoveryRequired
    traffic := .default
    trafficHistory := []
    connections := ⟨0⟩
    latestLog := none }

/-- The fields that `record_managed_failure` clears for a runtime that is not ready. -/
def notReady (s : RuntimeObservationSnapshot) : RuntimeObservationSnapshot :=
  { s with
    managedProxyAvailable := false
    coreMemoryBytes := none
    subscriptionSwitch := s.dropReadySwitch
    appliedSubscriptionId := none
    appliedConfigurationGeneration := none
    traffic := .default
    trafficHistory := []
    connections := ⟨0⟩ }

/-- The lifecycle part of `record_managed_failure`. -/
def withLifecycle (s : RuntimeObservationSnapshot) :
    Option ObservedSidecarLifecycle → RuntimeObservationSnapshot
  | none => s
  | some lifecycle =>
    let s := { s with
      source := .managedSidecar, captureMode := .off, sidecarLifecycle := lifecycle }
    if lifecycle ≠ .ready then s.notReady else s

end RuntimeObservationSnapshot

/-- The summary that a failure leaves in the log. -/
def ManagedRuntimeFailure.message : ManagedRuntimeFailure → String
  | .configuration => "Configuration generation failed; candidate not applied"
  | .start => "Core startup failed"
  | .stop => "Core stop incomplete"
  | .observation => "Runtime observation failed"
  | .worker => "Runtime worker response unavailable"

/-- A call of one of the `record_*` functions. -/
inductive Record
  | managedObservation (observation : ClashRuntimeObservation)
  | managedSample (observation : ClashRuntimeObservation) (coreMemoryBytes : Option UInt64)
  | managedReady
  | managedStopped
  | managedRecovery
  | managedFailure (lifecycle : Option ObservedSidecarLifecycle) (failure : ManagedRuntimeFailure)
  | subscriptionSwitch (change : SubscriptionSwitch)
  | subscriptionReady (id : String) (generation : UInt64) (operationId : Option String)
      (managedProxyAvailable : Bool)
deriving DecidableEq, Repr

/-- `record_subscription_switch` takes a queued phase from anyone, any other phase from the
operation that holds the record. -/
def acceptsSwitch (current : Option SubscriptionSwitch) (change : SubscriptionSwitch) : Bool :=
  change.status = .queued || current.any (·.operationId = change.operationId)

/-- What a record does to the snapshot. -/
def Record.change (s : RuntimeObservationSnapshot) : Record → RuntimeObservationSnapshot
  | .managedObservation observation => s.applyManagedObservation observation
  | .managedSample observation coreMemoryBytes =>
    { s.applyManagedObservation observation with coreMemoryBytes }
  | .managedReady => s.reset .ready
  | .managedStopped => s.reset .stopped
  | .managedRecovery => s.managedRecovery
  | .managedFailure lifecycle failure =>
    { s.withLifecycle lifecycle with
      latestLog := some { level := .error, category := .runtime, message := failure.message } }
  | .subscriptionSwitch change =>
    if acceptsSwitch s.subscriptionSwitch change then { s with subscriptionSwitch := some change }
    else s
  | .subscriptionReady id generation operationId managedProxyAvailable =>
    { s with
      source := .managedSidecar
      captureMode := .off
      sidecarLifecycle := .ready
      appliedSubscriptionId := some id
      appliedConfigurationGeneration := some generation
      managedProxyAvailable
      coreMemoryBytes := none
      subscriptionSwitch := operationId.map fun operationId =>
        { operationId, status := .ready, errorCode := none }
      traffic := .default
      trafficHistory := []
      connections := ⟨0⟩
      latestLog := none }

/-! ## Updates -/

namespace RuntimeObservationSnapshot

/-- `prune_traffic_history`: the points of the last window, at most as many as fit. -/
def pruneTrafficHistory (s : RuntimeObservationSnapshot) : RuntimeObservationSnapshot :=
  let oldest := if trafficHistoryWindowMs ≤ s.observedAtMs
    then s.observedAtMs - trafficHistoryWindowMs else 0
  let kept := s.trafficHistory.filter (oldest ≤ ·.sampledAtMs)
  { s with trafficHistory := kept.drop (kept.length - trafficHistoryCapacity) }

/-- `refresh_observed_time`. -/
def refreshObservedTime (s : RuntimeObservationSnapshot) (now : UInt64) :
    RuntimeObservationSnapshot :=
  { s with observedAtMs := now }

/-- The revision after an update: `saturating_add(1)`. -/
def nextRevision (revision : UInt64) : UInt64 :=
  if revision = 18446744073709551615 then revision else revision + 1

/-- The part of `update` under the lock of the state. -/
def update (s : RuntimeObservationSnapshot) (now : UInt64)
    (change : RuntimeObservationSnapshot → RuntimeObservationSnapshot) :
    RuntimeObservationSnapshot :=
  let s := (change (s.refreshObservedTime now)).pruneTrafficHistory
  { s with revision := nextRevision s.revision }

/-- `snapshot`: a read brings the time and the history up to date. -/
def read (s : RuntimeObservationSnapshot) (now : UInt64) : RuntimeObservationSnapshot :=
  (s.refreshObservedTime now).pruneTrafficHistory

/-! ## What a record keeps -/

/-- The runtime facts of a snapshot: what is applied, in which lifecycle, under which
switch. -/
structure SameRuntime (s t : RuntimeObservationSnapshot) : Prop where
  appliedSubscriptionId : s.appliedSubscriptionId = t.appliedSubscriptionId
  appliedConfigurationGeneration :
    s.appliedConfigurationGeneration = t.appliedConfigurationGeneration
  subscriptionSwitch : s.subscriptionSwitch = t.subscriptionSwitch
  sidecarLifecycle : s.sidecarLifecycle = t.sidecarLifecycle

/-- An update leaves the runtime facts that its change leaves. -/
theorem sameRuntime_update (s : RuntimeObservationSnapshot) (now : UInt64)
    (change : RuntimeObservationSnapshot → RuntimeObservationSnapshot) :
    SameRuntime (s.update now change) (change (s.refreshObservedTime now)) := by
  rw [update, pruneTrafficHistory]
  constructor <;> simp only

end RuntimeObservationSnapshot

end Veyra
