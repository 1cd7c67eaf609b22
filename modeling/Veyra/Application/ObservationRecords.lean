import Veyra.Application.SwitchProgress
import Veyra.Platform.PrivateRuntime

/-!
# Veyra.Application.ObservationRecords

What the controller, its worker and the sampler record: a switch carries an
error exactly in the phases that have one, only `record_subscription_ready`
reports `Ready`, and the applied tuple is that of a valid state.  The
observation that the records leave is as sound, and so are the operations and
nodes that are remembered beside it.

One lemma per operation says that it keeps all of this, whatever it finds; so
every run does (`Reached.sound`).  The totals that a core reports come from
outside, so the limit that they keep is a parameter.
-/

namespace Veyra

open Check ProxyRouting Transition

/-! ## Sound records -/

/-- The operation id of 16 random bytes. -/
def operationIdOf (entropy : List UInt8) : String :=
  String.ofList (entropy.flatMap fun value => lowerHex 2 value.toNat)

/-- An operation id that was drawn. -/
def Drawn (operationId : String) : Prop :=
  ∃ entropy : List UInt8, entropy.length = 16 ∧ operationId = operationIdOf entropy

theorem Drawn.ne_empty {operationId : String} (h : Drawn operationId) : operationId ≠ "" := by
  obtain ⟨entropy, hlength, rfl⟩ := h
  have hdigits : ∀ values : List UInt8,
      (values.flatMap fun value => lowerHex 2 value.toNat).length = 2 * values.length := by
    intro values
    induction values with
    | nil => rfl
    | cons value values ih =>
      rw [List.flatMap_cons, List.length_append, ih, lowerHex_length, List.length_cons]
      omega
  intro hempty
  have hnone := congrArg (fun s : String => s.toList.length) hempty
  simp only [operationIdOf, String.toList_ofList, hdigits, hlength] at hnone
  cases hnone

/-- The error codes that a phase can have. -/
def SubscriptionSwitchStatus.Allows (status : SubscriptionSwitchStatus)
    (code : Option SubscriptionSwitchErrorCode) : Prop :=
  match status with
  | .failed => ∃ error, code = some error ∧ error ≠ .cancelled
  | .cancelled => code = some .cancelled
  | .queued | .checking | .prepared | .persisted | .applying | .ready => code = none

/-- A switch with an operation, whose error is one of its phase. -/
structure SubscriptionSwitch.Sound (change : SubscriptionSwitch) : Prop where
  operationId : change.operationId ≠ ""
  errorCode : change.status.Allows change.errorCode

/-- Totals up to a limit. -/
structure TrafficObservation.Within (limit : UInt64) (traffic : TrafficObservation) : Prop where
  upload : traffic.uploadTotalBytes ≤ limit
  download : traffic.downloadTotalBytes ≤ limit

/-- A sample whose totals are within the limit. -/
def ClashRuntimeObservation.Within (limit : UInt64) (observation : ClashRuntimeObservation) :
    Prop :=
  ∀ traffic, observation.traffic = some traffic → traffic.Within limit

/-- A sample may have any totals that a core can report. -/
theorem ClashRuntimeObservation.within_all (observation : ClashRuntimeObservation) :
    observation.Within 0xffffffffffffffff := by
  have hall : ∀ n : UInt64, n ≤ 0xffffffffffffffff := fun n =>
    UInt64.le_iff_toNat_le.mpr (Nat.le_of_lt_succ n.toNat_lt)
  exact fun traffic _ => ⟨hall _, hall _⟩

/-- A record of the forms that the operations write, with totals up to a limit. -/
def Record.Sound (limit : UInt64) : Record → Prop
  | .managedObservation observation => observation.Within limit
  | .managedSample observation coreMemoryBytes =>
    observation.Within limit ∧ ∀ bytes, coreMemoryBytes = some bytes → bytes ≤ maxSafeInteger
  | .subscriptionSwitch change => change.Sound ∧ change.status ≠ .ready
  | .subscriptionReady id generation operationId _ =>
    id ≠ "" ∧ generation ≤ maxSafeInteger ∧ operationId ≠ some ""
  | .managedReady | .managedStopped | .managedRecovery | .managedFailure .. => True

/-! ## Sound observations -/

namespace RuntimeObservationSnapshot

/-- The applied tuple is whole or missing, and a script can hold it. -/
def AppliedSound (s : RuntimeObservationSnapshot) : Prop :=
  (s.appliedSubscriptionId = none ∧ s.appliedConfigurationGeneration = none) ∨
    ∃ id generation, s.appliedSubscriptionId = some id ∧
      s.appliedConfigurationGeneration = some generation ∧ id ≠ "" ∧ generation ≤ maxSafeInteger

/-- What holds between the fields other than the history, with totals up to a limit. -/
structure FieldsSound (limit : UInt64) (s : RuntimeObservationSnapshot) : Prop where
  traffic : s.traffic.Within limit
  memory : ∀ bytes, s.coreMemoryBytes = some bytes → bytes ≤ maxSafeInteger
  applied : s.AppliedSound
  switched : ∀ change, s.subscriptionSwitch = some change → change.Sound
  ready : ∀ change, s.subscriptionSwitch = some change → change.status = .ready →
    s.sidecarLifecycle = .ready ∧ s.appliedSubscriptionId.isSome = true

variable {s : RuntimeObservationSnapshot} {record : Record} {limit : UInt64}

theorem within_default : TrafficObservation.default.Within limit :=
  ⟨UInt64.le_iff_toNat_le.mpr (Nat.zero_le _), UInt64.le_iff_toNat_le.mpr (Nat.zero_le _)⟩

theorem FieldsSound.mock : mock.FieldsSound limit where
  traffic := within_default
  memory _ h := by cases h
  applied := .inl ⟨rfl, rfl⟩
  switched _ h := by cases h
  ready _ h := by cases h

/-- A sample shows the runtime as ready, with its own totals. -/
theorem FieldsSound.applyManagedObservation (h : s.FieldsSound limit)
    {observation : ClashRuntimeObservation} (hsound : observation.Within limit) :
    (s.applyManagedObservation observation).FieldsSound limit := by
  have hready : ∀ change, s.subscriptionSwitch = some change → change.status = .ready →
      ObservedSidecarLifecycle.ready = .ready ∧ s.appliedSubscriptionId.isSome = true :=
    fun change hchange hstatus => ⟨rfl, (h.ready change hchange hstatus).2⟩
  obtain ⟨connections, traffic, latestLog⟩ := observation
  have hfields : ({ s with
      source := .managedSidecar
      sidecarLifecycle := .ready
      connections := ⟨connections.connectionCount⟩ } :
        RuntimeObservationSnapshot).FieldsSound limit :=
    ⟨h.traffic, h.memory, h.applied, h.switched, hready⟩
  rw [RuntimeObservationSnapshot.applyManagedObservation]
  cases traffic with
  | none =>
    cases latestLog with
    | none => exact hfields
    | some log => exact ⟨h.traffic, h.memory, h.applied, h.switched, hready⟩
  | some traffic =>
    have htraffic : traffic.Within limit := hsound traffic rfl
    cases latestLog with
    | none => exact ⟨htraffic, h.memory, h.applied, h.switched, hready⟩
    | some log => exact ⟨htraffic, h.memory, h.applied, h.switched, hready⟩

/-- The switch that is left was there, and not ready. -/
theorem dropReadySwitch_some {change : SubscriptionSwitch}
    (h : s.dropReadySwitch = some change) :
    s.subscriptionSwitch = some change ∧ change.status ≠ .ready := by
  rw [dropReadySwitch] at h
  split at h
  · cases h
  · next hnot =>
    rw [h] at hnot
    exact ⟨h, by simpa using hnot⟩

theorem FieldsSound.managedRecovery (h : s.FieldsSound limit) :
    s.managedRecovery.FieldsSound limit where
  traffic := within_default
  memory _ hbytes := by cases hbytes
  applied := h.applied
  switched change hchange := h.switched change (dropReadySwitch_some hchange).1
  ready _ hchange hstatus := absurd hstatus (dropReadySwitch_some hchange).2

/-- A change of the lifecycle keeps the fields sound: a switch that is ready is dropped with it. -/
theorem FieldsSound.withLifecycle (h : s.FieldsSound limit)
    (lifecycle : Option ObservedSidecarLifecycle) :
    (s.withLifecycle lifecycle).FieldsSound limit := by
  cases lifecycle with
  | none => exact h
  | some lifecycle =>
    rw [RuntimeObservationSnapshot.withLifecycle]
    split
    · -- the runtime is down, and so is every ready switch
      exact ⟨within_default, fun _ hbytes => (by cases hbytes), .inl ⟨rfl, rfl⟩,
        fun change hchange => h.switched change (dropReadySwitch_some hchange).1,
        fun change hchange hstatus => absurd hstatus (dropReadySwitch_some hchange).2⟩
    · next hready =>
      have hready : lifecycle = .ready := by simpa using hready
      exact ⟨h.traffic, h.memory, h.applied, h.switched,
        fun change hchange hstatus => ⟨hready, (h.ready change hchange hstatus).2⟩⟩

/-- **Step lemma.**  A sound record keeps what holds between the fields. -/
theorem FieldsSound.change (h : s.FieldsSound limit) (hrecord : record.Sound limit) :
    (record.change s).FieldsSound limit := by
  cases record with
  | managedObservation observation => exact h.applyManagedObservation hrecord
  | managedSample observation bytes =>
    have hsample := h.applyManagedObservation hrecord.1
    exact ⟨hsample.traffic, hrecord.2, hsample.applied, hsample.switched, hsample.ready⟩
  | managedReady | managedStopped =>
    exact ⟨within_default, fun _ hbytes => (by cases hbytes), .inl ⟨rfl, rfl⟩,
      fun _ hchange => (by cases hchange), fun _ hchange => (by cases hchange)⟩
  | managedRecovery => exact h.managedRecovery
  | managedFailure lifecycle failure =>
    have hlifecycle := h.withLifecycle lifecycle
    exact ⟨hlifecycle.traffic, hlifecycle.memory, hlifecycle.applied, hlifecycle.switched,
      hlifecycle.ready⟩
  | subscriptionSwitch change =>
    obtain ⟨hsound, hstatus⟩ := hrecord
    rw [Record.change]
    split
    · refine ⟨h.traffic, h.memory, h.applied, ?_, ?_⟩
      · intro change' hchange
        cases hchange
        exact hsound
      · intro change' hchange hready
        cases hchange
        exact absurd hready hstatus
    · exact h
  | subscriptionReady id generation operationId available =>
    obtain ⟨hid, hgeneration, hop⟩ := hrecord
    refine ⟨within_default, fun _ hbytes => (by cases hbytes),
      .inr ⟨id, generation, rfl, rfl, hid, hgeneration⟩, ?_, fun _ _ _ => ⟨rfl, rfl⟩⟩
    intro change hchange
    obtain ⟨op, hsome, rfl⟩ := Option.map_eq_some_iff.mp hchange
    refine ⟨fun hempty => hop ?_, rfl⟩
    have hempty : op = "" := hempty
    rw [hsome, hempty]

/-- The history and the clock are not among these fields. -/
theorem FieldsSound.withHistory (h : s.FieldsSound limit)
    (trafficHistory : List TrafficHistoryPoint) :
    ({ s with trafficHistory } : RuntimeObservationSnapshot).FieldsSound limit :=
  ⟨h.traffic, h.memory, h.applied, h.switched, h.ready⟩

/-- Reading the clock changes no field that is checked. -/
theorem FieldsSound.refreshObservedTime (h : s.FieldsSound limit) (now : UInt64) :
    (s.refreshObservedTime now).FieldsSound limit :=
  ⟨h.traffic, h.memory, h.applied, h.switched, h.ready⟩

/-- Pruning the history changes no other field. -/
theorem FieldsSound.pruneTrafficHistory (h : s.FieldsSound limit) :
    s.pruneTrafficHistory.FieldsSound limit := h.withHistory _

theorem FieldsSound.withRevision (h : s.FieldsSound limit) (revision : UInt64) :
    ({ s with revision } : RuntimeObservationSnapshot).FieldsSound limit :=
  ⟨h.traffic, h.memory, h.applied, h.switched, h.ready⟩

/-- What a reader is shown is sound. -/
theorem FieldsSound.read (h : s.FieldsSound limit) (now : UInt64) :
    (s.read now).FieldsSound limit :=
  (h.refreshObservedTime now).pruneTrafficHistory

/-- Every sound record leaves sound fields. -/
theorem FieldsSound.update (h : s.FieldsSound limit) (now : UInt64) (hrecord : record.Sound limit) :
    (s.update now fun s => record.change s).FieldsSound limit :=
  ((h.refreshObservedTime now).change hrecord).pruneTrafficHistory.withRevision _

end RuntimeObservationSnapshot

/-! ## What is kept -/

/-- The tuple of a projection and the members of its pools are those of a valid state. -/
structure SelectedRuntimeProjection.Sound (p : SelectedRuntimeProjection) : Prop where
  id : p.selectedSubscriptionId.val ≠ ""
  generation : p.selectedGeneration ≤ maxSafeInteger
  members : ∀ pool ∈ p.runtimeIntent.pools, ∀ id ∈ pool.members, id.val ≠ ""

/-- The active subscription of a valid state has an id. -/
theorem AppState.Valid.activeId_ne {s : AppState} (h : s.Valid) {id : SubscriptionId}
    (hactive : s.activeSubscriptionId = some id) : id.val ≠ "" := by
  obtain ⟨sub, hsub, rfl⟩ := h.active id hactive
  have hblank := (uniqueIds_eq_ok.mp h.subscriptionIds).1 sub.id.val
    (List.mem_map_of_mem (f := (·.id.val)) hsub)
  exact Text.ne_empty_of_not_blank hblank

/-- A projection of a valid state names subscriptions, pools and nodes that have ids. -/
theorem sound_of_project {s : AppState} {p : SelectedRuntimeProjection}
    (h : projectSelectedRuntime s = .ok p) : p.Sound := by
  obtain ⟨hvalid, hactive, hgeneration, -⟩ := projectSelectedRuntime_ok h
  refine ⟨hvalid.activeId_ne hactive, hgeneration ▸ hvalid.generation, fun pool hpool id hid => ?_⟩
  obtain ⟨node, hnode, rfl⟩ := projected_members h hpool hid
  have hnode := ((mem_projected_nodes h).mp hnode).1
  have hblank := (uniqueIds_eq_ok.mp hvalid.nodeIds).1 node.id.val
    (List.mem_map_of_mem (f := (·.id.val)) hnode)
  exact Text.ne_empty_of_not_blank hblank

/-- What is loaded for a start has these ids too. -/
theorem sound_of_load {loaded : Except LoadRuntimeIntentError AppState}
    {p : SelectedRuntimeProjection} (h : ManagedRuntime.loadRuntimeIntent loaded = .ok p) :
    p.Sound := by
  obtain ⟨state, -, h⟩ := ok_bind.mp h
  obtain ⟨-, h⟩ := ok_seq.mp h
  exact sound_of_project (mapError_eq_ok.mp h)

/-- The ids that are remembered are there: the operation of a refused apply, the nodes of the
selector index, and those that were read back. -/
structure IdsSound (terminal : Option RoutingApplyTerminal) (index : Option AppliedRoutingIndex)
    (nodes : PoolId → Option NodeId) : Prop where
  terminal : ∀ refused, terminal = some refused → refused.operationId ≠ ""
  index : ∀ held, index = some held → ∀ pool, ∀ member ∈ held.members pool, member.1.val ≠ ""
  nodes : ∀ pool id, nodes pool = some id → id.val ≠ ""

/-- The index of a sound projection names no empty node. -/
theorem SelectedRuntimeProjection.Sound.index {p : SelectedRuntimeProjection} (h : p.Sound)
    (pool : PoolId) :
    ∀ member ∈ (AppliedRoutingIndex.fromProjection p).members pool, member.1.val ≠ "" := by
  intro member hmember
  rw [AppliedRoutingIndex.members] at hmember
  obtain hnone | ⟨entry, hentry⟩ := Option.eq_none_or_eq_some
    ((AppliedRoutingIndex.fromProjection p).poolMembers.find? (·.1 = pool))
  · rw [hnone] at hmember
    exact absurd hmember List.not_mem_nil
  · rw [hentry] at hmember
    obtain ⟨source, hsource, rfl⟩ := List.mem_map.mp (List.mem_of_find?_eq_some hentry)
    obtain ⟨id, hid, rfl⟩ := List.mem_map.mp hmember
    exact h.members source hsource id hid

namespace ManagedRuntime

variable {P Bytes Value : Type}

/-- What is kept is sound: the records so far, the observation, and the ids. -/
def AllSound (limit : UInt64) (w : ManagedRuntime P Bytes) : Prop :=
  (∀ record ∈ w.recorded, record.Sound limit) ∧ w.observations.FieldsSound limit ∧
    IdsSound w.routingApplyTerminal w.appliedRoutingIndex w.selectorRuntimeNodes

section Operations

variable {w : ManagedRuntime P Bytes} {r : SidecarRuntime P Bytes} {op : String}
  {p : SelectedRuntimeProjection} {limit : UInt64}

/-- **Step.**  A sound record keeps everything sound. -/
theorem AllSound.record (h : w.AllSound limit) {record : Record} (hrecord : record.Sound limit) :
    (w.record record).AllSound limit := by
  obtain ⟨hrecords, hobserved, hids⟩ := h
  refine ⟨fun r hr => ?_, hobserved.update w.now hrecord, hids⟩
  rw [ManagedRuntime.record, List.mem_append, List.mem_singleton] at hr
  cases hr with
  | inl hold => exact hrecords r hold
  | inr hnew => exact hnew ▸ hrecord

/-- The child is not observed. -/
theorem AllSound.withRuntime (h : w.AllSound limit) (r : SidecarRuntime P Bytes) :
    (w.withRuntime r).AllSound limit := h

/-- A failure may be recorded in every lifecycle. -/
theorem AllSound.failure (h : w.AllSound limit) (lifecycle : Option ObservedSidecarLifecycle)
    (failure : ManagedRuntimeFailure) :
    (w.record (.managedFailure lifecycle failure)).AllSound limit :=
  h.record trivial

/-- A phase without an error. -/
theorem AllSound.phase (h : w.AllSound limit) (hop : op ≠ "") (status : SubscriptionSwitchStatus)
    (hstatus : status.isTerminal = false) : (w.switchPhase op status none).AllSound limit := by
  refine h.record ⟨⟨hop, ?_⟩, ?_⟩
  · cases status <;> first | rfl | cases hstatus
  · intro hready
    have hready : status = .ready := hready
    rw [hready] at hstatus
    cases hstatus

/-- A phase that failed. -/
theorem AllSound.failed (h : w.AllSound limit) (hop : op ≠ "") {code : SubscriptionSwitchErrorCode}
    (hcode : code ≠ .cancelled) : (w.switchPhase op .failed (some code)).AllSound limit :=
  h.record ⟨⟨hop, code, rfl, hcode⟩, by simp⟩

/-- A cancelled switch carries the error for it. -/
theorem AllSound.cancelled (h : w.AllSound limit) (hop : op ≠ "") :
    (w.switchPhase op .cancelled (some .cancelled)).AllSound limit :=
  h.record ⟨⟨hop, rfl⟩, by simp⟩

/-- The runtime becomes ready with a tuple that it applied. -/
theorem AllSound.becomeReady (h : w.AllSound limit) (r : SidecarRuntime P Bytes) (hp : p.Sound)
    {operationId : Option String} (hop : operationId ≠ some "") :
    (w.becomeReady r p operationId).AllSound limit :=
  (h.withRuntime r).record ⟨hp.id, hp.generation, hop⟩

theorem some_ne_empty (hop : op ≠ "") : some op ≠ some "" := fun h => hop (Option.some.inj h)

/-! ### The selector index and the refused apply -/

/-- A new index comes from a sound projection. -/
theorem AllSound.installIndex (h : w.AllSound limit) (hp : p.Sound) :
    (w.installIndex p).AllSound limit := by
  obtain ⟨hrecords, hobserved, hids⟩ := h
  refine ⟨hrecords, hobserved, hids.terminal, fun held heq => ?_, fun _ _ heq => by cases heq⟩
  cases heq
  exact hp.index

/-- Without an index there is nothing to be named. -/
theorem AllSound.clearIndex (h : w.AllSound limit) : w.clearIndex.AllSound limit := by
  obtain ⟨hrecords, hobserved, hids⟩ := h
  exact ⟨hrecords, hobserved, hids.terminal, fun _ heq => (by cases heq),
    fun _ _ heq => (by cases heq)⟩

/-- A routing terminal names the operation that was refused. -/
theorem AllSound.withTerminal (h : w.AllSound limit) {terminal : Option RoutingApplyTerminal}
    (hterminal : ∀ refused, terminal = some refused → refused.operationId ≠ "") :
    ({ w with routingApplyTerminal := terminal } : ManagedRuntime P Bytes).AllSound limit := by
  obtain ⟨hrecords, hobserved, hids⟩ := h
  exact ⟨hrecords, hobserved, hterminal, hids.index, hids.nodes⟩

/-- A selector that is forgotten is one fewer to be named. -/
theorem AllSound.forgetSelector (h : w.AllSound limit) (pool : PoolId) :
    (w.forgetSelector pool).AllSound limit := by
  obtain ⟨hrecords, hobserved, hids⟩ := h
  refine ⟨hrecords, hobserved, hids.terminal, hids.index, fun other id hid => ?_⟩
  rw [ManagedRuntime.forgetSelector] at hid
  dsimp only at hid
  split at hid
  · cases hid
  · exact hids.nodes other id hid

/-- A selector that was read back names a node of the index. -/
theorem AllSound.readBack (h : w.AllSound limit) (pool : PoolId) {node : NodeId}
    (hnode : node.val ≠ "") : (w.readBack pool node).AllSound limit := by
  obtain ⟨hrecords, hobserved, hids⟩ := h
  refine ⟨hrecords, hobserved, hids.terminal, hids.index, fun other id hid => ?_⟩
  rw [ManagedRuntime.readBack] at hid
  dsimp only at hid
  split at hid
  · cases hid
    exact hnode
  · exact hids.nodes other id hid

/-! ### Start, stop and samples -/

/-- A start records a lifecycle, and the tuple of its projection once it is ready. -/
theorem AllSound.startStoppedRuntime [DecidableEq Value] {env : RuntimeEnv P Bytes Value}
    (h : w.AllSound limit) (hp : p.Sound) (secret : Option String) :
    (w.startStoppedRuntime env r p secret).2.AllSound limit := by
  rw [ManagedRuntime.startStoppedRuntime]
  cases compileProjection env p secret with
  | none => exact (h.withRuntime r).failure _ _
  | some candidate =>
    dsimp only
    cases r.startOrReplace env.port candidate with
    | mk result r' =>
      cases result with
      | ok => exact h.becomeReady r' hp (by simp)
      | error e =>
        dsimp only
        split
        · exact (h.withRuntime r').failure _ _
        · exact (h.withRuntime r').failure _ _

/-- The same with a child that may have to be created first. -/
theorem AllSound.startRuntime [DecidableEq Value] {env : RuntimeEnv P Bytes Value}
    (h : w.AllSound limit) (hp : p.Sound) (created : Option P) (secret : Option String) :
    (w.startRuntime env p created secret).2.AllSound limit := by
  rw [ManagedRuntime.startRuntime.eq_def]
  cases w.runtime with
  | none =>
    cases created with
    | none => exact h.failure _ _
    | some port => exact h.startStoppedRuntime hp secret
  | some active =>
    dsimp only
    cases active.lifecycle with
    | ready => exact h
    | stopped => exact h.startStoppedRuntime hp secret
    | recoveryRequired => exact h.failure _ _

/-- `start` records nothing before it has a projection. -/
theorem AllSound.start [DecidableEq Value] {env : RuntimeEnv P Bytes Value} (h : w.AllSound limit)
    (loaded : Except LoadRuntimeIntentError AppState) (shuttingDown : Bool) (created : Option P)
    (secret : Option String) :
    (w.start env loaded shuttingDown created secret).2.AllSound limit := by
  rw [ManagedRuntime.start]
  cases hintent : loadRuntimeIntent loaded with
  | error e =>
    cases e with
    | unavailable => exact h.failure _ _
    | busy | selectionRequired | configuration => exact h
  | ok intent =>
    have hsound := sound_of_load hintent
    have hstarted : (w.startRuntime env intent created secret).2.AllSound limit :=
      h.startRuntime hsound created secret
    dsimp only
    rw [runStart]
    split
    · exact h
    · revert hstarted
      cases w.startRuntime env intent created secret with
      | mk result w' =>
        intro hstarted
        cases result with
        | started => exact hstarted.installIndex hsound
        | _ => exact hstarted

/-- A stop takes the applied tuple away. -/
theorem AllSound.runStop (h : w.AllSound limit) (io : SidecarPort P Bytes) :
    (w.runStop io).2.AllSound limit := by
  have hstopped : (w.stopRuntime io).2.AllSound limit := by
    rw [stopRuntime.eq_def]
    cases w.runtime with
    | none => exact h.record trivial
    | some r =>
      dsimp only
      split
      · exact h.record trivial
      · cases r.stop io with
        | mk result r' => cases result <;> exact (h.withRuntime r').record trivial
      · cases r.stop io with
        | mk result r' => cases result <;> exact (h.withRuntime r').record trivial
  rw [ManagedRuntime.runStop]
  revert hstopped
  cases w.stopRuntime io with
  | mk result w' =>
    intro hstopped
    cases result with
    | stopped | alreadyStopped => exact hstopped.clearIndex
    | stopFailed | busy => exact hstopped

/-- The worker keeps only memory sizes that a script can hold. -/
theorem AllSound.sampleRuntime (h : w.AllSound limit) (io : SidecarPort P Bytes) {a : SampleAnswers}
    (ha : ∀ observation, a.observation = some observation → observation.Within limit) :
    (w.sampleRuntime io a).AllSound limit := by
  rw [ManagedRuntime.sampleRuntime.eq_def]
  cases w.runtime with
  | none => exact h
  | some r =>
    dsimp only
    split
    · exact h
    · cases hread : a.observation with
      | some observation =>
        refine h.record ⟨ha observation hread, fun bytes hbytes => ?_⟩
        -- the worker drops a size that a script could not hold
        exact of_decide_eq_true (Option.mem_filter_iff.mp hbytes).2
      | none =>
        dsimp only
        cases r.recoverActiveFailure io with
        | mk result r' => cases result <;> exact (h.withRuntime r').failure _ _

/-! ### Activation -/

/-- A routing apply is queued under the id that was drawn for it. -/
theorem AllSound.queueRouting (h : w.AllSound limit) {call : ActivationCall}
    (hop : call.operationId ≠ "") (expected : AppState) :
    (w.queueRouting call expected).AllSound limit := by
  rw [ManagedRuntime.queueRouting]
  split
  · have hcleared :
        ({ w with routingApplyTerminal := none } : ManagedRuntime P Bytes).AllSound limit :=
      h.withTerminal fun _ heq => by cases heq
    exact hcleared.phase hop _ rfl
  · exact h

/-- A refusal is recorded with an error, and with the tuple that was found. -/
theorem AllSound.recordRefusal (h : w.AllSound limit) {call : ActivationCall}
    (hop : call.operationId ≠ "") (error : ActivationError) (observed : Option AppState) :
    (w.recordRefusal call error observed).AllSound limit := by
  rw [ManagedRuntime.recordRefusal]
  split
  · next failure _ _ =>
    have hqueued : ∀ terminal : RoutingApplyTerminal, terminal.operationId = call.operationId →
        (({ w with routingApplyTerminal := some terminal } : ManagedRuntime P Bytes).switchPhase
          call.operationId .queued none).AllSound limit := by
      intro terminal hsame
      refine (h.withTerminal fun refused heq => ?_).phase hop .queued rfl
      cases heq
      exact hsame ▸ hop
    cases failure with
    | configurationFailed => exact (hqueued _ rfl).failed hop (by decide)
    | stateChanged => exact (hqueued _ rfl).cancelled hop
  · exact h

/-- No failure of the runtime is shown as a cancellation. -/
theorem activationFailure_code (lifecycle : SidecarLifecycle) (error : SidecarError) :
    (activationFailure lifecycle error).2.1 ≠ .cancelled := by
  rw [activationFailure.eq_def]
  split
  · simp
  · split
    · simp
    · split <;> simp

/-- A failed replacement fails the switch with an error of its own. -/
theorem AllSound.runtimeFailure (h : w.AllSound limit) (hop : op ≠ "") (r : SidecarRuntime P Bytes)
    (error : SidecarError) : (w.activationRuntimeFailure r op error).2.AllSound limit :=
  ((h.withRuntime r).failure _ _).failed hop (activationFailure_code r.lifecycle error)

/-- A preparation that cannot be undone needs recovery; otherwise what follows decides. -/
theorem AllSound.cancelThen (h : w.AllSound limit) (hop : op ≠ "") (io : SidecarPort P Bytes)
    (r : SidecarRuntime P Bytes)
    {next : ManagedRuntime P Bytes → ActivationResult × ManagedRuntime P Bytes}
    (hnext : ∀ w' : ManagedRuntime P Bytes, w'.AllSound limit → (next w').2.AllSound limit) :
    (w.cancelThen io r op next).2.AllSound limit := by
  rw [ManagedRuntime.cancelThen]
  cases r.cancelPrepared io with
  | mk result r' =>
    cases result with
    | ok => exact hnext _ (h.withRuntime r')
    | error e => exact h.runtimeFailure hop r' e

/-- No error of a commit is shown as a cancellation. -/
theorem commitErrorCode_ne (error : ActivationError) : commitErrorCode error ≠ .cancelled := by
  cases error <;> decide

/-- After the commit the switch is applied or fails. -/
theorem AllSound.replaceInstance (h : w.AllSound limit) (io : SidecarPort P Bytes)
    (r : SidecarRuntime P Bytes) {request : ActivationRequest Bytes}
    (hop : request.operationId ≠ "") (hp : request.plan.projection.Sound) :
    (w.replaceInstance io r request).2.AllSound limit := by
  have happlying := (h.phase hop .persisted rfl).phase hop .applying rfl
  rw [ManagedRuntime.replaceInstance]
  dsimp only
  cases r.commitPrepared io with
  | mk result r' =>
    cases result with
    | error e => exact happlying.runtimeFailure hop r' e
    | ok =>
      have hready := happlying.becomeReady r' hp (some_ne_empty hop)
      dsimp only
      split <;> exact hready

/-- Every exit of `apply_activation`. -/
theorem AllSound.applyActivation (h : w.AllSound limit) (io : SidecarPort P Bytes)
    (r : SidecarRuntime P Bytes) {request : ActivationRequest Bytes}
    (hop : request.operationId ≠ "") (hp : request.plan.projection.Sound) (a : CommitAnswers)
    (disk : AppState) : (w.applyActivation io r request a disk).1.2.AllSound limit := by
  have hchecking := h.phase hop .checking rfl
  rw [ManagedRuntime.applyActivation]
  cases r.prepareReplacement io request.config with
  | mk result r' =>
    cases result with
    | error e => exact hchecking.runtimeFailure hop r' e
    | ok =>
      have hprepared := (hchecking.withRuntime r').phase hop .prepared rfl
      dsimp only
      split
      · exact hprepared.cancelThen hop io r' fun _ h' => h'.cancelled hop
      · cases persistActivation request.plan a disk with
        | mk persisted after =>
          cases persisted with
          | error e =>
            exact hprepared.cancelThen hop io r' fun w' h' =>
              (h'.failure none .configuration).failed hop (commitErrorCode_ne e)
          | ok goesOn =>
            cases goesOn with
            | false => exact hprepared.cancelThen hop io r' fun _ h' => h'.cancelled hop
            | true => exact hprepared.replaceInstance io r' hop hp

/-- The worker's part of an activation. -/
theorem AllSound.runActivation (h : w.AllSound limit) (io : SidecarPort P Bytes)
    {request : ActivationRequest Bytes} (hop : request.operationId ≠ "")
    (hp : request.plan.projection.Sound) (created : Option P) (a : CommitAnswers)
    (disk : AppState) : (w.runActivation io request created a disk).1.2.AllSound limit := by
  have hqueued := h.phase hop .queued rfl
  have hsettled : ∀ {result : ActivationResult × ManagedRuntime P Bytes}, result.2.AllSound limit →
      (settleActivation request.plan.projection result).2.AllSound limit := by
    intro result hresult
    rw [settleActivation.eq_def]
    split
    · exact hresult.installIndex hp
    · exact hresult.installIndex hp
    · dsimp only
      split
      · exact hresult.clearIndex
      · exact hresult
  rw [ManagedRuntime.runActivation]
  dsimp only
  split
  · exact hqueued.failed hop (by decide)
  · next r _ => exact hsettled ((hqueued.withRuntime r).applyActivation io r hop hp a disk)

/-! ### Selectors -/

/-- A member of the index is found. -/
theorem AllSound.member (h : w.AllSound limit) {index : AppliedRoutingIndex}
    (hindex : w.currentIndex = some index) {pool : PoolId} {node : NodeId} {tags : RuntimeTags}
    (hmember : (node, tags) ∈ index.members pool) : node.val ≠ "" :=
  h.2.2.index index (Option.filter_eq_some_iff.mp hindex).1 pool _ hmember

/-- A selector chosen by hand is read back as one of the index, if at all. -/
theorem AllSound.reconcileManualSelection (h : w.AllSound limit) (pool : PoolId) (node : NodeId)
    (a : SelectorAnswers) :
    (w.reconcileManualSelection pool node a).2.AllSound limit ∧
      ∀ id, (w.reconcileManualSelection pool node a).1 = .notApplied id → id.val ≠ "" := by
  have hkept : ∀ {answer : ManualSelectionRuntimeResult}, (∀ id, answer ≠ .notApplied id) →
      w.AllSound limit ∧ ∀ id, answer = .notApplied id → id.val ≠ "" :=
    fun hanswer => ⟨h, fun id heq => absurd heq (hanswer id)⟩
  have hforgotten : ∀ {answer : ManualSelectionRuntimeResult}, (∀ id, answer ≠ .notApplied id) →
      (w.forgetSelector pool).AllSound limit ∧ ∀ id, answer = .notApplied id → id.val ≠ "" :=
    fun hanswer => ⟨h.forgetSelector pool, fun id heq => absurd heq (hanswer id)⟩
  rw [ManagedRuntime.reconcileManualSelection.eq_def]
  cases w.runtime with
  | none => exact hkept fun _ heq => by cases heq
  | some r =>
    dsimp only
    cases r.lifecycle with
    | stopped | recoveryRequired => exact hkept fun _ heq => by cases heq
    | ready =>
      dsimp only
      split
      · exact hkept fun _ heq => by cases heq
      · cases hindex : w.currentIndex with
        | none => exact hkept fun _ heq => by cases heq
        | some index =>
          dsimp only
          split
          · exact hkept fun _ heq => by cases heq
          · split
            · exact hkept fun _ heq => by cases heq
            · split
              · exact hkept fun _ heq => by cases heq
              · split
                · exact hforgotten fun _ heq => by cases heq
                · split
                  · exact hforgotten fun _ heq => by cases heq
                  · rw [classifySelectorReadBack]
                    split
                    · exact hforgotten fun _ heq => by cases heq
                    · next found _ hfound =>
                      have hfound := h.member hindex (List.mem_of_find?_eq_some hfound)
                      refine ⟨h.readBack pool hfound, fun id heq => ?_⟩
                      dsimp only at heq
                      split at heq
                      · cases heq
                      · cases heq
                        exact hfound

/-! ### Saving a document -/

/-- No error of a document save is shown as a cancellation. -/
theorem switchCode_ne (error : DocumentSaveError) : error.switchCode ≠ .cancelled := by
  cases error <;> decide

/-- Nor is one of the child that runs the document. -/
theorem documentFailure_code (lifecycle : SidecarLifecycle) (error : SidecarError) :
    (documentFailure lifecycle error).2.1 ≠ .cancelled := by
  rw [documentFailure]
  split
  · simp
  · split <;> simp

/-- A failed save fails its switch. -/
theorem AllSound.failedDocumentSwitch (h : w.AllSound limit) (hop : op ≠ "")
    (error : DocumentSaveError) : (w.failedDocumentSwitch op error).2.AllSound limit :=
  h.failed hop (switchCode_ne error)

/-- A save is undone before its switch fails. -/
theorem AllSound.cancelDocument (h : w.AllSound limit) (hop : op ≠ "") (io : SidecarPort P Bytes)
    (r : SidecarRuntime P Bytes) (error : DocumentSaveError) :
    (w.cancelDocument io r op error).2.AllSound limit := by
  rw [ManagedRuntime.cancelDocument]
  cases r.cancelPrepared io with
  | mk result r' =>
    cases result with
    | ok => exact (h.withRuntime r').failedDocumentSwitch hop error
    | error e => exact ((h.withRuntime r').failure _ _).failedDocumentSwitch hop .recoveryRequired

/-- After the save the child is replaced, or the save was too late. -/
theorem AllSound.replaceDocument (h : w.AllSound limit) (hop : op ≠ "") (io : SidecarPort P Bytes)
    (r : SidecarRuntime P Bytes) {generation : UInt64}
    (hp : ({ p with selectedGeneration := generation } : SelectedRuntimeProjection).Sound)
    (late : Bool) : (w.replaceDocument io r op p generation late).2.AllSound limit := by
  have hpersisted := h.phase hop .persisted rfl
  rw [ManagedRuntime.replaceDocument]
  dsimp only
  split
  · rw [ManagedRuntime.timeOutDocument]
    cases r.cancelPrepared io with
    | mk result r' =>
      cases result with
      | ok => exact (hpersisted.withRuntime r').failed hop (by decide)
      | error e => exact ((hpersisted.withRuntime r').failure _ _).failed hop (by decide)
  · have happlying := hpersisted.phase hop .applying rfl
    cases r.commitPrepared io with
    | mk result r' =>
      cases result with
      | ok => exact happlying.becomeReady r' hp (some_ne_empty hop)
      | error e =>
        exact ((happlying.withRuntime r').failure _ _).failed hop
          (documentFailure_code r'.lifecycle e)

/-- The part of a save with a new configuration. -/
theorem AllSound.switchDocument (h : w.AllSound limit) (hop : op ≠ "") (io : SidecarPort P Bytes)
    (r : SidecarRuntime P Bytes) (config : Bytes) {prepared : PreparedDocumentSave}
    (hp : projectSelectedRuntime prepared.next = .ok p) (a : DocumentAnswers P)
    (disk : AppState) : (w.switchDocument io r op p config prepared a disk).1.2.AllSound limit := by
  have hsaved : ({ p with selectedGeneration := prepared.next.activeConfigurationGeneration } :
      SelectedRuntimeProjection).Sound :=
    ⟨(sound_of_project hp).id, (projectSelectedRuntime_ok hp).1.generation,
      (sound_of_project hp).members⟩
  rw [ManagedRuntime.switchDocument]
  cases r.prepareReplacement io config with
  | mk result r' =>
    cases result with
    | error e =>
      dsimp only
      split
      · exact ((h.withRuntime r').failure _ _).failedDocumentSwitch hop _
      · exact (h.withRuntime r').failedDocumentSwitch hop _
    | ok =>
      have hprepared := (h.withRuntime r').phase hop .prepared rfl
      dsimp only
      split
      · exact hprepared.cancelDocument hop io r' _
      · cases commitDocument prepared a disk with
        | mk committed after =>
          cases committed with
          | error e => exact hprepared.cancelDocument hop io r' _
          | ok => exact hprepared.replaceDocument hop io r' hsaved _

/-- Every exit of a save, with the index after it. -/
theorem AllSound.runDocumentSave [DecidableEq Value] {env : RuntimeEnv P Bytes Value}
    (h : w.AllSound limit) (id : String) (hop : op ≠ "") (a : DocumentAnswers P) (disk : AppState) :
    (w.runDocumentSave env id op a disk).1.2.AllSound limit := by
  have hsettled : ∀ result : DocumentSaveResult × ManagedRuntime P Bytes,
      result.2.AllSound limit → (settleDocument a.reloaded result).2.AllSound limit := by
    intro result hresult
    rw [settleDocument.eq_def]
    split
    · dsimp only
      split
      · next hloaded => exact hresult.installIndex (sound_of_load hloaded)
      · exact hresult
    · dsimp only
      split
      · exact hresult.clearIndex
      · exact hresult
  have hphases := (h.phase hop .queued rfl).phase hop .checking rfl
  rw [ManagedRuntime.runDocumentSave]
  refine hsettled _ ?_
  rw [applyDocumentSave.eq_def]
  cases a.prepared with
  | error e => exact h
  | ok prepared =>
    dsimp only
    split
    · exact h
    · split
      · cases commitDocument prepared a disk with
        | mk committed after => cases committed <;> exact h
      · cases hprojected : projectSelectedRuntime prepared.next with
        | error e => exact hphases.failedDocumentSwitch hop _
        | ok p =>
          dsimp only
          cases compileProjection env p a.secret with
          | none => exact hphases.failedDocumentSwitch hop _
          | some config =>
            dsimp only
            split
            · exact hphases.failedDocumentSwitch hop _
            · next r _ =>
              exact (hphases.withRuntime r).switchDocument hop env.port r config hprojected a disk

end Operations

/-! ## Runs -/

/-- Operation ids are drawn. -/
def DrawsIds (_ : ManagedRuntime P Bytes) : RuntimeEvent P → Prop
  | .queue attempt | .refuse attempt | .activate attempt .. => Drawn attempt.call.operationId
  | .saveDocument _ operationId _ _ => Drawn operationId
  | .sample _ | .start .. | .stop | .selectManually .. | .unanswered | .tick _ => True

/-- What is sampled has totals up to a limit. -/
def SamplesWithin (limit : UInt64) : RuntimeEvent P → Prop
  | .sample a => ∀ observation, a.observation = some observation → observation.Within limit
  | .queue _ | .refuse _ | .activate .. | .saveDocument .. | .start .. | .stop
  | .selectManually .. | .unanswered | .tick _ => True

/-- Operation ids are drawn, and what is sampled has totals that a script holds. -/
def Genuine (w : ManagedRuntime P Bytes) (e : RuntimeEvent P) : Prop :=
  w.DrawsIds e ∧ SamplesWithin maxSafeInteger e

variable [DecidableEq Value] {env : RuntimeEnv P Bytes Value} {w w' : ManagedRuntime P Bytes}
  {limit : UInt64}

/-- **Step lemma.**  Each event of the controller and its worker, one case each. -/
theorem AllSound.step {e : RuntimeEvent P} (h : w.AllSound limit) (drawn : w.DrawsIds e)
    (within : SamplesWithin limit e) (next : ManagedRuntime.step env w e = some w') :
    w'.AllSound limit := by
  cases e with
  | start loaded shuttingDown created secret =>
    cases next
    exact h.start loaded shuttingDown created secret
  | stop =>
    cases next
    exact h.runStop env.port
  | queue attempt =>
    obtain ⟨expected, -, rfl⟩ := Option.map_eq_some_iff.mp next
    exact h.queueRouting (Drawn.ne_empty drawn) expected
  | refuse attempt =>
    obtain ⟨failure, -, rfl⟩ := Option.map_eq_some_iff.mp next
    exact h.recordRefusal (Drawn.ne_empty drawn) failure.1 failure.2
  | activate attempt created a disk =>
    obtain ⟨request, hsent, rfl⟩ := Option.map_eq_some_iff.mp next
    obtain ⟨expected, -, hpreflight⟩ := sends_eq_some hsent
    obtain ⟨hplan, hop, -, -⟩ := preflight_send hpreflight
    have hp := sound_of_project (planActivation_ok hplan).2.2.1
    exact h.runActivation env.port (hop ▸ Drawn.ne_empty drawn) hp created a disk
  | selectManually pool node a =>
    cases next
    exact (h.reconcileManualSelection pool node a).1
  | saveDocument id op a disk =>
    cases next
    exact h.runDocumentSave id (Drawn.ne_empty drawn) a disk
  | sample a =>
    cases next
    exact h.sampleRuntime env.port within
  | unanswered =>
    cases next
    exact h.failure none .worker
  | tick now =>
    cases next
    exact h

/-- A controller that has done nothing. -/
theorem AllSound.new : (ManagedRuntime.new : ManagedRuntime P Bytes).AllSound limit :=
  ⟨fun _ hr => (by cases hr), .mock, fun _ heq => (by cases heq), fun _ heq => (by cases heq),
    fun _ _ heq => (by cases heq)⟩

/-- Some run of the controller and its worker ends here, whatever was sampled. -/
def Reached (env : RuntimeEnv P Bytes Value) (w : ManagedRuntime P Bytes) : Prop :=
  ∃ events, Runs (ManagedRuntime.step env) DrawsIds .new events w

/-- **Run lemma.**  What every run keeps is sound. -/
theorem Reached.sound (h : w.Reached env) : w.AllSound 0xffffffffffffffff := by
  obtain ⟨events, run⟩ := h
  refine run.invariant (AllSound _) .new fun _ e _ h drawn next => h.step drawn ?_ next
  cases e with
  | sample a => exact fun observation _ => observation.within_all
  | _ => trivial

/-- A record that some run of the controller and its worker writes. -/
def Performed (env : RuntimeEnv P Bytes Value) (record : Record) : Prop :=
  ∃ events w, Runs (ManagedRuntime.step env) Genuine .new events w ∧ record ∈ w.recorded

/-- Every record that is performed is sound. -/
theorem Performed.sound {record : Record} (h : Performed env record) :
    record.Sound maxSafeInteger := by
  obtain ⟨events, w, run, hrecord⟩ := h
  have hall : w.AllSound maxSafeInteger :=
    run.invariant (AllSound _) .new fun _ _ _ h genuine next => h.step genuine.1 genuine.2 next
  exact hall.1 record hrecord

end ManagedRuntime

end Veyra
