import Veyra.Application.ManagedRuntime
import Veyra.Lib.Transition

/-!
# Veyra.Application.ApplyState

Whether the apply state that a snapshot shows is true.  Four records decide
it: the tuple that the state desires, the tuple that is observed as applied,
the switch record, and the failure of the last routing apply.  The last two
are written by one operation and read after another, so a failure can outlive
the configuration it was about.

`reports_applied_iff` says for which of them the report is right.
-/

namespace Veyra

open Check ProxyRouting Transition

/-! ## What should be reported -/

/-- The runtime is ready with the tuple that the state desires, and no switch is under way. -/
structure RuntimeObservationSnapshot.HasApplied (observation : RuntimeObservationSnapshot)
    (state : AppState) : Prop where
  ready : observation.sidecarLifecycle = .ready
  subscription : observation.appliedSubscriptionId = state.activeSubscriptionId.map (·.val)
  generation : observation.appliedConfigurationGeneration = some state.activeConfigurationGeneration
  settled : ∀ operation, observation.subscriptionSwitch = some operation →
    operation.status.isTerminal = true

instance (observation : RuntimeObservationSnapshot) (state : AppState) :
    Decidable (observation.HasApplied state) :=
  decidable_of_iff
    (observation.sidecarLifecycle = .ready ∧
      observation.appliedSubscriptionId = state.activeSubscriptionId.map (·.val) ∧
      observation.appliedConfigurationGeneration = some state.activeConfigurationGeneration ∧
      observation.subscriptionSwitch.all (·.status.isTerminal) = true)
    ⟨fun ⟨hready, hsubscription, hgeneration, hsettled⟩ =>
        ⟨hready, hsubscription, hgeneration, (Option.all_eq_true _ _).mp hsettled⟩,
      fun h => ⟨h.ready, h.subscription, h.generation, (Option.all_eq_true _ _).mpr h.settled⟩⟩

namespace ProxyRouting.SnapshotSources

/-- A failure is still on record: of a routing apply for the tuple of the state or by the operation
that the switch record is about, or of the last switch itself. -/
inductive HoldsFailure (sources : SnapshotSources) (state : AppState) : Prop
  | desired {terminal : RoutingApplyTerminal} (held : sources.routingTerminal = some terminal)
      (same : terminal.isFor state = true)
  | operation {terminal : RoutingApplyTerminal} {operation : SubscriptionSwitch}
      (held : sources.routingTerminal = some terminal)
      (last : sources.observation.subscriptionSwitch = some operation)
      (same : operation.operationId = terminal.operationId)
  | switch {operation : SubscriptionSwitch}
      (last : sources.observation.subscriptionSwitch = some operation)
      (unsuccessful : operation.status = .cancelled ∨ operation.status = .failed)

end ProxyRouting.SnapshotSources

/-! ## What is reported -/

/-- A settled runtime is reported as applied when it runs the desired tuple. -/
theorem settledApplyState_applied {observation : RuntimeObservationSnapshot} {state : AppState} :
    (settledApplyState observation (.of observation.sidecarLifecycle) state).2 = .applied ↔
      observation.sidecarLifecycle = .ready ∧
      observation.appliedSubscriptionId = state.activeSubscriptionId.map (·.val) ∧
      observation.appliedConfigurationGeneration = some state.activeConfigurationGeneration := by
  have hready : RuntimeState.of observation.sidecarLifecycle = .ready ↔
      observation.sidecarLifecycle = .ready := by
    cases observation.sidecarLifecycle <;> simp [RuntimeState.of]
  rw [settledApplyState]
  split
  · next happlied =>
    simp only [appliedAsDesired, Bool.and_eq_true, decide_eq_true_eq] at happlied
    obtain ⟨⟨hlifecycle, hgeneration⟩, hsubscription⟩ := happlied
    exact iff_of_true rfl ⟨hready.mp hlifecycle, hsubscription, hgeneration⟩
  · next happlied =>
    refine iff_of_false (by simp) fun ⟨hlifecycle, hsubscription, hgeneration⟩ => happlied ?_
    simp only [appliedAsDesired, Bool.and_eq_true, decide_eq_true_eq]
    exact ⟨⟨hready.mpr hlifecycle, hgeneration⟩, hsubscription⟩

/-- A failed switch is never reported as applied. -/
theorem failedSwitch_not_applied (observed : RuntimeState) (operation : SubscriptionSwitch) :
    (failedSwitch observed operation).2 ≠ .applied := by
  rw [failedSwitch]
  split <;> simp

/-- By the switch record, the runtime is reported as applied when it runs the desired tuple and
the last switch, if there was one, succeeded. -/
theorem switchApplyState_applied {observation : RuntimeObservationSnapshot} {state : AppState}
    {current : Bool} :
    (switchApplyState observation (.of observation.sidecarLifecycle) state current).2 = .applied ↔
      observation.HasApplied state ∧ ∀ operation, observation.subscriptionSwitch = some operation →
        operation.status = .ready := by
  rw [switchApplyState]
  cases hswitch : observation.subscriptionSwitch with
  | none =>
    dsimp only
    rw [settledApplyState_applied]
    constructor
    · rintro ⟨hready, hsubscription, hgeneration⟩
      exact ⟨⟨hready, hsubscription, hgeneration, by simp [hswitch]⟩, by simp⟩
    · rintro ⟨h, -⟩
      exact ⟨h.ready, h.subscription, h.generation⟩
  | some operation =>
    have hlast : ∀ {status}, operation.status = status → status ≠ .ready →
        ¬ (observation.HasApplied state ∧ ∀ operation', some operation = some operation' →
          operation'.status = .ready) :=
      fun hstatus hne h => hne (hstatus.symm.trans (h.2 operation rfl))
    have hunder : ∀ verdict : RuntimeState × ApplyState, verdict.2 ≠ .applied →
        (if !current then (RuntimeState.of observation.sidecarLifecycle, .savedPendingApply)
          else verdict).2 ≠ .applied := by
      intro verdict hverdict
      cases current
      · simp
      · exact hverdict
    dsimp only
    cases hstatus : operation.status with
    | queued => exact iff_of_false (hunder _ (by simp)) (hlast hstatus (by simp))
    | checking => exact iff_of_false (hunder _ (by simp)) (hlast hstatus (by simp))
    | prepared => exact iff_of_false (hunder _ (by simp)) (hlast hstatus (by simp))
    | persisted => exact iff_of_false (hunder _ (by simp)) (hlast hstatus (by simp))
    | applying => exact iff_of_false (hunder _ (by simp)) (hlast hstatus (by simp))
    | cancelled => exact iff_of_false (hunder _ (by simp)) (hlast hstatus (by simp))
    | failed =>
      exact iff_of_false (hunder _ (failedSwitch_not_applied _ _)) (hlast hstatus (by simp))
    | ready =>
      dsimp only
      rw [settledApplyState_applied]
      have hready : ∀ operation', some operation = some operation' →
          operation'.status = .ready := fun operation' heq => Option.some.inj heq ▸ hstatus
      constructor
      · rintro ⟨hlifecycle, hsubscription, hgeneration⟩
        refine ⟨⟨hlifecycle, hsubscription, hgeneration, fun operation' heq => ?_⟩, hready⟩
        rw [hready operation' (hswitch.symm.trans heq)]
        rfl
      · rintro ⟨h, -⟩
        exact ⟨h.ready, h.subscription, h.generation⟩

/-- A switch that has ended without being ready was cancelled or failed. -/
theorem unsuccessful_of_terminal {status : SubscriptionSwitchStatus} (h : status.isTerminal = true)
    (hready : status ≠ .ready) : status = .cancelled ∨ status = .failed := by
  cases status <;> simp_all [SubscriptionSwitchStatus.isTerminal]

/-- A state is reported as applied when it is and no failure is on record. -/
theorem runtimeApplyState_applied (sources : SnapshotSources) (state : AppState) :
    (sources.runtimeApplyState state).2 = .applied ↔
      sources.observation.HasApplied state ∧ ¬ sources.HoldsFailure state := by
  have hswitch : (switchApplyState sources.observation (.of sources.observation.sidecarLifecycle)
      state (sources.applyAttemptIsCurrent state)).2 = .applied ↔
      sources.observation.HasApplied state ∧ ∀ operation,
        sources.observation.subscriptionSwitch = some operation → operation.status = .ready :=
    switchApplyState_applied
  -- the last switch succeeded unless the switch record is a failure
  have hlast : sources.observation.HasApplied state → ¬ sources.HoldsFailure state →
      ∀ operation, sources.observation.subscriptionSwitch = some operation →
        operation.status = .ready := by
    intro happlied hfailure operation hoperation
    by_contra hready
    exact hfailure (.switch hoperation
      (unsuccessful_of_terminal (happlied.settled operation hoperation) hready))
  rw [SnapshotSources.runtimeApplyState, canonicalRuntimeApplyState.eq_def]
  cases hterminal : sources.routingTerminal with
  | none =>
    dsimp only
    rw [hswitch]
    refine ⟨fun ⟨happlied, hready⟩ => ⟨happlied, fun hfailure => ?_⟩,
      fun ⟨happlied, hfailure⟩ => ⟨happlied, hlast happlied hfailure⟩⟩
    cases hfailure with
    | desired held => rw [hterminal] at held; cases held
    | operation held => rw [hterminal] at held; cases held
    | switch last unsuccessful =>
      rw [hready _ last] at unsuccessful
      simp at unsuccessful
  | some terminal =>
    dsimp only
    split
    · next hsame => exact iff_of_false (by simp) fun h => h.2 (.desired hterminal hsame)
    · next hsame =>
      split
      · next hoperation =>
        obtain ⟨operation, hoperation, heq⟩ := (Option.any_eq_true _ _).mp hoperation
        exact iff_of_false (by simp) fun h =>
          h.2 (.operation hterminal hoperation (of_decide_eq_true heq))
      · next hother =>
        rw [hswitch]
        refine ⟨fun ⟨happlied, hready⟩ => ⟨happlied, fun hfailure => ?_⟩,
          fun ⟨happlied, hfailure⟩ => ⟨happlied, hlast happlied hfailure⟩⟩
        cases hfailure with
        | desired held same =>
          cases hterminal.symm.trans held
          exact hsame same
        | operation held last same =>
          cases hterminal.symm.trans held
          exact hother ((Option.any_eq_true _ _).mpr ⟨_, last, decide_eq_true same⟩)
        | switch last unsuccessful =>
          rw [hready _ last] at unsuccessful
          simp at unsuccessful

/-- **When the report is true.**  A snapshot reports the state as applied exactly when the runtime
is ready with the desired tuple and no switch is under way — unless it is, and a failure is still
on record. -/
theorem reports_applied_iff (sources : SnapshotSources) (state : AppState) (revision : UInt64)
    (shown : ProxyRoutingSnapshot) (h : buildSnapshot sources state revision = some shown) :
    (shown.applyState = .applied ↔ sources.observation.HasApplied state) ↔
      ¬ (sources.observation.HasApplied state ∧ sources.HoldsFailure state) := by
  have hshown : shown.applyState = (sources.runtimeApplyState state).2 := by
    rw [buildSnapshot] at h
    obtain ⟨routes, -, h⟩ := Option.bind_eq_some_iff.mp h
    cases h
    rfl
  rw [hshown, runtimeApplyState_applied]
  by_cases happlied : sources.observation.HasApplied state <;> simp [happlied]

/-! ## A failure that outlives its configuration -/

/-- What a snapshot is built from, for the tuple of the last routing apply. -/
def ManagedRuntime.sources {P Bytes : Type} (w : ManagedRuntime P Bytes)
    (applyTuple : Option (Option String × UInt64)) : SnapshotSources where
  observation := w.observations.read w.now
  applyTuple
  routingTerminal := w.routingApplyTerminal
  runtimeNodes := w.selectorRuntimeNodes

/-- The state with one subscription, at its second generation. -/
def laterState : AppState := { routedState .direct with activeConfigurationGeneration := 2 }

/-- A routing apply for the first generation finds the second one; then the runtime is started. -/
def refusedRun : List (RuntimeEvent UInt64) :=
  [.refuse ⟨⟨"sub", true, some 1, "apply"⟩, ⟨false, true, .ok laterState, some apiSecret, true⟩, .mock⟩,
   .start (.ok laterState) false (some 0) (some apiSecret)]

/-- The started runtime runs the second generation, with no switch under way, and is shown as a
failed apply: the failure of the refused apply was recorded for that generation. -/
theorem applied_shown_failed :
    ∃ w shown, Runs (ManagedRuntime.step plainEnv) Free .new refusedRun w ∧
      laterState.validate = .ok () ∧
      buildSnapshot (w.sources (some (some "sub", 1))) laterState 1 = some shown ∧
      (w.observations.read w.now).HasApplied laterState ∧
      shown.applyState = .savedApplyFailed "apply" .stateChanged := by
  have hrun : (evaluate (ManagedRuntime.step plainEnv) (fun _ _ => true) .new refusedRun).map
      (fun w => ((buildSnapshot (w.sources (some (some "sub", 1))) laterState 1).map (·.applyState),
        decide ((w.observations.read w.now).HasApplied laterState))) =
      some (some (.savedApplyFailed "apply" .stateChanged), true) := by decide +kernel
  obtain ⟨w, hw, hfacts⟩ := Option.map_eq_some_iff.mp hrun
  obtain ⟨hshown, happlied⟩ := Prod.mk.inj hfacts
  obtain ⟨shown, hshown, hstate⟩ := Option.map_eq_some_iff.mp hshown
  exact ⟨w, shown, .of_free hw, by decide +kernel, hshown, of_decide_eq_true happlied, hstate⟩

/-- Without the refused apply the same start is shown as applied. -/
theorem reports_applied_iff_started :
    ∃ w shown, Runs (ManagedRuntime.step plainEnv) Free .new (refusedRun.drop 1) w ∧
      buildSnapshot (w.sources none) laterState 1 = some shown ∧ shown.applyState = .applied ∧
      ((shown.applyState = .applied ↔ (w.sources none).observation.HasApplied laterState) ↔
        ¬ ((w.sources none).observation.HasApplied laterState ∧
          (w.sources none).HoldsFailure laterState)) := by
  have hrun : (evaluate (ManagedRuntime.step plainEnv) (fun _ _ => true) .new
      (refusedRun.drop 1)).map (fun w =>
        (buildSnapshot (w.sources none) laterState 1).map (·.applyState)) =
      some (some .applied) := by decide +kernel
  obtain ⟨w, hw, hshown⟩ := Option.map_eq_some_iff.mp hrun
  obtain ⟨shown, hshown, hstate⟩ := Option.map_eq_some_iff.mp hshown
  exact ⟨w, shown, .of_free hw, hshown, hstate,
    reports_applied_iff (w.sources none) laterState 1 shown hshown⟩

end Veyra
