import Veyra.Application.ActivationOutcome

/-!
# Veyra.Application.RuntimeShown

What the observation shows of the runtime while the worker is idle: the
lifecycle it has, and an applied tuple exactly while it is ready.

Every operation of the worker leaves what was shown, a runtime that is down,
or a new instance with its tuple (`Leaves`).  One lemma per operation says
which, and the invariant `Shown` follows from these alone.
-/

namespace Veyra

open Check ProxyRouting Transition

namespace ManagedRuntime

variable {P Bytes Value : Type}

/-- The lifecycle of the runtime; before there is one, nothing runs. -/
def lifecycle (w : ManagedRuntime P Bytes) : SidecarLifecycle :=
  (w.runtime.map (·.lifecycle)).getD .stopped

/-- The candidate that waits for its commit or its cancellation. -/
def pending (w : ManagedRuntime P Bytes) : Option Bytes := w.runtime.bind (·.candidate)

theorem lifecycle_of_runtime {w : ManagedRuntime P Bytes} {r : SidecarRuntime P Bytes}
    (h : w.runtime = some r) : w.lifecycle = r.lifecycle := by
  rw [lifecycle, h]
  rfl

theorem pending_of_runtime {w : ManagedRuntime P Bytes} {r : SidecarRuntime P Bytes}
    (h : w.runtime = some r) : w.pending = r.candidate := by
  rw [pending, h]
  rfl

/-- A record is about what is shown, not about the child. -/
theorem lifecycle_record (w : ManagedRuntime P Bytes) (record : Record) :
    (w.record record).lifecycle = w.lifecycle := rfl

/-! ## What a record shows -/

/-- What is shown after a record is what it brings. -/
theorem observed_record (w : ManagedRuntime P Bytes) (record : Record) :
    (w.record record).observations.sidecarLifecycle =
      (record.change (w.observations.refreshObservedTime w.now)).sidecarLifecycle :=
  (RuntimeObservationSnapshot.sameRuntime_update w.observations w.now _).sidecarLifecycle

/-- A phase of a switch shows no other lifecycle. -/
@[simp] theorem observed_switchPhase (w : ManagedRuntime P Bytes) (op : String)
    (status : SubscriptionSwitchStatus) (code : Option SubscriptionSwitchErrorCode) :
    (w.switchPhase op status code).observations.sidecarLifecycle =
      w.observations.sidecarLifecycle := by
  rw [switchPhase, observed_record, Record.change]
  split <;> rfl

/-- A failure shows the lifecycle that it is recorded with. -/
theorem observed_failure (w : ManagedRuntime P Bytes)
    (lifecycle : ObservedSidecarLifecycle) (failure : ManagedRuntimeFailure) :
    (w.record (.managedFailure (some lifecycle) failure)).observations.sidecarLifecycle =
      lifecycle := by
  rw [observed_record, Record.change, RuntimeObservationSnapshot.withLifecycle]
  dsimp only
  split <;> rfl

/-! ## What is left to be seen -/

/-- The runtime, and what is shown of it, are as they were. -/
structure Unmoved (w w' : ManagedRuntime P Bytes) : Prop where
  lifecycle : w'.lifecycle = w.lifecycle
  observed : w'.observations.sidecarLifecycle = w.observations.sidecarLifecycle
  applied : w'.observations.appliedTuple = w.observations.appliedTuple

/-- What an operation leaves to be seen of the runtime: what was there, a runtime that is down, or
a new instance under a tuple that was selected. -/
inductive Leaves (selected : String → UInt64 → Prop) (w w' : ManagedRuntime P Bytes) : Prop
  | kept (lifecycle : w'.lifecycle = w.lifecycle)
      (observed : w'.observations.sidecarLifecycle = w.observations.sidecarLifecycle ∨
        w'.observations.sidecarLifecycle = observedLifecycle w'.lifecycle)
      (applied : w'.observations.appliedTuple = w.observations.appliedTuple)
  | down (lifecycle : w'.lifecycle ≠ .ready)
      (observed : w'.observations.sidecarLifecycle = observedLifecycle w'.lifecycle)
      (applied : w'.observations.appliedTuple = (none, none))
  | ready (id : String) (generation : UInt64) (tuple : selected id generation)
      (lifecycle : w'.lifecycle = .ready) (observed : w'.observations.sidecarLifecycle = .ready)
      (applied : w'.observations.appliedTuple = (some id, some generation))

/-- An operation of the worker: what it leaves to be seen, and no candidate of its own. -/
structure Ends (selected : String → UInt64 → Prop) (w w' : ManagedRuntime P Bytes) : Prop where
  pending : w.pending = none → w'.pending = none
  leaves : Leaves selected w w'

section Unmoved

variable {selected : String → UInt64 → Prop} {w w₁ w' : ManagedRuntime P Bytes}
  {r r' : SidecarRuntime P Bytes}

theorem Unmoved.refl (w : ManagedRuntime P Bytes) : Unmoved w w := ⟨rfl, rfl, rfl⟩

/-- Only the runtime and the observation are looked at. -/
theorem Unmoved.of_same (hruntime : w'.runtime = w.runtime)
    (hobservations : w'.observations = w.observations) : Unmoved w w' := by
  refine ⟨?_, congrArg _ hobservations, congrArg _ hobservations⟩
  rw [ManagedRuntime.lifecycle, hruntime, ManagedRuntime.lifecycle]

/-- What does not move twice does not move. -/
theorem Unmoved.trans (h : Unmoved w w₁) (h' : Unmoved w₁ w') : Unmoved w w' :=
  ⟨h'.lifecycle.trans h.lifecycle, h'.observed.trans h.observed, h'.applied.trans h.applied⟩

/-- A phase of a switch moves nothing. -/
theorem Unmoved.switchPhase (h : Unmoved w w₁) (op : String) (status : SubscriptionSwitchStatus)
    (code : Option SubscriptionSwitchErrorCode) : Unmoved w (w₁.switchPhase op status code) :=
  h.trans ⟨rfl, observed_switchPhase w₁ op status code, appliedTuple_switchPhase w₁ op status code⟩

/-- A failure that is recorded without a lifecycle. -/
theorem Unmoved.failure (h : Unmoved w w₁) (failure : ManagedRuntimeFailure) :
    Unmoved w (w₁.record (.managedFailure none failure)) :=
  h.trans ⟨rfl, observed_record w₁ _, appliedTuple_failure w₁ rfl failure⟩

/-- Nor does a child in the same lifecycle. -/
theorem Unmoved.withRuntime (h : Unmoved w w₁) (hr : r.lifecycle = w₁.lifecycle) :
    Unmoved w (w₁.withRuntime r) :=
  h.trans ⟨hr, rfl, rfl⟩

/-- What does not move leaves the tuple. -/
theorem Unmoved.leaves (h : Unmoved w w') : Leaves selected w w' :=
  .kept h.lifecycle (.inl h.observed) h.applied

/-- What an operation leaves after a part that moves nothing. -/
theorem Unmoved.then (h : Unmoved w w₁) (h' : Leaves selected w₁ w') : Leaves selected w w' := by
  cases h' with
  | kept lifecycle observed applied =>
    exact .kept (lifecycle.trans h.lifecycle) (observed.imp_left fun hsame => hsame.trans h.observed)
      (applied.trans h.applied)
  | down lifecycle observed applied => exact .down lifecycle observed applied
  | ready id generation tuple lifecycle observed applied =>
    exact .ready id generation tuple lifecycle observed applied

/-- A call that failed is shown with the lifecycle that it left: the one there was, or down. -/
theorem Leaves.failure (w : ManagedRuntime P Bytes)
    (hready : r.lifecycle = .ready → w.lifecycle = .ready) (failure : ManagedRuntimeFailure) :
    Leaves selected w ((w.withRuntime r).record
      (.managedFailure (some (observedLifecycle r.lifecycle)) failure)) := by
  have hobserved := observed_failure (w.withRuntime r) (observedLifecycle r.lifecycle) failure
  by_cases hr : r.lifecycle = .ready
  · refine .kept (hr.trans (hready hr).symm) (.inr hobserved) ?_
    rw [hr, observedLifecycle]
    exact appliedTuple_failure (w.withRuntime r) rfl failure
  · refine .down hr hobserved (appliedTuple_down (w.withRuntime r) ?_ failure)
    exact fun h => hr (observedLifecycle_ready.mp h)

/-- A phase of a switch shows nothing else. -/
theorem Leaves.switchPhase (h : Leaves selected w w₁) (op : String)
    (status : SubscriptionSwitchStatus) (code : Option SubscriptionSwitchErrorCode) :
    Leaves selected w (w₁.switchPhase op status code) := by
  have happlied := appliedTuple_switchPhase w₁ op status code
  have hobserved := observed_switchPhase w₁ op status code
  cases h with
  | kept lifecycle observed applied =>
    rw [← hobserved] at observed
    exact .kept lifecycle observed (happlied.trans applied)
  | down lifecycle observed applied =>
    exact .down lifecycle (hobserved.trans observed) (happlied.trans applied)
  | ready id generation tuple lifecycle observed applied =>
    exact .ready id generation tuple lifecycle (hobserved.trans observed) (happlied.trans applied)

/-- A new instance is shown under the tuple of its projection. -/
theorem Leaves.becomeReady (w : ManagedRuntime P Bytes) (hr : r.lifecycle = .ready)
    {p : SelectedRuntimeProjection}
    (hselected : selected p.selectedSubscriptionId.val p.selectedGeneration) (op : Option String) :
    Leaves selected w (w.becomeReady r p op) :=
  .ready _ _ hselected hr (observed_record _ _) (appliedTuple_record _ _)

/-- More tuples may be left. -/
theorem Leaves.mono {selected' : String → UInt64 → Prop} (h : Leaves selected w w')
    (himp : ∀ id generation, selected id generation → selected' id generation) :
    Leaves selected' w w' := by
  cases h with
  | kept lifecycle observed applied => exact .kept lifecycle observed applied
  | down lifecycle observed applied => exact .down lifecycle observed applied
  | ready id generation tuple lifecycle observed applied =>
    exact .ready id generation (himp id generation tuple) lifecycle observed applied

end Unmoved

/-! ## The operations of the worker -/

/-- The tuple that a projection is of. -/
def Selects (p : SelectedRuntimeProjection) (id : String) (generation : UInt64) : Prop :=
  id = p.selectedSubscriptionId.val ∧ generation = p.selectedGeneration

section Operations

variable [DecidableEq Value] {env : RuntimeEnv P Bytes Value} {w : ManagedRuntime P Bytes}
  {r r' : SidecarRuntime P Bytes} {p : SelectedRuntimeProjection}

omit [DecidableEq Value] in
/-- Nothing has to happen. -/
theorem Ends.refl {selected : String → UInt64 → Prop} (w : ManagedRuntime P Bytes) :
    Ends selected w w :=
  ⟨id, (Unmoved.refl w).leaves⟩

omit [DecidableEq Value] in
/-- More tuples may be left. -/
theorem Ends.mono {selected selected' : String → UInt64 → Prop} {w w' : ManagedRuntime P Bytes}
    (h : Ends selected w w') (himp : ∀ id generation, selected id generation → selected' id generation) :
    Ends selected' w w' :=
  ⟨h.pending, h.leaves.mono himp⟩

omit [DecidableEq Value] in
/-- Only the runtime and the observation are looked at. -/
theorem Ends.of_same {selected : String → UInt64 → Prop} {w w₁ w' : ManagedRuntime P Bytes}
    (h : Ends selected w w₁) (hruntime : w'.runtime = w₁.runtime)
    (hobservations : w'.observations = w₁.observations) : Ends selected w w' := by
  have hlifecycle : w'.lifecycle = w₁.lifecycle := by
    rw [ManagedRuntime.lifecycle, ManagedRuntime.lifecycle, hruntime]
  have hpending : w'.pending = w₁.pending := by
    rw [ManagedRuntime.pending, ManagedRuntime.pending, hruntime]
  refine ⟨fun hnone => hpending.trans (h.pending hnone), ?_⟩
  cases h.leaves with
  | kept lifecycle observed applied =>
    rw [← hobservations, ← hlifecycle] at observed
    exact .kept (hlifecycle.trans lifecycle) observed (hobservations ▸ applied)
  | down lifecycle observed applied =>
    rw [← hobservations, ← hlifecycle] at observed
    exact .down (hlifecycle ▸ lifecycle) observed (hobservations ▸ applied)
  | ready id generation tuple lifecycle observed applied =>
    exact .ready id generation tuple (hlifecycle ▸ lifecycle) (hobservations ▸ observed)
      (hobservations ▸ applied)

omit [DecidableEq Value] in
/-- The index of a stopped runtime is cleared; it is not shown. -/
theorem Ends.settled {selected : String → UInt64 → Prop} {w w' : ManagedRuntime P Bytes}
    (h : Ends selected w w') : Ends selected w (if w'.isStopped then w'.clearIndex else w') := by
  split
  · exact h.of_same rfl rfl
  · exact h

omit [DecidableEq Value] in
/-- A prepared runtime has its candidate. -/
theorem candidate_of_prepared {io : SidecarPort P Bytes} {config : Bytes}
    (h : r.prepareReplacement io config = (.ok (), r')) : r'.candidate.isSome := by
  rw [(SidecarRuntime.prepareReplacement_ok h).1]
  rfl

/-- `start_stopped_runtime`. -/
theorem Ends.startStopped (hw : w.lifecycle = .stopped) (hr : r.lifecycle = .stopped)
    (hpending : w.pending = none → r.candidate = none) (secret : Option String) :
    Ends (Selects p) w (startStoppedRuntime env w r p secret).2 := by
  have hrefused : ∀ (e : SidecarError) (r' : SidecarRuntime P Bytes), r'.lifecycle ≠ .ready →
      (w.pending = none → r'.candidate = none) →
      Ends (Selects p) w (if configurationRefused r' e then
          (ManagedRuntimeStartResult.configurationFailed, (w.withRuntime r').record
            (.managedFailure (some (observedLifecycle r'.lifecycle)) .configuration))
        else (.startFailed, (w.withRuntime r').record
          (.managedFailure (some (observedLifecycle r'.lifecycle)) .start))).2 := by
    intro e r' hdown hnone
    split
    · exact ⟨hnone, .failure w (fun hready => absurd hready hdown) _⟩
    · exact ⟨hnone, .failure w (fun hready => absurd hready hdown) _⟩
  rw [startStoppedRuntime]
  cases compileProjection env p secret with
  | none =>
    exact ⟨hpending, (((Unmoved.refl w).withRuntime (hr.trans hw.symm)).failure _).leaves⟩
  | some candidate =>
    dsimp only
    rw [SidecarRuntime.startOrReplace]
    cases hprepare : r.prepareReplacement env.port candidate with
    | mk result prepared =>
      cases result with
      | error e =>
        obtain ⟨hcandidate, hchild, -⟩ := SidecarRuntime.prepareReplacement_error hprepare
        have hdown : prepared.lifecycle ≠ .ready := SidecarRuntime.not_ready_of_child
          (hchild.trans (SidecarRuntime.child_of_stopped hr))
        exact hrefused e prepared hdown fun hnone => hcandidate.trans (hpending hnone)
      | ok =>
        dsimp only
        cases hcommit : prepared.commitPrepared env.port with
        | mk result r' =>
          cases result with
          | error e =>
            have hcandidate := candidate_of_prepared hprepare
            exact hrefused e r' (SidecarRuntime.not_ready_of_commit_error hcommit hcandidate)
              fun _ => (SidecarRuntime.commitPrepared_error hcommit hcandidate).1
          | ok =>
            exact ⟨fun _ => (SidecarRuntime.commitPrepared_ok hcommit).2.2.2.1,
              .becomeReady w (SidecarRuntime.ready_of_commit hcommit) ⟨rfl, rfl⟩ none⟩

/-- The worker's `Start`. -/
theorem Ends.runStart (env : RuntimeEnv P Bytes Value) (w : ManagedRuntime P Bytes)
    (p : SelectedRuntimeProjection) (shuttingDown : Bool) (created : Option P)
    (secret : Option String) :
    Ends (Selects p) w (w.runStart env p shuttingDown created secret).2 := by
  rw [ManagedRuntime.runStart]
  split
  · exact .refl w
  · have hstarted : Ends (Selects p) w (startRuntime env w p created secret).2 := by
      rw [startRuntime.eq_def]
      cases hruntime : w.runtime with
      | none =>
        cases created with
        | none => exact ⟨id, ((Unmoved.refl w).failure _).leaves⟩
        | some port =>
          have hstopped : w.lifecycle = .stopped := by rw [lifecycle, hruntime]; rfl
          exact .startStopped hstopped rfl (fun _ => rfl) secret
      | some active =>
        have hpending := pending_of_runtime hruntime
        have hlifecycle := lifecycle_of_runtime hruntime
        dsimp only
        cases hactive : active.lifecycle with
        | ready => exact .refl w
        | stopped =>
          exact .startStopped (hlifecycle.trans hactive) hactive (fun hnone => hpending ▸ hnone) secret
        | recoveryRequired =>
          refine ⟨id, .down ?_ ?_ (appliedTuple_down w (by simp) _)⟩
          · rw [← hlifecycle] at hactive
            exact fun h => by rw [lifecycle_record, hactive] at h; cases h
          · rw [observed_failure, lifecycle_record, hlifecycle, hactive]
            rfl
    -- the index is not shown
    generalize startRuntime env w p created secret = started at hstarted ⊢
    obtain ⟨result, w'⟩ := started
    cases result <;> exact hstarted.of_same rfl rfl

omit [DecidableEq Value] in
/-- `stop_runtime`. -/
theorem Ends.stopRuntime {selected : String → UInt64 → Prop} (io : SidecarPort P Bytes)
    (w : ManagedRuntime P Bytes) : Ends selected w (w.stopRuntime io).2 := by
  have hstopped : w.lifecycle = .stopped → Ends selected w (w.record .managedStopped) := by
    intro hw
    refine ⟨id, .down ?_ ?_ (appliedTuple_record w _)⟩
    · rw [lifecycle_record, hw]
      simp
    · rw [observed_record, lifecycle_record, hw]
      rfl
  rw [stopRuntime.eq_def]
  cases hruntime : w.runtime with
  | none => exact hstopped (by rw [lifecycle, hruntime]; rfl)
  | some r =>
    have hlifecycle := lifecycle_of_runtime hruntime
    dsimp only
    cases hr : r.lifecycle with
    | stopped => exact hstopped (hlifecycle.trans hr)
    | ready | recoveryRequired =>
      dsimp only
      cases hstop : r.stop io with
      | mk result r' =>
        have hpending : w.pending = none → r'.candidate = none := by
          rw [pending_of_runtime hruntime]
          exact SidecarRuntime.stop_candidate hstop
        cases result with
        | ok =>
          obtain ⟨hchild, -, hrecovery, -⟩ := SidecarRuntime.stop_ok hstop
          have hdown : r'.lifecycle = .stopped := by
            rw [SidecarRuntime.lifecycle, hrecovery, hchild]
            rfl
          refine ⟨hpending, .down ?_ ?_ (appliedTuple_record _ _)⟩
          · exact fun h => by cases hdown.symm.trans h
          · rw [observed_record]
            exact (congrArg observedLifecycle hdown).symm
        | error e =>
          have hdown : r'.lifecycle = .recoveryRequired := by
            rw [SidecarRuntime.lifecycle, if_pos (SidecarRuntime.stop_error hstop).1]
          refine ⟨hpending, .down ?_ ?_ (appliedTuple_down _ (by simp) _)⟩
          · exact fun h => by cases hdown.symm.trans h
          · rw [observed_failure]
            exact (congrArg observedLifecycle hdown).symm

omit [DecidableEq Value] in
/-- The worker's `Stop`; the index is not shown. -/
theorem Ends.runStop {selected : String → UInt64 → Prop} (io : SidecarPort P Bytes)
    (w : ManagedRuntime P Bytes) : Ends selected w (w.runStop io).2 := by
  have hstops : Ends selected w (w.stopRuntime io).2 := .stopRuntime io w
  rw [ManagedRuntime.runStop]
  generalize w.stopRuntime io = stops at hstops ⊢
  obtain ⟨result, w'⟩ := stops
  cases result <;> exact hstops.of_same rfl rfl

omit [DecidableEq Value] in
/-- `sample_runtime`. -/
theorem Ends.sampleRuntime {selected : String → UInt64 → Prop} (io : SidecarPort P Bytes)
    (w : ManagedRuntime P Bytes) (a : SampleAnswers) :
    Ends selected w (w.sampleRuntime io a) := by
  rw [ManagedRuntime.sampleRuntime.eq_def]
  cases hruntime : w.runtime with
  | none => exact .refl w
  | some r =>
    have hlifecycle := lifecycle_of_runtime hruntime
    dsimp only
    split
    · exact .refl w
    · next hready =>
      rw [not_not, ← hlifecycle] at hready
      cases a.observation with
      | some observation =>
        have hsample : ∀ s : RuntimeObservationSnapshot,
            (s.applyManagedObservation observation).sidecarLifecycle = .ready ∧
            (s.applyManagedObservation observation).appliedTuple = s.appliedTuple := by
          intro s
          rw [RuntimeObservationSnapshot.applyManagedObservation]
          cases observation.traffic <;> cases observation.latestLog <;> exact ⟨rfl, rfl⟩
        refine ⟨id, .kept rfl (.inr ?_) ?_⟩
        · rw [lifecycle_record, hready, observed_record]
          exact (hsample _).1
        · rw [appliedTuple_record]
          exact (hsample _).2
      | none =>
        dsimp only
        rw [SidecarRuntime.recoverActiveFailure]
        cases hstop : r.stop io with
        | mk result r' =>
          have hpending : w.pending = none → r'.candidate = none := by
            rw [pending_of_runtime hruntime]
            exact SidecarRuntime.stop_candidate hstop
          cases result with
          | ok => exact ⟨hpending, .failure w (fun _ => hready) _⟩
          | error e =>
            have hdown : r'.lifecycle = .recoveryRequired := by
              rw [SidecarRuntime.lifecycle, if_pos (SidecarRuntime.stop_error hstop).1]
            have hfailed : Leaves selected w ((w.withRuntime r').record
                (.managedFailure (some (observedLifecycle r'.lifecycle)) .observation)) :=
              .failure w (fun _ => hready) .observation
            rw [hdown] at hfailed
            exact ⟨hpending, hfailed⟩

/-! ### Activations -/

/-- A call of the runtime failed. -/
theorem Ends.runtimeFailure {selected : String → UInt64 → Prop} {w₁ : ManagedRuntime P Bytes}
    (h : Unmoved w w₁) (hready : r.lifecycle = .ready → w₁.lifecycle = .ready)
    (hpending : w.pending = none → r.candidate = none) (op : String) (e : SidecarError) :
    Ends selected w (w₁.activationRuntimeFailure r op e).2 :=
  ⟨hpending, h.then ((Leaves.failure w₁ hready _).switchPhase _ _ _)⟩

/-- A cancelled preparation. -/
theorem Ends.cancelThen {selected : String → UInt64 → Prop} {io : SidecarPort P Bytes}
    {w₁ : ManagedRuntime P Bytes} (h : Unmoved w w₁) (hr : w₁.lifecycle = r.lifecycle) (op : String)
    {next : ManagedRuntime P Bytes → ActivationResult × ManagedRuntime P Bytes}
    (hnext : ∀ w₂, Unmoved w₂ (next w₂).2 ∧ (next w₂).2.runtime = w₂.runtime) :
    Ends selected w (w₁.cancelThen io r op next).2 := by
  rw [ManagedRuntime.cancelThen]
  cases hcancel : r.cancelPrepared io with
  | mk result r' =>
    cases result with
    | error e =>
      obtain ⟨hcandidate, -, hrecovery, -⟩ := SidecarRuntime.cancelPrepared_error hcancel
      exact .runtimeFailure h
        (fun hready => absurd hready (SidecarRuntime.not_ready_of_recovery hrecovery))
        (fun _ => hcandidate) op e
    | ok =>
      obtain ⟨hcandidate, hchild, hactive, hrecovery⟩ := SidecarRuntime.cancelPrepared_ok hcancel
      have hsame : r'.lifecycle = w₁.lifecycle :=
        (SidecarRuntime.Same.lifecycle ⟨hchild, hactive, hrecovery⟩).trans hr.symm
      obtain ⟨hmoved, hruntime⟩ := hnext (w₁.withRuntime r')
      refine ⟨fun _ => ?_, ((h.withRuntime hsame).trans hmoved).leaves⟩
      exact (pending_of_runtime hruntime).trans hcandidate

/-- The part of an activation after its state was saved. -/
theorem Ends.replaceInstance {io : SidecarPort P Bytes} {w₁ : ManagedRuntime P Bytes}
    {request : ActivationRequest Bytes} (h : Unmoved w w₁) (hcandidate : r.candidate.isSome) :
    Ends (Selects request.plan.projection) w (w₁.replaceInstance io r request).2 := by
  have hphases := (h.switchPhase request.operationId .persisted none).switchPhase
    request.operationId .applying none
  rw [ManagedRuntime.replaceInstance]
  cases hcommit : r.commitPrepared io with
  | mk result r' =>
    cases result with
    | error e =>
      exact .runtimeFailure hphases
        (fun hready => absurd hready (SidecarRuntime.not_ready_of_commit_error hcommit hcandidate))
        (fun _ => (SidecarRuntime.commitPrepared_error hcommit hcandidate).1) _ e
    | ok =>
      have hready := SidecarRuntime.ready_of_commit hcommit
      have hnone := (SidecarRuntime.commitPrepared_ok hcommit).2.2.2.1
      dsimp only
      split
      · exact ⟨fun _ => hnone, hphases.then (.becomeReady _ hready ⟨rfl, rfl⟩ _)⟩
      · exact ⟨fun _ => hnone, hphases.then (.becomeReady _ hready ⟨rfl, rfl⟩ _)⟩

/-- `apply_activation`. -/
theorem Ends.applyActivation (io : SidecarPort P Bytes) (hw : w.runtime = some r)
    (request : ActivationRequest Bytes) (a : CommitAnswers) (disk : AppState) :
    Ends (Selects request.plan.projection) w (w.applyActivation io r request a disk).1.2 := by
  have hr := lifecycle_of_runtime hw
  have hchecking := (Unmoved.refl w).switchPhase request.operationId .checking none
  rw [ManagedRuntime.applyActivation]
  cases hprepare : r.prepareReplacement io request.config with
  | mk result prepared =>
    cases result with
    | error e =>
      refine .runtimeFailure hchecking (fun hready => ?_) (fun hnone => ?_) _ e
      · exact hr.trans
          ((SidecarRuntime.prepareReplacement_same_of_ready hprepare hready).lifecycle ▸ hready)
      · rw [(SidecarRuntime.prepareReplacement_error hprepare).1, ← pending_of_runtime hw]
        exact hnone
    | ok =>
      have hsame : prepared.lifecycle = w.lifecycle :=
        (SidecarRuntime.prepareReplacement_same hprepare).lifecycle.trans hr.symm
      have hprepared := (hchecking.withRuntime (r := prepared) hsame).switchPhase
        request.operationId .prepared none
      have hpending : ∀ w₂ : ManagedRuntime P Bytes,
          Unmoved w₂ (pendingActivation request.operationId w₂).2 ∧
          (pendingActivation request.operationId w₂).2.runtime = w₂.runtime :=
        fun w₂ => ⟨(Unmoved.refl w₂).switchPhase _ _ _, rfl⟩
      dsimp only
      split
      · exact .cancelThen hprepared rfl _ hpending
      · cases persistActivation request.plan a disk with
        | mk persisted after =>
          cases persisted with
          | error e =>
            exact .cancelThen hprepared rfl _ fun w₂ =>
              ⟨((Unmoved.refl w₂).failure _).switchPhase _ _ _, rfl⟩
          | ok goesOn =>
            cases goesOn with
            | false => exact .cancelThen hprepared rfl _ hpending
            | true => exact .replaceInstance hprepared (candidate_of_prepared hprepare)

/-- The runtime that a call works on: the one there is, or a new one. -/
theorem Unmoved.withOwned {created : Option P}
    (hr : w.runtime.or (created.map .newObservationOnly) = some r) :
    Unmoved w (w.withRuntime r) ∧ (w.pending = none → r.candidate = none) := by
  cases hw : w.runtime with
  | some active =>
    rw [hw] at hr
    cases hr
    rw [pending_of_runtime hw]
    exact ⟨(Unmoved.refl w).withRuntime (lifecycle_of_runtime hw).symm, id⟩
  | none =>
    rw [hw, Option.none_or] at hr
    obtain ⟨port, -, rfl⟩ := Option.map_eq_some_iff.mp hr
    refine ⟨(Unmoved.refl w).withRuntime ?_, fun _ => rfl⟩
    rw [ManagedRuntime.lifecycle, hw]
    rfl

/-- The worker's `Activate`. -/
theorem Ends.runActivation (io : SidecarPort P Bytes) (w : ManagedRuntime P Bytes)
    (request : ActivationRequest Bytes) (created : Option P) (a : CommitAnswers)
    (disk : AppState) :
    Ends (Selects request.plan.projection) w (w.runActivation io request created a disk).1.2 := by
  have hqueued := (Unmoved.refl w).switchPhase request.operationId .queued none
  -- the index is not shown
  have hsettled : ∀ x : ActivationResult × ManagedRuntime P Bytes,
      Ends (Selects request.plan.projection) w x.2 →
      Ends (Selects request.plan.projection) w
        (settleActivation request.plan.projection x).2 := by
    intro x hx
    obtain ⟨result, w'⟩ := x
    cases result with
    | activated op sub generation => exact hx.of_same rfl rfl
    | reactivated op sub generation => exact hx.of_same rfl rfl
    | alreadyCurrent op sub generation => exact hx.settled
    | pending op => exact hx.settled
    | error op e => exact hx.settled
  rw [ManagedRuntime.runActivation]
  dsimp only
  split
  · exact ⟨id, (hqueued.switchPhase _ _ _).leaves⟩
  · next r hr =>
    obtain ⟨hmoved, hpending⟩ := Unmoved.withOwned hr
    refine hsettled _ ?_
    have hend := Ends.applyActivation (w := (w.switchPhase request.operationId .queued
      none).withRuntime r) io rfl request a disk
    exact ⟨fun hnone => hend.pending (hpending hnone), (hqueued.trans hmoved).then hend.leaves⟩

/-! ### Saved documents -/

/-- The tuple that a saved document is applied under. -/
def SavedTuple (p : SelectedRuntimeProjection) (saved : AppState) : String → UInt64 → Prop :=
  Selects { p with selectedGeneration := saved.activeConfigurationGeneration }

variable {selected : String → UInt64 → Prop} {w₁ : ManagedRuntime P Bytes}

/-- A clean-up that failed. -/
theorem Ends.recoverDocument (hr : r.recoveryRequired = true)
    (hpending : w.pending = none → r.candidate = none) :
    Ends selected w (w₁.withRuntime r).recoverDocument := by
  have hdown : r.lifecycle = .recoveryRequired := by rw [SidecarRuntime.lifecycle, if_pos hr]
  refine ⟨hpending, .down ?_ ?_ (appliedTuple_down _ (by simp) _)⟩
  · exact fun h => by cases hdown.symm.trans h
  · rw [ManagedRuntime.recoverDocument, observed_failure]
    exact (congrArg observedLifecycle hdown).symm

/-- After it a phase of a switch may follow. -/
theorem Ends.switchPhase (h : Ends selected w w₁) (op : String)
    (status : SubscriptionSwitchStatus) (code : Option SubscriptionSwitchErrorCode) :
    Ends selected w (w₁.switchPhase op status code) :=
  ⟨h.pending, h.leaves.switchPhase op status code⟩

/-- A cancelled preparation leaves the lifecycle there was, or a recovery. -/
theorem Ends.cancelled (selected : String → UInt64 → Prop) {io : SidecarPort P Bytes}
    (h : Unmoved w w₁)
    (hr : w₁.lifecycle = r.lifecycle) {result : Except SidecarError Unit}
    (hcancel : r.cancelPrepared io = (result, r')) :
    (result = .ok () → Ends selected w (w₁.withRuntime r')) ∧
      ∀ e, result = .error e → Ends selected w (w₁.withRuntime r').recoverDocument := by
  constructor
  · rintro rfl
    obtain ⟨hcandidate, hchild, hactive, hrecovery⟩ := SidecarRuntime.cancelPrepared_ok hcancel
    have hsame := SidecarRuntime.Same.lifecycle ⟨hchild, hactive, hrecovery⟩
    exact ⟨fun _ => hcandidate, (h.withRuntime (hsame.trans hr.symm)).leaves⟩
  · rintro e rfl
    obtain ⟨hcandidate, -, hrecovery, -⟩ := SidecarRuntime.cancelPrepared_error hcancel
    exact .recoverDocument hrecovery fun _ => hcandidate

/-- A save that is given up. -/
theorem Ends.cancelDocument {io : SidecarPort P Bytes} (h : Unmoved w w₁)
    (hr : w₁.lifecycle = r.lifecycle) (op : String) (error : DocumentSaveError) :
    Ends selected w (w₁.cancelDocument io r op error).2 := by
  rw [ManagedRuntime.cancelDocument]
  cases hcancel : r.cancelPrepared io with
  | mk result r' =>
    obtain ⟨hok, herror⟩ := Ends.cancelled selected h hr hcancel
    cases result with
    | ok => exact (hok rfl).switchPhase _ _ _
    | error e => exact (herror e rfl).switchPhase _ _ _

/-- The part of a document save after the document was committed. -/
theorem Ends.replaceDocument {io : SidecarPort P Bytes} (h : Unmoved w w₁)
    (hr : w₁.lifecycle = r.lifecycle) (hcandidate : r.candidate.isSome) (op : String)
    (saved : AppState) (late : Bool) :
    Ends (SavedTuple p saved) w
      (w₁.replaceDocument io r op p saved.activeConfigurationGeneration late).2 := by
  have hpersisted := h.switchPhase op .persisted none
  rw [ManagedRuntime.replaceDocument]
  dsimp only
  split
  · rw [ManagedRuntime.timeOutDocument]
    cases hcancel : r.cancelPrepared io with
    | mk result r' =>
      obtain ⟨hok, herror⟩ := Ends.cancelled (SavedTuple p saved) hpersisted hr hcancel
      cases result with
      | ok => exact (hok rfl).switchPhase _ _ _
      | error e => exact (herror e rfl).switchPhase _ _ _
  · have happlying := hpersisted.switchPhase op .applying none
    cases hcommit : r.commitPrepared io with
    | mk result r' =>
      cases result with
      | error e =>
        have hdown := SidecarRuntime.not_ready_of_commit_error hcommit hcandidate
        have hfailed : Leaves (SavedTuple p saved)
            ((w₁.switchPhase op .persisted none).switchPhase op .applying none) _ :=
          .failure _ (fun hready => absurd hready hdown) (documentFailure r'.lifecycle e).2.2
        exact ⟨fun _ => (SidecarRuntime.commitPrepared_error hcommit hcandidate).1,
          happlying.then (hfailed.switchPhase _ _ _)⟩
      | ok =>
        exact ⟨fun _ => (SidecarRuntime.commitPrepared_ok hcommit).2.2.2.1,
          happlying.then (.becomeReady _ (SidecarRuntime.ready_of_commit hcommit) ⟨rfl, rfl⟩ _)⟩

/-- The part of a document save with a configuration and a runtime. -/
theorem Ends.switchDocument (io : SidecarPort P Bytes) (hw : w.runtime = some r) (op : String)
    (config : Bytes) (prepared : PreparedDocumentSave) (a : DocumentAnswers P) (disk : AppState) :
    Ends (SavedTuple p prepared.next) w
      (w.switchDocument io r op p config prepared a disk).1.2 := by
  have hr := lifecycle_of_runtime hw
  rw [ManagedRuntime.switchDocument]
  cases hprepare : r.prepareReplacement io config with
  | mk result r' =>
    cases result with
    | error e =>
      obtain ⟨hcandidate, -⟩ := SidecarRuntime.prepareReplacement_error hprepare
      have hpending : w.pending = none → r'.candidate = none := fun hnone =>
        hcandidate.trans ((pending_of_runtime hw).symm.trans hnone)
      dsimp only
      split
      · next hrecovery =>
        have hrequired := SidecarRuntime.recoveryRequired_of_lifecycle hrecovery
        exact (Ends.recoverDocument hrequired hpending).switchPhase _ _ _
      · next hrecovery =>
        have hsame : r'.lifecycle = w.lifecycle :=
          (SidecarRuntime.lifecycle_of_prepare_error hprepare hrecovery).trans hr.symm
        exact ⟨hpending, (((Unmoved.refl w).withRuntime hsame).switchPhase _ _ _).leaves⟩
    | ok =>
      have hsame : r'.lifecycle = w.lifecycle :=
        (SidecarRuntime.prepareReplacement_same hprepare).lifecycle.trans hr.symm
      have hprepared := ((Unmoved.refl w).withRuntime hsame).switchPhase op .prepared none
      dsimp only
      split
      · exact .cancelDocument hprepared rfl op _
      · cases commitDocument prepared a disk with
        | mk committed after =>
          cases committed with
          | error e => exact .cancelDocument hprepared rfl op _
          | ok => exact .replaceDocument hprepared rfl (candidate_of_prepared hprepare) op prepared.next _

/-- The tuple that a document save applies: that of the state it prepared. -/
def AppliesDocument (a : DocumentAnswers P) (id : String) (generation : UInt64) : Prop :=
  ∃ prepared p, a.prepared = .ok prepared ∧ projectSelectedRuntime prepared.next = .ok p ∧
    SavedTuple p prepared.next id generation

/-- `apply_document_save`. -/
theorem Ends.applyDocumentSave (env : RuntimeEnv P Bytes Value) (w : ManagedRuntime P Bytes)
    (id op : String) (a : DocumentAnswers P) (disk : AppState) :
    Ends (AppliesDocument a) w (w.applyDocumentSave env id op a disk).1.2 := by
  rw [ManagedRuntime.applyDocumentSave.eq_def]
  cases hread : a.prepared with
  | error e => exact .refl w
  | ok prepared =>
    dsimp only
    split
    · exact .refl w
    · split
      · cases commitDocument prepared a disk with
        | mk committed after => cases committed <;> exact .refl w
      · have hphases := ((Unmoved.refl w).switchPhase op .queued none).switchPhase op .checking none
        have hgivenUp : ∀ error, Ends (AppliesDocument a) w
            ((w.switchPhases op [.queued, .checking]).failedDocumentSwitch op error).2 :=
          fun error => ⟨fun hnone => hnone, (hphases.switchPhase _ _ _).leaves⟩
        cases hprojected : projectSelectedRuntime prepared.next with
        | error e => exact hgivenUp _
        | ok p =>
          dsimp only
          cases compileProjection env p a.secret with
          | none => exact hgivenUp _
          | some config =>
            dsimp only
            split
            · exact hgivenUp _
            · next r howned =>
              have howned : w.runtime.or (a.created.map .newObservationOnly) = some r := howned
              obtain ⟨hmoved, hpending⟩ := Unmoved.withOwned howned
              have hend : Ends (SavedTuple p prepared.next)
                  ((w.switchPhases op [.queued, .checking]).withRuntime r) _ :=
                .switchDocument env.port rfl op config prepared a disk
              refine ⟨fun hnone => hend.pending (hpending hnone), ?_⟩
              refine ((hphases.withRuntime hmoved.lifecycle).then hend.leaves).mono ?_
              exact fun id generation htuple => ⟨prepared, p, hread, hprojected, htuple⟩

/-- The worker's `SaveDocument`. -/
theorem Ends.runDocumentSave (env : RuntimeEnv P Bytes Value) (w : ManagedRuntime P Bytes)
    (id op : String) (a : DocumentAnswers P) (disk : AppState) :
    Ends (AppliesDocument a) w (w.runDocumentSave env id op a disk).1.2 := by
  have hend := Ends.applyDocumentSave env w id op a disk
  rw [ManagedRuntime.runDocumentSave]
  generalize w.applyDocumentSave env id op a disk = saved at hend
  obtain ⟨⟨result, w'⟩, after⟩ := saved
  -- the index is not shown
  cases result with
  | error op e => exact hend.settled
  | ok revision apply =>
    cases apply with
    | notRequired => exact hend.settled
    | failed op generation e => exact hend.settled
    | ready op generation =>
      dsimp only
      rw [settleDocument]
      split
      · exact hend.of_same rfl rfl
      · exact hend

/-! ### The other operations -/

/-- `reconcile_manual_selection` touches neither the runtime nor the observation. -/
theorem reconcileManualSelection_keeps (w : ManagedRuntime P Bytes) (pool : PoolId) (node : NodeId)
    (a : SelectorAnswers) :
    (w.reconcileManualSelection pool node a).2.runtime = w.runtime ∧
      (w.reconcileManualSelection pool node a).2.observations = w.observations := by
  have hclassified : ∀ index tag,
      (w.classifySelectorReadBack index pool node tag).2.runtime = w.runtime ∧
        (w.classifySelectorReadBack index pool node tag).2.observations = w.observations := by
    intro index tag
    rw [classifySelectorReadBack]
    split <;> exact ⟨rfl, rfl⟩
  rw [reconcileManualSelection.eq_def]
  cases hruntime : w.runtime with
  | none => exact ⟨hruntime, rfl⟩
  | some r =>
    rw [hruntime] at hclassified
    dsimp only
    cases r.lifecycle with
    | stopped => exact ⟨hruntime, rfl⟩
    | recoveryRequired => exact ⟨hruntime, rfl⟩
    | ready =>
      dsimp only
      split
      · exact ⟨hruntime, rfl⟩
      · cases w.currentIndex with
        | none => exact ⟨hruntime, rfl⟩
        | some index =>
          dsimp only
          repeat' split
          all_goals first
            | exact ⟨hruntime, rfl⟩
            | exact hclassified index _

/-- The calling thread's `start`, with the worker's part. -/
theorem Ends.start (env : RuntimeEnv P Bytes Value) (w : ManagedRuntime P Bytes)
    (loaded : Except LoadRuntimeIntentError AppState) (shuttingDown : Bool) (created : Option P)
    (secret : Option String) :
    Ends (fun id generation => ∃ p, loadRuntimeIntent loaded = .ok p ∧ Selects p id generation) w
      (w.start env loaded shuttingDown created secret).2 := by
  rw [ManagedRuntime.start]
  cases loadRuntimeIntent loaded with
  | error e =>
    cases e with
    | busy => exact .refl w
    | unavailable => exact ⟨id, ((Unmoved.refl w).failure _).leaves⟩
    | selectionRequired => exact .refl w
    | configuration => exact .refl w
  | ok intent =>
    have hend := Ends.runStart env w intent shuttingDown created secret
    exact ⟨hend.pending, hend.leaves.mono fun id generation htuple => ⟨intent, rfl, htuple⟩⟩

/-- What the calling thread of an activation records shows nothing of the runtime. -/
theorem Unmoved.recordRefusal (w : ManagedRuntime P Bytes) (call : ActivationCall)
    (error : ActivationError) (observed : Option AppState) :
    Unmoved w (w.recordRefusal call error observed) ∧
      (w.recordRefusal call error observed).runtime = w.runtime := by
  rw [ManagedRuntime.recordRefusal]
  split
  · next failure _ _ =>
    have hmarked : ∀ terminal : RoutingApplyTerminal,
        Unmoved w { w with routingApplyTerminal := some terminal } := fun _ => ⟨rfl, rfl, rfl⟩
    exact ⟨((hmarked _).switchPhase _ _ _).switchPhase _ _ _, rfl⟩
  · exact ⟨.refl w, rfl⟩

/-- Queueing a routing apply moves nothing. -/
theorem Unmoved.queueRouting (w : ManagedRuntime P Bytes) (call : ActivationCall)
    (expected : AppState) :
    Unmoved w (w.queueRouting call expected) ∧
      (w.queueRouting call expected).runtime = w.runtime := by
  rw [ManagedRuntime.queueRouting]
  split
  · have hcleared : Unmoved w { w with routingApplyTerminal := none } := ⟨rfl, rfl, rfl⟩
    exact ⟨hcleared.switchPhase _ _ _, rfl⟩
  · exact ⟨.refl w, rfl⟩

/-- What does not move has ended well. -/
theorem Unmoved.ends (h : Unmoved w w₁ ∧ w₁.runtime = w.runtime) : Ends selected w w₁ := by
  refine ⟨fun hnone => ?_, h.1.leaves⟩
  rw [ManagedRuntime.pending, h.2]
  exact hnone

/-- **Spec.**  Every event ends with what was there, a runtime that is down, or a new instance. -/
theorem step_ends {e : RuntimeEvent P} {w' : ManagedRuntime P Bytes}
    (h : ManagedRuntime.step env w e = some w') : Ends (fun _ _ => True) w w' := by
  have hweaken : ∀ {selected : String → UInt64 → Prop}, Ends selected w w' →
      Ends (fun _ _ => True) w w' :=
    fun hend => ⟨hend.pending, hend.leaves.mono fun _ _ _ => trivial⟩
  cases e with
  | start loaded shuttingDown created secret =>
    cases h
    exact hweaken (.start env w loaded shuttingDown created secret)
  | stop =>
    cases h
    exact .runStop env.port w
  | queue attempt =>
    obtain ⟨expected, -, rfl⟩ := Option.map_eq_some_iff.mp h
    exact Unmoved.ends (Unmoved.queueRouting w attempt.call expected)
  | refuse attempt =>
    obtain ⟨failure, -, rfl⟩ := Option.map_eq_some_iff.mp h
    exact Unmoved.ends (Unmoved.recordRefusal w attempt.call failure.1 failure.2)
  | activate attempt created a disk =>
    obtain ⟨request, -, rfl⟩ := Option.map_eq_some_iff.mp h
    exact hweaken (.runActivation env.port w request created a disk)
  | selectManually pool node a =>
    cases h
    obtain ⟨hruntime, hobservations⟩ := reconcileManualSelection_keeps w pool node a
    exact (Ends.refl w).of_same hruntime hobservations
  | saveDocument id op a disk =>
    cases h
    exact hweaken (.runDocumentSave env w id op a disk)
  | sample a =>
    cases h
    exact .sampleRuntime env.port w a
  | unanswered =>
    cases h
    exact ⟨id, ((Unmoved.refl w).failure _).leaves⟩
  | tick now =>
    cases h
    exact ⟨id, Unmoved.leaves ⟨rfl, rfl, rfl⟩⟩

end Operations

/-! ## The invariant -/

/-- The observation shows the runtime: the lifecycle is the one shown (before the first one is
shown, nothing runs), and a tuple is applied exactly while the runtime is ready. -/
structure Displays (w : ManagedRuntime P Bytes) : Prop where
  lifecycle : w.observations.sidecarLifecycle = observedLifecycle w.lifecycle ∨
    (w.observations.sidecarLifecycle = .notObserved ∧ w.lifecycle = .stopped)
  down : w.lifecycle ≠ .ready → w.observations.appliedTuple = (none, none)
  ready : w.lifecycle = .ready →
    ∃ id generation, w.observations.appliedTuple = (some id, some generation)

/-- The observation of an idle worker shows its runtime, and no candidate waits. -/
structure Shown (w : ManagedRuntime P Bytes) : Prop extends Displays w where
  pending : w.pending = none

section Shown

variable {selected : String → UInt64 → Prop} {w w' : ManagedRuntime P Bytes}

/-- At the start nothing runs, and nothing is shown. -/
theorem Shown.new : Shown (.new : ManagedRuntime P Bytes) where
  pending := rfl
  lifecycle := .inr ⟨rfl, rfl⟩
  down _ := rfl
  ready h := by cases h

/-- A runtime is shown to be ready exactly while it is. -/
theorem Displays.ready_iff (h : Displays w) :
    w.observations.sidecarLifecycle = .ready ↔ w.lifecycle = .ready := by
  obtain hshown | ⟨hnone, hstopped⟩ := h.lifecycle
  · rw [hshown]
    exact observedLifecycle_ready
  · rw [hnone, hstopped]
    simp

/-- What an operation leaves to be seen is shown. -/
theorem Leaves.displays (hleaves : Leaves selected w w') (h : Displays w) : Displays w' := by
  cases hleaves with
  | kept lifecycle observed applied =>
    refine ⟨?_, fun hdown => ?_, fun hready => ?_⟩
    · cases observed with
      | inl hsame =>
        rw [hsame, lifecycle]
        exact h.lifecycle
      | inr hshown => exact .inl hshown
    · rw [applied]
      exact h.down (lifecycle ▸ hdown)
    · rw [applied]
      exact h.ready (lifecycle ▸ hready)
  | down lifecycle observed applied =>
    exact ⟨.inl observed, fun _ => applied, fun hready => absurd hready lifecycle⟩
  | ready id generation tuple lifecycle observed applied =>
    refine ⟨.inl ?_, fun hdown => absurd lifecycle hdown, fun _ => ⟨id, generation, applied⟩⟩
    rw [observed, lifecycle]
    rfl

/-- So is what does not move. -/
theorem Unmoved.displays (hmoved : Unmoved w w') (h : Displays w) : Displays w' := by
  have hleaves : Leaves (fun _ _ => False) w w' := hmoved.leaves
  exact hleaves.displays h

/-- Every operation keeps the observation right. -/
theorem Ends.shown (hend : Ends selected w w') (h : Shown w) : Shown w' :=
  ⟨hend.leaves.displays h.toDisplays, hend.pending h.pending⟩

/-- **Run lemma.**  After every run the observation shows the runtime. -/
theorem shown_of_run [DecidableEq Value] {env : RuntimeEnv P Bytes Value}
    {events : List (RuntimeEvent P)} (run : Runs (step env) Free .new events w) : Shown w :=
  run.invariant Shown .new fun _ _ _ h _ hstep => (step_ends hstep).shown h

end Shown

end ManagedRuntime

end Veyra
