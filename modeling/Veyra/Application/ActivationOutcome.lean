import Veyra.Application.ApplyState
import Veyra.Application.SelectorIndex

/-!
# Veyra.Application.ActivationOutcome

How an activation ends.  The worker prepares the candidate, saves the
selection over the state it was planned for, and only then replaces the
instance; each step can fail, and each failure has its own clean-up.

Whatever the port, the gate, the store and the cancellations answer, there are
three ends: the instance runs what the state on disk selects (`Activated`),
the state on disk and the owned child are as they were (`NotPersisted`), or
the state was saved and nothing is observed as applied (`NotApplied`).
-/

namespace Veyra

open Check ProxyRouting Transition

variable {P Bytes Value : Type}

/-- The tuple that is observed as applied. -/
def RuntimeObservationSnapshot.appliedTuple (s : RuntimeObservationSnapshot) :
    Option String × Option UInt64 :=
  (s.appliedSubscriptionId, s.appliedConfigurationGeneration)

/-- A phase of an operation, without an error. -/
def SubscriptionSwitchStatus.record (status : SubscriptionSwitchStatus) (operationId : String) :
    Record :=
  .subscriptionSwitch { operationId, status, errorCode := none }

namespace ManagedRuntime

/-! ## The three ends -/

/-- What an activation reports that succeeded. -/
def activatedResult (call : ActivationCall) (before after : AppState)
    (subscription : Subscription) : ActivationResult :=
  if call.force && before.activeSubscriptionId = some ⟨call.id⟩ then
    .reactivated call.operationId subscription after.activeConfigurationGeneration
  else .activated call.operationId subscription after.activeConfigurationGeneration

/-- The instance was replaced by one that runs the configuration of the saved state. -/
structure Activated [DecidableEq Value] (env : RuntimeEnv P Bytes Value) (call : ActivationCall)
    (r : SidecarRuntime P Bytes) (disk : AppState) (result : ActivationResult)
    (w' : ManagedRuntime P Bytes) (disk' : AppState) : Prop where
  reported : ∃ subscription, disk'.subscription? call.id = some subscription ∧
    result = activatedResult call disk disk' subscription
  saved : activationCandidate call.id disk = .ok disk'
  selected : disk'.activeSubscriptionId = some ⟨call.id⟩
  running : ∃ r' child config p plan, w'.runtime = some r' ∧ r'.lifecycle = .ready ∧
    r'.child = some child ∧ r'.active = some config ∧ r.Starts env.port config child ∧
    CompiledFrom env config disk' p plan
  applied : w'.observations.appliedTuple = (disk'.desiredTuple.1, some disk'.desiredTuple.2)

/-- Nothing was saved: the candidate is gone, and the child that was owned is still owned, with
its applied tuple unless a clean-up failed. -/
structure NotPersisted (io : SidecarPort P Bytes) (call : ActivationCall)
    (config : Bytes) (w : ManagedRuntime P Bytes) (r : SidecarRuntime P Bytes) (disk : AppState)
    (result : ActivationResult) (w' : ManagedRuntime P Bytes) (disk' : AppState) : Prop where
  reported : result = .pending call.operationId ∨
    ∃ error, result = .error (some call.operationId) error
  unsaved : disk' = disk
  phases : ∃ script, w'.recorded = w.recorded ++ script ∧
    SubscriptionSwitchStatus.persisted.record call.operationId ∉ script
  kept : ∃ r', w'.runtime = some r' ∧ r.Withdraws io config r' ∧ r'.child = r.child ∧
    r'.active = r.active ∧ (r.candidate = none → r'.candidate = none) ∧
    (r'.lifecycle ≠ .recoveryRequired → r.child.isSome →
      w'.observations.appliedTuple = w.observations.appliedTuple)

/-- The state was saved and the instance could not be replaced: nothing is applied, and no child
is left unless a clean-up failed. -/
structure NotApplied (call : ActivationCall) (w : ManagedRuntime P Bytes) (disk : AppState)
    (result : ActivationResult) (w' : ManagedRuntime P Bytes) (disk' : AppState) : Prop where
  reported : ∃ error, result = .error (some call.operationId) error
  saved : activationCandidate call.id disk = .ok disk'
  selected : disk'.activeSubscriptionId = some ⟨call.id⟩
  phases : ∃ script code, w'.recorded = w.recorded ++ script ∧
    SubscriptionSwitchStatus.persisted.record call.operationId ∈ script ∧
    script.getLast? = some (.subscriptionSwitch ⟨call.operationId, .failed, some code⟩)
  down : ∃ r', w'.runtime = some r' ∧ r'.lifecycle ≠ .ready ∧ r'.candidate = none ∧
    (r'.lifecycle = .stopped → r'.child = none ∧ r'.active = none)
  applied : w'.observations.appliedTuple = (none, none)

/-- How an activation ends: its result, the worker and the state on disk. -/
inductive ActivationOutcome [DecidableEq Value] (env : RuntimeEnv P Bytes Value)
    (call : ActivationCall) (config : Bytes) (w : ManagedRuntime P Bytes)
    (r : SidecarRuntime P Bytes) (disk : AppState) :
    (ActivationResult × ManagedRuntime P Bytes) × AppState → Prop
  | activated {result : ActivationResult} {w' : ManagedRuntime P Bytes} {disk' : AppState}
      (h : Activated env call r disk result w' disk') :
      ActivationOutcome env call config w r disk ((result, w'), disk')
  | notPersisted {result : ActivationResult} {w' : ManagedRuntime P Bytes} {disk' : AppState}
      (h : NotPersisted env.port call config w r disk result w' disk') :
      ActivationOutcome env call config w r disk ((result, w'), disk')
  | notApplied {result : ActivationResult} {w' : ManagedRuntime P Bytes} {disk' : AppState}
      (h : NotApplied call w disk result w' disk') :
      ActivationOutcome env call config w r disk ((result, w'), disk')

/-! ## What a record does to the applied tuple -/

theorem appliedTuple_record (w : ManagedRuntime P Bytes) (record : Record) :
    (w.record record).observations.appliedTuple =
      (record.change (w.observations.refreshObservedTime w.now)).appliedTuple := by
  have hsame := RuntimeObservationSnapshot.sameRuntime_update w.observations w.now
    (fun s => record.change s)
  rw [RuntimeObservationSnapshot.appliedTuple, RuntimeObservationSnapshot.appliedTuple,
    ← hsame.appliedSubscriptionId, ← hsame.appliedConfigurationGeneration]
  rfl

@[simp] theorem appliedTuple_switchPhase (w : ManagedRuntime P Bytes) (op : String)
    (status : SubscriptionSwitchStatus) (code : Option SubscriptionSwitchErrorCode) :
    (w.switchPhase op status code).observations.appliedTuple = w.observations.appliedTuple := by
  rw [switchPhase, appliedTuple_record, Record.change]
  split <;> rfl

/-- A failure of a runtime that is ready, or of no runtime, keeps what is applied. -/
theorem appliedTuple_failure (w : ManagedRuntime P Bytes)
    {lifecycle : Option ObservedSidecarLifecycle} (h : lifecycle.all (· = .ready))
    (failure : ManagedRuntimeFailure) :
    (w.record (.managedFailure lifecycle failure)).observations.appliedTuple =
      w.observations.appliedTuple := by
  rw [appliedTuple_record]
  cases lifecycle with
  | none => rfl
  | some lifecycle =>
    obtain rfl : lifecycle = .ready := by simpa using h
    rfl

/-- A failure of a runtime that is not ready forgets what was applied. -/
theorem appliedTuple_down (w : ManagedRuntime P Bytes) {lifecycle : ObservedSidecarLifecycle}
    (h : lifecycle ≠ .ready) (failure : ManagedRuntimeFailure) :
    (w.record (.managedFailure (some lifecycle) failure)).observations.appliedTuple =
      (none, none) := by
  rw [appliedTuple_record, Record.change, RuntimeObservationSnapshot.withLifecycle, if_pos h]
  rfl

theorem appliedTuple_runtimeFailure (w : ManagedRuntime P Bytes) (r : SidecarRuntime P Bytes)
    (op : String) (e : SidecarError) :
    (w.activationRuntimeFailure r op e).2.observations.appliedTuple =
      if r.lifecycle = .ready then w.observations.appliedTuple else (none, none) := by
  rw [activationRuntimeFailure, appliedTuple_switchPhase]
  by_cases hready : r.lifecycle = .ready
  · rw [if_pos hready, hready, observedLifecycle]
    exact appliedTuple_failure (w.withRuntime r) rfl _
  · rw [if_neg hready]
    exact appliedTuple_down (w.withRuntime r) (fun h => hready (observedLifecycle_ready.mp h)) _

/-- What a failed call of the runtime records. -/
theorem runtimeFailure_recorded (w : ManagedRuntime P Bytes) (r : SidecarRuntime P Bytes)
    (op : String) (e : SidecarError) :
    ∃ lifecycle failure code, (w.activationRuntimeFailure r op e).2.recorded =
      w.recorded ++ [.managedFailure lifecycle failure, .subscriptionSwitch ⟨op, .failed, some code⟩] :=
  ⟨_, _, _, List.append_assoc w.recorded [_] [_]⟩

/-! ## The commit -/

/-- **Spec.**  A commit that goes on found the state the activation was planned for, and left its
candidate on disk; any other commit left the disk alone. -/
theorem persistActivation_cases (plan : ActivationPlan) (a : CommitAnswers) (disk : AppState) :
    (persistActivation plan a disk = (.ok true, plan.candidate) ∧ disk = plan.expected) ∨
      ∃ result, persistActivation plan a disk = (result, disk) ∧ result ≠ .ok true := by
  rw [persistActivation]
  cases a.gate with
  | false => exact .inr ⟨_, rfl, by simp⟩
  | true =>
    cases hstore : !a.store || !a.loads with
    | true => exact .inr ⟨_, rfl, by simp⟩
    | false =>
      cases hcommit : commitActivation plan disk with
      | error e => exact .inr ⟨.error e, rfl, by simp⟩
      | ok save =>
        obtain ⟨hsame, hsave⟩ := ok_seq.mp hcommit
        have hsame : disk = plan.expected := by simpa using hsame
        cases a.cancelledAtGate with
        | true => exact .inr ⟨.ok false, rfl, by simp⟩
        | false =>
          cases save with
          | none =>
            have hkept : plan.candidate = disk := by simpa [hsame] using hsave
            rw [hkept]
            exact .inl ⟨rfl, hsame⟩
          | some candidate =>
            rw [← (commitActivation_ok hcommit).2]
            cases a.saves with
            | true => exact .inl ⟨rfl, hsame⟩
            | false => exact .inr ⟨.error .saveFailed, rfl, by simp⟩

/-! ## Before the state is saved -/

/-- So far nothing was reported as persisted, and what is applied is as it was. -/
structure Quiet (op : String) (w w' : ManagedRuntime P Bytes) : Prop where
  phases : ∃ script, w'.recorded = w.recorded ++ script ∧
    SubscriptionSwitchStatus.persisted.record op ∉ script
  applied : w'.observations.appliedTuple = w.observations.appliedTuple

section Quiet

variable {op : String} {w w₁ : ManagedRuntime P Bytes}

theorem Quiet.refl (op : String) (w : ManagedRuntime P Bytes) : Quiet op w w :=
  ⟨⟨[], (List.append_nil _).symm, List.not_mem_nil⟩, rfl⟩

/-- Another record than that of the persisted phase. -/
theorem Quiet.phases_record (h : Quiet op w w₁) {record : Record}
    (hrecord : record ≠ SubscriptionSwitchStatus.persisted.record op) :
    ∃ script, (w₁.record record).recorded = w.recorded ++ script ∧
      SubscriptionSwitchStatus.persisted.record op ∉ script := by
  obtain ⟨script, hscript, hquiet⟩ := h.phases
  refine ⟨script ++ [record], ?_, ?_⟩
  · rw [ManagedRuntime.record, hscript, List.append_assoc]
  · rw [List.mem_append, List.mem_singleton]
    rintro (hold | hnew)
    · exact hquiet hold
    · exact hrecord hnew.symm

theorem Quiet.switchPhase (h : Quiet op w w₁) {status : SubscriptionSwitchStatus}
    (hstatus : status ≠ .persisted) (code : Option SubscriptionSwitchErrorCode) :
    Quiet op w (w₁.switchPhase op status code) where
  phases := h.phases_record (by simp [SubscriptionSwitchStatus.record, hstatus])
  applied := (appliedTuple_switchPhase w₁ op status code).trans h.applied

theorem Quiet.failure (h : Quiet op w w₁) (failure : ManagedRuntimeFailure) :
    Quiet op w (w₁.record (.managedFailure none failure)) where
  phases := h.phases_record (by simp [SubscriptionSwitchStatus.record])
  applied := (appliedTuple_failure w₁ rfl failure).trans h.applied

theorem Quiet.withRuntime (h : Quiet op w w₁) (r : SidecarRuntime P Bytes) :
    Quiet op w (w₁.withRuntime r) :=
  ⟨h.phases, h.applied⟩

end Quiet

section NotPersisted

variable {io : SidecarPort P Bytes} {call : ActivationCall} {config : Bytes}
  {w w₁ : ManagedRuntime P Bytes} {r r' : SidecarRuntime P Bytes}

/-- A call of the runtime failed while nothing was saved. -/
theorem NotPersisted.ofFailure (h : Quiet call.operationId w w₁) (hr : r.Withdraws io config r')
    (e : SidecarError) (disk : AppState) :
    NotPersisted io call config w r disk (w₁.activationRuntimeFailure r' call.operationId e).1
      (w₁.activationRuntimeFailure r' call.operationId e).2 disk := by
  obtain ⟨hchild, hactive, hcandidate⟩ := hr.keeps
  refine ⟨.inr ⟨_, rfl⟩, rfl, ?_, r', rfl, hr, hchild, hactive, hcandidate, ?_⟩
  · obtain ⟨script, hscript, hquiet⟩ := h.phases
    obtain ⟨lifecycle, failure, code, hrecorded⟩ :=
      runtimeFailure_recorded w₁ r' call.operationId e
    refine ⟨script ++ [.managedFailure lifecycle failure,
      .subscriptionSwitch ⟨call.operationId, .failed, some code⟩], ?_, ?_⟩
    · rw [hrecorded, hscript, List.append_assoc]
    · rw [List.mem_append, not_or]
      exact ⟨hquiet, by simp [SubscriptionSwitchStatus.record]⟩
  · intro hrecovery hsome
    have hready : r'.lifecycle = .ready := by
      rw [SidecarRuntime.lifecycle, hchild, hsome] at hrecovery ⊢
      grind
    rw [appliedTuple_runtimeFailure, if_pos hready, h.applied]

/-- The preparation was made and is cancelled. -/
theorem NotPersisted.ofCancel {prepared : SidecarRuntime P Bytes}
    (h : Quiet call.operationId w w₁)
    (hprepare : r.prepareReplacement io config = (.ok (), prepared))
    {next : ManagedRuntime P Bytes → ActivationResult × ManagedRuntime P Bytes}
    (hnext : ∀ w₂, Quiet call.operationId w w₂ → Quiet call.operationId w (next w₂).2 ∧
      (next w₂).2.runtime = w₂.runtime ∧ ((next w₂).1 = .pending call.operationId ∨
        ∃ error, (next w₂).1 = .error (some call.operationId) error)) (disk : AppState) :
    NotPersisted io call config w r disk (w₁.cancelThen io prepared call.operationId next).1
      (w₁.cancelThen io prepared call.operationId next).2 disk := by
  rw [cancelThen]
  cases hcancel : prepared.cancelPrepared io with
  | mk result r' =>
    have hr : r.Withdraws io config r' := .cancelled hprepare hcancel
    cases result with
    | error e => exact .ofFailure h hr e disk
    | ok =>
      obtain ⟨hchild, hactive, hcandidate⟩ := hr.keeps
      obtain ⟨hquiet, hruntime, hreported⟩ := hnext (w₁.withRuntime r') (h.withRuntime r')
      exact ⟨hreported, rfl, hquiet.phases, r', hruntime, hr, hchild, hactive, hcandidate,
        fun _ _ => hquiet.applied⟩

end NotPersisted

/-! ## After the state was saved -/

section Saved

variable [DecidableEq Value] {env : RuntimeEnv P Bytes Value} {call : ActivationCall}
  {w w₁ : ManagedRuntime P Bytes} {r prepared r' : SidecarRuntime P Bytes}

omit [DecidableEq Value] in
/-- The candidate could not take over. -/
theorem NotApplied.ofFailure {disk disk' : AppState} {script : List Record}
    (hscript : w₁.recorded = w.recorded ++ script)
    (hpersisted : SubscriptionSwitchStatus.persisted.record call.operationId ∈ script)
    (hcandidate : prepared.candidate.isSome) {e : SidecarError} {io : SidecarPort P Bytes}
    (hcommit : prepared.commitPrepared io = (.error e, r'))
    (hsaved : activationCandidate call.id disk = .ok disk') :
    NotApplied call w disk (w₁.activationRuntimeFailure r' call.operationId e).1
      (w₁.activationRuntimeFailure r' call.operationId e).2 disk' := by
  obtain ⟨hslot, hend⟩ := SidecarRuntime.commitPrepared_error hcommit hcandidate
  have hdown : r'.lifecycle ≠ .ready := by
    cases hrecovery : r'.recoveryRequired with
    | true => exact SidecarRuntime.not_ready_of_recovery hrecovery
    | false => exact SidecarRuntime.not_ready_of_child (hend hrecovery).1
  refine ⟨⟨_, rfl⟩, hsaved, (activationCandidate_ok hsaved).1, ?_, ⟨r', rfl, hdown, hslot, ?_⟩, ?_⟩
  · obtain ⟨lifecycle, failure, code, hrecorded⟩ :=
      runtimeFailure_recorded w₁ r' call.operationId e
    refine ⟨script ++ [.managedFailure lifecycle failure,
      .subscriptionSwitch ⟨call.operationId, .failed, some code⟩], code, ?_,
      List.mem_append_left _ hpersisted, ?_⟩
    · rw [hrecorded, hscript, List.append_assoc]
    · rw [List.getLast?_append]
      rfl
  · intro hstopped
    refine hend ?_
    by_contra hrecovery
    rw [SidecarRuntime.lifecycle, if_pos (by simpa using hrecovery)] at hstopped
    cases hstopped
  · rw [appliedTuple_runtimeFailure, if_neg hdown]

/-- The candidate took over. -/
theorem Activated.ofCommit (w₁ : ManagedRuntime P Bytes) {disk disk' : AppState} {request : ActivationRequest Bytes}
    {secret : Option String}
    (hprepare : r.prepareReplacement env.port request.config = (.ok (), prepared))
    (hcommit : prepared.commitPrepared env.port = (.ok (), r'))
    (hsaved : activationCandidate call.id disk = .ok disk')
    (hprojected : projectSelectedRuntime disk' = .ok request.plan.projection)
    (hcompiled : compileProjection env request.plan.projection secret = some request.config)
    (hsummary : selectedSummary disk' call.id = .ok request.subscription) :
    Activated env call r disk (activatedResult call disk disk' request.subscription)
      (w₁.becomeReady r' request.plan.projection (some call.operationId)) disk' := by
  obtain ⟨-, hactive, hgeneration, -⟩ := projectSelectedRuntime_ok hprojected
  obtain ⟨child, hchild, hstarts⟩ := SidecarRuntime.starts_of_commit hprepare hcommit
  obtain ⟨hsome, hconfig, -, -, hrecovery⟩ := SidecarRuntime.commitPrepared_ok hcommit
  obtain ⟨plan, hplan, hfinal⟩ := compileProjection_ok hcompiled
  obtain ⟨-, hsubscription⟩ := ok_seq.mp hsummary
  refine ⟨⟨_, okOr_eq_ok.mp hsubscription, rfl⟩, hsaved, (activationCandidate_ok hsaved).1, ?_, ?_⟩
  · refine ⟨r', child, request.config, request.plan.projection, plan, rfl, ?_, hchild,
      hconfig.trans (SidecarRuntime.prepareReplacement_ok hprepare).1, hstarts,
      ⟨hprojected, hplan, hfinal⟩⟩
    rw [SidecarRuntime.lifecycle, if_neg (by simp [hrecovery]), if_pos hsome]
  · rw [becomeReady, appliedTuple_record, AppState.desiredTuple, hactive, ← hgeneration]
    rfl

/-- The part of an activation after its state was saved. -/
theorem ActivationOutcome.ofReplace {disk : AppState} {request : ActivationRequest Bytes}
    {secret : Option String}
    (hphases : ∃ script, w₁.recorded = w.recorded ++ script ∧
      SubscriptionSwitchStatus.persisted.record call.operationId ∉ script)
    (hop : request.operationId = call.operationId)
    (hprepare : r.prepareReplacement env.port request.config = (.ok (), prepared))
    (hsaved : activationCandidate call.id disk = .ok request.plan.candidate)
    (hprojected : projectSelectedRuntime request.plan.candidate = .ok request.plan.projection)
    (hcompiled : compileProjection env request.plan.projection secret = some request.config)
    (hsummary : selectedSummary request.plan.candidate call.id = .ok request.subscription)
    (hreactivation : request.plan.reactivation =
      (call.force && disk.activeSubscriptionId = some ⟨call.id⟩)) :
    ActivationOutcome env call request.config w r disk
      (w₁.replaceInstance env.port prepared request, request.plan.candidate) := by
  obtain ⟨script, hscript, -⟩ := hphases
  have hpersisted : (w₁.switchPhases call.operationId [.persisted, .applying]).recorded =
      w.recorded ++ (script ++ [SubscriptionSwitchStatus.persisted.record call.operationId,
        SubscriptionSwitchStatus.applying.record call.operationId]) := by
    rw [← List.append_assoc, ← hscript]
    exact List.append_assoc w₁.recorded [_] [_]
  rw [replaceInstance, hop]
  cases hcommit : prepared.commitPrepared env.port with
  | mk result r' =>
    cases result with
    | error e =>
      have hcandidate : prepared.candidate.isSome := by
        rw [(SidecarRuntime.prepareReplacement_ok hprepare).1]
        rfl
      exact .notApplied (.ofFailure hpersisted (List.mem_append_right _ List.mem_cons_self)
        hcandidate hcommit hsaved)
    | ok =>
      have hactivated := Activated.ofCommit
        (w₁.switchPhases call.operationId [.persisted, .applying]) hprepare hcommit hsaved
        hprojected hcompiled hsummary
      rw [activatedResult, ← hreactivation, ← (projectSelectedRuntime_ok hprojected).2.2.1]
        at hactivated
      cases hforced : request.plan.reactivation with
      | true =>
        rw [hforced] at hactivated
        exact .activated hactivated
      | false =>
        rw [hforced] at hactivated
        exact .activated hactivated

end Saved

/-! ## The activation -/

/-- **Activation is atomic.**  A request that the checks of an activation built ends in one of three
ways, whatever the worker, its runtime, the answers and the state on disk are when it is taken
up: the instance runs what is on disk, nothing was saved and the old child is kept, or the state
was saved and nothing is applied. -/
theorem activation_atomic [DecidableEq Value] (env : RuntimeEnv P Bytes Value)
    (seen : ManagedRuntime P Bytes) (call : ActivationCall) (p : PreflightAnswers)
    (expected : AppState) (request : ActivationRequest Bytes)
    (hsent : preflight env seen call p expected = .ok (.send request))
    (w : ManagedRuntime P Bytes) (r : SidecarRuntime P Bytes) (a : CommitAnswers)
    (disk : AppState) :
    ActivationOutcome env call request.config w r disk
      ((w.withRuntime r).applyActivation env.port r request a disk) := by
  obtain ⟨hplan, hop, hcompiled, hsummary⟩ := preflight_send hsent
  obtain ⟨hexpected, hcandidate, hprojected, -⟩ := planActivation_ok hplan
  have hchecking : Quiet call.operationId w
      ((w.withRuntime r).switchPhase call.operationId .checking none) :=
    ((Quiet.refl call.operationId w).withRuntime r).switchPhase (by simp) none
  rw [applyActivation, hop]
  cases hprepare : r.prepareReplacement env.port request.config with
  | mk result prepared =>
    cases result with
    | error e => exact .notPersisted (.ofFailure hchecking (.refused hprepare) e disk)
    | ok =>
      have hphase : SubscriptionSwitchStatus.prepared ≠ .persisted := by simp
      have hprepared := (hchecking.withRuntime prepared).switchPhase hphase none
      have hpending : ∀ w₂, Quiet call.operationId w w₂ →
          Quiet call.operationId w (pendingActivation call.operationId w₂).2 ∧
          (pendingActivation call.operationId w₂).2.runtime = w₂.runtime ∧
          ((pendingActivation call.operationId w₂).1 = .pending call.operationId ∨
            ∃ error, (pendingActivation call.operationId w₂).1 =
              .error (some call.operationId) error) :=
        fun w₂ hquiet => ⟨hquiet.switchPhase (by simp) _, rfl, .inl rfl⟩
      dsimp only
      split
      · exact .notPersisted (.ofCancel hprepared hprepare hpending disk)
      · obtain ⟨hpersist, hdisk⟩ | ⟨result, hpersist, hresult⟩ :=
          persistActivation_cases request.plan a disk
        · have hsaved : activationCandidate call.id disk = .ok request.plan.candidate := by
            rw [hdisk, hexpected]
            exact hcandidate
          have hreactivation : request.plan.reactivation =
              (call.force && disk.activeSubscriptionId = some ⟨call.id⟩) := by
            rw [hdisk, hexpected]
            exact planActivation_reactivation hplan
          rw [hpersist]
          exact .ofReplace hprepared.phases hop hprepare hsaved hprojected hcompiled hsummary
            hreactivation
        · rw [hpersist]
          cases result with
          | error e =>
            refine .notPersisted (.ofCancel hprepared hprepare (fun w₂ hquiet => ?_) disk)
            exact ⟨(hquiet.failure _).switchPhase (by simp) _, rfl, .inr ⟨e, rfl⟩⟩
          | ok goesOn =>
            cases goesOn with
            | false => exact .notPersisted (.ofCancel hprepared hprepare hpending disk)
            | true => exact absurd rfl hresult

/-- The request that the checks of the calling thread end with. -/
def sentRequest {Bytes : Type} :
    Except ActivationError (Preflight Bytes) → Option (ActivationRequest Bytes)
  | .ok (.send request) => some request
  | _ => none

theorem eq_of_sentRequest {Bytes : Type} {x : Except ActivationError (Preflight Bytes)}
    {request : ActivationRequest Bytes} (h : sentRequest x = some request) :
    x = .ok (.send request) := by
  cases x with
  | error e => cases h
  | ok checked =>
    cases checked with
    | alreadyCurrent subscription generation => cases h
    | send sent => exact congrArg (fun r => Except.ok (Preflight.send r)) (Option.some.inj h)

/-- The subscription of `laterState` is applied again. -/
def reapplyCall : ActivationCall := ⟨"sub", true, none, "apply"⟩

def reapplyAnswers : PreflightAnswers := ⟨false, true, .ok laterState, some apiSecret, true⟩

/-- Once with a store that saves, once with a gate that is taken. -/
theorem activation_atomic_reapplied :
    ∃ request, preflight plainEnv .new reapplyCall reapplyAnswers laterState = .ok (.send request) ∧
      ∀ gate, ActivationOutcome plainEnv reapplyCall request.config .new (.newObservationOnly 0)
        laterState (((new).withRuntime (.newObservationOnly 0)).applyActivation plainEnv.port
          (.newObservationOnly 0) request ⟨false, gate, true, true, false, true⟩ laterState) := by
  have hsends : (sentRequest
      (preflight plainEnv .new reapplyCall reapplyAnswers laterState)).isSome = true := by
    decide +kernel
  obtain ⟨request, hrequest⟩ := Option.isSome_iff_exists.mp hsends
  have hsent := eq_of_sentRequest hrequest
  exact ⟨request, hsent, fun gate =>
    activation_atomic plainEnv .new reapplyCall reapplyAnswers laterState request hsent .new _ _ _⟩

end ManagedRuntime

end Veyra
