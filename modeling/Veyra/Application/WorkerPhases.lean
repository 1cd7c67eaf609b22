import Veyra.Application.RuntimeShown

/-!
# Veyra.Application.WorkerPhases

An activation and a document save, cut where the worker lets go of its own
state to look at the state file: the runtime they work on, the preparation of
the candidate, and the rest.

`applyActivation_eq` and `switchDocument_eq` put the parts together again.
-/

namespace Veyra

namespace ManagedRuntime

variable {P Bytes Value : Type}

/-- The runtime that an operation works on: the one there is, or one for a new port. -/
def ownRuntime (w : ManagedRuntime P Bytes) (created : Option P) :
    Option (SidecarRuntime P Bytes) × ManagedRuntime P Bytes :=
  match w.runtime.or (created.map .newObservationOnly) with
  | none => (none, w)
  | some r => (some r, w.withRuntime r)

/-- The part of `apply_activation` before its commit: the prepared runtime, or the result of an
activation whose candidate was refused. -/
def beginActivation (io : SidecarPort P Bytes) (w : ManagedRuntime P Bytes)
    (r : SidecarRuntime P Bytes) (request : ActivationRequest Bytes) :
    Except ActivationResult (SidecarRuntime P Bytes) × ManagedRuntime P Bytes :=
  let operationId := request.operationId
  let w := w.switchPhase operationId .checking none
  match r.prepareReplacement io request.config with
  | (.error e, r) =>
    let (result, w) := w.activationRuntimeFailure r operationId e
    (.error result, w)
  | (.ok (), r) => (.ok r, (w.withRuntime r).switchPhase operationId .prepared none)

/-- The part of `apply_document_save` with a configuration, before its commit. -/
def beginDocument (io : SidecarPort P Bytes) (w : ManagedRuntime P Bytes)
    (r : SidecarRuntime P Bytes) (operationId : String) (config : Bytes) :
    Except DocumentSaveResult (SidecarRuntime P Bytes) × ManagedRuntime P Bytes :=
  match r.prepareReplacement io config with
  | (.error _, r) =>
    let w := w.withRuntime r
    let (result, w) :=
      if r.lifecycle = .recoveryRequired then
        w.recoverDocument.failedDocumentSwitch operationId .recoveryRequired
      else w.failedDocumentSwitch operationId .configurationFailed
    (.error result, w)
  | (.ok (), r) => (.ok r, (w.withRuntime r).switchPhase operationId .prepared none)

/-! ## The parts are the whole -/

/-- An activation is its preparation, and then the commit or the way back. -/
theorem applyActivation_eq (io : SidecarPort P Bytes) (w : ManagedRuntime P Bytes)
    (r : SidecarRuntime P Bytes) (request : ActivationRequest Bytes) (a : CommitAnswers)
    (disk : AppState) :
    w.applyActivation io r request a disk =
      match w.beginActivation io r request with
      | (.error result, w) => ((result, w), disk)
      | (.ok r, w) =>
        let operationId := request.operationId
        if a.cancelled then (w.cancelThen io r operationId (pendingActivation operationId), disk)
        else
          match persistActivation request.plan a disk with
          | (.ok true, disk) => (w.replaceInstance io r request, disk)
          | (.ok false, disk) =>
            (w.cancelThen io r operationId (pendingActivation operationId), disk)
          | (.error e, disk) =>
            (w.cancelThen io r operationId (failedCommit operationId e), disk) := by
  rw [applyActivation, beginActivation]
  dsimp only
  cases r.prepareReplacement io request.config with
  | mk result prepared => cases result <;> rfl

/-- A document save is the preparation of its candidate, and then the commit or the way back. -/
theorem switchDocument_eq (io : SidecarPort P Bytes) (w : ManagedRuntime P Bytes)
    (r : SidecarRuntime P Bytes) (operationId : String) (p : SelectedRuntimeProjection)
    (config : Bytes) (prepared : PreparedDocumentSave) (a : DocumentAnswers P) (disk : AppState) :
    w.switchDocument io r operationId p config prepared a disk =
      match w.beginDocument io r operationId config with
      | (.error result, w) => ((result, w), disk)
      | (.ok r, w) =>
        if a.lateAfterCheck || a.shuttingDown then
          let error := if a.shuttingDown then DocumentSaveError.busy else .operationTimedOut
          (w.cancelDocument io r operationId error, disk)
        else
          match commitDocument prepared a disk with
          | (.error e, disk) => (w.cancelDocument io r operationId e.toSaveError, disk)
          | (.ok (), disk) =>
            let generation := prepared.next.activeConfigurationGeneration
            let (apply, w) := w.replaceDocument io r operationId p generation a.lateAfterCommit
            ((.ok prepared.documentRevision apply, w), disk) := by
  rw [switchDocument, beginDocument]
  dsimp only
  cases r.prepareReplacement io config with
  | mk result prepared =>
    cases result with
    | error e =>
      dsimp only
      split <;> rfl
    | ok => rfl

/-! ## What the parts leave -/

section Parts

variable {io : SidecarPort P Bytes} {w w' : ManagedRuntime P Bytes} {r r' : SidecarRuntime P Bytes}
  {selected : String → UInt64 → Prop}

/-- Taking a runtime moves nothing. -/
theorem Ends.ownRuntime (selected : String → UInt64 → Prop) (w : ManagedRuntime P Bytes)
    (created : Option P) : Ends selected w (w.ownRuntime created).2 := by
  rw [ManagedRuntime.ownRuntime]
  split
  · exact .refl w
  · next owned howned =>
    obtain ⟨hmoved, hpending⟩ := Unmoved.withOwned howned
    exact ⟨hpending, hmoved.leaves⟩

/-- What was taken is the runtime there is. -/
theorem runtime_ownRuntime {created : Option P} (howned : (w.ownRuntime created).1 = some r) :
    (w.ownRuntime created).2.runtime = some r := by
  rw [ManagedRuntime.ownRuntime] at howned ⊢
  split
  · next hnone =>
    rw [hnone] at howned
    cases howned
  · next owned hsome =>
    rw [hsome] at howned
    exact howned

/-- A prepared runtime is in the lifecycle that it was in. -/
theorem lifecycle_of_prepare {config : Bytes} {result : Except SidecarError Unit}
    (hr : w.lifecycle = r.lifecycle) (hprepare : r.prepareReplacement io config = (result, r'))
    (h : result = .ok () ∨ r'.lifecycle = .ready) : r'.lifecycle = w.lifecycle := by
  obtain rfl | hready := h
  · exact (SidecarRuntime.prepareReplacement_same hprepare).lifecycle.trans hr.symm
  · cases result with
    | ok => exact (SidecarRuntime.prepareReplacement_same hprepare).lifecycle.trans hr.symm
    | error e =>
      exact (SidecarRuntime.prepareReplacement_same_of_ready hprepare hready).lifecycle.trans hr.symm

/-- A part that prepares a candidate: it ends with a result, or moves nothing and has one. -/
structure Prepares {ε : Type} (w : ManagedRuntime P Bytes)
    (begun : Except ε (SidecarRuntime P Bytes) × ManagedRuntime P Bytes) : Prop where
  error : ∀ e, begun.1 = .error e → Ends (fun _ _ => False) w begun.2
  unmoved : ∀ r, begun.1 = .ok r → Unmoved w begun.2
  lifecycle : ∀ r, begun.1 = .ok r → begun.2.lifecycle = r.lifecycle
  candidate : ∀ r, begun.1 = .ok r → r.candidate.isSome

/-- An activation up to its commit. -/
theorem Prepares.beginActivation {request : ActivationRequest Bytes}
    (hr : w.lifecycle = r.lifecycle) (hcandidate : r.candidate = none) :
    Prepares w (w.beginActivation io r request) := by
  have hchecking := (Unmoved.refl w).switchPhase request.operationId .checking none
  rw [ManagedRuntime.beginActivation]
  dsimp only
  cases hprepare : r.prepareReplacement io request.config with
  | mk result prepared =>
    cases result with
    | error e =>
      refine ⟨fun _ _ => .runtimeFailure hchecking (fun hready => ?_) (fun _ => ?_) _ e, nofun, nofun,
        nofun⟩
      · exact (lifecycle_of_prepare hr hprepare (.inr hready)).symm.trans hready
      · exact (SidecarRuntime.prepareReplacement_error hprepare).1.trans hcandidate
    | ok =>
      have hsame := lifecycle_of_prepare hr hprepare (.inl rfl)
      have hprepared := (hchecking.withRuntime (r := prepared) hsame).switchPhase
        request.operationId .prepared none
      refine ⟨fun e he => (by cases he), fun r' _ => hprepared, fun r' hr' => ?_, fun r' hr' => ?_⟩
      · cases hr'
        rfl
      · cases hr'
        exact candidate_of_prepared hprepare

/-- A document save up to its commit. -/
theorem Prepares.beginDocument {op : String} {config : Bytes} (hr : w.lifecycle = r.lifecycle)
    (hcandidate : r.candidate = none) : Prepares w (w.beginDocument io r op config) := by
  rw [ManagedRuntime.beginDocument]
  cases hprepare : r.prepareReplacement io config with
  | mk result prepared =>
    cases result with
    | error e =>
      have hpending : w.pending = none → prepared.candidate = none := fun _ =>
        (SidecarRuntime.prepareReplacement_error hprepare).1.trans hcandidate
      refine ⟨fun _ _ => ?_, nofun, nofun, nofun⟩
      dsimp only
      split
      · next hrecovery =>
        have hrequired := SidecarRuntime.recoveryRequired_of_lifecycle hrecovery
        exact (Ends.recoverDocument hrequired hpending).switchPhase _ _ _
      · next hrecovery =>
        have hsame : prepared.lifecycle = w.lifecycle :=
          (SidecarRuntime.lifecycle_of_prepare_error hprepare hrecovery).trans hr.symm
        exact ⟨hpending, (((Unmoved.refl w).withRuntime hsame).switchPhase _ _ _).leaves⟩
    | ok =>
      have hsame := lifecycle_of_prepare hr hprepare (.inl rfl)
      have hprepared := ((Unmoved.refl w).withRuntime (r := prepared) hsame).switchPhase op
        .prepared none
      refine ⟨fun e he => (by cases he), fun r' _ => hprepared, fun r' hr' => ?_, fun r' hr' => ?_⟩
      · cases hr'
        rfl
      · cases hr'
        exact candidate_of_prepared hprepare

/-- What is shown to be applied is a tuple that was selected, or none. -/
def Renews (selected : String → UInt64 → Prop) (w : ManagedRuntime P Bytes) : Prop :=
  w.observations.appliedTuple = (none, none) ∨
    ∃ id generation, selected id generation ∧
      w.observations.appliedTuple = (some id, some generation)

/-- More tuples may be selected. -/
theorem Renews.mono {selected' : String → UInt64 → Prop} (h : Renews selected w)
    (himp : ∀ id generation, selected id generation → selected' id generation) :
    Renews selected' w :=
  h.imp_right fun ⟨id, generation, htuple, happlied⟩ =>
    ⟨id, generation, himp id generation htuple, happlied⟩

/-- The part of an activation after its state was saved applies its tuple, or none. -/
theorem Renews.replaceInstance {request : ActivationRequest Bytes} (hcandidate : r.candidate.isSome) :
    Renews (Selects request.plan.projection) (w.replaceInstance io r request).2 := by
  rw [ManagedRuntime.replaceInstance]
  cases hcommit : r.commitPrepared io with
  | mk result r' =>
    cases result with
    | error e =>
      have hdown := SidecarRuntime.not_ready_of_commit_error hcommit hcandidate
      refine .inl ?_
      dsimp only
      rw [activationRuntimeFailure]
      dsimp only
      rw [appliedTuple_switchPhase]
      exact appliedTuple_down _ (fun h => hdown (observedLifecycle_ready.mp h)) _
    | ok =>
      refine .inr ⟨_, _, ⟨rfl, rfl⟩, ?_⟩
      dsimp only
      split
      · exact appliedTuple_record _ _
      · exact appliedTuple_record _ _

/-- A cancelled preparation is not pending. -/
theorem candidate_of_cancel {result : Except SidecarError Unit}
    (hcancel : r.cancelPrepared io = (result, r')) : r'.candidate = none := by
  cases result with
  | ok => exact (SidecarRuntime.cancelPrepared_ok hcancel).1
  | error e => exact (SidecarRuntime.cancelPrepared_error hcancel).1

/-- Neither is one that was committed. -/
theorem candidate_of_commit (h : r.candidate.isSome) {result : Except SidecarError Unit}
    (hcommit : r.commitPrepared io = (result, r')) : r'.candidate = none := by
  cases result with
  | ok => exact (SidecarRuntime.commitPrepared_ok hcommit).2.2.2.1
  | error e => exact (SidecarRuntime.commitPrepared_error hcommit h).1

theorem pending_cancelThen {op : String}
    {next : ManagedRuntime P Bytes → ActivationResult × ManagedRuntime P Bytes}
    (hnext : ∀ w, (next w).2.runtime = w.runtime) :
    (w.cancelThen io r op next).2.pending = none := by
  rw [cancelThen]
  cases hcancel : r.cancelPrepared io with
  | mk result r' =>
    have hcandidate := candidate_of_cancel hcancel
    cases result with
    | error e => exact hcandidate
    | ok =>
      dsimp only
      rw [pending, hnext]
      exact hcandidate

theorem pending_replaceInstance {request : ActivationRequest Bytes} (h : r.candidate.isSome) :
    (w.replaceInstance io r request).2.pending = none := by
  rw [replaceInstance]
  cases hcommit : r.commitPrepared io with
  | mk result r' =>
    have hcandidate := candidate_of_commit h hcommit
    cases result with
    | error e => exact hcandidate
    | ok =>
      dsimp only
      split <;> exact hcandidate

theorem pending_cancelDocument {op : String} {error : DocumentSaveError} :
    (w.cancelDocument io r op error).2.pending = none := by
  rw [cancelDocument]
  cases hcancel : r.cancelPrepared io with
  | mk result r' =>
    have hcandidate := candidate_of_cancel hcancel
    cases result <;> exact hcandidate

theorem pending_replaceDocument {op : String} {p : SelectedRuntimeProjection}
    {generation : UInt64} {late : Bool} (h : r.candidate.isSome) :
    (w.replaceDocument io r op p generation late).2.pending = none := by
  rw [replaceDocument]
  dsimp only
  split
  · rw [timeOutDocument]
    cases hcancel : r.cancelPrepared io with
    | mk result r' =>
      have hcandidate := candidate_of_cancel hcancel
      cases result <;> exact hcandidate
  · cases hcommit : r.commitPrepared io with
    | mk result r' =>
      have hcandidate := candidate_of_commit h hcommit
      cases result <;> exact hcandidate

/-- A stop leaves nothing pending, and nothing running if it succeeds. -/
theorem pending_stopRuntime (h : w.pending = none) :
    (w.stopRuntime io).2.pending = none ∧
      ((w.stopRuntime io).1 = .stopped ∨ (w.stopRuntime io).1 = .alreadyStopped →
        (w.stopRuntime io).2.lifecycle = .stopped) := by
  rw [stopRuntime.eq_def]
  cases hruntime : w.runtime with
  | none =>
    refine ⟨h, fun _ => ?_⟩
    dsimp only
    rw [lifecycle_record, lifecycle, hruntime]
    rfl
  | some r =>
    have hstop : ∀ {result r'}, r.stop io = (result, r') → r'.candidate = none := by
      intro result r' hstop
      rw [pending_of_runtime hruntime] at h
      exact SidecarRuntime.stop_candidate hstop h
    dsimp only
    cases hlifecycle : r.lifecycle with
    | stopped => exact ⟨h, fun _ => (lifecycle_of_runtime hruntime).trans hlifecycle⟩
    | ready | recoveryRequired =>
      dsimp only
      cases hstops : r.stop io with
      | mk result r' =>
        have hcandidate := hstop hstops
        cases result with
        | error e => exact ⟨hcandidate, by simp⟩
        | ok =>
          obtain ⟨hchild, -, hrecovery, -⟩ := SidecarRuntime.stop_ok hstops
          refine ⟨hcandidate, fun _ => ?_⟩
          change r'.lifecycle = .stopped
          rw [SidecarRuntime.lifecycle, hrecovery, hchild]
          rfl

theorem pending_runStop (h : w.pending = none) :
    (w.runStop io).2.pending = none ∧
      ((w.runStop io).1 = .stopped ∨ (w.runStop io).1 = .alreadyStopped →
        (w.runStop io).2.lifecycle = .stopped) := by
  have hstop : (w.stopRuntime io).2.pending = none ∧ _ := pending_stopRuntime h
  rw [runStop]
  generalize w.stopRuntime io = stopped at hstop
  obtain ⟨result, w'⟩ := stopped
  cases result <;> exact hstop

end Parts

end ManagedRuntime

end Veyra
