import Veyra.Application.CommitEffect
import Veyra.Application.RuntimeShown

/-!
# Veyra.Application.DocumentOutcome

How a document save ends.  The worker prepares the next state and the
candidate, commits the document over the state it was prepared from, and only
then replaces the instance.

Whatever the deadline, the port, the gate, the store and the shutdown flag
answer, there are four ends: nothing was saved and the instance is as it was
(`Unsaved`), the document was saved and asked for no new instance, the new
instance runs what is on disk (`Applied`), or the document was saved and the
instance could not be replaced (`Unapplied`).
-/

namespace Veyra

open Check ProxyRouting Transition

variable {P Bytes Value : Type}

namespace ManagedRuntime

/-! ## The ends -/

/-- The child that was owned is still owned, under the tuple that was applied, and no candidate
waits. -/
structure KeepsInstance (w w' : ManagedRuntime P Bytes) : Prop where
  child : w'.instance? = w.instance?
  applied : w'.observations.appliedTuple = w.observations.appliedTuple
  pending : w'.pending = none

/-- The runtime waits for an explicit stop, and the observation says so. -/
structure ReportsRecovery (w : ManagedRuntime P Bytes) : Prop where
  lifecycle : w.lifecycle = .recoveryRequired
  observed : w.observations.sidecarLifecycle = .recoveryRequired

/-- The observation agrees with the runtime; before a lifecycle was ever observed, nothing
runs. -/
def ObservesLifecycle (w : ManagedRuntime P Bytes) : Prop :=
  w.observations.sidecarLifecycle = observedLifecycle w.lifecycle ∨
    (w.observations.sidecarLifecycle = .notObserved ∧ w.lifecycle = .stopped)

/-- Nothing was saved. -/
structure Unsaved (w : ManagedRuntime P Bytes) (disk : AppState) (w' : ManagedRuntime P Bytes)
    (disk' : AppState) : Prop where
  unsaved : disk' = disk
  kept : w.KeepsInstance w' ∨ w'.ReportsRecovery

/-- The instance was replaced by one that runs the configuration of the saved state. -/
structure Applied [DecidableEq Value] (env : RuntimeEnv P Bytes Value) (w : ManagedRuntime P Bytes)
    (a : DocumentAnswers P) (prepared : PreparedDocumentSave) (w' : ManagedRuntime P Bytes)
    (disk' : AppState) : Prop where
  saved : disk' = prepared.next
  running : ∃ r r' child config p plan,
    w.runtime.or (a.created.map .newObservationOnly) = some r ∧ w'.runtime = some r' ∧
    r'.lifecycle = .ready ∧ r'.child = some child ∧ r'.active = some config ∧
    r.Starts env.port config child ∧ CompiledFrom env config disk' p plan
  applied : w'.observations.appliedTuple = (disk'.desiredTuple.1, some disk'.desiredTuple.2)

/-- The document was saved, and the instance could not be replaced. -/
structure Unapplied (prepared : PreparedDocumentSave) (w' : ManagedRuntime P Bytes)
    (disk' : AppState) : Prop where
  saved : disk' = prepared.next
  pending : w'.pending = none
  observed : w'.ObservesLifecycle

/-- How a document save ends: its result, the worker and the state on disk. -/
inductive DocumentOutcome [DecidableEq Value] (env : RuntimeEnv P Bytes Value)
    (w : ManagedRuntime P Bytes) (a : DocumentAnswers P) (disk : AppState) :
    (DocumentSaveResult × ManagedRuntime P Bytes) × AppState → Prop
  | error {op : Option String} {e : DocumentSaveError} {w' : ManagedRuntime P Bytes}
      {disk' : AppState} (h : Unsaved w disk w' disk') :
      DocumentOutcome env w a disk ((.error op e, w'), disk')
  | notRequired {prepared : PreparedDocumentSave} {revision : String} {disk' : AppState}
      (read : a.prepared = .ok prepared) (saved : disk' = prepared.next) :
      DocumentOutcome env w a disk ((.ok revision .notRequired, w), disk')
  | ready {prepared : PreparedDocumentSave} {revision op : String} {generation : UInt64}
      {w' : ManagedRuntime P Bytes} {disk' : AppState} (read : a.prepared = .ok prepared)
      (h : Applied env w a prepared w' disk') :
      DocumentOutcome env w a disk ((.ok revision (.ready op generation), w'), disk')
  | failed {prepared : PreparedDocumentSave} {revision op : String} {generation : UInt64}
      {e : DocumentApplyError} {w' : ManagedRuntime P Bytes} {disk' : AppState}
      (read : a.prepared = .ok prepared) (h : Unapplied prepared w' disk') :
      DocumentOutcome env w a disk ((.ok revision (.failed op generation e), w'), disk')

/-! ## The commit -/

end ManagedRuntime

/-- A save that changes nothing prepares the state it found. -/
theorem prepareDocumentSave_changed {env : SubscriptionEnv} {worker : Option DocumentErrorCode}
    {input : DocumentSaveInput} {s : AppState} {prepared : PreparedDocumentSave}
    (h : prepareDocumentSave env worker input s = .ok prepared) :
    prepared.stateChanged = decide (prepared.before ≠ prepared.next) := by
  obtain ⟨_, _, _, _, _, _, _, -, -, -, -, -, -, -, -, rfl⟩ := prepareDocumentSave_cases h
  rfl

/-- **Spec.**  A commit leaves the prepared state on disk, or the disk alone. -/
theorem commitDocument_cases {prepared : PreparedDocumentSave} (a : DocumentAnswers P)
    (hchanged : prepared.stateChanged = decide (prepared.before ≠ prepared.next))
    (disk : AppState) :
    commitDocument prepared a disk = (.ok (), prepared.next) ∨
      ∃ e, commitDocument prepared a disk = (.error e, disk) := by
  rw [commitDocument]
  cases a.gate with
  | error e => exact .inr ⟨e, rfl⟩
  | ok =>
    cases hcommit : commitPreparedDocument prepared disk with
    | error e => exact .inr ⟨e, rfl⟩
    | ok save =>
      cases a.closing with
      | true => exact .inr ⟨.busy, rfl⟩
      | false =>
        obtain ⟨hsame, hsave⟩ := ok_seq.mp hcommit
        have hsame : disk = prepared.before := by simpa using hsame
        rw [hchanged] at hsave
        cases save with
        | none =>
          have hkept : prepared.before = prepared.next := by simpa using hsave
          exact .inl (by rw [hsame, ← hkept]; rfl)
        | some next =>
          rw [← (commitPreparedDocument_ok hcommit).2]
          cases a.saves with
          | true => exact .inl rfl
          | false => exact .inr ⟨.saveFailed, rfl⟩

namespace ManagedRuntime

/-! ## Before the document is saved -/

section Unsaved

variable {w w₁ : ManagedRuntime P Bytes} {r r' : SidecarRuntime P Bytes}

theorem instance?_of_runtime (h : w.runtime = some r) : w.instance? = r.child := by
  rw [instance?, h]
  rfl

/-- A runtime of a save that was given up: with the child of before, and no candidate. -/
theorem KeepsInstance.ofRuntime (hchild : r.child = w.instance?) (hpending : r.candidate = none)
    (happlied : w₁.observations.appliedTuple = w.observations.appliedTuple) :
    w.KeepsInstance (w₁.withRuntime r) :=
  ⟨hchild, happlied, hpending⟩

theorem KeepsInstance.switchPhase (h : w.KeepsInstance w₁) (op : String)
    (status : SubscriptionSwitchStatus) (code : Option SubscriptionSwitchErrorCode) :
    w.KeepsInstance (w₁.switchPhase op status code) :=
  ⟨h.child, (appliedTuple_switchPhase w₁ op status code).trans h.applied, h.pending⟩

/-- A clean-up that failed is reported. -/
theorem ReportsRecovery.ofRuntime (hr : r.recoveryRequired = true) (w : ManagedRuntime P Bytes) :
    (w.withRuntime r).recoverDocument.ReportsRecovery where
  lifecycle := by
    have hrecovery : r.lifecycle = .recoveryRequired := by rw [SidecarRuntime.lifecycle, if_pos hr]
    exact hrecovery
  observed := observed_failure _ _ _

theorem ReportsRecovery.switchPhase (h : w.ReportsRecovery) (op : String)
    (status : SubscriptionSwitchStatus) (code : Option SubscriptionSwitchErrorCode) :
    (w.switchPhase op status code).ReportsRecovery :=
  ⟨h.lifecycle, (observed_switchPhase w op status code).trans h.observed⟩

/-- The preparation was made and is cancelled. -/
theorem kept_of_cancel (io : SidecarPort P Bytes) (op : String) (error : DocumentSaveError)
    (hchild : r.child = w.instance?)
    (happlied : w₁.observations.appliedTuple = w.observations.appliedTuple) :
    (∃ e, (w₁.cancelDocument io r op error).1 = .error (some op) e) ∧
      (w.KeepsInstance (w₁.cancelDocument io r op error).2 ∨
        (w₁.cancelDocument io r op error).2.ReportsRecovery) := by
  rw [cancelDocument]
  cases hcancel : r.cancelPrepared io with
  | mk result r' =>
    cases result with
    | error e =>
      obtain ⟨-, -, hrecovery, -⟩ := SidecarRuntime.cancelPrepared_error hcancel
      exact ⟨⟨_, rfl⟩, .inr ((ReportsRecovery.ofRuntime hrecovery w₁).switchPhase _ _ _)⟩
    | ok =>
      obtain ⟨hpending, hsame, -⟩ := SidecarRuntime.cancelPrepared_ok hcancel
      have hkept : w.KeepsInstance (w₁.withRuntime r') :=
        .ofRuntime (hsame.trans hchild) hpending happlied
      exact ⟨⟨_, rfl⟩, .inl (hkept.switchPhase _ _ _)⟩

end Unsaved

/-! ## After the document was saved -/

section Saved

variable [DecidableEq Value] {env : RuntimeEnv P Bytes Value} {w w₁ : ManagedRuntime P Bytes}
  {r prepared r' : SidecarRuntime P Bytes} {a : DocumentAnswers P} {save : PreparedDocumentSave}
  {disk : AppState}

/-- The candidate took over. -/
theorem Applied.ofCommit {config : Bytes} {p : SelectedRuntimeProjection}
    (howned : w.runtime.or (a.created.map .newObservationOnly) = some r)
    (hprojected : projectSelectedRuntime save.next = .ok p)
    (hcompiled : compileProjection env p a.secret = some config)
    (hprepare : r.prepareReplacement env.port config = (.ok (), prepared))
    (hcommit : prepared.commitPrepared env.port = (.ok (), r')) (op : Option String) :
    Applied env w a save
      (w₁.becomeReady r' { p with selectedGeneration := save.next.activeConfigurationGeneration } op)
      save.next := by
  obtain ⟨-, hselected, -⟩ := projectSelectedRuntime_ok hprojected
  obtain ⟨child, hchild, hstarts⟩ := SidecarRuntime.starts_of_commit hprepare hcommit
  obtain ⟨-, hactive, -⟩ := SidecarRuntime.commitPrepared_ok hcommit
  obtain ⟨plan, hplan, hfinal⟩ := compileProjection_ok hcompiled
  refine ⟨rfl, ?_, ?_⟩
  · exact ⟨r, r', child, config, p, plan, howned, rfl, SidecarRuntime.ready_of_commit hcommit,
      hchild, hactive.trans (SidecarRuntime.prepareReplacement_ok hprepare).1, hstarts,
      ⟨hprojected, hplan, hfinal⟩⟩
  · rw [becomeReady, appliedTuple_record, AppState.desiredTuple, hselected]
    rfl

/-- The part of a document save after the document was committed. -/
theorem DocumentOutcome.ofReplace {config : Bytes} {p : SelectedRuntimeProjection}
    (hshown : Shown w) (hread : a.prepared = .ok save)
    (howned : w.runtime.or (a.created.map .newObservationOnly) = some r)
    (hprojected : projectSelectedRuntime save.next = .ok p)
    (hcompiled : compileProjection env p a.secret = some config)
    (hprepare : r.prepareReplacement env.port config = (.ok (), prepared))
    (hmoved : Unmoved w w₁) (hr : w₁.lifecycle = prepared.lifecycle) (op revision : String)
    (late : Bool) :
    DocumentOutcome env w a disk
      ((.ok revision (w₁.replaceDocument env.port prepared op p
          save.next.activeConfigurationGeneration late).1,
        (w₁.replaceDocument env.port prepared op p
          save.next.activeConfigurationGeneration late).2), save.next) := by
  have hshown : Shown (w₁.replaceDocument env.port prepared op p
      save.next.activeConfigurationGeneration late).2 :=
    (Ends.replaceDocument hmoved hr (candidate_of_prepared hprepare) op save.next late).shown hshown
  have hfailed : ∀ generation e w', Shown w' →
      DocumentOutcome env w a disk ((.ok revision (.failed op generation e), w'), save.next) :=
    fun generation e w' h => .failed hread ⟨rfl, h.pending, h.lifecycle⟩
  rw [replaceDocument] at hshown ⊢
  dsimp only at hshown ⊢
  cases late with
  | true =>
    rw [if_pos rfl, timeOutDocument] at hshown ⊢
    cases hcancel : prepared.cancelPrepared env.port with
    | mk result r' =>
      rw [hcancel] at hshown
      cases result with
      | error e => exact hfailed _ _ _ hshown
      | ok => exact hfailed _ _ _ hshown
  | false =>
    rw [if_neg Bool.false_ne_true] at hshown ⊢
    cases hcommit : prepared.commitPrepared env.port with
    | mk result r' =>
      rw [hcommit] at hshown
      cases result with
      | error e => exact hfailed _ _ _ hshown
      | ok => exact .ready hread (.ofCommit howned hprojected hcompiled hprepare hcommit _)

/-- The part of a document save with a configuration and a runtime. -/
theorem DocumentOutcome.ofSwitch {config : Bytes} {p : SelectedRuntimeProjection}
    (hshown : Shown w) (hread : a.prepared = .ok save)
    (hcommits : commitDocument save a disk = (.ok (), save.next) ∨
      ∃ e, commitDocument save a disk = (.error e, disk))
    (howned : w.runtime.or (a.created.map .newObservationOnly) = some r)
    (hprojected : projectSelectedRuntime save.next = .ok p)
    (hcompiled : compileProjection env p a.secret = some config) (hmoved : Unmoved w w₁)
    {op : String} :
    DocumentOutcome env w a disk
      ((w₁.withRuntime r).switchDocument env.port r op p config save a disk) := by
  obtain ⟨howner, hpending⟩ := Unmoved.withOwned howned
  have hchild : r.child = w.instance? := by
    cases hw : w.runtime with
    | some active =>
      rw [hw] at howned
      cases howned
      exact (instance?_of_runtime hw).symm
    | none =>
      rw [hw, Option.none_or] at howned
      obtain ⟨port, -, rfl⟩ := Option.map_eq_some_iff.mp howned
      rw [instance?, hw]
      rfl
  have hlifecycle : r.lifecycle = w₁.lifecycle := howner.lifecycle.trans hmoved.lifecycle.symm
  rw [switchDocument]
  cases hprepare : r.prepareReplacement env.port config with
  | mk result prepared =>
    cases result with
    | error e =>
      obtain ⟨hcandidate, hsame, -⟩ := SidecarRuntime.prepareReplacement_error hprepare
      dsimp only
      split
      · next hrecovery =>
        have hrequired := SidecarRuntime.recoveryRequired_of_lifecycle hrecovery
        exact .error ⟨rfl, .inr ((ReportsRecovery.ofRuntime hrequired _).switchPhase _ _ _)⟩
      · have hkept : w.KeepsInstance ((w₁.withRuntime r).withRuntime prepared) :=
          .ofRuntime (hsame.trans hchild) (hcandidate.trans (hpending hshown.pending)) hmoved.applied
        exact .error ⟨rfl, .inl (hkept.switchPhase _ _ _)⟩
    | ok =>
      obtain ⟨-, hsame, -⟩ := SidecarRuntime.prepareReplacement_ok hprepare
      have hstill : prepared.lifecycle = (w₁.withRuntime r).lifecycle :=
        (SidecarRuntime.prepareReplacement_same hprepare).lifecycle
      have hprepared := ((hmoved.withRuntime hlifecycle).withRuntime hstill).switchPhase
        op .prepared none
      have hcancelled : ∀ error, DocumentOutcome env w a disk
          ((((w₁.withRuntime r).withRuntime prepared).switchPhase op .prepared none).cancelDocument
            env.port prepared op error, disk) := by
        intro error
        obtain ⟨⟨e, hresult⟩, hkept⟩ := kept_of_cancel env.port op error
          (hsame.trans hchild) hprepared.applied
        generalize cancelDocument _ _ _ _ _ = x at hresult hkept
        obtain ⟨result, w'⟩ := x
        cases hresult
        exact .error ⟨rfl, hkept⟩
      dsimp only
      split
      · exact hcancelled _
      · obtain hcommitted | ⟨e, hrefused⟩ := hcommits
        · rw [hcommitted]
          exact .ofReplace hshown hread howned hprojected hcompiled hprepare hprepared rfl op _ _
        · rw [hrefused]
          exact hcancelled _

end Saved

/-! ## The save -/

/-- **A document save is atomic.**  Whatever the runtime is when the save is taken up, the request,
the state it is prepared from, the state on disk at its commit and all answers, a save that fails
leaves the state on disk and the child with its tuple, or reports a recovery; a save that is
applied runs what it left on disk; and after one that is not, the observation shows the
runtime. -/
theorem document_save_atomic [DecidableEq Value] (env : RuntimeEnv P Bytes Value)
    (events : List (RuntimeEvent P)) (w : ManagedRuntime P Bytes)
    (run : Runs (step env) Free .new events w) (subscriptions : SubscriptionEnv)
    (id op : String) (a : DocumentAnswers P)
    (hprepared : ∀ save, a.prepared = .ok save →
      ∃ worker input s, prepareDocumentSave subscriptions worker input s = .ok save)
    (disk : AppState) :
    DocumentOutcome env w a disk (w.applyDocumentSave env id op a disk) := by
  have hshown := shown_of_run run
  have hkept : ∀ {op : Option String} {e : DocumentSaveError},
      DocumentOutcome env w a disk ((.error op e, w), disk) :=
    .error ⟨rfl, .inl ⟨rfl, rfl, hshown.pending⟩⟩
  rw [applyDocumentSave.eq_def]
  cases hread : a.prepared with
  | error e => exact hkept
  | ok save =>
    obtain ⟨worker, input, s, hsave⟩ := hprepared save hread
    have hcommits := commitDocument_cases a (prepareDocumentSave_changed hsave) disk
    dsimp only
    split
    · exact hkept
    · split
      · obtain hcommitted | ⟨e, hrefused⟩ := hcommits
        · rw [hcommitted]
          exact .notRequired hread rfl
        · rw [hrefused]
          exact hkept
      · have hphases : Unmoved w (w.switchPhases op [.queued, .checking]) :=
          ((Unmoved.refl w).switchPhase op .queued none).switchPhase op .checking none
        have hgivenUp : ∀ e, DocumentOutcome env w a disk
            ((w.switchPhases op [.queued, .checking]).failedDocumentSwitch op e, disk) := by
          intro e
          have hsame := (hphases.switchPhase op .failed (some e.switchCode)).applied
          exact .error ⟨rfl, .inl ⟨rfl, hsame, hshown.pending⟩⟩
        cases hprojected : projectSelectedRuntime save.next with
        | error e => exact hgivenUp _
        | ok p =>
          dsimp only
          cases hcompiled : compileProjection env p a.secret with
          | none => exact hgivenUp _
          | some config =>
            dsimp only
            split
            · exact hgivenUp _
            · next r howned => exact .ofSwitch hshown hread hcommits howned hprojected hcompiled hphases

/-! ### A save in a fresh process -/

/-- The save of `editedBody` by a worker without a runtime, in time or not. -/
def freshAnswers (late : Bool) : DocumentAnswers UInt64 :=
  { editAnswers with created := some 0, lateAfterCommit := late }

theorem document_save_atomic_fresh : DocumentOutcome plainEnv .new (freshAnswers true)
    pooledState (applyDocumentSave plainEnv .new "sub" "save" (freshAnswers true) pooledState) :=
  document_save_atomic plainEnv [] .new .refl editEnv "sub" "save" (freshAnswers true)
    (fun _ h => ⟨none, _, pooledState, h⟩) pooledState

/-- The facts of that save that the results below are about. -/
theorem freshAnswers_eq (late : Bool) : freshAnswers late =
    { editAnswers with
      prepared := .ok
        ⟨pooledState, editedState, "sub", String.ofList (List.replicate 64 'b'), true, true⟩
      created := some 0, lateAfterCommit := late } := by
  rw [freshAnswers, editAnswers_eq]

/-- In time, the save is applied. -/
example : (applyDocumentSave plainEnv .new "sub" "save" (freshAnswers false) pooledState).1.1 =
    .ok (String.ofList (List.replicate 64 'b')) (.ready "save" 2) := by
  rw [freshAnswers_eq, editedState, pooledState_eq]
  decide +kernel

/-- A document is saved and then too late to be applied: the runtime was created and is stopped,
and no lifecycle was observed yet. -/
theorem late_save_not_observed :
    ∃ revision op generation e w disk,
      applyDocumentSave plainEnv .new "sub" "save" (freshAnswers true) pooledState =
        ((.ok revision (.failed op generation e), w), disk) ∧
      w.observations.sidecarLifecycle ≠ observedLifecycle w.lifecycle := by
  have hlate : (fun x : (DocumentSaveResult × ManagedRuntime UInt64 _) × AppState =>
      (x.1.1, x.1.2.observations.sidecarLifecycle, x.1.2.lifecycle))
      (applyDocumentSave plainEnv .new "sub" "save" (freshAnswers true) pooledState) =
        (.ok (String.ofList (List.replicate 64 'b')) (.failed "save" 2 .operationTimedOut),
          .notObserved, .stopped) := by
    rw [freshAnswers_eq, editedState, pooledState_eq]
    decide +kernel
  generalize applyDocumentSave plainEnv .new "sub" "save" (freshAnswers true) pooledState = x
    at hlate ⊢
  obtain ⟨⟨result, w⟩, disk⟩ := x
  simp only [Prod.mk.injEq] at hlate
  obtain ⟨rfl, hobserved, hstopped⟩ := hlate
  refine ⟨_, _, _, _, w, disk, rfl, ?_⟩
  rw [hobserved, hstopped]
  simp [observedLifecycle]

end ManagedRuntime

end Veyra
