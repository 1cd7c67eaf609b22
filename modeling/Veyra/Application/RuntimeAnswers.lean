import Veyra.Application.ApplyState
import Veyra.Application.ObservationRecords
import Veyra.Application.RoutingResults

/-!
# Veyra.Application.RuntimeAnswers

What a routing call is told of the runtime: the result of a selection by hand, the result of an
apply, and what a snapshot is built from.

Each is what the controller and its worker tell after some run, or stands for a worker that was
not asked or did not answer in time.  Whatever the run was, an apply that did not fail names the
operation that was drawn for it, and a selection names a node.
-/

namespace Veyra

open Check ProxyRouting

variable {P Bytes Value : Type}

/-! ## The operation of an activation -/

/-- The result is that of the operation, unless it is an error. -/
def ActivationResult.IsOf (operationId : String) : ActivationResult → Prop
  | .activated op _ _ | .reactivated op _ _ | .alreadyCurrent op _ _ | .pending op =>
    op = operationId
  | .error _ _ => True

namespace ManagedRuntime

variable {w : ManagedRuntime P Bytes} {r : SidecarRuntime P Bytes}

theorem cancelThen_isOf {io : SidecarPort P Bytes} {op : String}
    {next : ManagedRuntime P Bytes → ActivationResult × ManagedRuntime P Bytes}
    (hnext : ∀ w', (next w').1.IsOf op) : (w.cancelThen io r op next).1.IsOf op := by
  rw [cancelThen]
  cases r.cancelPrepared io with
  | mk result r' =>
    cases result with
    | ok => exact hnext _
    | error e => trivial

theorem replaceInstance_isOf (io : SidecarPort P Bytes) (request : ActivationRequest Bytes) :
    (w.replaceInstance io r request).1.IsOf request.operationId := by
  rw [replaceInstance]
  dsimp only
  cases r.commitPrepared io with
  | mk result r' =>
    cases result with
    | error e => trivial
    | ok =>
      dsimp only
      split <;> rfl

theorem applyActivation_isOf (io : SidecarPort P Bytes) (request : ActivationRequest Bytes)
    (a : CommitAnswers) (disk : AppState) :
    (w.applyActivation io r request a disk).1.1.IsOf request.operationId := by
  rw [applyActivation]
  cases r.prepareReplacement io request.config with
  | mk result r' =>
    cases result with
    | error e => trivial
    | ok =>
      dsimp only
      split
      · exact cancelThen_isOf fun _ => rfl
      · cases persistActivation request.plan a disk with
        | mk persisted after =>
          cases persisted with
          | error e => exact cancelThen_isOf fun _ => trivial
          | ok goesOn =>
            cases goesOn with
            | false => exact cancelThen_isOf fun _ => rfl
            | true => exact replaceInstance_isOf io request

theorem runActivation_isOf (io : SidecarPort P Bytes) (w : ManagedRuntime P Bytes)
    (request : ActivationRequest Bytes) (created : Option P) (a : CommitAnswers)
    (disk : AppState) :
    (w.runActivation io request created a disk).1.1.IsOf request.operationId := by
  have hsettled : ∀ result : ActivationResult × ManagedRuntime P Bytes,
      (settleActivation request.plan.projection result).1 = result.1 := by
    intro result
    rw [settleActivation.eq_def]
    split <;> rfl
  rw [runActivation]
  dsimp only
  split
  · trivial
  · rw [hsettled]
    exact applyActivation_isOf io request a disk

/-- **Call lemma.**  An activation that does not fail names its operation. -/
theorem activate_isOf [DecidableEq Value] (env : RuntimeEnv P Bytes Value)
    (w : ManagedRuntime P Bytes) (call : ActivationCall) (p : PreflightAnswers)
    (created : Option P) (a : CommitAnswers) (disk : AppState) :
    (w.activate env call p created a disk).1.1.IsOf call.operationId := by
  rw [activate]
  cases call.enter p with
  | error e => trivial
  | ok expected =>
    dsimp only
    cases hchecked : preflight env (w.queueRouting call expected) call p expected with
    | error e => trivial
    | ok checked =>
      cases checked with
      | alreadyCurrent subscription generation => rfl
      | send request =>
        obtain ⟨-, hop, -, -⟩ := preflight_send hchecked
        rw [← hop]
        exact runActivation_isOf env.port _ request created a disk

end ManagedRuntime

/-! ## What the controller tells -/

section Answers

variable [DecidableEq Value] {env : RuntimeEnv P Bytes Value}

/-- What `reconcile_manual_selection` of the controller returns: what the worker found, that it
was not asked, or that it did not answer in time. -/
inductive ManualAnswer (env : RuntimeEnv P Bytes Value) : ManualSelectionRuntimeResult → Prop
  | worker {w : ManagedRuntime P Bytes} (reached : w.Reached env) (pool : PoolId) (node : NodeId)
      (a : SelectorAnswers) : ManualAnswer env (w.reconcileManualSelection pool node a).1
  | notSent : ManualAnswer env (.savedOnly .dispatchUnavailable)
  | unanswered : ManualAnswer env (.applyUnknown .readBackUnavailable)

/-- What `apply_proxy_routing` returns: that no operation could be named, how the activation
ended, that it has not ended in time, or that the worker is gone. -/
inductive ApplyAnswer (env : RuntimeEnv P Bytes Value) : ActivationResult → Prop
  | unnamed : ApplyAnswer env (.error none .identityFailed)
  | ended {w : ManagedRuntime P Bytes} (reached : w.Reached env) {call : ActivationCall}
      (drawn : Drawn call.operationId) (p : PreflightAnswers) (created : Option P)
      (a : CommitAnswers) (disk : AppState) :
      ApplyAnswer env (w.activate env call p created a disk).1.1
  | late {operationId : String} (drawn : Drawn operationId) :
      ApplyAnswer env (.pending operationId)
  | lost (operationId : String) : ApplyAnswer env (.error (some operationId) .recoveryRequired)

/-- What a snapshot is built from: what the controller knows after some run. -/
def SourcesOf (env : RuntimeEnv P Bytes Value) (sources : SnapshotSources) : Prop :=
  ∃ (w : ManagedRuntime P Bytes) (applyTuple : Option (Option String × UInt64)),
    w.Reached env ∧ sources = w.sources applyTuple

/-- What a mutation finds once it let go of the gate, as far as it is the runtime's. -/
structure ProxyRouting.FinishAnswers.Of (env : RuntimeEnv P Bytes Value) (f : FinishAnswers) :
    Prop where
  manual : ManualAnswer env f.manual
  activation : ApplyAnswer env f.activation
  sources : SourcesOf env f.sources

/-- A node that a selector has in place of the desired one is named. -/
theorem ManualAnswer.named {result : ManualSelectionRuntimeResult} (h : ManualAnswer env result)
    (id : NodeId) (hresult : result = .notApplied id) : id.val ≠ "" := by
  cases h with
  | worker reached pool node a =>
    exact (reached.sound.reconcileManualSelection pool node a).2 id hresult
  | notSent | unanswered => cases hresult

/-- An apply that did not fail has an operation. -/
theorem ApplyAnswer.named {result : ActivationResult} (h : ApplyAnswer env result) :
    ∃ operationId, operationId ≠ "" ∧ result.IsOf operationId := by
  cases h with
  | unnamed | lost => exact ⟨"0", by decide, trivial⟩
  | @ended w _ call drawn p created a disk =>
    exact ⟨call.operationId, drawn.ne_empty, w.activate_isOf env call p created a disk⟩
  | @late operationId drawn => exact ⟨operationId, drawn.ne_empty, rfl⟩

end Answers

end Veyra
