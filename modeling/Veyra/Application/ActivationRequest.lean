import Veyra.Application.Projection

/-!
# Veyra.Application.ActivationRequest

The part of `activate_with_expected_generation` that reads the state: which
state an activation would save, what it would run, and, once the worker gets
to it, whether the state on disk is still the one that was read.
-/

namespace Veyra

open Check

inductive ActivationError
  | invalidInput
  | identityFailed
  | busy
  | notFound
  | stateUnavailable
  | stateChanged
  | selectionConflict
  | configurationFailed
  | saveFailed
  | stopFailed
  | startFailed
  | recoveryRequired
deriving DecidableEq, Repr

/-- `map_projection_error`. -/
def SelectionProjectionError.toActivationError : SelectionProjectionError → ActivationError
  | .selectionRequired | .notFound => .notFound
  | .selectionConflict => .selectionConflict
  | .configurationFailed => .configurationFailed

/-- The state that selects a subscription: another selection raises the generation. -/
def activationCandidate (id : String) (expected : AppState) : Except ActivationError AppState :=
  if expected.activeSubscriptionId = some ⟨id⟩ then .ok expected
  else if expected.activeConfigurationGeneration.toNat + 1 ≤ maxSafeInteger.toNat then
    .ok { expected with
      activeSubscriptionId := some ⟨id⟩
      activeConfigurationGeneration := expected.activeConfigurationGeneration + 1 }
  else .error .configurationFailed

/-- What an `ActivationRequest` is built from. -/
structure ActivationPlan where
  expected : AppState
  candidate : AppState
  projection : SelectedRuntimeProjection
  reactivation : Bool
deriving DecidableEq

/-- The checks of `activate_with_expected_generation` on the loaded state; a routing apply
names the generation it expects. -/
def planActivation (id : String) (force : Bool) (expectedDesiredGeneration : Option UInt64)
    (expected : AppState) : Except ActivationError ActivationPlan := do
  reject (expectedDesiredGeneration.any fun generation =>
    expected.activeConfigurationGeneration ≠ generation ||
      expected.activeSubscriptionId.all (·.val ≠ id)) .stateChanged
  reject (!expected.subscriptions.any (·.id.val = id)) .notFound
  let candidate ← activationCandidate id expected
  let projection ← (projectSelectedRuntime candidate).mapError (·.toActivationError)
  .ok { expected, candidate, projection
        reactivation := force && expected.activeSubscriptionId = some ⟨id⟩ }

/-- The state that the `Persisted` step of `apply_activation` saves over the current one,
if it has to save. -/
def commitActivation (plan : ActivationPlan) (current : AppState) :
    Except ActivationError (Option AppState) := do
  reject (current ≠ plan.expected) .busy
  .ok (if plan.candidate ≠ plan.expected then some plan.candidate else none)

/-- A committed activation: the state it saves over the one that is on disk. -/
inductive ActivationCommit (s t : AppState) : Prop
  | mk {id : String} {force : Bool} {expectedDesiredGeneration : Option UInt64}
      {base : AppState} {plan : ActivationPlan}
      (planned : planActivation id force expectedDesiredGeneration base = .ok plan)
      (committed : commitActivation plan s = .ok (some t))

/-- The candidate names the subscription and differs in selection and generation alone. -/
theorem activationCandidate_ok {id : String} {expected candidate : AppState}
    (h : activationCandidate id expected = .ok candidate) :
    candidate.activeSubscriptionId = some ⟨id⟩ ∧
    candidate = { expected with
      activeSubscriptionId := candidate.activeSubscriptionId
      activeConfigurationGeneration := candidate.activeConfigurationGeneration } := by
  rw [activationCandidate] at h
  split at h
  · next hactive =>
    cases h
    exact ⟨hactive, rfl⟩
  · split at h
    · cases h
      exact ⟨rfl, rfl⟩
    · cases h

/-- **Spec.**  A planned activation runs the projection of its candidate, which selects the
requested subscription. -/
theorem planActivation_ok {id : String} {force : Bool} {generation : Option UInt64}
    {expected : AppState} {plan : ActivationPlan}
    (h : planActivation id force generation expected = .ok plan) :
    plan.expected = expected ∧ activationCandidate id expected = .ok plan.candidate ∧
    projectSelectedRuntime plan.candidate = .ok plan.projection ∧
    plan.candidate.activeSubscriptionId = some ⟨id⟩ := by
  obtain ⟨-, h⟩ := ok_seq.mp h
  obtain ⟨-, h⟩ := ok_seq.mp h
  obtain ⟨candidate, hcandidate, h⟩ := ok_bind.mp h
  obtain ⟨projection, hprojection, h⟩ := ok_bind.mp h
  cases h
  exact ⟨rfl, hcandidate, mapError_eq_ok.mp hprojection, (activationCandidate_ok hcandidate).1⟩

/-- A plan reactivates when the caller forces the selection that is there. -/
theorem planActivation_reactivation {id : String} {force : Bool} {generation : Option UInt64}
    {expected : AppState} {plan : ActivationPlan}
    (h : planActivation id force generation expected = .ok plan) :
    plan.reactivation = (force && expected.activeSubscriptionId = some ⟨id⟩) := by
  obtain ⟨-, h⟩ := ok_seq.mp h
  obtain ⟨-, h⟩ := ok_seq.mp h
  obtain ⟨candidate, -, h⟩ := ok_bind.mp h
  obtain ⟨projection, -, h⟩ := ok_bind.mp h
  cases h
  rfl

theorem commitActivation_ok {plan : ActivationPlan} {current after : AppState}
    (h : commitActivation plan current = .ok (some after)) :
    current = plan.expected ∧ after = plan.candidate := by
  obtain ⟨hsame, h⟩ := ok_seq.mp h
  refine ⟨by simpa using hsame, ?_⟩
  split at h
  · exact (Option.some.inj (Except.ok.inj h)).symm
  · cases h

theorem ActivationCommit.valid {s t : AppState} (h : ActivationCommit s t) : t.Valid := by
  obtain ⟨planned, committed⟩ := h
  obtain ⟨-, -, hprojection, -⟩ := planActivation_ok planned
  rw [(commitActivation_ok committed).2]
  exact (projectSelectedRuntime_ok hprojection).1

end Veyra
