import Veyra.Application.ManagedRuntime
import Veyra.Lib.Transition
import Veyra.Platform.SystemProxy

/-!
# Veyra.Application.RuntimeSupervisor

`RuntimeSupervisor`: moves the two resources of the System Proxy mode, the
sidecar and the proxy setting, between `Off` and `SystemProxy`.

The proxy controller is in the outcomes that a call is given.  An outcome
carries its documented meaning with it: a setting that was safely unapplied, or
restored, is no longer in place.  Whether a setting of the controller is in
place, and the port of the last one that was enabled, is history that no call
reads.
-/

namespace Veyra

open Transition

/-- `CaptureMode`. -/
inductive CaptureMode
  | off
  | systemProxy
  | recoveryRequired
deriving DecidableEq, Repr

inductive ActivateOutcome
  | activated
  | reconfigured
deriving DecidableEq, Repr

inductive DeactivateOutcome
  | deactivated
  | userProxyPreserved
  | alreadyOff
deriving DecidableEq, Repr

inductive RuntimeSupervisorError
  | buildFailed
  | sidecarFailed
  | proxyApplyFailed
  | proxyRestoreFailed
  | recoveryRequired
deriving DecidableEq, Repr

/-- How `enable_loopback_proxy` ends: its result, and whether a setting that the controller wrote is
in place after it. -/
structure EnableOutcome where
  result : Except SystemProxyEnableError Unit
  inPlace : Bool
  /-- What `SafelyUnapplied` says. -/
  unapplied : ∀ e, result = .error (.safelyUnapplied e) → inPlace = false

/-- How `restore_proxy` ends. -/
structure RestoreOutcome where
  result : Except SystemProxyError SystemProxyRestoreOutcome
  inPlace : Bool
  /-- The setting was proved restored, was never applied, or was changed by the user. -/
  removed : ∀ outcome, result = .ok outcome → inPlace = false

/-- The supervisor; `inPlace` and `enabled` are history. -/
structure RuntimeSupervisor (P Bytes : Type) where
  sidecar : SidecarRuntime P Bytes
  state : CaptureMode
  inPlace : Bool
  enabled : Option UInt16

/-- What a call of `activate_system_proxy` is for, and what it finds. -/
structure ActivateCall where
  intent : RuntimeIntent
  defaultTarget : RouteTarget
  secret : Option String
  enables : EnableOutcome

namespace RuntimeSupervisor

variable {P Bytes Value : Type} [DecidableEq Value]

/-- `RuntimeSupervisor::new`. -/
def new (sidecar : SidecarRuntime P Bytes) : RuntimeSupervisor P Bytes :=
  { sidecar, state := .off, inPlace := false, enabled := none }

/-- The candidate of `start_sidecar`. -/
def buildCandidate (env : RuntimeEnv P Bytes Value) (call : ActivateCall) : Option Bytes := do
  let plan ← (compile env.compiler call.intent call.defaultTarget).toOption
  let secret ← call.secret
  (plan.finalize env.compiler env.text secret).toOption

/-- `start_sidecar`. -/
def startSidecar (env : RuntimeEnv P Bytes Value) (s : RuntimeSupervisor P Bytes)
    (call : ActivateCall) : Except RuntimeSupervisorError UInt16 × RuntimeSupervisor P Bytes :=
  match buildCandidate env call with
  | none => (.error .buildFailed, s)
  | some candidate =>
    match s.sidecar.startOrReplace env.port candidate with
    | (.error _, sidecar) =>
      let requiresRecovery := sidecar.lifecycle = .recoveryRequired ||
        (s.state = .systemProxy && sidecar.lifecycle ≠ .ready)
      (.error .sidecarFailed,
        { s with sidecar, state := if requiresRecovery then .recoveryRequired else s.state })
    | (.ok (), sidecar) =>
      match sidecar.exposedMixedPort with
      | none => (.error .sidecarFailed, { s with sidecar })
      | some port => (.ok port, { s with sidecar })

/-- `stop_sidecar_or_require_recovery`. -/
def stopSidecarOrRequireRecovery (io : SidecarPort P Bytes) (s : RuntimeSupervisor P Bytes) :
    Except RuntimeSupervisorError Unit × RuntimeSupervisor P Bytes :=
  match s.sidecar.stop io with
  | (.error _, sidecar) =>
    (.error .recoveryRequired, { s with sidecar, state := .recoveryRequired })
  | (.ok (), sidecar) => (.ok (), { s with sidecar })

/-- `activate_from_off`. -/
def activateFromOff (env : RuntimeEnv P Bytes Value) (s : RuntimeSupervisor P Bytes)
    (call : ActivateCall) :
    Except RuntimeSupervisorError ActivateOutcome × RuntimeSupervisor P Bytes :=
  match s.startSidecar env call with
  | (.error e, s) => (.error e, s)
  | (.ok port, s) =>
    let s := { s with inPlace := call.enables.inPlace }
    match call.enables.result with
    | .ok () => (.ok .activated, { s with state := .systemProxy, enabled := some port })
    | .error (.safelyUnapplied _) =>
      match s.stopSidecarOrRequireRecovery env.port with
      | (.ok (), s) => (.error .proxyApplyFailed, s)
      | (.error _, s) => (.error .recoveryRequired, s)
    | .error (.stateUncertain _) => (.error .recoveryRequired, { s with state := .recoveryRequired })

/-- `reconfigure`. -/
def reconfigure (env : RuntimeEnv P Bytes Value) (s : RuntimeSupervisor P Bytes)
    (call : ActivateCall) :
    Except RuntimeSupervisorError ActivateOutcome × RuntimeSupervisor P Bytes :=
  match s.startSidecar env call with
  | (.error e, s) => (.error e, s)
  | (.ok _, s) => (.ok .reconfigured, s)

/-- `activate_system_proxy`. -/
def activateSystemProxy (env : RuntimeEnv P Bytes Value) (s : RuntimeSupervisor P Bytes)
    (call : ActivateCall) :
    Except RuntimeSupervisorError ActivateOutcome × RuntimeSupervisor P Bytes :=
  match s.state with
  | .off => s.activateFromOff env call
  | .systemProxy => s.reconfigure env call
  | .recoveryRequired => (.error .recoveryRequired, s)

/-- `deactivate_system_proxy`. -/
def deactivateSystemProxy (io : SidecarPort P Bytes) (s : RuntimeSupervisor P Bytes)
    (restores : RestoreOutcome) :
    Except RuntimeSupervisorError DeactivateOutcome × RuntimeSupervisor P Bytes :=
  match s.state with
  | .off => (.ok .alreadyOff, s)
  | .recoveryRequired => (.error .recoveryRequired, s)
  | .systemProxy =>
    let s := { s with inPlace := restores.inPlace }
    match restores.result with
    | .error _ => (.error .proxyRestoreFailed, s)
    | .ok restore =>
      match s.stopSidecarOrRequireRecovery io with
      | (.error e, s) => (.error e, s)
      | (.ok (), s) =>
        (.ok (if restore = .userModified then .userProxyPreserved else .deactivated),
          { s with state := .off })

end RuntimeSupervisor

/-- One thing that happens to the supervisor: a call, or a change of the setting by the user. -/
inductive SupervisorEvent
  | activate (call : ActivateCall)
  | deactivate (restores : RestoreOutcome)
  | userSets

namespace RuntimeSupervisor

variable {P Bytes Value : Type} [DecidableEq Value]

/-- One event. -/
def step (env : RuntimeEnv P Bytes Value) (s : RuntimeSupervisor P Bytes) :
    SupervisorEvent → Option (RuntimeSupervisor P Bytes)
  | .activate call => some (s.activateSystemProxy env call).2
  | .deactivate restores => some (s.deactivateSystemProxy env.port restores).2
  | .userSets => some { s with inPlace := false }

end RuntimeSupervisor

/-! ## The sidecar under the supervisor -/

namespace SidecarRuntime

variable {P C : Type} {io : SidecarPort P C} {r r' : SidecarRuntime P C} {c : C}

theorem runCandidate_mixedPort {result : Except SidecarError Unit}
    (h : r.runCandidate io = (result, r')) : r'.mixedPort = r.mixedPort := by
  unfold runCandidate at h
  grind

theorem commitPrepared_mixedPort {result : Except SidecarError Unit}
    (h : r.commitPrepared io = (result, r')) : r'.mixedPort = r.mixedPort := by
  rw [commitPrepared] at h
  split at h
  · cases h
    rfl
  · split at h
    · exact runCandidate_mixedPort h
    · split at h
      · cases h
        rfl
      · have hrun := runCandidate_mixedPort h
        exact hrun

/-- The mixed port is fixed when the runtime is built. -/
theorem startOrReplace_mixedPort {result : Except SidecarError Unit}
    (h : r.startOrReplace io c = (result, r')) : r'.mixedPort = r.mixedPort := by
  rw [startOrReplace] at h
  cases hprepare : r.prepareReplacement io c with
  | mk prepares prepared =>
    rw [hprepare] at h
    cases prepares with
    | error e =>
      cases h
      exact (prepareReplacement_error hprepare).2.2.2.1
    | ok u => exact (commitPrepared_mixedPort h).trans (prepareReplacement_ok hprepare).2.2.2.2.2

theorem stop_mixedPort {result : Except SidecarError Unit} (h : r.stop io = (result, r')) :
    r'.mixedPort = r.mixedPort := by
  unfold stop clearPending at h
  grind

/-- A configuration that was started is ready. -/
theorem startOrReplace_ok (h : r.startOrReplace io c = (.ok (), r')) : r'.lifecycle = .ready := by
  rw [startOrReplace] at h
  cases hprepare : r.prepareReplacement io c with
  | mk result prepared =>
    rw [hprepare] at h
    cases result with
    | error e => cases h
    | ok u =>
      obtain ⟨hchild, -, -, -, hrecovery⟩ := commitPrepared_ok h
      rw [lifecycle, if_neg (by simp [hrecovery]), if_pos hchild]

/-- A failed start that requires no recovery keeps the child or stops it. -/
theorem startOrReplace_error {e : SidecarError} (h : r.startOrReplace io c = (.error e, r'))
    (hrecovery : r'.lifecycle ≠ .recoveryRequired) : r'.child = r.child ∨ r'.child = none := by
  have hrecovery : r'.recoveryRequired = false := by
    by_contra hrequired
    exact hrecovery (by rw [lifecycle, if_pos (by simpa using hrequired)])
  rw [startOrReplace] at h
  cases hprepare : r.prepareReplacement io c with
  | mk result prepared =>
    rw [hprepare] at h
    cases result with
    | error e =>
      cases h
      exact .inl (prepareReplacement_error hprepare).2.1
    | ok u =>
      have hcandidate : prepared.candidate.isSome := by
        rw [(prepareReplacement_ok hprepare).1]
        rfl
      exact .inr ((commitPrepared_error h hcandidate).2 hrecovery).1

end SidecarRuntime

/-! ## The capture mode -/

/-- What the capture mode says of the two resources. -/
structure RuntimeSupervisor.TellsTruth {P Bytes : Type} (s : RuntimeSupervisor P Bytes) : Prop where
  off : s.state = .off → s.sidecar.child = none
  systemProxy : s.state = .systemProxy → s.sidecar.lifecycle = .ready ∧
    s.enabled.isSome = true ∧ s.enabled = s.sidecar.exposedMixedPort
  inPlace : s.sidecar.lifecycle ≠ .ready → s.state ≠ .recoveryRequired → s.inPlace = false

namespace RuntimeSupervisor

variable {P Bytes Value : Type} [DecidableEq Value] {env : RuntimeEnv P Bytes Value}
  {s s' : RuntimeSupervisor P Bytes} {mixedPort : NonZeroPort}

/-- The invariant: nothing is left in `Off`, and in `SystemProxy` the sidecar is ready under the
port that was enabled. -/
structure Consistent (mixedPort : NonZeroPort) (s : RuntimeSupervisor P Bytes) : Prop where
  fixed : s.sidecar.mixedPort = some mixedPort.val
  off : s.state = .off → s.sidecar.child = none ∧ s.inPlace = false
  systemProxy : s.state = .systemProxy →
    s.sidecar.lifecycle = .ready ∧ s.enabled = some mixedPort.val

theorem Consistent.tellsTruth (h : s.Consistent mixedPort) : s.TellsTruth := by
  refine ⟨fun hoff => (h.off hoff).1, fun hsystem => ?_, fun hready hrecovery => ?_⟩
  · obtain ⟨hready, henabled⟩ := h.systemProxy hsystem
    rw [SidecarRuntime.exposedMixedPort, if_pos hready, henabled, h.fixed]
    exact ⟨hready, rfl, rfl⟩
  · cases hstate : s.state with
    | off => exact (h.off hstate).2
    | systemProxy => exact absurd (h.systemProxy hstate).1 hready
    | recoveryRequired => exact absurd hstate hrecovery

/-- Once recovery is required, only that is said. -/
theorem consistent_of_recovery (hport : s.sidecar.mixedPort = some mixedPort.val)
    (hstate : s.state = .recoveryRequired) : s.Consistent mixedPort :=
  ⟨hport, by simp [hstate], by simp [hstate]⟩

/-- **Spec.**  `start_sidecar`: a sidecar that is ready under the mixed port, or a failure after
which what the mode says still holds. -/
theorem Consistent.startSidecar (h : s.Consistent mixedPort) (env : RuntimeEnv P Bytes Value)
    (call : ActivateCall) :
    ((s.startSidecar env call).1 = .ok mixedPort.val ∧
      ∃ sidecar, (s.startSidecar env call).2 = { s with sidecar } ∧
        sidecar.lifecycle = .ready ∧ sidecar.mixedPort = some mixedPort.val) ∨
    ∃ e, (s.startSidecar env call).1 = .error e ∧
      (s.startSidecar env call).2.Consistent mixedPort := by
  rw [RuntimeSupervisor.startSidecar]
  cases buildCandidate env call with
  | none => exact .inr ⟨_, rfl, h⟩
  | some candidate =>
    dsimp only
    cases hstart : s.sidecar.startOrReplace env.port candidate with
    | mk result sidecar =>
      have hport : sidecar.mixedPort = some mixedPort.val :=
        (SidecarRuntime.startOrReplace_mixedPort hstart).trans h.fixed
      cases result with
      | ok u =>
        have hready := SidecarRuntime.startOrReplace_ok hstart
        dsimp only
        rw [SidecarRuntime.exposedMixedPort, if_pos hready, hport]
        exact .inl ⟨rfl, sidecar, rfl, hready, hport⟩
      | error e =>
        refine .inr ⟨_, rfl, ?_⟩
        dsimp only
        by_cases hrecovery : sidecar.lifecycle = .recoveryRequired
        · exact consistent_of_recovery hport (by simp [hrecovery])
        · have hchild := SidecarRuntime.startOrReplace_error hstart hrecovery
          cases hstate : s.state with
          | off =>
            obtain ⟨hnone, hplace⟩ := h.off hstate
            refine ⟨hport, fun _ => ⟨?_, hplace⟩, by simp [hrecovery]⟩
            cases hchild with
            | inl hsame => exact hsame.trans hnone
            | inr hnone => exact hnone
          | systemProxy =>
            by_cases hready : sidecar.lifecycle = .ready
            · exact ⟨hport, by simp [hready], fun _ => ⟨hready, (h.systemProxy hstate).2⟩⟩
            · exact consistent_of_recovery hport (by simp [hready])
          | recoveryRequired => exact consistent_of_recovery hport (by simp)

/-- **Spec.**  `stop_sidecar_or_require_recovery`. -/
theorem stopSidecar_cases (io : SidecarPort P Bytes) (s : RuntimeSupervisor P Bytes) :
    (∃ sidecar, s.stopSidecarOrRequireRecovery io = (.ok (), { s with sidecar }) ∧
      sidecar.child = none ∧ sidecar.mixedPort = s.sidecar.mixedPort) ∨
    ∃ sidecar, s.stopSidecarOrRequireRecovery io =
        (.error .recoveryRequired, { s with sidecar, state := .recoveryRequired }) ∧
      sidecar.mixedPort = s.sidecar.mixedPort := by
  rw [stopSidecarOrRequireRecovery]
  cases hstop : s.sidecar.stop io with
  | mk result sidecar =>
    have hport := SidecarRuntime.stop_mixedPort hstop
    cases result with
    | ok u => exact .inl ⟨sidecar, rfl, (SidecarRuntime.stop_ok hstop).1, hport⟩
    | error e => exact .inr ⟨sidecar, rfl, hport⟩

/-- **Spec.**  `activate_from_off`. -/
theorem Consistent.activateFromOff (h : s.Consistent mixedPort) (hoff : s.state = .off)
    (call : ActivateCall) : (s.activateFromOff env call).2.Consistent mixedPort := by
  rw [RuntimeSupervisor.activateFromOff]
  cases hstart : s.startSidecar env call with
  | mk result started =>
    have hcases := h.startSidecar env call
    rw [hstart] at hcases
    rcases hcases with ⟨rfl, sidecar, rfl, hready, hport⟩ | ⟨e, rfl, hconsistent⟩
    · dsimp only
      cases hresult : call.enables.result with
      | ok u => exact ⟨hport, by simp, fun _ => ⟨hready, rfl⟩⟩
      | error e =>
        cases e with
        | safelyUnapplied e =>
          have hplace := call.enables.unapplied e hresult
          dsimp only
          rcases stopSidecar_cases env.port
              { s with sidecar, inPlace := call.enables.inPlace } with
            ⟨stopped, hstop, hchild, hport'⟩ | ⟨stopped, hstop, hport'⟩
          · rw [hstop]
            exact ⟨hport'.trans hport, fun _ => ⟨hchild, hplace⟩, by simp [hoff]⟩
          · rw [hstop]
            exact consistent_of_recovery (hport'.trans hport) rfl
        | stateUncertain e => exact consistent_of_recovery hport rfl
    · exact hconsistent

/-- **Spec.**  `reconfigure`. -/
theorem Consistent.reconfigure (h : s.Consistent mixedPort) (hsystem : s.state = .systemProxy)
    (call : ActivateCall) : (s.reconfigure env call).2.Consistent mixedPort := by
  rw [RuntimeSupervisor.reconfigure]
  cases hstart : s.startSidecar env call with
  | mk result started =>
    have hcases := h.startSidecar env call
    rw [hstart] at hcases
    rcases hcases with ⟨rfl, sidecar, rfl, hready, hport⟩ | ⟨e, rfl, hconsistent⟩
    · exact ⟨hport, by simp [hsystem], fun _ => ⟨hready, (h.systemProxy hsystem).2⟩⟩
    · exact hconsistent

/-- **Spec.**  `deactivate_system_proxy`. -/
theorem Consistent.deactivate (h : s.Consistent mixedPort) (io : SidecarPort P Bytes)
    (restores : RestoreOutcome) :
    (s.deactivateSystemProxy io restores).2.Consistent mixedPort := by
  rw [deactivateSystemProxy]
  cases hstate : s.state with
  | off => exact h
  | recoveryRequired => exact h
  | systemProxy =>
    dsimp only
    cases hresult : restores.result with
    | error e => exact ⟨h.fixed, by simp, fun _ => h.systemProxy hstate⟩
    | ok restore =>
      have hplace := restores.removed restore hresult
      dsimp only
      rcases stopSidecar_cases io
          { s with state := .systemProxy, inPlace := restores.inPlace } with
        ⟨stopped, hstop, hchild, hport⟩ | ⟨stopped, hstop, hport⟩
      · rw [hstop]
        exact ⟨hport.trans h.fixed, fun _ => ⟨hchild, hplace⟩, by simp⟩
      · rw [hstop]
        exact consistent_of_recovery (hport.trans h.fixed) rfl

/-- **Step.** -/
theorem Consistent.step {event : SupervisorEvent} (h : s.Consistent mixedPort)
    (hstep : s.step env event = some s') : s'.Consistent mixedPort := by
  cases event with
  | activate call =>
    cases hstep
    rw [activateSystemProxy]
    cases hstate : s.state with
    | off => exact h.activateFromOff hstate call
    | systemProxy => exact h.reconfigure hstate call
    | recoveryRequired => exact h
  | deactivate restores =>
    cases hstep
    exact h.deactivate env.port restores
  | userSets =>
    cases hstep
    exact ⟨h.fixed, fun hoff => ⟨(h.off hoff).1, rfl⟩, h.systemProxy⟩

/-- **Step.**  A required recovery is not left. -/
theorem recovery_step {event : SupervisorEvent} (h : s.state = .recoveryRequired)
    (hstep : s.step env event = some s') : s'.state = .recoveryRequired := by
  cases event with
  | activate call =>
    cases hstep
    rw [activateSystemProxy, h]
    exact h
  | deactivate restores =>
    cases hstep
    rw [deactivateSystemProxy, h]
    exact h
  | userSets =>
    cases hstep
    exact h

/-- **The capture mode tells the truth** after every call, whatever the compilation, the sidecar
port and the proxy controller answer, and a required recovery is never left. -/
theorem capture_mode_tells_truth (env : RuntimeEnv P Bytes Value) (port : P)
    (mixedPort : NonZeroPort) (events : List SupervisorEvent) (s : RuntimeSupervisor P Bytes)
    (run : Runs (step env) Free (new (.new port mixedPort)) events s) :
    s.TellsTruth ∧
      ∀ later s', Runs (step env) Free s later s' → s.state = .recoveryRequired →
        s'.state = .recoveryRequired := by
  have hstart : (new (.new port mixedPort) : RuntimeSupervisor P Bytes).Consistent mixedPort :=
    ⟨rfl, fun _ => ⟨rfl, rfl⟩, by simp [new]⟩
  have hconsistent := run.invariant (Consistent mixedPort) hstart fun _ _ _ h _ hstep => h.step hstep
  refine ⟨hconsistent.tellsTruth, fun later s' rest hstate => ?_⟩
  exact rest.invariant (·.state = .recoveryRequired) hstate fun _ _ _ h _ hstep =>
    recovery_step h hstep

/-- A call for the routed state, whose setting is enabled. -/
def routedCall : ActivateCall :=
  { intent := ((routedState .direct).selectedContent ⟨"sub"⟩).1
    defaultTarget := .direct
    secret := some apiSecret
    enables := ⟨.ok (), true, by simp⟩ }

theorem capture_mode_tells_truth_activated :
    ∃ s, Runs (step plainEnv) Free (new (.new 0 ⟨2080, by decide⟩)) [.activate routedCall] s ∧
      s.state = .systemProxy ∧ s.inPlace = true ∧ s.TellsTruth := by
  have run : Runs (step plainEnv) Free (new (.new 0 ⟨2080, by decide⟩)) [.activate routedCall] _ :=
    Runs.refl.tail trivial rfl
  exact ⟨_, run, by decide +kernel, by decide +kernel,
    (capture_mode_tells_truth plainEnv 0 ⟨2080, by decide⟩ _ _ run).1⟩

end RuntimeSupervisor

end Veyra
