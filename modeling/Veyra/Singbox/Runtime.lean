import Veyra.Lib.Check

/-!
# Veyra.Singbox.Runtime

`SidecarRuntime`: the in-memory transaction that replaces the one managed
sidecar — check and prepare a candidate while the old child keeps running,
then either stop the old child and run the candidate, or cancel it.

The platform side is a `SidecarPort`: any state type with any results, so a
statement about every port is a statement about every sequence of results.
The configuration is a parameter; the runtime only moves it between slots.
-/

namespace Veyra

/-- Identity of a managed instance, handed out by the port's `run` alone. -/
structure ManagedSidecar where
  identity : UInt64
deriving DecidableEq, Repr

/-- The closed set of port operations; a Boolean result is `is_ok`. -/
structure SidecarPort (P C : Type) where
  check : P → C → Bool × P
  prepare : P → C → Bool × P
  run : P → Option ManagedSidecar × P
  ready : P → ManagedSidecar → Bool × P
  stop : P → ManagedSidecar → Bool × P
  cancelPending : P → Bool × P
  hasPendingCleanup : P → Bool × P

inductive SidecarLifecycle
  | stopped
  | ready
  | recoveryRequired
deriving DecidableEq, Repr

inductive SidecarError
  | candidateCheck
  | candidatePrepare
  | activeStop
  | candidateStart
  | candidateReady
  | candidateStop
  | recoveryRequired
deriving DecidableEq, Repr

/-- The runtime record; `candidate` and `active` are its `ConfigSlots`. -/
structure SidecarRuntime (P C : Type) where
  port : P
  mixedPort : Option UInt16
  candidate : Option C
  active : Option C
  child : Option ManagedSidecar
  recoveryRequired : Bool

namespace SidecarRuntime

variable {P C : Type}

/-- `new`: a fixed mixed port. -/
def new (port : P) (mixedPort : { port : UInt16 // port ≠ 0 }) : SidecarRuntime P C :=
  { port, mixedPort := some mixedPort.val, candidate := none, active := none, child := none
    recoveryRequired := false }

/-- `new_observation_only`: no mixed listener. -/
def newObservationOnly (port : P) : SidecarRuntime P C :=
  { port, mixedPort := none, candidate := none, active := none, child := none
    recoveryRequired := false }

def lifecycle (r : SidecarRuntime P C) : SidecarLifecycle :=
  if r.recoveryRequired then .recoveryRequired
  else if r.child.isSome then .ready
  else .stopped

/-- The loopback port is exposed only in `Ready`. -/
def exposedMixedPort (r : SidecarRuntime P C) : Option UInt16 :=
  if r.lifecycle = .ready then r.mixedPort else none

/-- `prepare_replacement`. -/
def prepareReplacement (io : SidecarPort P C) (r : SidecarRuntime P C) (candidate : C) :
    Except SidecarError Unit × SidecarRuntime P C :=
  if r.recoveryRequired then (.error .recoveryRequired, r)
  else
    match io.hasPendingCleanup r.port with
    | (true, p) => (.error .recoveryRequired, { r with port := p, recoveryRequired := true })
    | (false, p) =>
      match io.check p candidate with
      | (false, p) =>
        match io.hasPendingCleanup p with
        | (pending, p) =>
          (.error .candidateCheck, { r with port := p, recoveryRequired := pending })
      | (true, p) =>
        match io.prepare p candidate with
        | (false, p) =>
          match io.cancelPending p with
          | (cancelled, p) =>
            (.error .candidatePrepare, { r with port := p, recoveryRequired := !cancelled })
        | (true, p) => (.ok (), { r with port := p, candidate := some candidate })

/-- The part of `commit_prepared` after the old child is gone. -/
def runCandidate (io : SidecarPort P C) (r : SidecarRuntime P C) :
    Except SidecarError Unit × SidecarRuntime P C :=
  let r := { r with active := none }
  match io.run r.port with
  | (none, p) =>
    match io.hasPendingCleanup p with
    | (pending, p) =>
      (.error .candidateStart,
        { r with port := p, candidate := none, recoveryRequired := pending })
  | (some child, p) =>
    match io.ready p child with
    | (false, p) =>
      match io.stop p child with
      | (false, p) =>
        -- the instance may still be alive: keep owning it until a stop succeeds
        (.error .candidateStop,
          { r with port := p, candidate := none, child := some child, recoveryRequired := true })
      | (true, p) => (.error .candidateReady, { r with port := p, candidate := none })
    | (true, p) =>
      (.ok (), { r with port := p, child := some child, active := r.candidate, candidate := none
                        recoveryRequired := false })

/-- `commit_prepared`. -/
def commitPrepared (io : SidecarPort P C) (r : SidecarRuntime P C) :
    Except SidecarError Unit × SidecarRuntime P C :=
  if r.candidate.isNone then (.error .candidatePrepare, r)
  else
    match r.child with
    | none => runCandidate io r
    | some child =>
      match io.stop r.port child with
      | (false, p) =>
        match io.cancelPending p with
        | (cancelled, p) =>
          (.error (if cancelled then .activeStop else .candidateStop),
            { r with port := p, recoveryRequired := true, candidate := none })
      | (true, p) => runCandidate io { r with port := p, child := none }

/-- `start_or_replace`. -/
def startOrReplace (io : SidecarPort P C) (r : SidecarRuntime P C) (candidate : C) :
    Except SidecarError Unit × SidecarRuntime P C :=
  match prepareReplacement io r candidate with
  | (.error e, r) => (.error e, r)
  | (.ok (), r) => commitPrepared io r

/-- `cancel_prepared`. -/
def cancelPrepared (io : SidecarPort P C) (r : SidecarRuntime P C) :
    Except SidecarError Unit × SidecarRuntime P C :=
  let r := { r with candidate := none }
  match io.cancelPending r.port with
  | (false, p) => (.error .candidateStop, { r with port := p, recoveryRequired := true })
  | (true, p) => (.ok (), { r with port := p })

/-- The part of `stop` after the child is gone. -/
def clearPending (io : SidecarPort P C) (r : SidecarRuntime P C) :
    Except SidecarError Unit × SidecarRuntime P C :=
  let r := { r with candidate := none, active := none }
  match io.cancelPending r.port with
  | (false, p) => (.error .candidateStop, { r with port := p, recoveryRequired := true })
  | (true, p) => (.ok (), { r with port := p, recoveryRequired := false })

/-- `stop`. -/
def stop (io : SidecarPort P C) (r : SidecarRuntime P C) :
    Except SidecarError Unit × SidecarRuntime P C :=
  match r.child with
  | none => clearPending io r
  | some child =>
    match io.stop r.port child with
    | (false, p) => (.error .activeStop, { r with port := p, recoveryRequired := true })
    | (true, p) => clearPending io { r with port := p, child := none }

/-- `recover_active_failure`. -/
def recoverActiveFailure (io : SidecarPort P C) (r : SidecarRuntime P C) :
    Except SidecarError Unit × SidecarRuntime P C :=
  r.stop io

theorem not_ready_of_child {r : SidecarRuntime P C} (h : r.child = none) :
    r.lifecycle ≠ .ready := by
  rw [lifecycle, h]
  cases r.recoveryRequired <;> simp

theorem not_ready_of_recovery {r : SidecarRuntime P C} (h : r.recoveryRequired = true) :
    r.lifecycle ≠ .ready := by
  rw [lifecycle, if_pos h]
  simp

theorem recoveryRequired_of_lifecycle {r : SidecarRuntime P C}
    (h : r.lifecycle = .recoveryRequired) : r.recoveryRequired = true := by
  by_contra hnot
  rw [lifecycle, if_neg hnot] at h
  split at h <;> cases h

theorem child_of_ready {r : SidecarRuntime P C} (h : r.lifecycle = .ready) :
    ∃ child, r.child = some child := by
  cases hchild : r.child with
  | some child => exact ⟨child, rfl⟩
  | none => exact absurd h (not_ready_of_child hchild)

theorem child_of_stopped {r : SidecarRuntime P C} (h : r.lifecycle = .stopped) :
    r.child = none := by
  rw [lifecycle] at h
  cases hchild : r.child with
  | none => rfl
  | some child =>
    rw [hchild] at h
    cases hrecovery : r.recoveryRequired <;> simp [hrecovery] at h

/-! ## The shape of each outcome

What the application relies on after a call, for any port. -/

/-- A successful preparation keeps the child and its configuration and fills the
candidate slot. -/
theorem prepareReplacement_ok {io : SidecarPort P C} {r r' : SidecarRuntime P C} {c : C}
    (h : prepareReplacement io r c = (.ok (), r')) :
    r'.candidate = some c ∧ r'.child = r.child ∧ r'.active = r.active ∧
      r'.recoveryRequired = false ∧ r.recoveryRequired = false ∧ r'.mixedPort = r.mixedPort := by
  unfold prepareReplacement at h
  grind

/-- A failed preparation leaves the candidate slot, the child and the active
configuration as they were. -/
theorem prepareReplacement_error {io : SidecarPort P C} {r r' : SidecarRuntime P C} {c : C}
    {e : SidecarError} (h : prepareReplacement io r c = (.error e, r')) :
    r'.candidate = r.candidate ∧ r'.child = r.child ∧ r'.active = r.active ∧
      r'.mixedPort = r.mixedPort ∧ e ≠ .activeStop := by
  unfold prepareReplacement at h
  grind

/-- A failed preparation only ever adds a recovery. -/
theorem prepareReplacement_recovery {io : SidecarPort P C} {r r' : SidecarRuntime P C} {c : C}
    {e : SidecarError} (h : prepareReplacement io r c = (.error e, r'))
    (hrecovery : r'.recoveryRequired = false) : r.recoveryRequired = false := by
  unfold prepareReplacement at h
  grind

/-- The same child, configuration and clean-up. -/
structure Same (r r' : SidecarRuntime P C) : Prop where
  child : r'.child = r.child
  active : r'.active = r.active
  recoveryRequired : r'.recoveryRequired = r.recoveryRequired

theorem Same.lifecycle {r r' : SidecarRuntime P C} (h : r.Same r') :
    r'.lifecycle = r.lifecycle := by
  rw [SidecarRuntime.lifecycle, SidecarRuntime.lifecycle, h.child, h.recoveryRequired]

/-- A preparation keeps the child, the configuration and the clean-up. -/
theorem prepareReplacement_same {io : SidecarPort P C} {r r' : SidecarRuntime P C} {c : C}
    (h : prepareReplacement io r c = (.ok (), r')) : r.Same r' := by
  obtain ⟨-, hchild, hactive, hrecovery, hbefore, -⟩ := prepareReplacement_ok h
  exact ⟨hchild, hactive, hrecovery.trans hbefore.symm⟩

/-- A failed preparation keeps a runtime that is still ready as it was. -/
theorem prepareReplacement_same_of_ready {io : SidecarPort P C} {r r' : SidecarRuntime P C} {c : C}
    {e : SidecarError} (h : prepareReplacement io r c = (.error e, r'))
    (hready : r'.lifecycle = .ready) : r.Same r' := by
  obtain ⟨-, hchild, hactive, -, -⟩ := prepareReplacement_error h
  have hrecovery : r'.recoveryRequired = false := by
    by_contra hrecovery
    exact not_ready_of_recovery (by simpa using hrecovery) hready
  exact ⟨hchild, hactive, hrecovery.trans (prepareReplacement_recovery h hrecovery).symm⟩

/-- A failed preparation keeps a ready runtime ready unless it finds a clean-up. -/
theorem ready_of_prepare_error {io : SidecarPort P C} {r r' : SidecarRuntime P C} {c : C}
    {e : SidecarError} (h : prepareReplacement io r c = (.error e, r')) (hready : r.lifecycle = .ready)
    (hrecovery : r'.lifecycle ≠ .recoveryRequired) : r'.lifecycle = .ready := by
  rw [lifecycle] at hready hrecovery ⊢
  rw [(prepareReplacement_error h).2.1] at hrecovery ⊢
  grind

/-- A failed preparation that finds no clean-up keeps the lifecycle. -/
theorem lifecycle_of_prepare_error {io : SidecarPort P C} {r r' : SidecarRuntime P C} {c : C}
    {e : SidecarError} (h : prepareReplacement io r c = (.error e, r'))
    (hrecovery : r'.lifecycle ≠ .recoveryRequired) : r'.lifecycle = r.lifecycle := by
  have hnone : r'.recoveryRequired = false := by
    cases hrequired : r'.recoveryRequired with
    | false => rfl
    | true => exact absurd (by rw [lifecycle, if_pos hrequired]) hrecovery
  rw [lifecycle, lifecycle, hnone, prepareReplacement_recovery h hnone,
    (prepareReplacement_error h).2.1]

/-- Running the candidate to readiness makes it the active configuration. -/
theorem runCandidate_ok {io : SidecarPort P C} {r r' : SidecarRuntime P C}
    (h : runCandidate io r = (.ok (), r')) :
    r'.child.isSome ∧ r'.active = r.candidate ∧ r'.candidate = none ∧
      r'.recoveryRequired = false := by
  unfold runCandidate at h
  grind

/-- A successful commit runs the candidate and makes it the active configuration. -/
theorem commitPrepared_ok {io : SidecarPort P C} {r r' : SidecarRuntime P C}
    (h : commitPrepared io r = (.ok (), r')) :
    r'.child.isSome ∧ r'.active = r.candidate ∧ r.candidate.isSome ∧ r'.candidate = none ∧
      r'.recoveryRequired = false := by
  rw [commitPrepared] at h
  split at h
  · simp at h
  · next hc =>
    have hsome : r.candidate.isSome := by simpa [Option.isSome_iff_ne_none] using hc
    split at h
    · obtain ⟨h1, h2, h3, h4⟩ := runCandidate_ok h
      exact ⟨h1, h2, hsome, h3, h4⟩
    · split at h
      · simp at h
      · obtain ⟨h1, h2, h3, h4⟩ := runCandidate_ok h
        exact ⟨h1, h2, hsome, h3, h4⟩

/-- The calls that replace the child by one that runs a configuration: it was checked and
prepared, the old child was stopped, and the new one was run and became ready. -/
inductive Starts (io : SidecarPort P C) (r : SidecarRuntime P C) (config : C)
    (child : ManagedSidecar) : Prop
  | mk {clean checked prepared free running ready : P}
      (isClean : io.hasPendingCleanup r.port = (false, clean))
      (checks : io.check clean config = (true, checked))
      (prepares : io.prepare checked config = (true, prepared))
      (frees : (r.child = none ∧ free = prepared) ∨
        ∃ old, r.child = some old ∧ io.stop prepared old = (true, free))
      (runs : io.run free = (some child, running))
      (becomesReady : io.ready running child = (true, ready))

/-- Where the port of a successful preparation comes from. -/
theorem prepareReplacement_calls {io : SidecarPort P C} {r r' : SidecarRuntime P C} {c : C}
    (h : prepareReplacement io r c = (.ok (), r')) :
    ∃ clean checked : P, io.hasPendingCleanup r.port = (false, clean) ∧
      io.check clean c = (true, checked) ∧ io.prepare checked c = (true, r'.port) := by
  unfold prepareReplacement at h
  grind

/-- Where the child of a candidate that runs comes from. -/
theorem runCandidate_calls {io : SidecarPort P C} {r r' : SidecarRuntime P C}
    (h : runCandidate io r = (.ok (), r')) :
    ∃ child running, r'.child = some child ∧ io.run r.port = (some child, running) ∧
      io.ready running child = (true, r'.port) := by
  unfold runCandidate at h
  grind

/-- Where the child of a successful commit comes from. -/
theorem commitPrepared_calls {io : SidecarPort P C} {r r' : SidecarRuntime P C}
    (h : commitPrepared io r = (.ok (), r')) :
    ∃ child free running, r'.child = some child ∧
      ((r.child = none ∧ free = r.port) ∨
        ∃ old, r.child = some old ∧ io.stop r.port old = (true, free)) ∧
      io.run free = (some child, running) ∧ io.ready running child = (true, r'.port) := by
  rw [commitPrepared] at h
  split at h
  · cases h
  · cases hchild : r.child with
    | none =>
      rw [hchild] at h
      obtain ⟨child, running, hnew, hrun, hready⟩ := runCandidate_calls h
      exact ⟨child, r.port, running, hnew, .inl ⟨rfl, rfl⟩, hrun, hready⟩
    | some old =>
      rw [hchild] at h
      dsimp only at h
      split at h
      · cases h
      · next free hstop =>
        obtain ⟨child, running, hnew, hrun, hready⟩ := runCandidate_calls h
        exact ⟨child, free, running, hnew, .inr ⟨old, rfl, hstop⟩, hrun, hready⟩

/-- **Spec.**  A preparation and its commit start the configuration. -/
theorem starts_of_commit {io : SidecarPort P C} {r prepared r' : SidecarRuntime P C} {c : C}
    (hprepare : prepareReplacement io r c = (.ok (), prepared))
    (hcommit : commitPrepared io prepared = (.ok (), r')) :
    ∃ child, r'.child = some child ∧ Starts io r c child := by
  obtain ⟨clean, checked, hclean, hchecked, hprepared⟩ := prepareReplacement_calls hprepare
  obtain ⟨child, free, running, hchild, hfree, hrun, hready⟩ := commitPrepared_calls hcommit
  rw [(prepareReplacement_ok hprepare).2.1] at hfree
  exact ⟨child, hchild, .mk hclean hchecked hprepared hfree hrun hready⟩

/-- A candidate that could not be run or did not become ready leaves the slots empty;
unless recovery is required no child is left. -/
theorem runCandidate_error {io : SidecarPort P C} {r r' : SidecarRuntime P C}
    {e : SidecarError} (hchild : r.child = none) (h : runCandidate io r = (.error e, r')) :
    r'.candidate = none ∧ (r'.recoveryRequired = false → r'.child = none ∧ r'.active = none) := by
  unfold runCandidate at h
  grind

/-- A failed commit of a candidate leaves the slot empty; unless recovery is required no
child and no active configuration are left. -/
theorem commitPrepared_error {io : SidecarPort P C} {r r' : SidecarRuntime P C}
    {e : SidecarError} (h : commitPrepared io r = (.error e, r'))
    (hc : r.candidate.isSome) :
    r'.candidate = none ∧ (r'.recoveryRequired = false → r'.child = none ∧ r'.active = none) := by
  rw [commitPrepared, if_neg (by simpa [Option.isSome_iff_ne_none] using hc)] at h
  split at h
  · next hchild => exact runCandidate_error hchild h
  · next child hchild =>
    split at h
    · grind
    · exact runCandidate_error rfl h

/-- A failed commit of a candidate leaves nothing ready. -/
theorem not_ready_of_commit_error {io : SidecarPort P C} {r r' : SidecarRuntime P C}
    {e : SidecarError} (h : commitPrepared io r = (.error e, r')) (hc : r.candidate.isSome) :
    r'.lifecycle ≠ .ready := by
  cases hrecovery : r'.recoveryRequired with
  | true => exact not_ready_of_recovery hrecovery
  | false => exact not_ready_of_child ((commitPrepared_error h hc).2 hrecovery).1

/-- A successful commit leaves the runtime ready. -/
theorem ready_of_commit {io : SidecarPort P C} {r r' : SidecarRuntime P C}
    (h : commitPrepared io r = (.ok (), r')) : r'.lifecycle = .ready := by
  obtain ⟨hchild, -, -, -, hrecovery⟩ := commitPrepared_ok h
  rw [lifecycle, if_neg (by simp [hrecovery]), if_pos hchild]

/-- A successful cancellation keeps the child. -/
theorem cancelPrepared_ok {io : SidecarPort P C} {r r' : SidecarRuntime P C}
    (h : cancelPrepared io r = (.ok (), r')) :
    r'.candidate = none ∧ r'.child = r.child ∧ r'.active = r.active ∧
      r'.recoveryRequired = r.recoveryRequired := by
  unfold cancelPrepared at h
  grind

/-- A failed cancellation requires recovery. -/
theorem cancelPrepared_error {io : SidecarPort P C} {r r' : SidecarRuntime P C}
    {e : SidecarError} (h : cancelPrepared io r = (.error e, r')) :
    r'.candidate = none ∧ r'.child = r.child ∧ r'.recoveryRequired = true ∧
      e = .candidateStop := by
  unfold cancelPrepared at h
  grind

/-- A preparation that was refused, or that was made and then cancelled. -/
inductive Withdraws (io : SidecarPort P C) (r : SidecarRuntime P C) (config : C) :
    SidecarRuntime P C → Prop
  | refused {r' : SidecarRuntime P C} {e : SidecarError}
      (h : prepareReplacement io r config = (.error e, r')) : Withdraws io r config r'
  | cancelled {prepared r' : SidecarRuntime P C} {result : Except SidecarError Unit}
      (prepares : prepareReplacement io r config = (.ok (), prepared))
      (cancels : cancelPrepared io prepared = (result, r')) : Withdraws io r config r'

/-- A preparation that is withdrawn leaves the child alone, and no candidate of its own. -/
theorem Withdraws.keeps {io : SidecarPort P C} {r r' : SidecarRuntime P C} {c : C}
    (h : Withdraws io r c r') :
    r'.child = r.child ∧ r'.active = r.active ∧ (r.candidate = none → r'.candidate = none) := by
  cases h with
  | refused h =>
    obtain ⟨hcandidate, hchild, hactive, -⟩ := prepareReplacement_error h
    exact ⟨hchild, hactive, fun hnone => hcandidate.trans hnone⟩
  | @cancelled prepared _ result prepares cancels =>
    obtain ⟨-, hchild, hactive, -⟩ := prepareReplacement_ok prepares
    have hcancel : r'.candidate = none ∧ r'.child = prepared.child ∧ r'.active = prepared.active := by
      unfold cancelPrepared at cancels
      grind
    exact ⟨hcancel.2.1.trans hchild, hcancel.2.2.trans hactive, fun _ => hcancel.1⟩

/-- The owned child is stopped when that is asked of the port. -/
def stopsChild (io : SidecarPort P C) (r : SidecarRuntime P C) : Bool :=
  r.child.any fun child => (io.stop r.port child).1

/-- A stop that stops the owned child and then leaves a clean-up behind. -/
def losesToStop (io : SidecarPort P C) (r : SidecarRuntime P C) : Bool :=
  r.child.any fun child =>
    (io.stop r.port child).1 && !(io.cancelPending (io.stop r.port child).2).1

/-- A commit that stops the owned child and then leaves a clean-up of the candidate behind. -/
def losesToCommit (io : SidecarPort P C) (r : SidecarRuntime P C) : Bool :=
  r.child.any fun child =>
    (io.stop r.port child).1 &&
      (runCandidate io { r with port := (io.stop r.port child).2, child := none }).2.recoveryRequired

/-- A successful stop leaves nothing behind; the child, if there was one, was stopped. -/
theorem stop_ok {io : SidecarPort P C} {r r' : SidecarRuntime P C}
    (h : r.stop io = (.ok (), r')) :
    r'.child = none ∧ r'.active = none ∧ r'.recoveryRequired = false ∧
      (r.child.isSome → r.stopsChild io) := by
  unfold stop clearPending at h
  unfold stopsChild
  grind

/-- A stop adds no candidate. -/
theorem stop_candidate {io : SidecarPort P C} {r r' : SidecarRuntime P C}
    {result : Except SidecarError Unit} (h : r.stop io = (result, r')) (hc : r.candidate = none) :
    r'.candidate = none := by
  unfold stop clearPending at h
  grind

/-- A failed stop requires recovery, and keeps the child unless it lost it. -/
theorem stop_error {io : SidecarPort P C} {r r' : SidecarRuntime P C} {e : SidecarError}
    (h : r.stop io = (.error e, r')) :
    r'.recoveryRequired = true ∧ (r'.child = r.child ∨ r.losesToStop io) := by
  unfold stop clearPending at h
  unfold losesToStop
  grind

theorem stopsChild_of_losesToStop {io : SidecarPort P C} {r : SidecarRuntime P C}
    (h : r.losesToStop io = true) : r.stopsChild io = true := by
  obtain ⟨child, hchild, h⟩ := (Option.any_eq_true _ _).mp h
  rw [stopsChild, hchild]
  exact (Bool.and_eq_true_iff.mp h).1

/-- A failed commit keeps the child, ends stopped, or lost the child. -/
theorem commitPrepared_error_child {io : SidecarPort P C} {r r' : SidecarRuntime P C}
    {e : SidecarError} (h : commitPrepared io r = (.error e, r')) (hc : r.candidate.isSome) :
    r'.child = r.child ∨ r'.lifecycle = .stopped ∨ r.losesToCommit io ∨ r.child = none := by
  have hend := (commitPrepared_error h hc).2
  rw [commitPrepared, if_neg (by simpa [Option.isSome_iff_ne_none] using hc)] at h
  cases hchild : r.child with
  | none => exact .inr (.inr (.inr rfl))
  | some child =>
    rw [hchild] at h
    dsimp only at h
    cases hstop : io.stop r.port child with
    | mk stopped p =>
      cases stopped with
      | false =>
        rw [hstop] at h
        grind
      | true =>
        rw [hstop] at h
        cases hrec : r'.recoveryRequired with
        | false => exact .inr (.inl (by simp [lifecycle, hrec, (hend hrec).1]))
        | true =>
          refine .inr (.inr (.inl ?_))
          have hrun : runCandidate io { r with port := p, child := none } = (.error e, r') := h
          simp [losesToCommit, hchild, hstop, hrun, hrec]

end SidecarRuntime

end Veyra
