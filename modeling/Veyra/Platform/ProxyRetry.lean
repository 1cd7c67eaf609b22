import Veyra.Platform.ProxyRecovery

/-!
# Veyra.Platform.ProxyRetry

What a failed call of the system-proxy controller leaves for the next `restore_proxy`.

A restore first asks whether the managed setting is still in place.  After a failure behind
the write of the original setting it is not: the retry takes the original setting for a change
of the user, and the record stays for good.
-/

namespace Veyra

open Effect ProxyPort

namespace ProxyWorld

theorem note_setting (w : ProxyWorld) (event : ProxyEvent) : (w.note event).setting = w.setting :=
  rfl

/-- A setting is in place if its write takes effect. -/
theorem place_setting (w : ProxyWorld) (state : ProxySnapshot) (placed : Placed)
    (x : ProxyOutcome) :
    (w.place state placed x).setting = if x.takesEffect then state else w.setting := by
  rw [place, note_setting]
  split <;> rfl

end ProxyWorld

namespace WindowsSystemProxy

/-! ## What calls leave -/

/-- The world after a call of `enable_loopback_proxy` over an empty recovery store and any number
of calls of `restore_proxy`. -/
def leftBy (setting : ProxySnapshot) (mixedPort : NonZeroPort) (tape : Tape ProxyOutcome)
    (restores : List (Tape ProxyOutcome)) : ProxyWorld :=
  restores.foldl (fun w tape => (restoreProxy.run ProxyWorld.handle tape w).2)
    ((enableLoopbackProxy mixedPort).run ProxyWorld.handle tape (.start setting none)).2

/-- All operations succeed. -/
def working : Tape Fault := fun _ => .works

@[simp] theorem working_succeeds (n : ℕ) : (working n).succeeds = true := rfl

@[simp] theorem working_takesEffect (n : ℕ) : (working n).takesEffect = true := rfl

@[simp] theorem working_drop (k : ℕ) : working.drop k = working := rfl

/-- A later call of `restore_proxy`: the user changes nothing, and all its operations succeed. -/
def retry (w : ProxyWorld) : Except SystemProxyError SystemProxyRestoreOutcome × ProxyWorld :=
  restoreProxy.run ProxyWorld.undisturbed working w

/-- The world after some of these calls. -/
def afterRetries : ℕ → ProxyWorld → ProxyWorld
  | 0, w => w
  | n + 1, w => afterRetries n (retry w).2

/-- One of the later calls returns `Restored`: the setting is back, and the record cleared. -/
def Retried (setting : ProxySnapshot) (w : ProxyWorld) : Prop :=
  ∃ n, (retry (afterRetries n w)).1 = .ok .restored ∧
    (retry (afterRetries n w)).2.setting.semanticallyEquals setting = true ∧
    (retry (afterRetries n w)).2.store = none ∧
    (state.run ProxyWorld.undisturbed working (retry (afterRetries n w)).2).1 =
      .ok .notManaged

/-! ## One retry -/

variable {w : ProxyWorld} {record : ProxyRecoveryRecord}

/-- A retry gets as far as the comparison with the managed setting. -/
theorem retry_eq (hstore : w.store = some record) :
    retry w = (rollbackIfStillManaged record).run ProxyWorld.undisturbed working
      (w.note (.load (some (some record)))) := by
  rw [retry, restoreProxy, run_lock, working_succeeds, working_drop]
  dsimp only
  rw [restore, run_load, working_succeeds, working_drop, if_pos rfl, hstore]

/-- A retry that finds the managed setting writes the recorded one back. -/
theorem retry_managed (hstore : w.store = some record)
    (hagrees : record.managed.agrees w.setting = true) :
    (retry w).1 = .ok .restored ∧ (retry w).2.setting = record.snapshot ∧
      (retry w).2.store = none := by
  have hfound : record.managed.agrees (w.note (.load (some (some record)))).setting = true :=
    hagrees
  rw [retry_eq hstore, rollbackIfStillManaged, run_read, working_succeeds, working_drop]
  simp only [if_true, hfound, Bool.not_true, Bool.false_eq_true, if_false]
  -- the write and its notifications succeed, and so does all that follows
  rw [writeAndNotify]
  simp only [bind_assoc, run_write, run_notifySettingsChanged, run_refreshSettings,
    run_notifyProxySettingsChanged, working_succeeds, working_drop]
  rw [Program.pure_eq, Program.done_bind]
  dsimp only
  have hsame := record.snapshot.semanticallyEquals_refl
  rw [run_read, working_succeeds, working_drop, if_pos rfl]
  simp only [ProxyWorld.note_setting, ProxyWorld.place_setting, Fault.outcome_takesEffect,
    working_takesEffect, if_true, hsame, Bool.not_true, Bool.false_eq_true, if_false]
  rw [run_clear, working_succeeds]
  exact ⟨rfl, rfl, rfl⟩

/-- A retry that finds any other setting leaves the setting and the record. -/
theorem retry_other (hstore : w.store = some record)
    (hother : record.managed.agrees w.setting = false) :
    (retry w).1 = .ok .userModified ∧ (retry w).2.setting = w.setting ∧
      (retry w).2.store = some record := by
  have hfound : record.managed.agrees (w.note (.load (some (some record)))).setting = false :=
    hother
  rw [retry_eq hstore, rollbackIfStillManaged, run_read, working_succeeds, working_drop]
  simp only [if_true, hfound, Bool.not_false]
  exact ⟨rfl, rfl, hstore⟩

/-- Without a record there is nothing to restore. -/
theorem retry_cleared (hstore : w.store = none) :
    (retry w).1 = .ok .notManaged ∧ (retry w).2.store = none := by
  rw [retry, restoreProxy, run_lock, working_succeeds, working_drop]
  dsimp only
  rw [restore, run_load, working_succeeds, working_drop, if_pos rfl, hstore]
  exact ⟨rfl, hstore⟩

/-- Once the record is cleared the controller manages nothing. -/
theorem state_cleared (hstore : w.store = none) :
    (state.run ProxyWorld.undisturbed working w).1 = .ok .notManaged := by
  rw [state, run_lock, working_succeeds, working_drop]
  dsimp only
  rw [currentState, run_load, working_succeeds, working_drop, if_pos rfl, hstore]
  rfl

/-- Where another setting is in place, retries leave it and the record. -/
theorem afterRetries_other (hstore : w.store = some record)
    (hother : record.managed.agrees w.setting = false) (n : ℕ) :
    (afterRetries n w).store = some record ∧ (afterRetries n w).setting = w.setting := by
  induction n generalizing w with
  | zero => exact ⟨hstore, rfl⟩
  | succ n ih =>
    obtain ⟨-, hsetting, hkept⟩ := retry_other hstore hother
    rw [afterRetries, ← hsetting]
    exact ih hkept (by rwa [hsetting])

/-- Once there is no record, retries keep it so. -/
theorem afterRetries_cleared (hstore : w.store = none) (n : ℕ) :
    (afterRetries n w).store = none := by
  induction n generalizing w with
  | zero => exact hstore
  | succ n ih => exact ih (retry_cleared hstore).2

/-- A record is restored, now or ever, exactly while the managed setting is in place. -/
theorem retried_iff {setting : ProxySnapshot} (hstore : w.store = some record) :
    Retried setting w ↔ record.managed.agrees w.setting = true ∧
      record.snapshot.semanticallyEquals setting = true := by
  cases hagrees : record.managed.agrees w.setting with
  | false =>
    simp only [Bool.false_eq_true, false_and, iff_false]
    intro ⟨n, hrestored, _⟩
    obtain ⟨hkept, hsetting⟩ := afterRetries_other hstore hagrees n
    rw [(retry_other hkept (by rwa [hsetting])).1] at hrestored
    cases hrestored
  | true =>
    obtain ⟨hrestored, hsetting, hcleared⟩ := retry_managed hstore hagrees
    simp only [true_and]
    constructor
    · intro ⟨n, hlater, hsame, _⟩
      cases n with
      | zero => rwa [afterRetries, hsetting] at hsame
      | succ n =>
        rw [afterRetries, (retry_cleared (afterRetries_cleared hcleared n)).1] at hlater
        cases hlater
    · intro hsame
      exact ⟨0, hrestored, by rwa [afterRetries, hsetting], hcleared, state_cleared hcleared⟩

/-! ## The record that is left -/

/-- The calls that leave the record of one setting and one managed state. -/
def SavesOnly (snapshot : ProxySnapshot → Prop) (managed : ManagedProxyState) : ProxyCall → Prop
  | .save record => snapshot record.snapshot ∧ record.managed = managed
  | _ => True

/-- A record, if there is one, is of these. -/
def RecordOf (snapshot : ProxySnapshot → Prop) (managed : ManagedProxyState) (w : ProxyWorld) :
    Prop :=
  ∀ record, w.store = some record → snapshot record.snapshot ∧ record.managed = managed

/-- A call that saves only the given record keeps what is stored. -/
theorem recordOf_handle {snapshot : ProxySnapshot → Prop} {managed : ManagedProxyState}
    (w : ProxyWorld) (c : ProxyCall) (x : ProxyOutcome) (h : RecordOf snapshot managed w)
    (hc : SavesOnly snapshot managed c) :
    RecordOf snapshot managed (ProxyWorld.handle w c x).2 := by
  have hchanged : RecordOf snapshot managed (w.userChanges x.change) := by
    intro record hrecord
    rw [ProxyWorld.userChanges_store] at hrecord
    exact h record hrecord
  cases c with
  | lock => exact hchanged
  | readDefaultConnection => exact hchanged
  | writeDefaultConnection state placed =>
    intro record hrecord
    have hrecord : ((w.userChanges x.change).place state placed x).store = some record := hrecord
    rw [ProxyWorld.place_store] at hrecord
    exact hchanged record hrecord
  | notifySettingsChanged => exact hchanged
  | refreshSettings => exact hchanged
  | notifyProxySettingsChanged => exact hchanged
  | load => exact hchanged
  | save saved =>
    intro record hrecord
    have hrecord : ((w.userChanges x.change).keep (some saved) (.save saved x.succeeds) x).store =
      some record := hrecord
    rw [ProxyWorld.keep_store] at hrecord
    split at hrecord
    · cases hrecord
      exact hc
    · exact hchanged record hrecord
  | clear =>
    intro record hrecord
    have hrecord : ((w.userChanges x.change).keep none (.clear x.succeeds) x).store = some record :=
      hrecord
    rw [ProxyWorld.keep_store] at hrecord
    split at hrecord
    · cases hrecord
    · exact hchanged record hrecord

section Calls

variable {snapshot : ProxySnapshot → Prop} {managed : ManagedProxyState} {α : Type}

/-- A single call. -/
theorem calls_perform {c : ProxyCall} (h : SavesOnly snapshot managed c) :
    (Program.perform (S := proxyCalls) c).Calls (SavesOnly snapshot managed) :=
  ⟨h, fun _ => trivial⟩

/-- Writing a setting saves no other record. -/
theorem writeAndNotify_calls (state : ProxySnapshot) (placed : Placed) :
    (writeAndNotify state placed).Calls (SavesOnly snapshot managed) := by
  refine Program.Calls.test (calls_perform trivial) ?_ trivial
  refine Program.Calls.test (calls_perform trivial) ?_ trivial
  refine Program.Calls.test (calls_perform trivial) ?_ trivial
  exact Program.Calls.test (calls_perform trivial) trivial trivial

/-- What follows a read, whether it succeeds or not. -/
theorem calls_read {found : ProxySnapshot → ProxyProgram α} {failed : ProxyProgram α}
    (hfound : ∀ seen, (found seen).Calls (SavesOnly snapshot managed))
    (hfailed : failed.Calls (SavesOnly snapshot managed)) :
    (read >>= fun seen => match seen with | some observed => found observed | _ => failed).Calls
      (SavesOnly snapshot managed) :=
  ⟨trivial, fun seen => match seen with
    | some observed => hfound observed
    | none => hfailed⟩

/-- Nor does a rollback. -/
theorem rollbackIfStillManaged_calls (record : ProxyRecoveryRecord) :
    (rollbackIfStillManaged record).Calls (SavesOnly snapshot managed) := by
  refine calls_read (fun observed => ?_) trivial
  split
  · trivial
  · refine (writeAndNotify_calls record.snapshot .snapshot).bind fun result => ?_
    cases result with
    | error e => trivial
    | ok u =>
      refine calls_read (fun verified => ?_) trivial
      split
      · trivial
      · exact Program.Calls.test (calls_perform trivial) trivial trivial

/-- Nor does the proof that nothing was applied. -/
theorem proveEnableUnapplied_calls (record : ProxyRecoveryRecord) :
    (proveEnableUnapplied record).Calls (SavesOnly snapshot managed) := by
  refine calls_read (fun observed => ?_) trivial
  split
  · exact Program.Calls.test (calls_perform trivial) trivial trivial
  · split
    · trivial
    · refine (writeAndNotify_calls record.snapshot .snapshot).bind fun result => ?_
      cases result with
      | error e => trivial
      | ok u =>
        refine calls_read (fun verified => ?_) trivial
        split
        · trivial
        · exact Program.Calls.test (calls_perform trivial) trivial trivial

/-- Nor does a compensation. -/
theorem compensate_calls (record : ProxyRecoveryRecord) (error : SystemProxyError) :
    (compensate record error).Calls (SavesOnly snapshot managed) := by
  refine (proveEnableUnapplied_calls record).bind fun result => ?_
  cases result with
  | error e => trivial
  | ok u => trivial

/-- Nor does restoring the proxy. -/
theorem restoreProxy_calls : restoreProxy.Calls (SavesOnly snapshot managed) := by
  refine Program.Calls.test (calls_perform trivial) ?_ trivial
  refine ⟨trivial, fun found => ?_⟩
  cases found with
  | none => trivial
  | some store =>
    cases store with
    | none => trivial
    | some record => exact rollbackIfStillManaged_calls record

/-- A program that saves only records of these leaves one of these. -/
theorem recordOf_run {p : ProxyProgram α} (hcalls : p.Calls (SavesOnly snapshot managed))
    (h : RecordOf snapshot managed w) (tape : Tape ProxyOutcome) :
    RecordOf snapshot managed (p.run ProxyWorld.handle tape w).2 :=
  ((Meets.of_calls recordOf_handle hcalls h).mono fun _ _ hinv _ => hinv).run tape

/-- A read answers with the setting. -/
theorem run_readFirst {f : Option ProxySnapshot → ProxyProgram α} {tape : Tape ProxyOutcome} :
    (ProxyPort.read >>= f).run ProxyWorld.handle tape w =
      let w := w.userChanges (tape 0).change
      let seen := if (tape 0).succeeds then some w.setting else none
      (f seen).run ProxyWorld.handle (tape.drop 1) (w.note (.read seen)) := rfl

/-- The same after a read. -/
theorem recordOf_read {found : ProxySnapshot → ProxyProgram α} {failed : ProxyProgram α}
    {tape : Tape ProxyOutcome}
    (hfound : (found (w.userChanges (tape 0).change).setting).Calls (SavesOnly snapshot managed))
    (hfailed : failed.Calls (SavesOnly snapshot managed)) (h : RecordOf snapshot managed w) :
    RecordOf snapshot managed ((read >>= fun seen =>
      match seen with | some observed => found observed | _ => failed).run
        ProxyWorld.handle tape w).2 := by
  rw [run_readFirst]
  have hread (seen : Option ProxySnapshot) :
      RecordOf snapshot managed ((w.userChanges (tape 0).change).note (.read seen)) :=
    recordOf_handle w .readDefaultConnection (tape 0) h trivial
  cases (tape 0).succeeds with
  | false => exact recordOf_run hfailed (hread none) _
  | true => exact recordOf_run hfound (hread (some (w.userChanges (tape 0).change).setting)) _

/-- `enable` saves the setting that it reads. -/
theorem recordOf_enable {tape : Tape ProxyOutcome}
    (hsetting : snapshot (w.userChanges (tape 0).change).setting)
    (h : RecordOf snapshot managed w) :
    RecordOf snapshot managed ((enable managed).run ProxyWorld.handle tape w).2 := by
  refine recordOf_read ?_ trivial h
  refine Program.Calls.test (calls_perform ⟨hsetting, rfl⟩) ?_ trivial
  refine (writeAndNotify_calls managed.snapshot .managed).bind fun result => ?_
  cases result with
  | error e => exact compensate_calls _ e
  | ok u =>
    refine calls_read (fun observed => ?_) trivial
    split
    · exact compensate_calls _ _
    · exact Program.Calls.test (calls_perform ⟨hsetting, rfl⟩) trivial trivial

end Calls

/-- The user does not change the setting before `enable` reads it. -/
def ReadsAsFound (tape : Tape ProxyOutcome) : Prop :=
  (tape 0).change = none ∧ (tape 1).change = none

/-- `enable_loopback_proxy` enables the proxy once the lock of the record is there. -/
theorem run_enableLoopbackProxy (mixedPort : NonZeroPort) (tape : Tape ProxyOutcome)
    (w : ProxyWorld) :
    (enableLoopbackProxy mixedPort).run ProxyWorld.handle tape w = (match (tape 0).succeeds with
      | true => enable (.loopback mixedPort)
      | _ => return .error (.stateUncertain .recoveryStore)).run ProxyWorld.handle (tape.drop 1)
        (w.userChanges (tape 0).change) :=
  rfl

/-- What is stored after an enable and its retries is the record of that enable. -/
theorem recordOf_leftBy (setting : ProxySnapshot) (mixedPort : NonZeroPort)
    (tape : Tape ProxyOutcome) (restores : List (Tape ProxyOutcome)) :
    RecordOf (fun snapshot => ReadsAsFound tape → snapshot = setting) (.loopback mixedPort)
      (leftBy setting mixedPort tape restores) := by
  have hstart : RecordOf (fun snapshot => ReadsAsFound tape → snapshot = setting)
      (.loopback mixedPort) ((ProxyWorld.start setting none).userChanges (tape 0).change) := by
    intro record hrecord
    rw [ProxyWorld.userChanges_store] at hrecord
    cases hrecord
  have henabled : RecordOf (fun snapshot => ReadsAsFound tape → snapshot = setting)
      (.loopback mixedPort) ((enableLoopbackProxy mixedPort).run ProxyWorld.handle tape
        (.start setting none)).2 := by
    rw [run_enableLoopbackProxy]
    cases (tape 0).succeeds with
    | false => exact hstart
    | true =>
      refine recordOf_enable (fun hfound => ?_) hstart
      rw [Tape.drop_apply, hfound.1, hfound.2]
      rfl
  rw [leftBy]
  generalize (enableLoopbackProxy mixedPort).run ProxyWorld.handle tape
    (.start setting none) = enabled at henabled ⊢
  obtain ⟨result, w⟩ := enabled
  induction restores generalizing w with
  | nil => exact henabled
  | cons restore restores ih =>
    rw [List.foldl_cons]
    exact ih _ (recordOf_run restoreProxy_calls henabled restore)

/-! ## The result -/

/-- **A restore can be retried** after calls that left a record exactly while the managed setting
is still in place and the record is of the original one, which it is unless the user changed the
setting before `enable` read it. -/
theorem restore_retried_iff (setting : ProxySnapshot) (mixedPort : NonZeroPort)
    (tape : Tape ProxyOutcome) (restores : List (Tape ProxyOutcome)) (record : ProxyRecoveryRecord)
    (h : (leftBy setting mixedPort tape restores).store = some record) :
    (Retried setting (leftBy setting mixedPort tape restores) ↔
      (ManagedProxyState.loopback mixedPort).agrees
          (leftBy setting mixedPort tape restores).setting = true ∧
        record.snapshot.semanticallyEquals setting = true) ∧
    (ReadsAsFound tape → record.snapshot = setting) := by
  obtain ⟨hsnapshot, hmanaged⟩ := recordOf_leftBy setting mixedPort tape restores record h
  rw [retried_iff h, hmanaged]
  exact ⟨Iff.rfl, hsnapshot⟩

/-- Every call of the outside succeeds, but for one. -/
def failsAt (k : ℕ) : Tape ProxyOutcome := fun n => ⟨none, n != k, n != k⟩

/-- The stable record could not be saved. -/
theorem restore_retried_iff_unsaved :
    ∃ record, (leftBy directConnection ⟨2080, by decide⟩ (failsAt 8) []).store = some record ∧
      Retried directConnection (leftBy directConnection ⟨2080, by decide⟩ (failsAt 8) []) := by
  have hstore : (leftBy directConnection ⟨2080, by decide⟩ (failsAt 8) []).store =
      some (.transitioning directConnection (.loopback ⟨2080, by decide⟩)) := by
    decide +kernel
  exact ⟨_, hstore, (restore_retried_iff directConnection ⟨2080, by decide⟩ (failsAt 8) [] _
    hstore).1.mpr (by decide +kernel)⟩

/-- The record could not be cleared once the original setting was back: the retry takes it for a
change of the user, and so does every later one. -/
theorem failed_clear_blocks_restore :
    (restoreProxy.run ProxyWorld.handle (failsAt 8)
        (leftBy directConnection ⟨2080, by decide⟩ (failsAt 9) [])).1 = .error .recoveryStore ∧
      (leftBy directConnection ⟨2080, by decide⟩ (failsAt 9) [failsAt 8]).store.isSome = true ∧
      ¬ Retried directConnection
        (leftBy directConnection ⟨2080, by decide⟩ (failsAt 9) [failsAt 8]) := by
  have hstore : (leftBy directConnection ⟨2080, by decide⟩ (failsAt 9) [failsAt 8]).store =
      some ⟨.stable, directConnection, .loopback ⟨2080, by decide⟩⟩ := by
    decide +kernel
  refine ⟨by decide +kernel, by decide +kernel, fun hretried => ?_⟩
  exact absurd ((retried_iff hstore).mp hretried) (by decide +kernel)

end WindowsSystemProxy

end Veyra
