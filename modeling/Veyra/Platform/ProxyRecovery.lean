import Veyra.Lib.Transition
import Veyra.Platform.SystemProxy
import Mathlib.Tactic.IntervalCases

/-!
# Veyra.Platform.ProxyRecovery

The recovery record over whole runs: what it takes for the setting that the
user had before the controller changed it to be still known.

`enable` reads the setting and records it, whatever it is.  A second `enable`,
or the first one after a crash, therefore records the controller's own setting
over the user's.
-/

namespace Veyra

open Effect ProxyPort Transition

/-! ## Runs -/

/-- How a call of a port ends when the user changes nothing: whether it succeeds, and whether a
failed one took effect all the same. -/
structure Fault where
  succeeds : Bool
  applied : Bool
deriving DecidableEq, Repr

namespace Fault

def takesEffect (x : Fault) : Bool := x.succeeds || x.applied

def outcome (x : Fault) : ProxyOutcome := ⟨none, x.succeeds, x.applied⟩

/-- A call that works. -/
def works : Fault := ⟨true, true⟩

@[simp] theorem outcome_succeeds (x : Fault) : x.outcome.succeeds = x.succeeds := rfl

@[simp] theorem outcome_takesEffect (x : Fault) : x.outcome.takesEffect = x.takesEffect := rfl

end Fault

/-- One call while the user changes nothing. -/
def ProxyWorld.undisturbed : Handler proxyCalls ProxyWorld Fault := fun w c x =>
  w.answer x.outcome c

/-- One thing that happens to the controller: a call, a change by the user, or a new process over
the same recovery store. -/
inductive ProxyStep
  | enable (mixedPort : NonZeroPort) (tape : Tape Fault)
  | restore (tape : Tape Fault)
  | userSets (state : ProxySnapshot)
  | restart

/-- The world between two calls, and what the call right before answered if it was a
`restore_proxy`. -/
structure ProxyHistory where
  world : ProxyWorld
  restored : Option (Except SystemProxyError SystemProxyRestoreOutcome)

namespace ProxyHistory

/-- A fresh recovery store. -/
def start (setting : ProxySnapshot) : ProxyHistory := ⟨.start setting none, none⟩

/-- One step. -/
def step (h : ProxyHistory) : ProxyStep → Option ProxyHistory
  | .enable mixedPort tape =>
    let program := WindowsSystemProxy.enableLoopbackProxy mixedPort
    some ⟨(program.run ProxyWorld.undisturbed tape h.world).2, none⟩
  | .restore tape =>
    let (result, w) := WindowsSystemProxy.restoreProxy.run ProxyWorld.undisturbed tape h.world
    some ⟨w, some result⟩
  | .userSets state => some ⟨h.world.userSets state, none⟩
  | .restart => some ⟨h.world, none⟩

end ProxyHistory

/-- The original setting can be had back: a managed setting comes with a record of it, and a
restore that was successful has put it back. -/
def ProxyHistory.Recoverable (h : ProxyHistory) : Prop :=
  (h.world.placed = .managed →
    (h.world.store.any fun record => record.snapshot.semanticallyEquals h.world.original) = true) ∧
  (h.restored = some (.ok .restored) →
    h.world.setting.semanticallyEquals h.world.original = true)

/-! ## The condition on a step -/

/-- The write or one of the notifications fails, and the read and the clear that follow find and
forget the setting as it was: places `3` to `6` of an enabling call are its write and its
notifications. -/
def ProvesUnapplied (tape : Tape Fault) : Prop :=
  ∃ k < 4, (∀ j < k, (tape (3 + j)).succeeds = true) ∧ (tape (3 + k)).succeeds = false ∧
    (tape (4 + k)).succeeds = true ∧ (tape (5 + k)).takesEffect = true

/-- An enabling call that gets to record the setting (its places `0`, `1` and `2` are the lock, the
read and the save) records the original one, and does not clear the record while the controller's
own setting is in place. -/
def EnableKeeps (w : ProxyWorld) (mixedPort : NonZeroPort) (tape : Tape Fault) : Prop :=
  (tape 0).succeeds = true → (tape 1).succeeds = true → (tape 2).takesEffect = true →
    w.setting.semanticallyEquals w.original = true ∧
      ((tape 2).succeeds = true → ProvesUnapplied tape →
        if (tape 3).takesEffect then
          (ManagedProxyState.loopback mixedPort).agrees w.setting = false
        else w.placed ≠ .managed)

/-- A restoring call that gets to write (its places `0` to `3` are the lock, the load, the read and
the write) while the controller's own setting is not in place writes the original setting back. -/
def RestoreKeeps (w : ProxyWorld) (tape : Tape Fault) : Prop :=
  w.placed ≠ .managed →
  (tape 0).succeeds = true → (tape 1).succeeds = true → (tape 2).succeeds = true →
    (tape 3).takesEffect = true → ∀ record, w.store = some record →
      record.managed.agrees w.setting = true →
        record.snapshot.semanticallyEquals w.original = true

/-- The condition on a step. -/
def ProxyHistory.Keeps (h : ProxyHistory) : ProxyStep → Prop
  | .enable mixedPort tape => EnableKeeps h.world mixedPort tape
  | .restore tape => RestoreKeeps h.world tape
  | .userSets _ => True
  | .restart => True

/-! ## The calls of a run -/

namespace ProxyPort

variable {α : Type} {w : ProxyWorld} {tape : Tape Fault}

theorem run_lock {f : Bool → ProxyProgram α} :
    (lock >>= f).run ProxyWorld.undisturbed tape w =
      (f (tape 0).succeeds).run ProxyWorld.undisturbed (tape.drop 1) w := rfl

theorem run_read {f : Option ProxySnapshot → ProxyProgram α} :
    (read >>= f).run ProxyWorld.undisturbed tape w =
      let seen := if (tape 0).succeeds then some w.setting else none
      (f seen).run ProxyWorld.undisturbed (tape.drop 1) (w.note (.read seen)) := rfl

theorem run_write {state : ProxySnapshot} {placed : Placed} {f : Bool → ProxyProgram α} :
    (write state placed >>= f).run ProxyWorld.undisturbed tape w =
      (f (tape 0).succeeds).run ProxyWorld.undisturbed (tape.drop 1)
        (w.place state placed (tape 0).outcome) := rfl

theorem run_notifySettingsChanged {f : Bool → ProxyProgram α} :
    (notifySettingsChanged >>= f).run ProxyWorld.undisturbed tape w =
      (f (tape 0).succeeds).run ProxyWorld.undisturbed (tape.drop 1)
        (w.note (.notify (tape 0).succeeds)) := rfl

theorem run_refreshSettings {f : Bool → ProxyProgram α} :
    (refreshSettings >>= f).run ProxyWorld.undisturbed tape w =
      (f (tape 0).succeeds).run ProxyWorld.undisturbed (tape.drop 1)
        (w.note (.notify (tape 0).succeeds)) := rfl

theorem run_notifyProxySettingsChanged {f : Bool → ProxyProgram α} :
    (notifyProxySettingsChanged >>= f).run ProxyWorld.undisturbed tape w =
      (f (tape 0).succeeds).run ProxyWorld.undisturbed (tape.drop 1)
        (w.note (.notify (tape 0).succeeds)) := rfl

theorem run_load {f : Option (Option ProxyRecoveryRecord) → ProxyProgram α} :
    (load >>= f).run ProxyWorld.undisturbed tape w =
      let found := if (tape 0).succeeds then some w.store else none
      (f found).run ProxyWorld.undisturbed (tape.drop 1) (w.note (.load found)) := rfl

theorem run_save {record : ProxyRecoveryRecord} {f : Bool → ProxyProgram α} :
    (save record >>= f).run ProxyWorld.undisturbed tape w =
      (f (tape 0).succeeds).run ProxyWorld.undisturbed (tape.drop 1)
        (w.keep (some record) (.save record (tape 0).succeeds) (tape 0).outcome) := rfl

theorem run_clear {f : Bool → ProxyProgram α} :
    (clear >>= f).run ProxyWorld.undisturbed tape w =
      (f (tape 0).succeeds).run ProxyWorld.undisturbed (tape.drop 1)
        (w.keep none (.clear (tape 0).succeeds) (tape 0).outcome) := rfl

end ProxyPort

/-! ## The invariant -/

/-- The original setting is known: it is recorded while a managed setting is in place, and is in
place otherwise. -/
structure ProxyWorld.Kept (w : ProxyWorld) : Prop where
  managed : w.placed = .managed → ∃ record, w.store = some record ∧
    record.snapshot.semanticallyEquals w.original = true
  other : w.placed ≠ .managed → w.setting.semanticallyEquals w.original = true

namespace WindowsSystemProxy

variable {w : ProxyWorld} {record : ProxyRecoveryRecord} {tape : Tape Fault} {α β : Type}

/-- What a write leaves, whether it took effect or not. -/
structure Wrote (w : ProxyWorld) (state : ProxySnapshot) (placed : Placed) (takesEffect : Bool)
    (w' : ProxyWorld) : Prop where
  store : w'.store = w.store
  original : w'.original = w.original
  setting : w'.setting = if takesEffect then state else w.setting
  placed : w'.placed = if takesEffect then placed else w.placed

/-- A write that takes effect is in place, one that does not changes nothing. -/
theorem wrote_place (w : ProxyWorld) (state : ProxySnapshot) (placed : Placed) (x : ProxyOutcome) :
    Wrote w state placed x.takesEffect (w.place state placed x) := by
  refine ⟨ProxyWorld.place_store w state placed x, ?_, ?_, ?_⟩ <;>
    · rw [ProxyWorld.place]
      cases x.takesEffect <;> rfl

/-- A note changes nothing of that. -/
theorem Wrote.note {w' : ProxyWorld} {state : ProxySnapshot} {placed : Placed} {effect : Bool}
    (h : Wrote w state placed effect w') (event : ProxyEvent) :
    Wrote w state placed effect (w'.note event) :=
  ⟨h.store, h.original, h.setting, h.placed⟩

/-- **Spec.**  `write_and_notify`, followed by `f`: the first of its four calls that fails ends it,
and `f` goes on with the rest of the tape. -/
theorem run_writeAndNotify (state : ProxySnapshot) (placed : Placed)
    (f : Except SystemProxyError Unit → ProxyProgram α) :
    (∃ k < 4, ∃ e w', (∀ j < k, (tape j).succeeds = true) ∧ (tape k).succeeds = false ∧
      Wrote w state placed (tape 0).takesEffect w' ∧
      (writeAndNotify state placed >>= f).run ProxyWorld.undisturbed tape w =
        (f (.error e)).run ProxyWorld.undisturbed (tape.drop (k + 1)) w') ∨
    ∃ w', (tape 0).succeeds = true ∧ Wrote w state placed true w' ∧
      (writeAndNotify state placed >>= f).run ProxyWorld.undisturbed tape w =
        (f (.ok ())).run ProxyWorld.undisturbed (tape.drop 4) w' := by
  have hwrote := wrote_place w state placed (tape 0).outcome
  rw [Fault.outcome_takesEffect] at hwrote
  rw [writeAndNotify, bind_assoc, run_write]
  cases h0 : (tape 0).succeeds with
  | false => exact .inl ⟨0, by omega, .write, _, by simp, h0, hwrote, by simp⟩
  | true =>
    have heffect : (tape 0).takesEffect = true := by simp [Fault.takesEffect, h0]
    rw [heffect] at hwrote ⊢
    dsimp only
    rw [bind_assoc, run_notifySettingsChanged]
    cases h1 : ((tape.drop 1) 0).succeeds with
    | false =>
      exact .inl ⟨1, by omega, .notify, _, by simpa using h0, by simpa using h1,
        hwrote.note (.notify false), by simp⟩
    | true =>
      dsimp only
      rw [bind_assoc, run_refreshSettings]
      cases h2 : ((tape.drop 1).drop 1 0).succeeds with
      | false =>
        refine .inl ⟨2, by omega, .notify, _, fun j hj => ?_, by simpa using h2,
          (hwrote.note (.notify true)).note (.notify false), by simp⟩
        interval_cases j
        · exact h0
        · simpa using h1
      | true =>
        dsimp only
        rw [bind_assoc, run_notifyProxySettingsChanged]
        cases h3 : (((tape.drop 1).drop 1).drop 1 0).succeeds with
        | false =>
          refine .inl ⟨3, by omega, .notify, _, fun j hj => ?_, by simpa using h3,
            ((hwrote.note (.notify true)).note (.notify true)).note (.notify false), by simp⟩
          interval_cases j
          · exact h0
          · simpa using h1
          · simpa using h2
        | true =>
          exact .inr ⟨_, rfl,
            ((hwrote.note (.notify true)).note (.notify true)).note (.notify true), by simp⟩

/-- Writing the original setting back keeps it known. -/
theorem Wrote.kept {w' : ProxyWorld} {takesEffect : Bool} (hkept : w.Kept)
    (h : Wrote w record.snapshot .snapshot takesEffect w')
    (hsnapshot : takesEffect = true → record.snapshot.semanticallyEquals w.original = true) :
    w'.Kept := by
  cases takesEffect with
  | true =>
    exact ⟨fun hmanaged => by simp [h.placed] at hmanaged,
      fun _ => by simpa [h.setting, h.original] using hsnapshot rfl⟩
  | false =>
    refine ⟨fun hmanaged => ?_, fun hother => ?_⟩
    · simpa [h.store, h.original] using hkept.managed (by simpa [h.placed] using hmanaged)
    · simpa [h.setting, h.original] using hkept.other (by simpa [h.placed] using hother)

end WindowsSystemProxy

namespace ProxyWorld

variable {w : ProxyWorld}

/-- A note loses no setting. -/
theorem Kept.note (h : w.Kept) (event : ProxyEvent) : (w.note event).Kept :=
  ⟨h.managed, h.other⟩

/-- While no managed setting is in place the store does not matter. -/
theorem Kept.keep (h : w.Kept) (hplaced : w.placed ≠ .managed) (store : Option ProxyRecoveryRecord)
    (event : ProxyEvent) (x : ProxyOutcome) :
    (w.keep store event x).Kept ∧ (w.keep store event x).placed = w.placed := by
  rw [ProxyWorld.keep]
  split
  · exact ⟨⟨fun hmanaged => absurd hmanaged hplaced, h.other⟩, rfl⟩
  · exact ⟨h.note _, rfl⟩

/-- Nor does a call of the store that has no effect. -/
theorem Kept.keep_failed (h : w.Kept) (store : Option ProxyRecoveryRecord) (event : ProxyEvent)
    {x : ProxyOutcome} (hx : x.takesEffect = false) : (w.keep store event x).Kept := by
  rw [ProxyWorld.keep, if_neg (by simp [hx])]
  exact h.note _

end ProxyWorld

namespace WindowsSystemProxy

variable {w : ProxyWorld} {record : ProxyRecoveryRecord} {tape : Tape Fault} {α β : Type}

/-- **Spec.**  What both `rollback_if_still_managed` and `prove_enable_unapplied` do once a read
agreed with the managed state. -/
theorem run_writeBack (success : β) (hkept : w.Kept)
    (hsnapshot : (tape 0).takesEffect = true →
      record.snapshot.semanticallyEquals w.original = true) :
    let out := Program.run ProxyWorld.undisturbed (do
      match ← writeAndNotify record.snapshot .snapshot with
      | .error e => return .error e
      | .ok () =>
        let some verified ← read | return .error .read
        if !verified.semanticallyEquals record.snapshot then return .error .verification
        else
          let .true ← clear | return .error .recoveryStore
          return .ok success : ProxyProgram (Except SystemProxyError β)) tape w
    out.2.Kept ∧ (out.1 = .ok success → out.2.placed = .snapshot) := by
  dsimp only
  rcases run_writeAndNotify record.snapshot .snapshot _ with
    ⟨k, -, e, w', -, -, hwrote, hrun⟩ | ⟨w', h0, hwrote, hrun⟩
  · rw [hrun]
    exact ⟨hwrote.kept hkept hsnapshot, by simp⟩
  · rw [hrun]
    have heffect : (tape 0).takesEffect = true := by simp [Fault.takesEffect, h0]
    have hkept' := hwrote.kept hkept fun _ => hsnapshot heffect
    have hplaced : w'.placed = .snapshot := by simpa using hwrote.placed
    dsimp only
    rw [run_read]
    cases (tape.drop 4 0).succeeds with
    | false => exact ⟨hkept'.note _, by simp⟩
    | true =>
      have hsetting : w'.setting = record.snapshot := by simpa using hwrote.setting
      dsimp only
      rw [if_pos rfl]
      dsimp only
      rw [hsetting, record.snapshot.semanticallyEquals_refl, if_neg (by simp), run_clear]
      have hclear := (hkept'.note (.read (some record.snapshot))).keep (by simp [ProxyWorld.note, hplaced])
        none (.clear (((tape.drop 4).drop 1) 0).succeeds) (((tape.drop 4).drop 1) 0).outcome
      cases hclears : ((tape.drop 4).drop 1 0).succeeds with
      | false =>
        rw [hclears] at hclear
        exact ⟨hclear.1, by simp⟩
      | true =>
        rw [hclears] at hclear
        exact ⟨hclear.1, fun _ => hclear.2.trans hplaced⟩

/-- **Spec.**  `prove_enable_unapplied` keeps the original setting known, unless it forgets it
while the controller's own setting is in place. -/
theorem proveEnableUnapplied_kept (hkept : w.Kept)
    (hsnapshot : record.snapshot.semanticallyEquals w.original = true)
    (hforget : w.placed = .managed → w.setting.semanticallyEquals record.snapshot = true →
      (tape 0).succeeds = true → (tape 1).takesEffect = false) :
    ((proveEnableUnapplied record).run ProxyWorld.undisturbed tape w).2.Kept := by
  rw [proveEnableUnapplied, run_read]
  cases h0 : (tape 0).succeeds with
  | false => exact hkept.note _
  | true =>
    dsimp only
    rw [if_pos rfl]
    dsimp only
    cases hequal : w.setting.semanticallyEquals record.snapshot with
    | true =>
      rw [if_pos rfl, run_clear]
      have hclear : ((w.note (.read (some w.setting))).keep none
          (.clear ((tape.drop 1) 0).succeeds) ((tape.drop 1) 0).outcome).Kept := by
        by_cases hplaced : w.placed = .managed
        · refine (hkept.note _).keep_failed _ _ ?_
          simpa using hforget hplaced hequal h0
        · exact ((hkept.note _).keep hplaced _ _ _).1
      cases hclears : (tape.drop 1 0).succeeds <;> rw [hclears] at hclear <;> exact hclear
    | false =>
      rw [if_neg (by simp)]
      split
      · exact hkept.note _
      · exact (run_writeBack () (hkept.note _) fun _ => hsnapshot).1

/-- **Spec.**  `rollback_if_still_managed`. -/
theorem rollbackIfStillManaged_kept (hkept : w.Kept)
    (hsnapshot : (tape 0).succeeds = true → (tape 1).takesEffect = true →
      record.managed.agrees w.setting = true →
        record.snapshot.semanticallyEquals w.original = true) :
    let out := (rollbackIfStillManaged record).run ProxyWorld.undisturbed tape w
    out.2.Kept ∧ (out.1 = .ok .restored → out.2.placed = .snapshot) := by
  dsimp only
  rw [rollbackIfStillManaged, run_read]
  cases h0 : (tape 0).succeeds with
  | false => exact ⟨hkept.note _, by simp⟩
  | true =>
    dsimp only
    rw [if_pos rfl]
    dsimp only
    cases hagrees : record.managed.agrees w.setting with
    | false => exact ⟨hkept.note _, by simp⟩
    | true =>
      refine run_writeBack SystemProxyRestoreOutcome.restored (hkept.note _) fun heffect => ?_
      exact hsnapshot h0 (by simpa using heffect) hagrees

/-- Going back after a failure loses no setting. -/
theorem compensate_kept (hkept : w.Kept) (error : SystemProxyError)
    (hsnapshot : record.snapshot.semanticallyEquals w.original = true)
    (hforget : w.placed = .managed → w.setting.semanticallyEquals record.snapshot = true →
      (tape 0).succeeds = true → (tape 1).takesEffect = false) :
    ((compensate record error).run ProxyWorld.undisturbed tape w).2.Kept := by
  rw [compensate, Program.run_bind_world]
  · exact proveEnableUnapplied_kept hkept hsnapshot hforget
  · intro result _ _
    cases result <;> rfl

/-- Saving a record of the original keeps it known. -/
theorem save_kept (hkept : w.Kept) {x : ProxyOutcome}
    (hsnapshot : x.takesEffect = true → record.snapshot.semanticallyEquals w.original = true)
    (event : ProxyEvent) : (w.keep (some record) event x).Kept := by
  cases hx : x.takesEffect with
  | false => exact hkept.keep_failed _ _ hx
  | true =>
    rw [ProxyWorld.keep, if_pos hx]
    exact ⟨fun _ => ⟨record, rfl, hsnapshot hx⟩, hkept.other⟩

/-- The write of the managed state keeps the original known once it is recorded. -/
theorem Wrote.managed_kept {w' : ProxyWorld} {state : ProxySnapshot} {takesEffect : Bool}
    (hkept : w.Kept) (hstore : w.store = some record)
    (hsnapshot : record.snapshot.semanticallyEquals w.original = true)
    (h : Wrote w state .managed takesEffect w') : w'.Kept := by
  refine ⟨fun _ => ⟨record, h.store.trans hstore, by rwa [h.original]⟩, fun hplaced => ?_⟩
  cases takesEffect with
  | true => exact absurd (by simpa using h.placed) hplaced
  | false =>
    simpa [h.setting, h.original] using hkept.other (by simpa [h.placed] using hplaced)

/-- **Spec.**  What `enable` does once its record is saved. -/
theorem run_applyManaged (hkept : w.Kept) (hstore : w.store = some record)
    (hsnapshot : record.snapshot.semanticallyEquals w.original = true)
    (hforget : (∃ k < 4, (∀ j < k, (tape j).succeeds = true) ∧ (tape k).succeeds = false ∧
        (tape (k + 1)).succeeds = true ∧ (tape (k + 2)).takesEffect = true) →
      if (tape 0).takesEffect then record.managed.agrees record.snapshot = false
      else w.placed ≠ .managed) :
    (Program.run ProxyWorld.undisturbed (do
      match ← writeAndNotify record.managed.snapshot .managed with
      | .error e => compensate record e
      | .ok () =>
        let some observed ← read | return .error (.stateUncertain .read)
        if !record.managed.agrees observed then compensate record .verification
        else
          let .true ← save record.markStable | return .error (.stateUncertain .recoveryStore)
          return .ok () : ProxyProgram (Except SystemProxyEnableError Unit)) tape w).2.Kept := by
  rcases run_writeAndNotify record.managed.snapshot .managed _ with
    ⟨k, hk, e, w', hbefore, hfails, hwrote, hrun⟩ | ⟨w', h0, hwrote, hrun⟩
  · rw [hrun]
    refine compensate_kept (hwrote.managed_kept hkept hstore hsnapshot) e
      (by rwa [hwrote.original]) fun hplaced hequal hreads => ?_
    -- the setting that is found and forgotten would be the controller's own
    by_contra hclears
    have hproves := hforget ⟨k, hk, hbefore, hfails, by simpa using hreads,
      by simpa [Nat.add_assoc] using hclears⟩
    cases heffect : (tape 0).takesEffect with
    | true =>
      rw [heffect, if_pos rfl] at hproves
      rw [hwrote.setting, heffect, if_pos rfl] at hequal
      rw [ManagedProxyState.agrees, hequal] at hproves
      cases hproves
    | false =>
      rw [heffect, if_neg (by simp)] at hproves
      exact hproves (by simpa [heffect] using hwrote.placed.symm.trans hplaced)
  · rw [hrun]
    have hkept' := hwrote.managed_kept hkept hstore hsnapshot
    dsimp only
    rw [run_read]
    cases (tape.drop 4 0).succeeds with
    | false => exact hkept'.note _
    | true =>
      have hagrees : record.managed.agrees w'.setting = true := by
        rw [hwrote.setting, if_pos rfl]
        exact record.managed.snapshot.semanticallyEquals_refl
      dsimp only
      rw [if_pos rfl]
      dsimp only
      rw [hagrees, if_neg (by simp), run_save]
      have hstable : ((w'.note (.read (some w'.setting))).keep (some record.markStable)
          (.save record.markStable ((tape.drop 4).drop 1 0).succeeds)
          ((tape.drop 4).drop 1 0).outcome).Kept :=
        save_kept (hkept'.note _) (fun _ => by
          show record.snapshot.semanticallyEquals w'.original = true
          rwa [hwrote.original]) _
      cases hsaves : ((tape.drop 4).drop 1 0).succeeds <;> rw [hsaves] at hstable <;> exact hstable

/-- **Spec.**  A call of `enable_loopback_proxy` that keeps to its condition keeps the original
setting known. -/
theorem enableLoopbackProxy_kept (mixedPort : NonZeroPort) (hkept : w.Kept)
    (hkeeps : EnableKeeps w mixedPort tape) :
    ((enableLoopbackProxy mixedPort).run ProxyWorld.undisturbed tape w).2.Kept := by
  rw [enableLoopbackProxy, run_lock]
  cases h0 : (tape 0).succeeds with
  | false => exact hkept
  | true =>
    dsimp only
    rw [enable, run_read]
    cases h1 : (tape.drop 1 0).succeeds with
    | false => exact hkept.note _
    | true =>
      have hkeeps := hkeeps h0 (by simpa using h1)
      dsimp only
      rw [if_pos rfl]
      dsimp only
      rw [run_save]
      generalize hrecord :
        ProxyRecoveryRecord.transitioning w.setting (.loopback mixedPort) = record
      have hsnapshot : record.snapshot = w.setting := by rw [← hrecord]; rfl
      have hmanaged : record.managed = .loopback mixedPort := by rw [← hrecord]; rfl
      have hsaved : (((w.note (.read (some w.setting))).keep (some record)
          (.save record (tape 2).succeeds) (tape 2).outcome)).Kept :=
        save_kept (hkept.note _) (fun heffect => hsnapshot ▸ (hkeeps heffect).1) _
      cases h2 : ((tape.drop 1).drop 1 0).succeeds with
      | false =>
        rw [show (tape 2).succeeds = false by simpa using h2] at hsaved
        exact hsaved
      | true =>
        have h2' : (tape 2).succeeds = true := by simpa using h2
        have heffect : (tape 2).takesEffect = true := by simp [Fault.takesEffect, h2']
        obtain ⟨horiginal, hforget⟩ := hkeeps heffect
        rw [h2'] at hsaved
        have hkeep (event : ProxyEvent) :
            ((w.note (.read (some w.setting))).keep (some record) event
                ((tape.drop 1).drop 1 0).outcome) =
              { w.note (.read (some w.setting)) with store := some record }.note event := by
          rw [ProxyWorld.keep, if_pos (by simpa using heffect)]
        refine run_applyManaged hsaved (by rw [hkeep]; rfl) ?_ fun hproves => ?_
        · rw [hkeep, hsnapshot]
          exact horiginal
        · obtain ⟨k, hk, hbefore, hfails, hreads, hclears⟩ := hproves
          have h3 (n : ℕ) : ((tape.drop 1).drop 1).drop 1 n = tape (3 + n) := by
            rw [Tape.drop_drop, Tape.drop_drop, Tape.drop_apply]
          simp only [h3, Nat.add_comm k, ← Nat.add_assoc] at hbefore hfails hreads hclears
          have hforget := hforget h2' ⟨k, hk, hbefore, hfails, hreads, hclears⟩
          rw [hsnapshot, hmanaged, hkeep, h3]
          exact hforget

/-- **Spec.**  A call of `restore_proxy` that keeps to its condition keeps the original setting
known, and puts it back if it says so. -/
theorem restoreProxy_kept (hkept : w.Kept) (hkeeps : RestoreKeeps w tape) :
    let out := restoreProxy.run ProxyWorld.undisturbed tape w
    out.2.Kept ∧ (out.1 = .ok .restored → out.2.placed = .snapshot) := by
  dsimp only
  rw [restoreProxy, run_lock]
  cases h0 : (tape 0).succeeds with
  | false => exact ⟨hkept, by simp⟩
  | true =>
    dsimp only
    rw [restore, run_load]
    cases h1 : (tape.drop 1 0).succeeds with
    | false => exact ⟨hkept.note _, by simp⟩
    | true =>
      dsimp only
      rw [if_pos rfl]
      cases hstore : w.store with
      | none => exact ⟨hkept.note _, by simp⟩
      | some record =>
        refine rollbackIfStillManaged_kept (hkept.note _) fun h2 h3 hagrees => ?_
        by_cases hplaced : w.placed = .managed
        · obtain ⟨held, hheld, hsnapshot⟩ := hkept.managed hplaced
          obtain rfl : record = held := Option.some.inj (hstore.symm.trans hheld)
          exact hsnapshot
        · exact hkeeps hplaced h0 (by simpa using h1) (by simpa using h2) (by simpa using h3) record
            hstore hagrees

end WindowsSystemProxy

/-! ## Every run -/

namespace ProxyHistory

/-- The original setting is known, and a successful restore has just put it back. -/
structure Safe (h : ProxyHistory) : Prop where
  kept : h.world.Kept
  restored : h.restored = some (.ok .restored) → h.world.placed = .snapshot

/-- **Step.**  A step that meets the condition keeps the original setting known. -/
theorem Safe.step {h h' : ProxyHistory} {s : ProxyStep} (hsafe : h.Safe) (hkeeps : h.Keeps s)
    (hstep : h.step s = some h') : h'.Safe := by
  cases s with
  | enable mixedPort tape =>
    cases hstep
    exact ⟨WindowsSystemProxy.enableLoopbackProxy_kept mixedPort hsafe.kept hkeeps, by simp⟩
  | restore tape =>
    cases hstep
    obtain ⟨hkept, hrestored⟩ := WindowsSystemProxy.restoreProxy_kept hsafe.kept hkeeps
    exact ⟨hkept, fun hresult => hrestored (Option.some.inj hresult)⟩
  | userSets state =>
    cases hstep
    exact ⟨⟨by simp [ProxyWorld.userSets], fun _ => state.semanticallyEquals_refl⟩, by simp⟩
  | restart =>
    cases hstep
    exact ⟨hsafe.kept, by simp⟩

/-- Where the setting is safe it can be recovered. -/
theorem Safe.recoverable {h : ProxyHistory} (hsafe : h.Safe) : h.Recoverable := by
  refine ⟨fun hplaced => ?_, fun hrestored => ?_⟩
  · obtain ⟨record, hstore, hsnapshot⟩ := hsafe.kept.managed hplaced
    rw [hstore]
    exact hsnapshot
  · exact hsafe.kept.other (by simp [hsafe.restored hrestored])

end ProxyHistory

/-- **The original setting is never lost** in a run whose enabling calls record the original
setting, and do not forget it while the controller's own is in place, and whose restoring calls
write the original one. -/
theorem original_proxy_kept (setting : ProxySnapshot) (steps : List ProxyStep) (h : ProxyHistory)
    (run : Runs ProxyHistory.step ProxyHistory.Keeps (.start setting) steps h) :
    h.Recoverable := by
  have hstart : (ProxyHistory.start setting).Safe :=
    ⟨⟨by simp [ProxyHistory.start, ProxyWorld.start],
      fun _ => setting.semanticallyEquals_refl⟩, by simp [ProxyHistory.start]⟩
  exact (run.invariant ProxyHistory.Safe hstart fun _ _ _ hsafe hkeeps hstep =>
    hsafe.step hkeeps hstep).recoverable

/-- A direct connection. -/
def directConnection : ProxySnapshot :=
  { direct := true, proxyEnabled := false, proxyServer := none, proxyBypass := none
    autoConfigUrl := none, autoConfigEnabled := false, autoDetect := false }

/-- `enable_loopback_proxy`, and every call of it works. -/
def enableStep : ProxyStep := .enable ⟨2080, by decide⟩ fun _ => .works

/-- The proxy is placed once, and the setting before can be recovered. -/
theorem original_proxy_kept_enabled :
    ∃ h, Runs ProxyHistory.step ProxyHistory.Keeps (.start directConnection) [enableStep] h ∧
      h.world.placed = .managed ∧ h.Recoverable := by
  have hkeeps : (ProxyHistory.start directConnection).Keeps enableStep := fun _ _ _ =>
    ⟨directConnection.semanticallyEquals_refl, fun _ hproves => by
      obtain ⟨k, -, -, hfails, -⟩ := hproves
      cases hfails⟩
  have run : Runs ProxyHistory.step ProxyHistory.Keeps (.start directConnection) [enableStep] _ :=
    Runs.refl.tail hkeeps rfl
  exact ⟨_, run, by decide +kernel, original_proxy_kept _ _ _ run⟩

/-- Enabling twice records the controller's own setting over the user's. -/
theorem original_proxy_lost : ¬ ∀ setting steps h,
    Runs ProxyHistory.step Free (.start setting) steps h → h.Recoverable := by
  intro h
  have first : Runs ProxyHistory.step Free (.start directConnection) [enableStep] _ :=
    Runs.refl.tail trivial rfl
  have twice := h directConnection [enableStep, enableStep] _ (first.tail trivial rfl)
  exact absurd (twice.1 (by decide +kernel)) (by decide +kernel)

end Veyra
