import Veyra.Lib.Effect
import Veyra.Lib.Sorted
import Veyra.Lib.Text
import Mathlib.Data.String.Basic

/-!
# Veyra.Platform.SystemProxy

`WindowsSystemProxy`: the one place that changes the proxy of the current
user's default connection, and the recovery record that remembers what was
there before.

The controller is a program over the calls of its two ports.  `ProxyWorld` is
what these calls act on — the setting, which the user can change at any time,
and the stored record — with the history that statements about the controller
speak of: every call with its answer, who placed the current setting, and the
last setting that somebody else placed.
-/

namespace Veyra

open Effect

/-! ## Settings -/

/-- The proxy state of the default connection. -/
structure ProxySnapshot where
  direct : Bool
  proxyEnabled : Bool
  proxyServer : Option String
  proxyBypass : Option String
  autoConfigUrl : Option String
  autoConfigEnabled : Bool
  autoDetect : Bool
deriving DecidableEq, Repr

/-- `normalized_optional`. -/
def normalizedOptional (value : Option String) : Option String :=
  ((value.map Text.trim).filter fun value => value ≠ "").map Text.lower

/-- `normalized_bypass`. -/
def normalizedBypass (value : Option String) : List String :=
  let parts := (Text.split ';' (value.getD "")).map Text.trim
  let parts := (parts.filter fun part => part ≠ "").map Text.lower
  Sorted.sortDedup id parts

/-- `semantically_equals`. -/
def ProxySnapshot.semanticallyEquals (a b : ProxySnapshot) : Bool :=
  a.direct = b.direct && a.proxyEnabled = b.proxyEnabled &&
    a.autoConfigEnabled = b.autoConfigEnabled && a.autoDetect = b.autoDetect &&
    normalizedOptional a.proxyServer = normalizedOptional b.proxyServer &&
    normalizedBypass a.proxyBypass = normalizedBypass b.proxyBypass &&
    normalizedOptional a.autoConfigUrl = normalizedOptional b.autoConfigUrl

namespace ProxySnapshot

/-- What `semantically_equals` compares. -/
def meaning (a : ProxySnapshot) :
    (Bool × Bool × Bool × Bool) × Option String × List String × Option String :=
  ((a.direct, a.proxyEnabled, a.autoConfigEnabled, a.autoDetect),
    normalizedOptional a.proxyServer, normalizedBypass a.proxyBypass,
    normalizedOptional a.autoConfigUrl)

/-- Two settings are equal if they mean the same. -/
theorem semanticallyEquals_iff {a b : ProxySnapshot} :
    a.semanticallyEquals b = true ↔ a.meaning = b.meaning := by
  simp [semanticallyEquals, meaning, Prod.ext_iff, and_assoc]

@[simp] theorem semanticallyEquals_refl (a : ProxySnapshot) : a.semanticallyEquals a = true :=
  semanticallyEquals_iff.mpr rfl

theorem semanticallyEquals_symm {a b : ProxySnapshot} (h : a.semanticallyEquals b = true) :
    b.semanticallyEquals a = true :=
  semanticallyEquals_iff.mpr (semanticallyEquals_iff.mp h).symm

theorem semanticallyEquals_trans {a b c : ProxySnapshot} (h : a.semanticallyEquals b = true)
    (h' : b.semanticallyEquals c = true) : a.semanticallyEquals c = true :=
  semanticallyEquals_iff.mpr ((semanticallyEquals_iff.mp h).trans (semanticallyEquals_iff.mp h'))

end ProxySnapshot

/-- A port of `NonZeroU16`. -/
abbrev NonZeroPort := { port : UInt16 // port ≠ 0 }

/-- The only state that the application applies. -/
structure ManagedProxyState where
  snapshot : ProxySnapshot
deriving DecidableEq, Repr

namespace ManagedProxyState

/-- `ManagedProxyState::loopback`. -/
def loopback (mixedPort : NonZeroPort) : ManagedProxyState where
  snapshot :=
    { direct := true
      proxyEnabled := true
      proxyServer := some ("127.0.0.1:" ++ toString mixedPort.val.toNat)
      proxyBypass := some "localhost;127.0.0.1;::1"
      autoConfigUrl := none
      autoConfigEnabled := false
      autoDetect := false }

/-- `ManagedProxyState::matches`. -/
def agrees (managed : ManagedProxyState) (observed : ProxySnapshot) : Bool :=
  managed.snapshot.semanticallyEquals observed

end ManagedProxyState

inductive RecoveryPhase
  | transitioning
  | stable
deriving DecidableEq, Repr

structure ProxyRecoveryRecord where
  phase : RecoveryPhase
  snapshot : ProxySnapshot
  managed : ManagedProxyState
deriving DecidableEq, Repr

def ProxyRecoveryRecord.transitioning (snapshot : ProxySnapshot) (managed : ManagedProxyState) :
    ProxyRecoveryRecord :=
  { phase := .transitioning, snapshot, managed }

def ProxyRecoveryRecord.markStable (r : ProxyRecoveryRecord) : ProxyRecoveryRecord :=
  { r with phase := .stable }

@[simp] theorem ProxyRecoveryRecord.transitioning_snapshot (snapshot : ProxySnapshot)
    (managed : ManagedProxyState) :
    (ProxyRecoveryRecord.transitioning snapshot managed).snapshot = snapshot := rfl

@[simp] theorem ProxyRecoveryRecord.transitioning_managed (snapshot : ProxySnapshot)
    (managed : ManagedProxyState) :
    (ProxyRecoveryRecord.transitioning snapshot managed).managed = managed := rfl

@[simp] theorem ProxyRecoveryRecord.transitioning_markStable (snapshot : ProxySnapshot)
    (managed : ManagedProxyState) :
    (ProxyRecoveryRecord.transitioning snapshot managed).markStable =
      ⟨.stable, snapshot, managed⟩ := rfl

/-! ## The calls -/

/-- Who placed a setting: somebody else, or the controller, as its managed state or as a
recorded snapshot. -/
inductive Placed
  | user
  | managed
  | snapshot
deriving DecidableEq, Repr

/-- The calls of `SystemProxyPort` and `ProxyRecoveryStore`, and taking the controller's lock.
What a setting is written as is for the history alone. -/
inductive ProxyCall
  | lock
  | readDefaultConnection
  | writeDefaultConnection (state : ProxySnapshot) (placed : Placed)
  | notifySettingsChanged
  | refreshSettings
  | notifyProxySettingsChanged
  | load
  | save (record : ProxyRecoveryRecord)
  | clear

/-- What a call answers; a Boolean is `is_ok`. -/
def ProxyCall.Answer : ProxyCall → Type
  | .readDefaultConnection => Option ProxySnapshot
  | .load => Option (Option ProxyRecoveryRecord)
  | _ => Bool

def proxyCalls : Signature := ⟨ProxyCall, ProxyCall.Answer⟩

abbrev ProxyProgram (α : Type) := Program proxyCalls α

namespace ProxyPort

def lock : ProxyProgram Bool := .perform (S := proxyCalls) .lock
def read : ProxyProgram (Option ProxySnapshot) := .perform (S := proxyCalls) .readDefaultConnection
def write (state : ProxySnapshot) (placed : Placed) : ProxyProgram Bool :=
  .perform (S := proxyCalls) (.writeDefaultConnection state placed)
def notifySettingsChanged : ProxyProgram Bool :=
  .perform (S := proxyCalls) .notifySettingsChanged
def refreshSettings : ProxyProgram Bool := .perform (S := proxyCalls) .refreshSettings
def notifyProxySettingsChanged : ProxyProgram Bool :=
  .perform (S := proxyCalls) .notifyProxySettingsChanged
def load : ProxyProgram (Option (Option ProxyRecoveryRecord)) := .perform (S := proxyCalls) .load
def save (record : ProxyRecoveryRecord) : ProxyProgram Bool :=
  .perform (S := proxyCalls) (.save record)
def clear : ProxyProgram Bool := .perform (S := proxyCalls) .clear

end ProxyPort

/-! ## Results -/

inductive SystemProxyError
  | read
  | write
  | notify
  | recoveryStore
  | verification
deriving DecidableEq, Repr

/-- `SystemProxyEnableError`: whether the failed call left anything applied. -/
inductive SystemProxyEnableError
  | safelyUnapplied (error : SystemProxyError)
  | stateUncertain (error : SystemProxyError)
deriving DecidableEq, Repr

inductive SystemProxyRestoreOutcome
  | restored
  | notManaged
  | userModified
deriving DecidableEq, Repr

inductive ProxyState
  | notManaged
  | managed
  | userModified
deriving DecidableEq, Repr

/-! ## The controller -/

namespace WindowsSystemProxy

open ProxyPort

/-- `write_and_notify`. -/
def writeAndNotify (state : ProxySnapshot) (placed : Placed) :
    ProxyProgram (Except SystemProxyError Unit) := do
  let .true ← write state placed | return .error .write
  let .true ← notifySettingsChanged | return .error .notify
  let .true ← refreshSettings | return .error .notify
  let .true ← notifyProxySettingsChanged | return .error .notify
  return .ok ()

/-- `rollback_if_still_managed`. -/
def rollbackIfStillManaged (record : ProxyRecoveryRecord) :
    ProxyProgram (Except SystemProxyError SystemProxyRestoreOutcome) := do
  let some observed ← read | return .error .read
  if !record.managed.agrees observed then return .ok .userModified
  else
    match ← writeAndNotify record.snapshot .snapshot with
    | .error e => return .error e
    | .ok () =>
      let some verified ← read | return .error .read
      if !verified.semanticallyEquals record.snapshot then return .error .verification
      else
        let .true ← clear | return .error .recoveryStore
        return .ok .restored

/-- `prove_enable_unapplied`; every error is `StateUncertain`. -/
def proveEnableUnapplied (record : ProxyRecoveryRecord) :
    ProxyProgram (Except SystemProxyError Unit) := do
  let some observed ← read | return .error .read
  if observed.semanticallyEquals record.snapshot then
    let .true ← clear | return .error .recoveryStore
    return .ok ()
  else if !record.managed.agrees observed then return .error .verification
  else
    match ← writeAndNotify record.snapshot .snapshot with
    | .error e => return .error e
    | .ok () =>
      let some verified ← read | return .error .read
      if !verified.semanticallyEquals record.snapshot then return .error .verification
      else
        let .true ← clear | return .error .recoveryStore
        return .ok ()

/-- The end of a failed `enable`: unapplied if that can be proved. -/
def compensate (record : ProxyRecoveryRecord) (error : SystemProxyError) :
    ProxyProgram (Except SystemProxyEnableError Unit) := do
  match ← proveEnableUnapplied record with
  | .ok () => return .error (.safelyUnapplied error)
  | .error _ => return .error (.stateUncertain error)

/-- `enable`; its one outcome is `Enabled`. -/
def enable (managed : ManagedProxyState) : ProxyProgram (Except SystemProxyEnableError Unit) := do
  let some snapshot ← read | return .error (.safelyUnapplied .read)
  let record := ProxyRecoveryRecord.transitioning snapshot managed
  let .true ← save record | return .error (.safelyUnapplied .recoveryStore)
  match ← writeAndNotify record.managed.snapshot .managed with
  | .error e => compensate record e
  | .ok () =>
    let some observed ← read | return .error (.stateUncertain .read)
    if !record.managed.agrees observed then compensate record .verification
    else
      let .true ← save record.markStable | return .error (.stateUncertain .recoveryStore)
      return .ok ()

/-- `restore`. -/
def restore : ProxyProgram (Except SystemProxyError SystemProxyRestoreOutcome) := do
  match ← load with
  | none => return .error .recoveryStore
  | some none => return .ok .notManaged
  | some (some record) => rollbackIfStillManaged record

/-- `current_state`. -/
def currentState : ProxyProgram (Except SystemProxyError ProxyState) := do
  match ← load with
  | none => return .error .recoveryStore
  | some none => return .ok .notManaged
  | some (some record) =>
    let some observed ← read | return .error .read
    if record.managed.agrees observed then return .ok .managed else return .ok .userModified

/-- `enable_loopback_proxy`; the lock fails when it is poisoned. -/
def enableLoopbackProxy (mixedPort : NonZeroPort) :
    ProxyProgram (Except SystemProxyEnableError Unit) := do
  let .true ← lock | return .error (.stateUncertain .recoveryStore)
  enable (.loopback mixedPort)

/-- `restore_proxy`. -/
def restoreProxy : ProxyProgram (Except SystemProxyError SystemProxyRestoreOutcome) := do
  let .true ← lock | return .error .recoveryStore
  restore

/-- `state`. -/
def state : ProxyProgram (Except SystemProxyError ProxyState) := do
  let .true ← lock | return .error .recoveryStore
  currentState

end WindowsSystemProxy

/-! ## The world -/

/-- A call with its answer. -/
inductive ProxyEvent
  | read (seen : Option ProxySnapshot)
  | write (state : ProxySnapshot) (succeeds : Bool)
  | notify (succeeds : Bool)
  | load (found : Option (Option ProxyRecoveryRecord))
  | save (record : ProxyRecoveryRecord) (succeeds : Bool)
  | clear (succeeds : Bool)
deriving DecidableEq, Repr

/-- What the outside chooses for a call: a change that the user makes right before it, whether it
succeeds, and whether a failed write, save or clear took effect all the same. -/
structure ProxyOutcome where
  change : Option ProxySnapshot
  succeeds : Bool
  applied : Bool
deriving DecidableEq, Repr

def ProxyOutcome.takesEffect (x : ProxyOutcome) : Bool := x.succeeds || x.applied

/-- The setting and the recovery store; the rest is history that no call reads.  `original` is the
last setting that the controller did not place. -/
structure ProxyWorld where
  setting : ProxySnapshot
  store : Option ProxyRecoveryRecord
  placed : Placed
  original : ProxySnapshot
  log : List ProxyEvent
deriving DecidableEq, Repr

namespace ProxyWorld

/-- The user places a setting. -/
def userSets (w : ProxyWorld) (state : ProxySnapshot) : ProxyWorld :=
  { w with setting := state, placed := .user, original := state }

def userChanges (w : ProxyWorld) : Option ProxySnapshot → ProxyWorld
  | none => w
  | some state => w.userSets state

def note (w : ProxyWorld) (event : ProxyEvent) : ProxyWorld := { w with log := w.log ++ [event] }

/-- A write of the setting. -/
def place (w : ProxyWorld) (state : ProxySnapshot) (placed : Placed) (x : ProxyOutcome) :
    ProxyWorld :=
  (if x.takesEffect then { w with setting := state, placed := placed } else w).note
    (.write state x.succeeds)

/-- A change of the store. -/
def keep (w : ProxyWorld) (store : Option ProxyRecoveryRecord) (event : ProxyEvent)
    (x : ProxyOutcome) : ProxyWorld :=
  (if x.takesEffect then { w with store := store } else w).note event

/-- What a call does once the user made his change. -/
def answer (w : ProxyWorld) (x : ProxyOutcome) : (c : ProxyCall) → c.Answer × ProxyWorld
  | .lock => (x.succeeds, w)
  | .readDefaultConnection =>
    let seen := if x.succeeds then some w.setting else none
    (seen, w.note (.read seen))
  | .writeDefaultConnection state placed => (x.succeeds, w.place state placed x)
  | .notifySettingsChanged => (x.succeeds, w.note (.notify x.succeeds))
  | .refreshSettings => (x.succeeds, w.note (.notify x.succeeds))
  | .notifyProxySettingsChanged => (x.succeeds, w.note (.notify x.succeeds))
  | .load =>
    let found := if x.succeeds then some w.store else none
    (found, w.note (.load found))
  | .save record => (x.succeeds, w.keep (some record) (.save record x.succeeds) x)
  | .clear => (x.succeeds, w.keep none (.clear x.succeeds) x)

/-- One call. -/
def handle : Handler proxyCalls ProxyWorld ProxyOutcome := fun w c x =>
  (w.userChanges x.change).answer x c

/-- Before the first call: a setting of the user, and a recovery store. -/
def start (setting : ProxySnapshot) (store : Option ProxyRecoveryRecord) : ProxyWorld :=
  { setting, store, placed := .user, original := setting, log := [] }

end ProxyWorld

/-! ## The rules of the calls -/

namespace ProxyWorld

@[simp] theorem userChanges_log (w : ProxyWorld) (change : Option ProxySnapshot) :
    (w.userChanges change).log = w.log := by cases change <;> rfl

@[simp] theorem userChanges_store (w : ProxyWorld) (change : Option ProxySnapshot) :
    (w.userChanges change).store = w.store := by cases change <;> rfl

@[simp] theorem note_log (w : ProxyWorld) (event : ProxyEvent) :
    (w.note event).log = w.log ++ [event] := rfl

@[simp] theorem note_store (w : ProxyWorld) (event : ProxyEvent) :
    (w.note event).store = w.store := rfl

@[simp] theorem place_log (w : ProxyWorld) (state : ProxySnapshot) (placed : Placed)
    (x : ProxyOutcome) : (w.place state placed x).log = w.log ++ [.write state x.succeeds] := by
  rw [place, note_log]
  split <;> rfl

@[simp] theorem place_store (w : ProxyWorld) (state : ProxySnapshot) (placed : Placed)
    (x : ProxyOutcome) : (w.place state placed x).store = w.store := by
  rw [place, note_store]
  split <;> rfl

@[simp] theorem keep_log (w : ProxyWorld) (store : Option ProxyRecoveryRecord)
    (event : ProxyEvent) (x : ProxyOutcome) : (w.keep store event x).log = w.log ++ [event] := by
  rw [keep, note_log]
  split <;> rfl

@[simp] theorem keep_store (w : ProxyWorld) (store : Option ProxyRecoveryRecord)
    (event : ProxyEvent) (x : ProxyOutcome) :
    (w.keep store event x).store = if x.takesEffect then store else w.store := by
  rw [keep, note_store]
  split <;> rfl

end ProxyWorld

namespace ProxyPort

variable {α : Type} {w : ProxyWorld} {post : α → ProxyWorld → Prop}

/-- A lock may fail to be taken, and the user may change the setting before. -/
theorem ends_lock {f : Bool → ProxyProgram α} :
    Ends ProxyWorld.handle (lock >>= f) w post ↔
      ∀ x : ProxyOutcome,
        Ends ProxyWorld.handle (f x.succeeds) (w.userChanges x.change) post :=
  ends_call

/-- The setting that is read is the one in place at that time. -/
theorem ends_read {f : Option ProxySnapshot → ProxyProgram α} :
    Ends ProxyWorld.handle (read >>= f) w post ↔
      ∀ x : ProxyOutcome,
        let w := w.userChanges x.change
        let seen := if x.succeeds then some w.setting else none
        Ends ProxyWorld.handle (f seen) (w.note (.read seen)) post :=
  ends_call

/-- A setting that is written is in place, unless the write fails without effect. -/
theorem ends_write {state : ProxySnapshot} {placed : Placed} {f : Bool → ProxyProgram α} :
    Ends ProxyWorld.handle (write state placed >>= f) w post ↔
      ∀ x : ProxyOutcome,
        Ends ProxyWorld.handle (f x.succeeds) ((w.userChanges x.change).place state placed x)
          post :=
  ends_call

/-- A notification changes no setting. -/
theorem ends_notifySettingsChanged {f : Bool → ProxyProgram α} :
    Ends ProxyWorld.handle (notifySettingsChanged >>= f) w post ↔
      ∀ x : ProxyOutcome, Ends ProxyWorld.handle (f x.succeeds)
        ((w.userChanges x.change).note (.notify x.succeeds)) post :=
  ends_call

/-- Neither does a refresh. -/
theorem ends_refreshSettings {f : Bool → ProxyProgram α} :
    Ends ProxyWorld.handle (refreshSettings >>= f) w post ↔
      ∀ x : ProxyOutcome, Ends ProxyWorld.handle (f x.succeeds)
        ((w.userChanges x.change).note (.notify x.succeeds)) post :=
  ends_call

/-- Neither does the other notification. -/
theorem ends_notifyProxySettingsChanged {f : Bool → ProxyProgram α} :
    Ends ProxyWorld.handle (notifyProxySettingsChanged >>= f) w post ↔
      ∀ x : ProxyOutcome, Ends ProxyWorld.handle (f x.succeeds)
        ((w.userChanges x.change).note (.notify x.succeeds)) post :=
  ends_call

/-- The record that is loaded is the one that is stored. -/
theorem ends_load {f : Option (Option ProxyRecoveryRecord) → ProxyProgram α} :
    Ends ProxyWorld.handle (load >>= f) w post ↔
      ∀ x : ProxyOutcome,
        let w := w.userChanges x.change
        let found := if x.succeeds then some w.store else none
        Ends ProxyWorld.handle (f found) (w.note (.load found)) post :=
  ends_call

/-- A record that is saved is stored, unless the save fails without effect. -/
theorem ends_save {record : ProxyRecoveryRecord} {f : Bool → ProxyProgram α} :
    Ends ProxyWorld.handle (save record >>= f) w post ↔
      ∀ x : ProxyOutcome,
        Ends ProxyWorld.handle (f x.succeeds)
          ((w.userChanges x.change).keep (some record) (.save record x.succeeds) x) post :=
  ends_call

theorem ends_clear {f : Bool → ProxyProgram α} :
    Ends ProxyWorld.handle (clear >>= f) w post ↔
      ∀ x : ProxyOutcome,
        Ends ProxyWorld.handle (f x.succeeds)
          ((w.userChanges x.change).keep none (.clear x.succeeds) x) post :=
  ends_call

end ProxyPort

/-- A run of a program in a world. -/
abbrev ProxyWorld.runs {α : Type} (w : ProxyWorld) (p : ProxyProgram α)
    (tape : Tape ProxyOutcome) : α × ProxyWorld :=
  p.run ProxyWorld.handle tape w

end Veyra
