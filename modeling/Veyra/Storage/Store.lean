import Veyra.Lib.Disk
import Veyra.Storage.Migration
import Veyra.Storage.Schema

/-!
# Veyra.Storage.Store

`JsonStateStore`: load with migration and recovery, save with a backup.  The
files live in one directory and are named as the source derives them from
`state.json`; the JSON text layer is a parameter (`SnapshotText`).

Each operation has one lemma that gives its result and its steps.
-/

namespace Veyra

open Check Disk Fs

/-! ## File names -/

/-- `Path::with_extension` on a file name. -/
def withExtension (name extension : String) : String :=
  let stem := match Text.rsplitOnce '.' name with
    | some (stem, _) => if stem = "" then name else stem
    | none => name
  String.ofList (stem.toList ++ '.' :: extension.toList)

/-- `sibling_path`. -/
def siblingPath (name suffix : String) : String :=
  String.ofList (name.toList ++ '.' :: suffix.toList)

def stateFile : String := "state.json"
def backupPath : String := siblingPath stateFile "bak"
def preMigrationBackupPath : String := siblingPath stateFile "pre-migration"
def corruptCopyPath : String := siblingPath stateFile "corrupt"

/-- The file a replacement of `destination` is staged in. -/
def temporaryPath (destination : String) : String := withExtension destination "tmp"

/-! ## Decoding -/

/-- The JSON text layer: `serde_json::to_vec_pretty` of a stored state and
`serde_json::from_slice`. -/
structure SnapshotText where
  print : Json → List UInt8
  parse : List UInt8 → Option Json

/-- `StoredStateV6::from`, as the JSON value it serializes to. -/
def encodeState (s : AppState) : Json :=
  Schema.storedStateV6.codec.encode { s with schemaVersion := currentSchemaVersion }

/-- The bytes that a save of `s` writes. -/
def SnapshotText.snapshot (text : SnapshotText) (s : AppState) : List UInt8 :=
  text.print (encodeState s)

/-- The text layer reads back what it wrote for `s`. -/
def SnapshotText.RoundTrips (text : SnapshotText) (s : AppState) : Prop :=
  text.parse (text.snapshot s) = some (encodeState s)

/-- `validate_state`. -/
def validateState (s : AppState) : Except StateStoreError AppState := do
  s.validate.mapError .invalidState
  .ok s

/-- `AppState::try_from`. -/
def ofStored (stored : AppState) : Except StateStoreError AppState := do
  reject (stored.schemaVersion != currentSchemaVersion) .unsupportedSchemaVersion
  .ok stored

/-- The half of `decode` after the text layer. -/
def decodeDocument (document : Json) : Except StateStoreError (AppState × Bool) := do
  let (migrated, wasMigrated) ← migrateToCurrent document
  let stored ← okOr (Schema.storedStateV6.codec.decode migrated) .invalidStoredState
  let state ← validateState (← ofStored stored)
  .ok (state, wasMigrated)

def decode (text : SnapshotText) (contents : List UInt8) :
    Except StateStoreError (AppState × Bool) := do
  decodeDocument (← okOr (text.parse contents) .invalidJson)

/-- `is_recoverable`. -/
def StateStoreError.isRecoverable : StateStoreError → Bool
  | .invalidState _ | .invalidJson | .missingSchemaVersion | .invalidStoredState => true
  | _ => false

/-! ## Operations -/

/-- Programs of the store. -/
abbrev StoreM := Fs String StateStoreError

/-- `atomic_replace`. -/
def atomicReplace (destination : String) (contents : List UInt8) : StoreM Unit := do
  perform .createDir
  perform (.create (temporaryPath destination))
  perform (.write (temporaryPath destination) contents)
  perform (.sync (temporaryPath destination))
  if ← rename (temporaryPath destination) destination then pure ()
  else
    perform (.remove (temporaryPath destination))
    fail .replaceFailed

/-- `copy_for_backup`. -/
def copyForBackup (source destination : String) : StoreM Unit := do
  atomicReplace destination (← read source .readFailed)

/-- `preserve_corrupt_copy`. -/
def preserveCorruptCopy : StoreM Unit := copyForBackup stateFile corruptCopyPath

def loadBackup (text : SnapshotText) : StoreM AppState := do
  let contents ← read backupPath .readFailed
  lift ((decode text contents).map Prod.fst)

def writeCurrentWithoutBackup (text : SnapshotText) (s : AppState) : StoreM Unit := do
  let _ ← lift (validateState s)
  atomicReplace stateFile (text.snapshot s)

/-- The recovery that both branches of `load` end in. -/
def recoverBackup (text : SnapshotText) : StoreM AppState := do
  let recovered ← (loadBackup text).mapError fun _ => .noValidBackup
  writeCurrentWithoutBackup text recovered
  pure recovered

def save (text : SnapshotText) (s : AppState) : StoreM Unit := do
  let _ ← lift (validateState s)
  if ← exists? stateFile then copyForBackup stateFile backupPath
  atomicReplace stateFile (text.snapshot s)

/-- What `load` does with the decoded state file. -/
def settle (text : SnapshotText) : Except StateStoreError (AppState × Bool) → StoreM AppState
  | .ok (state, false) => pure state
  | .ok (state, true) => do
    copyForBackup stateFile preMigrationBackupPath
    save text state
    pure state
  | .error error =>
    if error.isRecoverable then do
      preserveCorruptCopy
      recoverBackup text
    else fail error

def load (text : SnapshotText) : StoreM AppState := do
  if ← exists? stateFile then
    let contents ← read stateFile .readFailed
    settle text (decode text contents)
  else if ← exists? backupPath then recoverBackup text
  else fail .readFailed

/-! ## Results and steps -/

/-- The steps of a replacement. -/
def stepsOf (destination : String) (contents : List UInt8) : List (Step String) :=
  replaceSteps (temporaryPath destination) destination contents

/-- A replacement succeeds: its temporary file is there when it is renamed. -/
theorem atomicReplace_eq (destination : String) (contents : List UInt8) (d : Disk String) :
    atomicReplace destination contents d = (.ok (), stepsOf destination contents) := by
  simp only [atomicReplace, perform_bind, stepsOf, replaceSteps]
  rw [rename_bind (by simp [Step.apply])]
  rfl

/-- A copy takes the contents of an existing file. -/
theorem copyForBackup_eq {source destination : String} {d : Disk String} {bs : List UInt8}
    (h : d source = some bs) :
    copyForBackup source destination d = (.ok (), stepsOf destination bs) := by
  rw [copyForBackup, read_bind h, atomicReplace_eq]

theorem validateState_eq_ok {s t : AppState} :
    validateState s = .ok t ↔ s.validate = .ok () ∧ s = t := by
  rw [validateState, ok_seq, mapError_eq_ok, Except.ok.injEq]

/-- An invalid state is refused before any step. -/
theorem save_error {text : SnapshotText} {s : AppState} {e : StateValidationError}
    (h : s.validate = .error e) (d : Disk String) :
    save text s d = (.error (.invalidState e), []) := by
  have hv : validateState s = .error (.invalidState e) := by rw [validateState, h]; rfl
  rw [save, hv, lift_error_bind]

/-- The steps of a save: a backup of the file that is there, then the replacement. -/
def saveSteps (text : SnapshotText) (s : AppState) (d : Disk String) : List (Step String) :=
  (match d stateFile with
    | some bs => stepsOf backupPath bs
    | none => []) ++ stepsOf stateFile (text.snapshot s)

theorem save_eq {text : SnapshotText} {s : AppState} (h : s.validate = .ok ()) (d : Disk String) :
    save text s d = (.ok (), saveSteps text s d) := by
  have hv : validateState s = .ok s := validateState_eq_ok.mpr ⟨h, rfl⟩
  rw [save, hv, lift_ok_bind, exists_bind, saveSteps]
  cases hd : d stateFile with
  | none => exact atomicReplace_eq _ _ d
  | some bs =>
    simp only [Option.isSome_some, if_true]
    rw [bind_of_ok (copyForBackup_eq hd), atomicReplace_eq]

/-! ## What a replacement leaves -/

/-- The copies that are taken of the state file before it is replaced. -/
def sideFiles : List String := [backupPath, preMigrationBackupPath, corruptCopyPath]

/-- Replacing a side file does not touch the state file. -/
theorem stateFile_not_touched {file : String} (hf : file ∈ sideFiles) (bs : List UInt8) :
    ∀ s ∈ stepsOf file bs, stateFile ∉ s.touches := by
  have hne : ∀ f ∈ sideFiles, stateFile ≠ temporaryPath f ∧ stateFile ≠ f := by decide
  intro s hs hmem
  rcases touches_replaceSteps hs hmem with h | h
  · exact (hne file hf).1 h
  · exact (hne file hf).2 h

/-- After a replacement the state file holds the contents. -/
theorem stateFile_replaced (contents : List UInt8) (d : Disk String) :
    applyAll d (stepsOf stateFile contents) stateFile = some contents :=
  applyAll_replaceSteps (by decide) contents d

/-- After a save the state file holds the snapshot. -/
theorem stateFile_saveSteps (text : SnapshotText) (s : AppState) (d : Disk String) :
    applyAll d (saveSteps text s d) stateFile = some (text.snapshot s) := by
  rw [saveSteps, applyAll_append, stateFile_replaced]

/-! ## Loading -/

/-- The stored form names the current version. -/
theorem schemaVersion_encodeState (s : AppState) :
    schemaVersion? (encodeState s) = some currentSchemaVersion.toUInt64 := by
  have h : (encodeState s).get? "schema_version" =
      some (.num (.posInt currentSchemaVersion.toUInt64)) := by
    unfold encodeState
    rw [show Schema.storedStateV6.codec.encode { s with schemaVersion := currentSchemaVersion } =
      .object (Schema.storedStateV6.write { s with schemaVersion := currentSchemaVersion }) from rfl,
      Json.get?_object]
    rfl
  rw [schemaVersion?, h]
  rfl

/-- A document of the current version is not migrated. -/
theorem migrateToCurrent_of_current {document : Json}
    (h : schemaVersion? document = some currentSchemaVersion.toUInt64) :
    migrateToCurrent document = .ok (document, false) := by
  rw [migrateToCurrent, h]
  rfl

/-- What a decoded document went through. -/
theorem decodeDocument_eq_ok {document : Json} {s : AppState} {b : Bool} :
    decodeDocument document = .ok (s, b) ↔ ∃ migrated,
      migrateToCurrent document = .ok (migrated, b) ∧
      Schema.storedStateV6.codec.decode migrated = some s ∧ s.validate = .ok () := by
  rw [decodeDocument]
  constructor
  · intro h
    obtain ⟨⟨migrated, wasMigrated⟩, hm, h⟩ := ok_bind.mp h
    obtain ⟨stored, hstored, h⟩ := ok_bind.mp h
    obtain ⟨converted, hconverted, h⟩ := ok_bind.mp h
    obtain ⟨state, hstate, h⟩ := ok_bind.mp h
    obtain ⟨rfl, rfl⟩ := Prod.mk.inj (Except.ok.inj h)
    obtain ⟨hvalid, rfl⟩ := validateState_eq_ok.mp hstate
    obtain ⟨-, h⟩ := ok_seq.mp hconverted
    obtain rfl := Except.ok.inj h
    exact ⟨migrated, hm, okOr_eq_ok.mp hstored, hvalid⟩
  · rintro ⟨migrated, hm, hstored, hvalid⟩
    have hversion : s.schemaVersion = currentSchemaVersion :=
      (AppState.validate_eq_ok.mp hvalid).schemaVersion
    have hconverted : ofStored s = .ok s := by rw [ofStored, hversion]; rfl
    refine ok_bind.mpr ⟨(migrated, b), hm, ?_⟩
    refine ok_bind.mpr ⟨s, okOr_eq_ok.mpr hstored, ?_⟩
    refine ok_bind.mpr ⟨s, hconverted, ?_⟩
    exact ok_bind.mpr ⟨s, validateState_eq_ok.mpr ⟨hvalid, rfl⟩, rfl⟩

/-- Decoding undoes encoding. -/
theorem decodeDocument_encodeState {s : AppState} (h : s.validate = .ok ()) :
    decodeDocument (encodeState s) = .ok (s, false) := by
  have hversion : s.schemaVersion = currentSchemaVersion :=
    (AppState.validate_eq_ok.mp h).schemaVersion
  have hs : { s with schemaVersion := currentSchemaVersion } = s := by rw [← hversion]
  have hdecode : Schema.storedStateV6.codec.decode (encodeState s) = some s := by
    rw [encodeState, hs, Codec.decode_encode]
  exact decodeDocument_eq_ok.mpr
    ⟨_, migrateToCurrent_of_current (schemaVersion_encodeState s), hdecode, h⟩

theorem decode_snapshot {text : SnapshotText} {s : AppState} (h : s.validate = .ok ())
    (ht : text.RoundTrips s) : decode text (text.snapshot s) = .ok (s, false) :=
  ok_bind.mpr ⟨encodeState s, okOr_eq_ok.mpr ht, decodeDocument_encodeState h⟩

/-- What decodes is valid. -/
theorem validate_of_decode {text : SnapshotText} {bs : List UInt8} {s : AppState} {b : Bool}
    (h : decode text bs = .ok (s, b)) : s.validate = .ok () := by
  obtain ⟨document, -, h⟩ := ok_bind.mp h
  obtain ⟨_, -, -, hvalid⟩ := decodeDocument_eq_ok.mp h
  exact hvalid

variable {text : SnapshotText} {d : Disk String}

/-- A state file in the current version is read and nothing is written. -/
theorem load_current {bs : List UInt8} {s : AppState} (hd : d stateFile = some bs)
    (h : decode text bs = .ok (s, false)) : load text d = (.ok s, []) := by
  rw [load, exists_bind, hd]
  simp only [Option.isSome_some, if_true]
  rw [read_bind hd, h]
  rfl

/-- A migrated state file is copied aside and saved in the current version. -/
theorem load_migrated {bs : List UInt8} {s : AppState} (hd : d stateFile = some bs)
    (h : decode text bs = .ok (s, true)) :
    load text d = (.ok s, stepsOf preMigrationBackupPath bs ++
      saveSteps text s (applyAll d (stepsOf preMigrationBackupPath bs))) := by
  have hvalid := validate_of_decode h
  rw [load, exists_bind, hd]
  simp only [Option.isSome_some, if_true]
  rw [read_bind hd, h, settle, bind_of_ok (copyForBackup_eq hd), bind_of_ok (save_eq hvalid _)]
  simp

/-- A broken state file that cannot be recovered is an error. -/
theorem load_unrecoverable {bs : List UInt8} {e : StateStoreError} (hd : d stateFile = some bs)
    (h : decode text bs = .error e) (he : e.isRecoverable = false) :
    load text d = (.error e, []) := by
  rw [load, exists_bind, hd]
  simp only [Option.isSome_some, if_true]
  rw [read_bind hd, h, settle, he]
  rfl

/-- Recovery from a backup that decodes. -/
theorem recoverBackup_ok {bs : List UInt8} {s : AppState} {b : Bool}
    (hd : d backupPath = some bs) (h : decode text bs = .ok (s, b)) :
    recoverBackup text d = (.ok s, stepsOf stateFile (text.snapshot s)) := by
  have hbackup : (loadBackup text).mapError (fun _ => StateStoreError.noValidBackup) d =
      (.ok s, []) := by
    simp only [Fs.mapError, loadBackup]
    rw [read_bind hd, h]
    rfl
  have hv : validateState s = .ok s := validateState_eq_ok.mpr ⟨validate_of_decode h, rfl⟩
  rw [recoverBackup, bind_of_ok hbackup]
  simp only [applyAll_nil, List.nil_append]
  have hwrite : writeCurrentWithoutBackup text s d =
      (.ok (), stepsOf stateFile (text.snapshot s)) := by
    rw [writeCurrentWithoutBackup, hv, lift_ok_bind, atomicReplace_eq]
  rw [bind_of_ok hwrite]
  simp

/-- The backup decodes to a state. -/
def Recoverable (text : SnapshotText) (d : Disk String) : Prop :=
  ∃ bs s b, d backupPath = some bs ∧ decode text bs = .ok (s, b)

/-- Without one, recovery fails and writes nothing. -/
theorem recoverBackup_error (h : ¬ Recoverable text d) :
    recoverBackup text d = (.error .noValidBackup, []) := by
  have hbackup : (loadBackup text).mapError (fun _ => StateStoreError.noValidBackup) d =
      (.error .noValidBackup, []) := by
    simp only [Fs.mapError, loadBackup]
    cases hd : d backupPath with
    | none =>
      rw [read_missing hd]
      rfl
    | some bs =>
      rw [read_bind hd]
      cases hdec : decode text bs with
      | error e => rfl
      | ok r => exact absurd ⟨bs, r.1, r.2, hd, hdec⟩ h
  rw [recoverBackup, bind_of_error hbackup]

/-- A recoverable error: the broken file is kept aside, then the backup decides. -/
theorem load_recover {bs : List UInt8} {e : StateStoreError} (hd : d stateFile = some bs)
    (h : decode text bs = .error e) (he : e.isRecoverable = true) :
    load text d =
      ((recoverBackup text (applyAll d (stepsOf corruptCopyPath bs))).1,
        stepsOf corruptCopyPath bs ++
          (recoverBackup text (applyAll d (stepsOf corruptCopyPath bs))).2) := by
  rw [load, exists_bind, hd]
  simp only [Option.isSome_some, if_true]
  rw [read_bind hd, h, settle, if_pos he, preserveCorruptCopy, bind_of_ok (copyForBackup_eq hd)]

/-- Without a state file the backup decides. -/
theorem load_missing (hd : d stateFile = none) :
    load text d =
      if (d backupPath).isSome then recoverBackup text d else (.error .readFailed, []) := by
  rw [load, exists_bind, hd]
  simp only [Option.isSome_none, Bool.false_eq_true, if_false]
  rw [exists_bind]
  split <;> rfl

end Veyra
