import Veyra.Lib.Effect
import Veyra.Lib.Text

/-!
# Veyra.Platform.PrivateRuntime

The private directory of a core: below the runtime root every instance has a
directory of its own with one file in it, `config.json`, and each of the three
is restricted to the current user before a secret is written.

The functions are programs over the primitive steps of the file system.  An
entry is created and restricted in two separate steps, and
`cleanup_orphaned_instances` only removes what it can prove to be such an
instance.
-/

namespace Veyra

open Effect

/-! ## Names -/

/-- `CONFIG_FILE`. -/
def configFile : String := "config.json"

def isLowerHexDigit (c : Char) : Bool := ('0' ≤ c && c ≤ '9') || ('a' ≤ c && c ≤ 'f')

/-- `is_managed_instance_name`.  A byte that passes is a character of its own, so lengths are in
characters. -/
def isManagedInstanceName (name : String) : Bool :=
  match Text.stripPrefix "sidecar-" name with
  | none => false
  | some suffix =>
    match Text.splitOnce "-" suffix with
    | none => false
    | some (timestamp, sequence) =>
      timestamp.toList.length = 32 && sequence.toList.length = 16 &&
        (timestamp.toList ++ sequence.toList).all isLowerHexDigit

/-- A name that `is_managed_instance_name` accepts. -/
abbrev InstanceName := { name : String // isManagedInstanceName name = true }

/-- The lowest digits of a number in base 16, as by `{:0width$x}`. -/
def lowerHex : ℕ → ℕ → List Char
  | 0, _ => []
  | width + 1, n => lowerHex width (n / 16) ++ [Nat.digitChar (n % 16)]

@[simp] theorem lowerHex_length (width n : ℕ) : (lowerHex width n).length = width := by
  induction width generalizing n with
  | zero => rfl
  | succ width ih => simp [lowerHex, ih]

theorem isLowerHexDigit_digitChar : ∀ d < 16, isLowerHexDigit (Nat.digitChar d) = true := by
  decide

theorem isLowerHexDigit_of_mem {width n : ℕ} {c : Char} (h : c ∈ lowerHex width n) :
    isLowerHexDigit c = true := by
  induction width generalizing n with
  | zero => simp [lowerHex] at h
  | succ width ih =>
    rw [lowerHex, List.mem_append, List.mem_singleton] at h
    rcases h with h | rfl
    · exact ih h
    · exact isLowerHexDigit_digitChar _ (Nat.mod_lt n (by omega))

/-- `format!("sidecar-{timestamp:032x}-{sequence:016x}")`. -/
def instanceId (timestamp : BitVec 128) (sequence : UInt64) : String :=
  "sidecar-" ++ String.ofList (lowerHex 32 timestamp.toNat ++ '-' :: lowerHex 16 sequence.toNat)

/-- **Every generated name is one that is recognised.** -/
theorem isManagedInstanceName_instanceId (timestamp : BitVec 128) (sequence : UInt64) :
    isManagedInstanceName (instanceId timestamp sequence) = true := by
  have hhex : ∀ c ∈ lowerHex 32 timestamp.toNat, isLowerHexDigit c = true :=
    fun c hc => isLowerHexDigit_of_mem hc
  have hdash : '-' ∉ lowerHex 32 timestamp.toNat := fun h => absurd (hhex _ h) (by decide)
  have hsplit := Text.splitOnceChars_eq_some.mpr
    ⟨@rfl _ (lowerHex 32 timestamp.toNat ++ '-' :: lowerHex 16 sequence.toNat), hdash⟩
  rw [isManagedInstanceName, instanceId, Text.stripPrefix_append]
  simp [Text.splitOnce, hsplit]
  exact ⟨hhex, fun c hc => isLowerHexDigit_of_mem hc⟩

/-! ## The primitive steps -/

/-- The steps of the file system, at a path below the runtime root.  `isDirectory` and `isFile` are
the two checks against reparse points; `setPrivate` and `verifyPrivate` set and read back the
access list for the current user. -/
inductive FileCall
  | pathExists (path : List String)
  | isDirectory (path : List String)
  | isFile (path : List String)
  | queryUser
  | setPrivate (path : List String)
  | verifyPrivate (path : List String)
  | createRoot
  | now
  | nextSequence
  | createDirectory (path : List String)
  | createNew (path : List String)
  | truncate (path : List String)
  | writeAll (path : List String) (bytes : List UInt8)
  | syncAll (path : List String)
  | removeFile (path : List String)
  | removeDirectory (path : List String)
  | readDirectory (path : List String)

/-- The outcomes of `create_dir` that are told apart. -/
inductive CreateDirectory
  | created
  | alreadyExists
  | failed
deriving DecidableEq, Repr

/-- What a step answers; a Boolean is `is_ok`.  An entry of a directory that cannot be read, or
whose name is no text, has no name. -/
def FileCall.Answer : FileCall → Type
  | .now => BitVec 128
  | .nextSequence => UInt64
  | .createDirectory _ => CreateDirectory
  | .readDirectory _ => Option (List (Option String))
  | _ => Bool

abbrev fileCalls : Signature := ⟨FileCall, FileCall.Answer⟩

abbrev FileProgram (α : Type) := Program fileCalls α

namespace FilePort

def pathExists (path : List String) : FileProgram Bool :=
  .perform (S := fileCalls) (.pathExists path)
def isDirectory (path : List String) : FileProgram Bool :=
  .perform (S := fileCalls) (.isDirectory path)
def isFile (path : List String) : FileProgram Bool := .perform (S := fileCalls) (.isFile path)
def queryUser : FileProgram Bool := .perform (S := fileCalls) .queryUser
def setPrivate (path : List String) : FileProgram Bool :=
  .perform (S := fileCalls) (.setPrivate path)
def verifyPrivate (path : List String) : FileProgram Bool :=
  .perform (S := fileCalls) (.verifyPrivate path)
def createRoot : FileProgram Bool := .perform (S := fileCalls) .createRoot
def now : FileProgram (BitVec 128) := .perform (S := fileCalls) .now
def nextSequence : FileProgram UInt64 := .perform (S := fileCalls) .nextSequence
def createDirectory (path : List String) : FileProgram CreateDirectory :=
  .perform (S := fileCalls) (.createDirectory path)
def createNew (path : List String) : FileProgram Bool := .perform (S := fileCalls) (.createNew path)
def truncate (path : List String) : FileProgram Bool := .perform (S := fileCalls) (.truncate path)
def writeAll (path : List String) (bytes : List UInt8) : FileProgram Bool :=
  .perform (S := fileCalls) (.writeAll path bytes)
def syncAll (path : List String) : FileProgram Bool := .perform (S := fileCalls) (.syncAll path)
def removeFile (path : List String) : FileProgram Bool :=
  .perform (S := fileCalls) (.removeFile path)
def removeDirectory (path : List String) : FileProgram Bool :=
  .perform (S := fileCalls) (.removeDirectory path)
def readDirectory (path : List String) : FileProgram (Option (List (Option String))) :=
  .perform (S := fileCalls) (.readDirectory path)

/-- `secure_and_verify`. -/
def secureAndVerify (path : List String) : FileProgram Bool := do
  let .true ← setPrivate path | return false
  verifyPrivate path

end FilePort

/-! ## The private runtime -/

inductive PrivateRuntimeError
  | preparation
  | configurationWrite
  | cleanup
deriving DecidableEq, Repr

/-- One instance, known by the name of its directory. -/
structure PrivateRuntime where
  name : InstanceName
deriving DecidableEq

/-- `PrivateRuntimeCreateError`: what could not be cleaned up is handed to the caller. -/
inductive PrivateRuntimeCreateError
  | preparation
  | cleanupPending (runtime : PrivateRuntime)

namespace PrivateRuntime

open FilePort

/-- `instance_dir`. -/
def instanceDir (r : PrivateRuntime) : List String := [r.name.val]

/-- `config_path`. -/
def configPath (r : PrivateRuntime) : List String := [r.name.val, configFile]

/-- The first half of `remove_config_and_directory`. -/
def removeConfig (r : PrivateRuntime) : FileProgram Bool := do
  let .true ← pathExists r.configPath | return true
  let .true ← isFile r.configPath | return false
  removeFile r.configPath

/-- `remove_config_and_directory`, and so `cleanup`. -/
def removeConfigAndDirectory (r : PrivateRuntime) :
    FileProgram (Except PrivateRuntimeError Unit) := do
  let .true ← r.removeConfig | return .error .cleanup
  let .true ← isDirectory r.instanceDir | return .error .cleanup
  let .true ← removeDirectory r.instanceDir | return .error .cleanup
  return .ok ()

/-- `cleanup_after_prepare_failure`. -/
def cleanupAfterPrepareFailure (r : PrivateRuntime) :
    FileProgram (Except PrivateRuntimeCreateError PrivateRuntime) := do
  match ← r.removeConfigAndDirectory with
  | .ok () => return .error .preparation
  | .error _ => return .error (.cleanupPending r)

/-- `next_instance_id`. -/
def nextInstanceId : FileProgram InstanceName := do
  let timestamp ← now
  let sequence ← nextSequence
  return ⟨instanceId timestamp sequence, isManagedInstanceName_instanceId timestamp sequence⟩

/-- `create_instance_directory`: so many names are tried. -/
def createInstanceDirectory : ℕ → FileProgram (Option PrivateRuntime)
  | 0 => return none
  | attempts + 1 => do
    let r : PrivateRuntime := ⟨← nextInstanceId⟩
    match ← createDirectory r.instanceDir with
    | .created => return some r
    | .alreadyExists => createInstanceDirectory attempts
    | .failed => return none

/-- The runtime root is created if it is not there. -/
def ensureRoot : FileProgram Bool := do
  match ← pathExists [] with
  | true => return true
  | false => createRoot

/-- What `create` does with the runtime root. -/
def prepareRoot : FileProgram Bool := do
  let .true ← ensureRoot | return false
  let .true ← isDirectory [] | return false
  let .true ← queryUser | return false
  secureAndVerify []

/-- `PrivateRuntime::create`. -/
def create : FileProgram (Except PrivateRuntimeCreateError PrivateRuntime) := do
  let .true ← prepareRoot | return .error .preparation
  let some r ← createInstanceDirectory 32 | return .error .preparation
  let .true ← isDirectory r.instanceDir | r.cleanupAfterPrepareFailure
  let .true ← secureAndVerify r.instanceDir | r.cleanupAfterPrepareFailure
  let .true ← createNew r.configPath | r.cleanupAfterPrepareFailure
  let .true ← isFile r.configPath | r.cleanupAfterPrepareFailure
  let .true ← secureAndVerify r.configPath | r.cleanupAfterPrepareFailure
  return .ok r

/-- `remove_config_after_failed_write`. -/
def removeConfigAfterFailedWrite (r : PrivateRuntime) :
    FileProgram (Except PrivateRuntimeError Unit) := do
  match ← r.removeConfigAndDirectory with
  | .ok () => return .error .configurationWrite
  | .error _ => return .error .cleanup

/-- `write_checked_config`. -/
def writeCheckedConfig (r : PrivateRuntime) (config : List UInt8) :
    FileProgram (Except PrivateRuntimeError Unit) := do
  let .true ← queryUser | return .error .configurationWrite
  let .true ← isDirectory r.instanceDir | return .error .configurationWrite
  let .true ← isFile r.configPath | return .error .configurationWrite
  let .true ← verifyPrivate r.instanceDir | return .error .configurationWrite
  let .true ← verifyPrivate r.configPath | return .error .configurationWrite
  let .true ← truncate r.configPath | r.removeConfigAfterFailedWrite
  let .true ← writeAll r.configPath config | r.removeConfigAfterFailedWrite
  let .true ← syncAll r.configPath | r.removeConfigAfterFailedWrite
  return .ok ()

/-- The entries of an instance directory, after so many others: only the configuration file may be
there. -/
def checkEntries (r : PrivateRuntime) : ℕ → List (Option String) → FileProgram Bool
  | _, [] => return true
  | count, entry :: rest => do
    if count ≠ 0 ∨ entry ≠ some configFile then return false
    else
      let .true ← isFile r.configPath | return false
      let .true ← verifyPrivate r.configPath | return false
      r.checkEntries (count + 1) rest

/-- One instance directory of `cleanup_orphaned_instances`. -/
def cleanupInstance (r : PrivateRuntime) : FileProgram (Except PrivateRuntimeError Unit) := do
  let .true ← isDirectory r.instanceDir | return .error .cleanup
  let .true ← verifyPrivate r.instanceDir | return .error .cleanup
  let some entries ← readDirectory r.instanceDir | return .error .cleanup
  let .true ← r.checkEntries 0 entries | return .error .cleanup
  r.removeConfigAndDirectory

/-- The entries of the runtime root. -/
def cleanupEntries : List (Option String) → FileProgram (Except PrivateRuntimeError Unit)
  | [] => return .ok ()
  | none :: _ => return .error .cleanup
  | some name :: rest =>
    if h : isManagedInstanceName name = true then do
      match ← cleanupInstance ⟨⟨name, h⟩⟩ with
      | .error e => return .error e
      | .ok () => cleanupEntries rest
    else return .error .cleanup

/-- `cleanup_orphaned_instances`. -/
def cleanupOrphanedInstances : FileProgram (Except PrivateRuntimeError Unit) := do
  let .true ← pathExists [] | return .ok ()
  let .true ← isDirectory [] | return .error .cleanup
  let .true ← queryUser | return .error .cleanup
  let .true ← verifyPrivate [] | return .error .cleanup
  let some entries ← readDirectory [] | return .error .cleanup
  cleanupEntries entries

end PrivateRuntime

end Veyra
