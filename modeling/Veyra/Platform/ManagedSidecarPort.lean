import Veyra.Platform.PrivateRuntime

/-!
# Veyra.Platform.ManagedSidecarPort

`WindowsManagedSidecarPort`: the adapter that owns the private directories, the
check process and the running child of a core.

A candidate is written to a private directory, checked by the core itself and
kept in the pending slot; `run` moves it to the one entry of `running` that
`stop` ends.  Each operation is a program over the file and process calls, and
returns the port it leaves.
-/

namespace Veyra

open Effect

/-! ## The calls -/

/-- An own child process, by its handle. -/
abbrev ChildHandle := ℕ

/-- `Child::try_wait`. -/
inductive TryWait
  | running
  | exited
  | failed
deriving DecidableEq, Repr

/-- The calls besides those of the private runtime.  `waitForExit` polls until its deadline. -/
inductive ProcessCall
  | verifyResources
  | tryExists (path : List String)
  | readFile (path : List String)
  | spawnCheck (config : List String)
  | spawnRun (config : List String)
  | tryWait (child : ChildHandle)
  | waitForExit (child : ChildHandle)
  | kill (child : ChildHandle)
  | createClient
  | readReady

/-- What a call answers; a Boolean is `is_ok`, and the status of an exit is whether it is a
success. -/
def ProcessCall.Answer : ProcessCall → Type
  | .tryExists _ => Option Bool
  | .readFile _ => Option (List UInt8)
  | .spawnCheck _ => Option ChildHandle
  | .spawnRun _ => Option ChildHandle
  | .tryWait _ => TryWait
  | .waitForExit _ => Option Bool
  | _ => Bool

abbrev processCalls : Signature := ⟨ProcessCall, ProcessCall.Answer⟩

abbrev portCalls : Signature := fileCalls.sum processCalls

abbrev PortProgram (α : Type) := Program portCalls α

namespace ProcessPort

def verifyResources : PortProgram Bool := .perform (S := portCalls) (.inr .verifyResources)
def tryExists (path : List String) : PortProgram (Option Bool) :=
  .perform (S := portCalls) (.inr (.tryExists path))
def readFile (path : List String) : PortProgram (Option (List UInt8)) :=
  .perform (S := portCalls) (.inr (.readFile path))
def spawnCheck (config : List String) : PortProgram (Option ChildHandle) :=
  .perform (S := portCalls) (.inr (.spawnCheck config))
def spawnRun (config : List String) : PortProgram (Option ChildHandle) :=
  .perform (S := portCalls) (.inr (.spawnRun config))
def tryWait (child : ChildHandle) : PortProgram TryWait :=
  .perform (S := portCalls) (.inr (.tryWait child))
def waitForExit (child : ChildHandle) : PortProgram (Option Bool) :=
  .perform (S := portCalls) (.inr (.waitForExit child))
def kill (child : ChildHandle) : PortProgram Bool := .perform (S := portCalls) (.inr (.kill child))
def createClient : PortProgram Bool := .perform (S := portCalls) (.inr .createClient)
def readReady : PortProgram Bool := .perform (S := portCalls) (.inr .readReady)
def isDirectory (path : List String) : PortProgram Bool := (FilePort.isDirectory path).left
def isFile (path : List String) : PortProgram Bool := (FilePort.isFile path).left

end ProcessPort

/-! ## Child processes -/

namespace ChildProcess

open ProcessPort

/-- `is_running`. -/
def isRunning (child : ChildHandle) : PortProgram (Option Bool) := do
  match ← tryWait child with
  | .running => return some true
  | .exited => return some false
  | .failed => return none

/-- `stop`. -/
def stop (child : ChildHandle) : PortProgram Bool := do
  match ← tryWait child with
  | .failed => return false
  | .exited => return true
  | .running =>
    let .true ← kill child | return false
    match ← waitForExit child with
    | some _ => return true
    | none => return false

/-- `wait_check`. -/
def waitCheck (child : ChildHandle) : PortProgram Bool := do
  match ← waitForExit child with
  | some success => return success
  | none =>
    let _ ← stop child
    return false

end ChildProcess

/-! ## The port -/

/-- What the port computes with: SHA-256, and `api_secret_from_config`. -/
structure PortFunctions where
  Digest : Type
  decideDigest : DecidableEq Digest
  digest : List UInt8 → Digest
  apiSecretFromConfig : List UInt8 → Option String

instance (F : PortFunctions) : DecidableEq F.Digest := F.decideDigest

structure RunningChild where
  child : ChildHandle
  runtime : PrivateRuntime
  secret : String
  ready : Bool

structure PendingRuntime (F : PortFunctions) where
  runtime : PrivateRuntime
  secret : String
  digest : F.Digest
  checkChild : Option ChildHandle
  checked : Bool

/-- The fields that change; `running` is a map from identities. -/
structure WindowsManagedSidecarPort (F : PortFunctions) where
  pending : Option (PendingRuntime F)
  running : List (UInt64 × RunningChild)
  nextIdentity : UInt64

namespace WindowsManagedSidecarPort

open ProcessPort

variable {F : PortFunctions}

/-- What `new` returns once the clean-up and the resources are in order. -/
def new : WindowsManagedSidecarPort F := ⟨none, [], 0⟩

/-- `running.get`. -/
def get (p : WindowsManagedSidecarPort F) (identity : UInt64) : Option RunningChild :=
  p.running.lookup identity

/-- Set the `ready` flag of an entry. -/
def setReady (p : WindowsManagedSidecarPort F) (identity : UInt64) (ready : Bool) :
    WindowsManagedSidecarPort F :=
  { p with running := p.running.map fun entry =>
      if entry.1 = identity then (entry.1, { entry.2 with ready }) else entry }

/-- `running.remove`. -/
def removeRunning (p : WindowsManagedSidecarPort F) (identity : UInt64) : WindowsManagedSidecarPort F :=
  { p with running := p.running.filter fun entry => entry.1 ≠ identity }

/-- `running.insert`. -/
def insertRunning (p : WindowsManagedSidecarPort F) (identity : UInt64) (entry : RunningChild) :
    WindowsManagedSidecarPort F :=
  { p with running := (p.running.filter fun entry => entry.1 ≠ identity) ++ [(identity, entry)] }

/-- `has_pending_cleanup`. -/
def hasPendingCleanup (p : WindowsManagedSidecarPort F) : Bool :=
  p.pending.any fun pending => !pending.checked

/-- The two checks against reparse points and the read that the digest checks begin with. -/
def readBack (r : PrivateRuntime) : PortProgram (Option (List UInt8)) := do
  let .true ← isFile r.configPath | return none
  let .true ← isDirectory r.instanceDir | return none
  readFile r.configPath

/-- `matches_final_bytes`. -/
def matchesFinalBytes (r : PrivateRuntime) (candidate : List UInt8) : PortProgram Bool := do
  match ← readBack r with
  | some bytes => return decide (bytes = candidate)
  | none => return false

/-- `matches_final_digest`. -/
def matchesFinalDigest (r : PrivateRuntime) (digest : F.Digest) : PortProgram Bool := do
  match ← readBack r with
  | some bytes => return decide (F.digest bytes = digest)
  | none => return false

/-- `discard_pending`, once the check process is out of the way. -/
def discardRuntime (p : WindowsManagedSidecarPort F) (pending : PendingRuntime F) :
    PortProgram (Bool × WindowsManagedSidecarPort F) := do
  match ← tryExists pending.runtime.instanceDir with
  | none => return (false, { p with pending := some pending })
  | some false => return (true, { p with pending := none })
  | some true =>
    match ← pending.runtime.removeConfigAndDirectory.left with
    | .error _ => return (false, { p with pending := some pending })
    | .ok () => return (true, { p with pending := none })

/-- `discard_pending`. -/
def discardPending (p : WindowsManagedSidecarPort F) :
    PortProgram (Bool × WindowsManagedSidecarPort F) := do
  match p.pending with
  | none => return (true, p)
  | some pending =>
    match pending.checkChild with
    | none => p.discardRuntime { pending with checked := false }
    | some child =>
      match ← ChildProcess.stop child with
      | false => return (false, { p with pending := some { pending with checked := false } })
      | true => p.discardRuntime { pending with checked := false, checkChild := none }

/-- `check_pending`, once the check process has been started. -/
def awaitCheck (pending : PendingRuntime F) (child : ChildHandle) (candidate : List UInt8) :
    PortProgram (Bool × PendingRuntime F) := do
  let result ← ChildProcess.waitCheck child
  match ← ChildProcess.isRunning child with
  | some false =>
    match result with
    | false => return (false, { pending with checkChild := none })
    | true =>
      match ← matchesFinalBytes pending.runtime candidate with
      | false => return (false, { pending with checkChild := none })
      | true => return (true, { pending with checkChild := none, checked := true })
  | _ => return (false, { pending with checkChild := some child })

/-- `check_pending`. -/
def checkPending (pending : PendingRuntime F) (candidate : List UInt8) :
    PortProgram (Bool × PendingRuntime F) := do
  match ← (pending.runtime.writeCheckedConfig candidate).left with
  | .error _ => return (false, pending)
  | .ok () =>
    let .true ← matchesFinalBytes pending.runtime candidate | return (false, pending)
    match ← spawnCheck pending.runtime.configPath with
    | none => return (false, pending)
    | some child => awaitCheck pending child candidate

/-- `prepare_checked_config`, once there is a private runtime. -/
def checkCandidate (p : WindowsManagedSidecarPort F) (pending : PendingRuntime F)
    (candidate : List UInt8) : PortProgram (Bool × WindowsManagedSidecarPort F) := do
  let (checked, pending) ← checkPending pending candidate
  if checked then return (true, { p with pending := some pending })
  else if pending.checkChild.isSome then return (false, { p with pending := some pending })
  else
    let (_, p) ← discardPending { p with pending := some pending }
    return (false, p)

/-- `check`, which is `prepare_checked_config`. -/
def check (p : WindowsManagedSidecarPort F) (candidate : List UInt8) :
    PortProgram (Bool × WindowsManagedSidecarPort F) := do
  if p.pending.isSome then return (false, p)
  else
    let .true ← verifyResources | return (false, p)
    match F.apiSecretFromConfig candidate with
    | none => return (false, p)
    | some secret =>
      match ← PrivateRuntime.create.left with
      | .error .preparation => return (false, p)
      | .error (.cleanupPending runtime) =>
        return (false, { p with pending := some ⟨runtime, secret, F.digest candidate, none, false⟩ })
      | .ok runtime =>
        p.checkCandidate ⟨runtime, secret, F.digest candidate, none, false⟩ candidate

/-- `prepare`. -/
def prepare (p : WindowsManagedSidecarPort F) (candidate : List UInt8) :
    PortProgram (Bool × WindowsManagedSidecarPort F) := do
  match p.pending with
  | none => return (false, p)
  | some pending =>
    if pending.checked && decide (pending.digest = F.digest candidate) then
      let found ← matchesFinalBytes pending.runtime candidate
      return (found, p)
    else return (false, p)

/-- `run_pending`. -/
def runPending (p : WindowsManagedSidecarPort F) :
    PortProgram (Option UInt64 × WindowsManagedSidecarPort F) := do
  if !p.running.isEmpty then return (none, p)
  else
    match p.pending with
    | none => return (none, p)
    | some pending =>
      if !pending.checked then return (none, p)
      else
        let .true ← matchesFinalDigest pending.runtime pending.digest | return (none, p)
        if p.nextIdentity.toNat + 1 < UInt64.size then
          match ← spawnRun pending.runtime.configPath with
          | none => return (none, p)
          | some child =>
            let identity := p.nextIdentity + 1
            let entry : RunningChild := ⟨child, pending.runtime, pending.secret, false⟩
            return (some identity,
              { p with pending := none, nextIdentity := identity }.insertRunning identity entry)
        else return (none, p)

/-- `run`. -/
def run (p : WindowsManagedSidecarPort F) :
    PortProgram (Option UInt64 × WindowsManagedSidecarPort F) := do
  match ← p.runPending with
  | (some identity, p) => return (some identity, p)
  | (none, p) =>
    let (_, p) ← p.discardPending
    return (none, p)

/-- `cancel_pending`. -/
def cancelPending (p : WindowsManagedSidecarPort F) :
    PortProgram (Bool × WindowsManagedSidecarPort F) :=
  p.discardPending

/-- `ready`. -/
def ready (p : WindowsManagedSidecarPort F) (identity : UInt64) :
    PortProgram (Bool × WindowsManagedSidecarPort F) := do
  match p.get identity with
  | none => return (false, p)
  | some entry =>
    match ← ChildProcess.isRunning entry.child with
    | some true =>
      let .true ← createClient | return (false, p)
      let .true ← readReady | return (false, p)
      return (true, p.setReady identity true)
    | _ => return (false, p)

/-- `stop`. -/
def stop (p : WindowsManagedSidecarPort F) (identity : UInt64) :
    PortProgram (Bool × WindowsManagedSidecarPort F) := do
  match p.get identity with
  | none => return (false, p)
  | some entry =>
    let p := p.setReady identity false
    match ← ChildProcess.stop entry.child with
    | false => return (false, p)
    | true =>
      match ← entry.runtime.removeConfigAndDirectory.left with
      | .error _ => return (false, p)
      | .ok () => return (true, p.removeRunning identity)

end WindowsManagedSidecarPort

end Veyra
