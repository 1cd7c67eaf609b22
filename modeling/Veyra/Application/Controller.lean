import Veyra.Application.Programs
import Veyra.Application.WorkerPhases
import Veyra.Lib.Threads

/-!
# Veyra.Application.Controller

Every call of the application and its two loops, as threads: the calls of
`ManagedObservationRuntimeController`, its worker, the scheduler of the
subscriptions, and the operations of the managers.

They meet in four locks that are tried and never waited for (the state gate,
`write_in_progress`, `busy`, `shutdown_waiting`), in four flags, in the request
channel, in the state file and in the memory of the worker.  An `Action` is one
access to one of these; the programs are the functions of the source, access
by access.

Guards are given back where the source drops them; the guards of a request
travel with it through the channel.  What a caller is answered is left to the
world, except by a shutdown.
-/

namespace Veyra

open Check Threads

namespace Controller

/-! ## The shared state -/

/-- What is taken with a compare-exchange or `try_lock`, and given back. -/
inductive Lock
  | gate
  | writes
  | runtime
  | waiting
deriving DecidableEq

/-- The flags that are stored and loaded. -/
inductive Signal
  | closing
  | shutdownRequested
  | shutdownComplete
  | schedulerDone
deriving DecidableEq

/-- The operation that has the state file written; a call that only reads can have to settle it. -/
inductive Writer
  | starting
  | activating
  | saving
  | importing
  | updating
  | editing
  | deleting
  | scheduling
  | routing
  | reading
deriving DecidableEq

inductive ShutdownResult
  | shutdownComplete
  | shutdownFailed
deriving DecidableEq

/-- `WorkerRequest`, without the channels that nothing here waits for. -/
inductive WorkerRequest (Bytes : Type)
  | start (intent : SelectedRuntimeProjection)
  | stop (subscription : Bool)
  | activate (request : ActivationRequest Bytes)
  | reconcileManualSelection (poolId : PoolId) (nodeId : NodeId)
  | readRunningConfiguration
  | saveDocument (input : DocumentSaveInput) (operationId : String)
  | shutdown (response : Nat)

/-- The guards that a request carries. -/
def WorkerRequest.guards {Bytes : Type} : WorkerRequest Bytes → Lock → Bool
  | .start _, lock | .activate _, lock => lock = .runtime || lock = .writes
  | .stop subscription, lock => lock = .runtime || subscription && lock = .writes
  | .shutdown _, _ => false
  | _, lock => lock = .runtime

/-- What all threads share: the state that a load of the state file gives, the revisions of the
routing manager, the locks, the flags, the request channel with room for one request, the response
channels of the shutdowns, and the memory of the controller and its worker.  `log` is history: who
had the state file written, and to which state. -/
structure Shared (P Bytes : Type) where
  stored : Option AppState
  revisions : ProxyRouting.RevisionState
  locked : Lock → Bool
  raised : Signal → Bool
  queue : Option (WorkerRequest Bytes)
  connected : Bool
  responses : Nat → Option ShutdownResult
  channels : Nat
  world : ManagedRuntime P Bytes
  log : List (Writer × Option AppState)

/-- Before any call. -/
def Shared.start {P Bytes : Type} (stored : Option AppState) : Shared P Bytes where
  stored := stored
  revisions := ⟨0, none⟩
  locked := fun _ => false
  raised := fun _ => false
  queue := none
  connected := true
  responses := fun _ => none
  channels := 0
  world := .new
  log := []

/-! ## Actions -/

/-- What the world tells a thread that asks. -/
structure Told (P : Type) where
  answers : Answers
  flag : Bool
  secret : Option String
  created : Option P
  sample : SampleAnswers
  selector : SelectorAnswers
  due : List String
  rounds : Nat

/-- How an action turns out: whether a load, a save or an answer comes through, whether a load has
to settle the file first (a migration or a recovery), whether a channel is found closed, and what
the world tells. -/
structure Choice (P : Type) where
  succeeds : Bool
  settles : Bool
  disconnected : Bool
  told : Told P

/-- One access to what is shared. -/
inductive Action (P Bytes : Type)
  | tryLock (lock : Lock)
  | unlock (lock : Lock)
  | isLocked (lock : Lock)
  | read (signal : Signal)
  | store (signal : Signal) (value : Bool)
  | load (writer : Writer)
  | save (writer : Writer) (next : Option AppState)
  | remember (update : ProxyRouting.RevisionState → ProxyRouting.RevisionState)
  | ask
  | touch (change : ManagedRuntime P Bytes → ManagedRuntime P Bytes)
  | openChannel
  | send (request : WorkerRequest Bytes)
  | receive
  | respond (channel : Nat) (result : ShutdownResult)
  | await (channel : Nat)
  | hangUp

/-- What `recv_timeout` gives the worker. -/
inductive Received (Bytes : Type)
  | request (request : WorkerRequest Bytes)
  | timeout
  | disconnected

section Actions

variable {P Bytes : Type}

/-- What an action is answered: a load with the state, a change with the memory before it. -/
def Answer : Action P Bytes → Type
  | .tryLock _ | .isLocked _ | .read _ | .save .. | .send _ => Bool
  | .unlock _ | .store .. | .respond .. | .hangUp => Unit
  | .load _ => Option (Option AppState)
  | .remember _ => ProxyRouting.RevisionState
  | .ask => Told P
  | .touch _ => ManagedRuntime P Bytes
  | .openChannel => Nat
  | .receive => Received Bytes
  | .await _ => Option ShutdownResult

/-- A lock is taken or given back. -/
def Shared.setLock (s : Shared P Bytes) (lock : Lock) (value : Bool) : Shared P Bytes :=
  { s with locked := Function.update s.locked lock value }

/-- A request is dropped with its guards. -/
def Shared.dropQueue (s : Shared P Bytes) : Shared P Bytes :=
  match s.queue with
  | none => s
  | some request =>
    { s with queue := none, locked := fun lock => s.locked lock && !request.guards lock }

/-- The state file is written. -/
def Shared.write (s : Shared P Bytes) (writer : Writer) (state : Option AppState) :
    Shared P Bytes :=
  { s with stored := state, log := s.log ++ [(writer, state)] }

/-- The outcome of an action. -/
def perform : (action : Action P Bytes) → Choice P → Shared P Bytes →
    Option (Answer action × Shared P Bytes)
  | .tryLock lock, _, s =>
    if s.locked lock then some (false, s) else some (true, s.setLock lock true)
  | .unlock lock, _, s => some ((), s.setLock lock false)
  | .isLocked lock, _, s => some (s.locked lock, s)
  | .read signal, _, s => some (s.raised signal, s)
  | .store signal value, _, s =>
    some ((), { s with raised := Function.update s.raised signal value })
  | .load writer, choice, s =>
    if choice.succeeds then
      some (some s.stored, if choice.settles then s.write writer s.stored else s)
    else some (none, s)
  | .save writer next, choice, s =>
    if choice.succeeds then some (true, s.write writer next) else some (false, s)
  | .remember update, _, s => some (s.revisions, { s with revisions := update s.revisions })
  | .ask, choice, s => some (choice.told, s)
  | .touch change, _, s => some (s.world, { s with world := change s.world })
  | .openChannel, _, s => some (s.channels, { s with channels := s.channels + 1 })
  | .send request, _, s =>
    if s.connected && s.queue.isNone then some (true, { s with queue := some request })
    else some (false, s)
  | .receive, choice, s =>
    match s.queue with
    | some request => some (.request request, { s with queue := none })
    | none => some (if choice.disconnected then .disconnected else .timeout, s)
  | .respond channel result, _, s =>
    some ((), { s with responses := Function.update s.responses channel (some result) })
  | .await channel, choice, s => some (if choice.succeeds then s.responses channel else none, s)
  | .hangUp, _, s => some ((), { s.dropQueue with connected := false })

end Actions

/-! ## Programs over the actions -/

/-- The program of a thread. -/
abbrev Task (P Bytes : Type) := Code (Action P Bytes) Answer

section Tasks

variable {P Bytes : Type}

def tryLock (lock : Lock) : Task P Bytes Bool := .act (.tryLock lock) .done

def unlock (lock : Lock) : Task P Bytes Unit := .act (.unlock lock) .done

def isLocked (lock : Lock) : Task P Bytes Bool := .act (.isLocked lock) .done

def read (signal : Signal) : Task P Bytes Bool := .act (.read signal) .done

def store (signal : Signal) (value : Bool) : Task P Bytes Unit := .act (.store signal value) .done

def ask : Task P Bytes (Told P) := .act .ask .done

def touch (change : ManagedRuntime P Bytes → ManagedRuntime P Bytes) :
    Task P Bytes (ManagedRuntime P Bytes) :=
  .act (.touch change) .done

def openChannel : Task P Bytes Nat := .act .openChannel .done

def send (request : WorkerRequest Bytes) : Task P Bytes Bool := .act (.send request) .done

def receive : Task P Bytes (Received Bytes) := .act .receive .done

def respond (channel : Nat) (result : ShutdownResult) : Task P Bytes Unit :=
  .act (.respond channel result) .done

def await (channel : Nat) : Task P Bytes (Option ShutdownResult) := .act (.await channel) .done

def hangUp : Task P Bytes Unit := .act .hangUp .done

/-- A change of the memory that has a result. -/
def change {α : Type} (f : ManagedRuntime P Bytes → α × ManagedRuntime P Bytes) :
    Task P Bytes α := do
  let before ← touch fun w => (f w).2
  pure (f before).1

end Tasks

end Controller

/-- The lock that the program of a manager takes. -/
def StateLock.lock : StateLock → Controller.Lock
  | .gate => .gate
  | .writes => .writes
  | .runtime => .runtime

namespace Controller

section Managers

variable {P Bytes : Type}

/-- The program of a manager, whose questions are answered by a task. -/
def ofProgram {ρ : Type} (answers : Task P Bytes Answers) (writer : Writer) :
    Program ρ → Task P Bytes ρ
  | .done result => .done result
  | .tryLock lock next => .act (.tryLock lock.lock) fun taken => ofProgram answers writer (next taken)
  | .unlock lock next => .act (.unlock lock.lock) fun _ => ofProgram answers writer next
  | .load _ next => .act (.load writer) fun loaded => ofProgram answers writer (next loaded)
  | .save value next => .act (.save writer value) fun saved => ofProgram answers writer (next saved)
  | .remember _ update next =>
    .act (.remember update) fun revisions => ofProgram answers writer (next revisions)
  | .ask next => answers.bind fun w => ofProgram answers writer (next w)

/-- What a manager is told; whether it is closing is read from its flag. -/
def managerAnswers : Task P Bytes Answers := do
  let closing ← read .closing
  let told ← ask
  pure { told.answers with closing }

/-- What the commit of an activation is told: it stops for its caller and for a shutdown. -/
def activationAnswers : Task P Bytes Answers := do
  let told ← ask
  let requested ← read .shutdownRequested
  pure { told.answers with closing := told.flag || requested }

/-- An operation of a manager. -/
def run {ε α : Type} (writer : Writer) (attempt : Attempt ε α) : Task P Bytes (Except ε α) :=
  ofProgram managerAnswers writer attempt.run

/-- `begin_write_owned`. -/
def beginWriteOwned : Task P Bytes Bool := do
  let closing ← read .closing
  if closing then pure false
  else
    let taken ← tryLock .writes
    if !taken then pure false
    else
      let closing ← read .closing
      if closing then do
        unlock .writes
        pure false
      else pure true

end Managers

end Controller

end Veyra
