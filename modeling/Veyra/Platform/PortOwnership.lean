import Veyra.Lib.Transition
import Veyra.Platform.ManagedSidecarPort
import Mathlib.Data.Finset.Basic

/-!
# Veyra.Platform.PortOwnership

Who owns what the port made: every directory that was created and not confirmed
removed, and every process that was started and not confirmed stopped.

The calls may end in any way.  `PortWorld` is the account of what they did: it
grows with a creation or a start, and shrinks with a confirmation only.
-/

namespace Veyra

open Effect Program

/-! ## The world of the calls -/

/-- What is kept of the calls, newest first. -/
inductive ChildEvent
  | read (path : List String) (bytes : List UInt8)
  | startedCheck (child : ChildHandle) (config : List String)
  | exited (child : ChildHandle) (success : Bool)
  | startedRun (child : ChildHandle) (config : List String)
deriving DecidableEq, Repr

def ChildEvent.isRun : ChildEvent → Bool
  | .startedRun _ _ => true
  | _ => false

/-- The directories created and not confirmed removed, the processes started and not confirmed
stopped, the next process handle, and the events so far. -/
structure PortWorld where
  live : Finset (List String)
  processes : Finset ChildHandle
  nextProcess : ChildHandle
  events : List ChildEvent

/-- How a call ends; each call looks at its own part. -/
structure PortOutcome where
  succeeds : Bool
  found : Option Bool
  bytes : Option (List UInt8)
  wait : TryWait
  status : Option Bool
  clock : BitVec 128
  sequence : UInt64
  listing : Option (List (Option String))

namespace PortWorld

/-- The file calls.  A directory that was created and not confirmed removed is not created again. -/
def file : Handler fileCalls PortWorld PortOutcome := fun w c x =>
  match c with
  | .now => (x.clock, w)
  | .nextSequence => (x.sequence, w)
  | .readDirectory _ => (x.listing, w)
  | .createDirectory p =>
    if x.succeeds then
      if p ∈ w.live then (.alreadyExists, w) else (.created, { w with live := insert p w.live })
    else if x.found = some true then (.alreadyExists, w) else (.failed, w)
  | .removeDirectory p =>
    (x.succeeds, if x.succeeds then { w with live := w.live.erase p } else w)
  | .pathExists _ => (x.succeeds, w)
  | .isDirectory _ => (x.succeeds, w)
  | .isFile _ => (x.succeeds, w)
  | .queryUser => (x.succeeds, w)
  | .setPrivate _ => (x.succeeds, w)
  | .verifyPrivate _ => (x.succeeds, w)
  | .createRoot => (x.succeeds, w)
  | .createNew _ => (x.succeeds, w)
  | .truncate _ => (x.succeeds, w)
  | .writeAll _ _ => (x.succeeds, w)
  | .syncAll _ => (x.succeeds, w)
  | .removeFile _ => (x.succeeds, w)

def note (w : PortWorld) (event : ChildEvent) : PortWorld := { w with events := event :: w.events }

/-- A directory is confirmed removed. -/
def removed (w : PortWorld) (dir : List String) : PortWorld := { w with live := w.live.erase dir }

/-- A process is confirmed stopped. -/
def stopped (w : PortWorld) (child : ChildHandle) : PortWorld :=
  { w with processes := w.processes.erase child }

/-- A process is started. -/
def started (w : PortWorld) (event : ChildEvent) : PortWorld :=
  { w with
    processes := insert w.nextProcess w.processes
    nextProcess := w.nextProcess + 1
    events := event :: w.events }

/-- The process calls. -/
def process : Handler processCalls PortWorld PortOutcome := fun w c x =>
  match c with
  | .verifyResources => (x.succeeds, w)
  | .tryExists p => (x.found, if x.found = some false then w.removed p else w)
  | .readFile p =>
    (x.bytes, match x.bytes with
      | some bytes => w.note (.read p bytes)
      | none => w)
  | .spawnCheck config =>
    if x.succeeds then (some w.nextProcess, w.started (.startedCheck w.nextProcess config))
    else (none, w)
  | .spawnRun config =>
    if x.succeeds then (some w.nextProcess, w.started (.startedRun w.nextProcess config))
    else (none, w)
  | .tryWait child => (x.wait, if x.wait = .exited then w.stopped child else w)
  | .waitForExit child =>
    (x.status, match x.status with
      | some success => (w.note (.exited child success)).stopped child
      | none => w)
  | .kill _ => (x.succeeds, w)
  | .createClient => (x.succeeds, w)
  | .readReady => (x.succeeds, w)

def handle : Handler portCalls PortWorld PortOutcome := fun w c x =>
  match c with
  | .inl c => w.file c x
  | .inr c => w.process c x

/-- What a program over the file calls ends in, it ends in here. -/
theorem ends_left {α : Type} {p : FileProgram α} {w : PortWorld} {post : α → PortWorld → Prop}
    (h : Ends file p w post) : Ends handle p.left w post := meets_left.mpr h

end PortWorld

/-! ## The private runtime -/

namespace PrivateRuntime

open FilePort PortWorld

variable (r : PrivateRuntime) {w : PortWorld}

theorem idle_pathExists (p : List String) : (pathExists p).Idle file := fun _ _ h =>
  ends_call.mpr fun _ => ends_done.mpr (h _)

theorem idle_isDirectory (p : List String) : (isDirectory p).Idle file := fun _ _ h =>
  ends_call.mpr fun _ => ends_done.mpr (h _)

theorem idle_isFile (p : List String) : (isFile p).Idle file := fun _ _ h =>
  ends_call.mpr fun _ => ends_done.mpr (h _)

theorem idle_queryUser : queryUser.Idle file := fun _ _ h =>
  ends_call.mpr fun _ => ends_done.mpr (h _)

theorem idle_secureAndVerify (p : List String) : (secureAndVerify p).Idle file := by
  have hset : (setPrivate p).Idle file := fun _ _ h => ends_call.mpr fun _ => ends_done.mpr (h _)
  have hverify : (verifyPrivate p).Idle file := fun _ _ h =>
    ends_call.mpr fun _ => ends_done.mpr (h _)
  exact Idle.test hset hverify (idle_done _)

theorem idle_prepareRoot : prepareRoot.Idle file := by
  have hcreate : createRoot.Idle file := fun _ _ h => ends_call.mpr fun _ => ends_done.mpr (h _)
  have hroot : ensureRoot.Idle file := (idle_pathExists []).bind fun found => by
    cases found with
    | true => exact idle_done _
    | false => exact hcreate
  exact Idle.test hroot (Idle.test (idle_isDirectory []) (Idle.test idle_queryUser
    (idle_secureAndVerify []) (idle_done _)) (idle_done _)) (idle_done _)

theorem idle_removeConfig : r.removeConfig.Idle file := by
  have hremove : (removeFile r.configPath).Idle file := fun _ _ h =>
    ends_call.mpr fun _ => ends_done.mpr (h _)
  exact Idle.test (idle_pathExists _) (Idle.test (idle_isFile _) hremove (idle_done _)) (idle_done _)

variable {α : Type} {last : α → PortWorld → Prop}

/-- A directory that was removed is no longer live. -/
theorem ends_removeDirectory {p : List String} {f : Bool → FileProgram α}
    (h : ∀ succeeds : Bool, Ends file (f succeeds) (if succeeds then w.removed p else w) last) :
    Ends file (removeDirectory p >>= f) w last :=
  ends_call.mpr fun x => h x.succeeds

/-- A directory that was created is live from then on. -/
theorem ends_createDirectory {p : List String} {f : CreateDirectory → FileProgram α}
    (created : p ∉ w.live → Ends file (f .created) { w with live := insert p w.live } last)
    (exists' : Ends file (f .alreadyExists) w last) (failed : Ends file (f .failed) w last) :
    Ends file (createDirectory p >>= f) w last := by
  refine ends_call.mpr fun x => ?_
  show Ends file (f (file w (.createDirectory p) x).1) (file w (.createDirectory p) x).2 last
  rw [PortWorld.file]
  split
  · split
    · exact exists'
    · rename_i hlive
      exact created hlive
  · split
    · exact exists'
    · exact failed

/-- **Spec.**  A successful clean-up confirms the removal, a failed one confirms nothing. -/
theorem ends_removeConfigAndDirectory :
    Ends file r.removeConfigAndDirectory w fun result w' =>
      match result with
      | .ok () => w' = w.removed r.instanceDir
      | .error _ => w' = w := by
  refine (idle_removeConfig r).gate ?_ (ends_done.mpr rfl)
  refine (idle_isDirectory _).gate ?_ (ends_done.mpr rfl)
  refine ends_removeDirectory fun succeeds => ?_
  cases succeeds with
  | false => exact ends_done.mpr rfl
  | true => exact ends_done.mpr rfl

/-- A name is tried until one is free. -/
theorem ends_createInstanceDirectory (attempts : ℕ) :
    Ends file (createInstanceDirectory attempts) w fun made w' =>
      match made with
      | none => w' = w
      | some r => r.instanceDir ∉ w.live ∧ w' = { w with live := insert r.instanceDir w.live } := by
  induction attempts with
  | zero => exact ends_done.mpr rfl
  | succ attempts ih =>
    have hid : nextInstanceId.Idle file := fun w post hpost =>
      ends_call.mpr fun _ => ends_call.mpr fun _ => ends_done.mpr (hpost _)
    refine hid.ends fun name => ends_createDirectory (fun hlive => ?_) ih (ends_done.mpr rfl)
    exact ends_done.mpr ⟨hlive, rfl⟩

/-- What `create` leaves: a directory that the caller owns, or nothing. -/
def Created (w : PortWorld) (result : Except PrivateRuntimeCreateError PrivateRuntime)
    (w' : PortWorld) : Prop :=
  match result with
  | .ok r | .error (.cleanupPending r) =>
    r.instanceDir ∉ w.live ∧ w' = { w with live := insert r.instanceDir w.live }
  | .error .preparation => w' = w

/-- The clean-up after a failed preparation takes the directory away again, if it can. -/
theorem ends_cleanupAfterPrepareFailure (hr : r.instanceDir ∉ w.live) :
    Ends file r.cleanupAfterPrepareFailure { w with live := insert r.instanceDir w.live }
      (Created w) := by
  refine (ends_removeConfigAndDirectory r).andThen fun result w' _ hpost => ?_
  cases result with
  | ok =>
    refine ends_done.mpr ?_
    have herase : (insert r.instanceDir w.live).erase r.instanceDir = w.live :=
      Finset.erase_insert hr
    rw [show w' = _ from hpost]
    simp only [Created, removed, herase]
  | error e => exact ends_done.mpr ⟨hr, hpost⟩

/-- **Spec.**  `create` never loses a directory. -/
theorem ends_create : Ends file create w (Created w) := by
  refine idle_prepareRoot.ends fun prepared => ?_
  cases prepared with
  | false => exact ends_done.mpr rfl
  | true =>
    refine (ends_createInstanceDirectory 32).andThen fun made w' _ hmade => ?_
    cases made with
    | none => exact ends_done.mpr hmade
    | some r =>
      obtain ⟨hr, rfl⟩ := hmade
      have hfail := ends_cleanupAfterPrepareFailure r hr
      have hnew : (createNew r.configPath).Idle file := fun _ _ h =>
        ends_call.mpr fun _ => ends_done.mpr (h _)
      refine (idle_isDirectory _).gate ?_ hfail
      refine (idle_secureAndVerify _).gate ?_ hfail
      refine hnew.gate ?_ hfail
      refine (idle_isFile _).gate ?_ hfail
      exact (idle_secureAndVerify _).gate (ends_done.mpr ⟨hr, rfl⟩) hfail

/-- A failed write may have removed the directory already. -/
theorem ends_removeConfigAfterFailedWrite :
    Ends file r.removeConfigAfterFailedWrite w fun result w' =>
      (∃ e, result = .error e) ∧ (w' = w ∨ w' = w.removed r.instanceDir) := by
  refine (ends_removeConfigAndDirectory r).andThen fun result w' _ hpost => ?_
  cases result with
  | ok => exact ends_done.mpr ⟨⟨_, rfl⟩, .inr hpost⟩
  | error e => exact ends_done.mpr ⟨⟨_, rfl⟩, .inl hpost⟩

/-- **Spec.**  `write_checked_config`. -/
theorem ends_writeCheckedConfig (config : List UInt8) :
    Ends file (r.writeCheckedConfig config) w fun result w' =>
      match result with
      | .ok () => w' = w
      | .error _ => w' = w ∨ w' = w.removed r.instanceDir := by
  have hfail : Ends file r.removeConfigAfterFailedWrite w fun result w' =>
      match result with
      | .ok () => w' = w
      | .error _ => w' = w ∨ w' = w.removed r.instanceDir :=
    (ends_removeConfigAfterFailedWrite r).mono fun result w' _ h => by
      obtain ⟨⟨e, rfl⟩, hw⟩ := h
      exact hw
  have hverify : ∀ p, (verifyPrivate p).Idle file := fun _ _ _ h =>
    ends_call.mpr fun _ => ends_done.mpr (h _)
  have htruncate : (truncate r.configPath).Idle file := fun _ _ h =>
    ends_call.mpr fun _ => ends_done.mpr (h _)
  have hwrite : (writeAll r.configPath config).Idle file := fun _ _ h =>
    ends_call.mpr fun _ => ends_done.mpr (h _)
  have hsync : (syncAll r.configPath).Idle file := fun _ _ h =>
    ends_call.mpr fun _ => ends_done.mpr (h _)
  refine idle_queryUser.gate ?_ (ends_done.mpr (.inl rfl))
  refine (idle_isDirectory _).gate ?_ (ends_done.mpr (.inl rfl))
  refine (idle_isFile _).gate ?_ (ends_done.mpr (.inl rfl))
  refine (hverify _).gate ?_ (ends_done.mpr (.inl rfl))
  refine (hverify _).gate ?_ (ends_done.mpr (.inl rfl))
  refine htruncate.gate ?_ hfail
  refine hwrite.gate ?_ hfail
  exact hsync.gate (ends_done.mpr rfl) hfail

end PrivateRuntime

/-! ## The process calls -/

namespace ProcessPort

open PortWorld

variable {α : Type} {w : PortWorld} {last : α → PortWorld → Prop} {child : ChildHandle}
  {p : List String}

/-- A child that has exited is taken off the list. -/
theorem ends_tryWait {f : TryWait → PortProgram α} (running : Ends handle (f .running) w last)
    (exited : Ends handle (f .exited) (w.stopped child) last)
    (failed : Ends handle (f .failed) w last) : Ends handle (tryWait child >>= f) w last := by
  refine ends_call.mpr fun x => ?_
  show Ends handle (f x.wait) (if x.wait = .exited then w.stopped child else w) last
  cases hx : x.wait with
  | running => exact running
  | exited => exact exited
  | failed => exact failed

/-- The same for a child that is waited for, with its exit code. -/
theorem ends_waitForExit {f : Option Bool → PortProgram α}
    (exited : ∀ success,
      Ends handle (f (some success)) ((w.note (.exited child success)).stopped child) last)
    (timeout : Ends handle (f none) w last) :
    Ends handle (waitForExit child >>= f) w last := by
  refine ends_call.mpr fun x => ?_
  show Ends handle (f x.status) (match x.status with
    | some success => (w.note (.exited child success)).stopped child
    | none => w) last
  cases x.status with
  | none => exact timeout
  | some success => exact exited success

/-- A directory that is found gone is taken off the list. -/
theorem ends_tryExists {f : Option Bool → PortProgram α} (unknown : Ends handle (f none) w last)
    (gone : Ends handle (f (some false)) (w.removed p) last)
    (there : Ends handle (f (some true)) w last) : Ends handle (tryExists p >>= f) w last := by
  refine ends_call.mpr fun x => ?_
  show Ends handle (f x.found) (if x.found = some false then w.removed p else w) last
  cases hx : x.found with
  | none => exact unknown
  | some found =>
    cases found with
    | false => exact gone
    | true => exact there

/-- The child of a check that was started is on the list. -/
theorem ends_spawnCheck {f : Option ChildHandle → PortProgram α}
    (started : Ends handle (f (some w.nextProcess))
      (w.started (.startedCheck w.nextProcess p)) last)
    (failed : Ends handle (f none) w last) : Ends handle (spawnCheck p >>= f) w last := by
  refine ends_call.mpr fun x => ?_
  show Ends handle (f (process w (.spawnCheck p) x).1) (process w (.spawnCheck p) x).2 last
  rw [process]
  split
  · exact started
  · exact failed

/-- The child of a run that was started is on the list. -/
theorem ends_spawnRun {f : Option ChildHandle → PortProgram α}
    (started : Ends handle (f (some w.nextProcess))
      (w.started (.startedRun w.nextProcess p)) last)
    (failed : Ends handle (f none) w last) : Ends handle (spawnRun p >>= f) w last := by
  refine ends_call.mpr fun x => ?_
  show Ends handle (f (process w (.spawnRun p) x).1) (process w (.spawnRun p) x).2 last
  rw [process]
  split
  · exact started
  · exact failed

theorem idle_verifyResources : verifyResources.Idle handle := fun _ _ h =>
  ends_call.mpr fun _ => ends_done.mpr (h _)

theorem idle_kill : (kill child).Idle handle := fun _ _ h =>
  ends_call.mpr fun _ => ends_done.mpr (h _)

theorem idle_createClient : createClient.Idle handle := fun _ _ h =>
  ends_call.mpr fun _ => ends_done.mpr (h _)

theorem idle_readReady : readReady.Idle handle := fun _ _ h =>
  ends_call.mpr fun _ => ends_done.mpr (h _)

theorem idle_isDirectory : (isDirectory p).Idle handle :=
  Idle.left (PrivateRuntime.idle_isDirectory p)

theorem idle_isFile : (isFile p).Idle handle := Idle.left (PrivateRuntime.idle_isFile p)

end ProcessPort

namespace PortWorld

variable {w w' w'' : PortWorld} {child : ChildHandle}

/-- No run was started since. -/
def Quiet (w w' : PortWorld) : Prop :=
  ∃ new, w'.events = new ++ w.events ∧ ∀ e ∈ new, e.isRun = false

theorem Quiet.refl (w : PortWorld) : Quiet w w := ⟨[], rfl, by simp⟩

theorem Quiet.trans (h : Quiet w w') (h' : Quiet w' w'') : Quiet w w'' := by
  obtain ⟨new, hnew, hquiet⟩ := h
  obtain ⟨new', hnew', hquiet'⟩ := h'
  refine ⟨new' ++ new, by simp [hnew', hnew], fun e he => ?_⟩
  rcases List.mem_append.mp he with he | he
  · exact hquiet' e he
  · exact hquiet e he

/-- What happened before stays at the end of the record. -/
theorem Quiet.suffix (h : Quiet w w') : w.events <:+ w'.events := by
  obtain ⟨new, hnew, -⟩ := h
  exact ⟨new, hnew.symm⟩

/-- Nothing was created or started since, and no directory confirmed removed. -/
structure Later (w w' : PortWorld) : Prop where
  live : w'.live = w.live
  processes : w'.processes ⊆ w.processes
  nextProcess : w'.nextProcess = w.nextProcess
  quiet : Quiet w w'

theorem Later.refl (w : PortWorld) : Later w w := ⟨rfl, subset_rfl, rfl, .refl w⟩

theorem Later.trans (h : Later w w') (h' : Later w' w'') : Later w w'' :=
  ⟨h'.live.trans h.live, h'.processes.trans h.processes, h'.nextProcess.trans h.nextProcess,
    h.quiet.trans h'.quiet⟩

/-- A note about a check leaves the account of the runs as it was. -/
theorem later_note (event : ChildEvent) (h : event.isRun = false) : Later w (w.note event) :=
  ⟨rfl, subset_rfl, rfl, [event], rfl, by simpa using h⟩

/-- A child that stopped leaves the account as it was. -/
theorem later_stopped : Later w (w.stopped child) :=
  ⟨rfl, Finset.erase_subset _ _, rfl, [], rfl, by simp⟩

theorem notMem_stopped : child ∉ (w.stopped child).processes := Finset.notMem_erase _ _

end PortWorld

/-! ## Child processes -/

namespace ChildProcess

open PortWorld ProcessPort

variable {w : PortWorld} {child : ChildHandle}

/-- **Spec.**  `is_running`: that a process has ended is a confirmation. -/
theorem ends_isRunning :
    Ends handle (isRunning child) w fun running w' =>
      (running = some false ∧ w' = w.stopped child) ∨ (running ≠ some false ∧ w' = w) :=
  ends_tryWait (ends_done.mpr (.inr ⟨by simp, rfl⟩)) (ends_done.mpr (.inl ⟨rfl, rfl⟩))
    (ends_done.mpr (.inr ⟨by simp, rfl⟩))

/-- **Spec.**  `stop`: a success is a confirmation. -/
theorem ends_stop :
    Ends handle (stop child) w fun ok w' =>
      Later w w' ∧ (ok = true → child ∉ w'.processes) := by
  refine ends_tryWait ?_ (ends_done.mpr ⟨later_stopped, fun _ => notMem_stopped⟩)
    (ends_done.mpr ⟨.refl w, by simp⟩)
  refine idle_kill.gate ?_ (ends_done.mpr ⟨.refl w, by simp⟩)
  refine ends_waitForExit (fun success => ?_) (ends_done.mpr ⟨.refl w, by simp⟩)
  exact ends_done.mpr ⟨(later_note _ rfl).trans later_stopped, fun _ => notMem_stopped⟩

/-- **Spec.**  `wait_check`: a success is an exit with success. -/
theorem ends_waitCheck :
    Ends handle (waitCheck child) w fun ok w' =>
      Later w w' ∧ (ok = true → w'.events = .exited child true :: w.events) := by
  refine ends_waitForExit (fun success => ends_done.mpr ?_) ?_
  · refine ⟨(later_note _ rfl).trans later_stopped, fun hsuccess => ?_⟩
    rw [hsuccess]
    rfl
  · exact ends_stop.andThen fun stopped w' _ h => ends_done.mpr ⟨h.1, by simp⟩

end ChildProcess

/-! ## Accounts -/

/-- The account of a port: the directory and the process of its pending slot, those of its running
entries, and the world.  Whatever was made and not confirmed gone has exactly one place. -/
structure Account (dir? : Option (List String)) (child? : Option ChildHandle)
    (running : List (List String × ChildHandle)) (w : PortWorld) : Prop where
  live : ∀ dir ∈ w.live, dir ∈ dir?.toList ++ running.map Prod.fst
  directories : (dir?.toList ++ running.map Prod.fst).Nodup
  running_live : ∀ entry ∈ running, entry.1 ∈ w.live
  processes : ∀ child ∈ w.processes, child ∈ child?.toList ++ running.map Prod.snd
  children : (child?.toList ++ running.map Prod.snd).Nodup
  children_lt : ∀ child ∈ child?.toList ++ running.map Prod.snd, child < w.nextProcess
  one : running.length ≤ 1

namespace Account

open PortWorld

variable {dir? : Option (List String)} {child? : Option ChildHandle}
  {running : List (List String × ChildHandle)} {w w' : PortWorld} {dir : List String}
  {child : ChildHandle}

/-- Processes may be confirmed stopped at any time. -/
theorem mono (h : Account dir? child? running w) (hlive : w'.live = w.live)
    (hprocesses : w'.processes ⊆ w.processes) (hnext : w.nextProcess ≤ w'.nextProcess) :
    Account dir? child? running w' where
  live d hd := h.live d (hlive ▸ hd)
  directories := h.directories
  running_live entry hentry := hlive ▸ h.running_live entry hentry
  processes c hc := h.processes c (hprocesses hc)
  children := h.children
  children_lt c hc := (h.children_lt c hc).trans_le hnext
  one := h.one

/-- An account stays right as long as nothing else is started. -/
theorem later (h : Account dir? child? running w) (hw : Later w w') :
    Account dir? child? running w' :=
  h.mono hw.live hw.processes hw.nextProcess.ge

/-- The directory of the slot is confirmed removed, and still known. -/
theorem removed (h : Account (some dir) child? running w) :
    Account (some dir) child? running (w.removed dir) where
  live d hd := h.live d (Finset.mem_of_mem_erase hd)
  directories := h.directories
  running_live entry hentry := by
    refine Finset.mem_erase.mpr ⟨fun heq => ?_, h.running_live entry hentry⟩
    have hnot : dir ∉ running.map Prod.fst := (List.nodup_cons.mp h.directories).1
    exact hnot (heq ▸ List.mem_map_of_mem hentry)
  processes := h.processes
  children := h.children
  children_lt := h.children_lt
  one := h.one

/-- A directory that is confirmed removed is forgotten. -/
theorem forget (h : Account (some dir) child? running w) (hdir : dir ∉ w.live) :
    Account none child? running w where
  live d hd := by
    rcases List.mem_cons.mp (h.live d hd) with rfl | hd'
    · exact absurd hd hdir
    · exact hd'
  directories := (List.nodup_cons.mp h.directories).2
  running_live := h.running_live
  processes := h.processes
  children := h.children
  children_lt := h.children_lt
  one := h.one

/-- A check process that is confirmed stopped is forgotten. -/
theorem reaped (h : Account dir? (some child) running w) (hchild : child ∉ w.processes) :
    Account dir? none running w where
  live := h.live
  directories := h.directories
  running_live := h.running_live
  processes c hc := by
    rcases List.mem_cons.mp (h.processes c hc) with rfl | hc'
    · exact absurd hc hchild
    · exact hc'
  children := (List.nodup_cons.mp h.children).2
  children_lt c hc := h.children_lt c (List.mem_cons_of_mem _ hc)
  one := h.one

/-- A directory is created for the slot. -/
theorem created (h : Account none child? running w) (hdir : dir ∉ w.live) :
    Account (some dir) child? running { w with live := insert dir w.live } where
  live d hd := by
    rcases Finset.mem_insert.mp hd with rfl | hd
    · exact List.mem_cons_self
    · exact List.mem_cons_of_mem _ (h.live d hd)
  directories := by
    refine List.nodup_cons.mpr ⟨fun hmem => ?_, h.directories⟩
    obtain ⟨entry, hentry, rfl⟩ := List.mem_map.mp hmem
    exact hdir (h.running_live entry hentry)
  running_live entry hentry := Finset.mem_insert_of_mem (h.running_live entry hentry)
  processes := h.processes
  children := h.children
  children_lt := h.children_lt
  one := h.one

/-- A check process is started for the slot. -/
theorem checking (h : Account dir? none running w) (hlive : w'.live = w.live)
    (hprocesses : w'.processes ⊆ insert w.nextProcess w.processes)
    (hnext : w'.nextProcess = w.nextProcess + 1) :
    Account dir? (some w.nextProcess) running w' where
  live d hd := h.live d (hlive ▸ hd)
  directories := h.directories
  running_live entry hentry := hlive ▸ h.running_live entry hentry
  processes c hc := by
    rcases Finset.mem_insert.mp (hprocesses hc) with rfl | hc
    · exact List.mem_cons_self
    · exact List.mem_cons_of_mem _ (h.processes c hc)
  children := List.nodup_cons.mpr ⟨fun hmem => absurd (h.children_lt _ hmem) (lt_irrefl _),
    h.children⟩
  children_lt c hc := by
    rw [hnext]
    rcases List.mem_cons.mp hc with rfl | hc
    · exact Nat.lt_succ_self _
    · exact Nat.lt_succ_of_lt (h.children_lt c hc)
  one := h.one

/-- The slot becomes the running entry. -/
theorem moved (h : Account (some dir) none [] w) (hdir : dir ∈ w.live) (event : ChildEvent) :
    Account none none [(dir, w.nextProcess)] (w.started event) where
  live := h.live
  directories := List.nodup_singleton _
  running_live entry hentry := by
    rw [List.mem_singleton.mp hentry]
    exact hdir
  processes c hc := by
    rcases Finset.mem_insert.mp hc with rfl | hc
    · exact List.mem_singleton_self _
    · exact absurd (h.processes c hc) List.not_mem_nil
  children := List.nodup_singleton _
  children_lt c hc := by
    rw [List.mem_singleton.mp hc]
    exact Nat.lt_succ_self _
  one := le_refl _

/-- The running entry has been stopped and its directory removed. -/
theorem ended (h : Account dir? child? [(dir, child)] w) (hchild : child ∉ w.processes) :
    Account dir? child? [] (w.removed dir) where
  live d hd := by
    obtain ⟨hne, hd⟩ := Finset.mem_erase.mp hd
    simpa [hne] using h.live d hd
  directories := by simpa using (List.nodup_append.mp h.directories).1
  running_live := by simp
  processes c hc := by
    have hne : c ≠ child := fun heq => hchild (heq ▸ hc)
    simpa [hne] using h.processes c hc
  children := by simpa using (List.nodup_append.mp h.children).1
  children_lt c hc := h.children_lt c (by
    rw [List.map_nil, List.append_nil] at hc
    exact List.mem_append_left _ hc)
  one := Nat.zero_le _

end Account

/-! ## The parts of the operations -/

/-- The check of a candidate: its bytes were in the file before and after a check process ended with
success. -/
def Passed (events : List ChildEvent) (r : PrivateRuntime) (candidate : List UInt8) : Prop :=
  ∃ child, [.read r.configPath candidate, .exited child true, .startedCheck child r.configPath,
    .read r.configPath candidate] <:+: events

/-- The child was started with the file that had just been read. -/
def StartedWith (events : List ChildEvent) (entry : RunningChild) (bytes : List UInt8) : Prop :=
  [.startedRun entry.child entry.runtime.configPath, .read entry.runtime.configPath bytes] <:+:
    events

namespace WindowsManagedSidecarPort

open PortWorld ProcessPort

variable {F : PortFunctions} {p : WindowsManagedSidecarPort F} {w : PortWorld}
  {pending : PendingRuntime F}

/-- The configuration that is read back is noted, if it can be read. -/
theorem ends_readBack (r : PrivateRuntime) :
    Ends handle (readBack r) w fun found w' =>
      match found with
      | none => w' = w
      | some bytes => w' = w.note (.read r.configPath bytes) := by
  refine idle_isFile.gate (idle_isDirectory.gate ?_ (ends_done.mpr rfl)) (ends_done.mpr rfl)
  refine ends_call.mpr fun x => ends_done.mpr ?_
  show match x.bytes with
    | none => (match x.bytes with
      | some bytes => w.note (.read r.configPath bytes)
      | none => w) = w
    | some found => (match x.bytes with
      | some bytes => w.note (.read r.configPath bytes)
      | none => w) = w.note (.read r.configPath found)
  cases x.bytes with
  | none => rfl
  | some bytes => rfl

/-- **Spec.**  `matches_final_bytes`. -/
theorem ends_matchesFinalBytes (r : PrivateRuntime) (candidate : List UInt8) :
    Ends handle (matchesFinalBytes r candidate) w fun ok w' =>
      Later w w' ∧ (ok = true → w'.events = .read r.configPath candidate :: w.events) := by
  refine (ends_readBack r).andThen fun found w' _ hfound => ?_
  cases found with
  | none => exact ends_done.mpr ⟨by rw [show w' = w from hfound]; exact .refl w, by simp⟩
  | some bytes =>
    have hnote : w' = w.note (.read r.configPath bytes) := hfound
    refine ends_done.mpr ⟨hnote ▸ later_note _ rfl, fun hbytes => ?_⟩
    rw [hnote, of_decide_eq_true hbytes]
    rfl

/-- **Spec.**  `matches_final_digest`. -/
theorem ends_matchesFinalDigest (r : PrivateRuntime) (digest : F.Digest) :
    Ends handle (matchesFinalDigest r digest) w fun ok w' =>
      Later w w' ∧ (ok = true → ∃ bytes, F.digest bytes = digest ∧
        w' = w.note (.read r.configPath bytes)) := by
  refine (ends_readBack r).andThen fun found w' _ hfound => ?_
  cases found with
  | none => exact ends_done.mpr ⟨by rw [show w' = w from hfound]; exact .refl w, by simp⟩
  | some bytes =>
    have hnote : w' = w.note (.read r.configPath bytes) := hfound
    exact ends_done.mpr ⟨hnote ▸ later_note _ rfl, fun hdigest =>
      ⟨bytes, of_decide_eq_true hdigest, hnote⟩⟩

/-- **Spec.**  What is left of `discard_pending` after the check process. -/
theorem ends_discardRuntime (p : WindowsManagedSidecarPort F) (pending : PendingRuntime F) :
    Ends handle (p.discardRuntime pending) w fun out w' =>
      (out = (true, { p with pending := none }) ∧ w' = w.removed pending.runtime.instanceDir) ∨
        (out = (false, { p with pending := some pending }) ∧ w' = w) := by
  refine ends_tryExists (ends_done.mpr (.inr ⟨rfl, rfl⟩)) (ends_done.mpr (.inl ⟨rfl, rfl⟩)) ?_
  refine (ends_left pending.runtime.ends_removeConfigAndDirectory).andThen
    fun result w' _ hresult => ?_
  cases result with
  | ok => exact ends_done.mpr (.inl ⟨rfl, hresult⟩)
  | error e => exact ends_done.mpr (.inr ⟨rfl, hresult⟩)

/-- What `discard_pending` leaves: an empty slot and a confirmed removal, or a slot that is no
longer checked. -/
inductive Discarded (p : WindowsManagedSidecarPort F) (pending : PendingRuntime F) (w : PortWorld) :
    Bool × WindowsManagedSidecarPort F → PortWorld → Prop
  | cleaned (w₁ : PortWorld) (later : Later w w₁)
      (reaped : ∀ child, pending.checkChild = some child → child ∉ w₁.processes) :
      Discarded p pending w (true, { p with pending := none })
        (w₁.removed pending.runtime.instanceDir)
  | kept (w' : PortWorld) (checkChild : Option ChildHandle) (later : Later w w')
      (reaped : checkChild = pending.checkChild ∨
        checkChild = none ∧ ∀ child, pending.checkChild = some child → child ∉ w'.processes) :
      Discarded p pending w
        (false, { p with pending := some { pending with checked := false, checkChild } }) w'

/-- **Spec.**  `discard_pending`. -/
theorem ends_discardPending (hpending : p.pending = some pending) :
    Ends handle p.discardPending w (Discarded p pending w) := by
  rw [discardPending, hpending]
  dsimp only
  cases hchild : pending.checkChild with
  | none =>
    have hreaped : ∀ child, pending.checkChild = some child → child ∉ w.processes := by
      simp [hchild]
    refine (ends_discardRuntime p _).mono fun out w' _ h => ?_
    rcases h with ⟨rfl, rfl⟩ | ⟨rfl, rfl⟩
    · exact .cleaned w (.refl w) hreaped
    · exact .kept w' none (.refl w') (.inl hchild.symm)
  | some child =>
    refine ChildProcess.ends_stop.andThen fun ok w₁ _ hstop => ?_
    obtain ⟨hlater, hok⟩ := hstop
    cases ok with
    | false => exact ends_done.mpr (.kept w₁ (some child) hlater (.inl hchild.symm))
    | true =>
      have hreaped : ∀ c, pending.checkChild = some c → c ∉ w₁.processes := by
        intro c hc
        rw [hchild] at hc
        cases hc
        exact hok rfl
      refine (ends_discardRuntime p _).mono fun out w' _ h => ?_
      rcases h with ⟨rfl, rfl⟩ | ⟨rfl, rfl⟩
      · exact .cleaned w₁ hlater hreaped
      · exact .kept w' none hlater (.inr ⟨rfl, hreaped⟩)

/-- What `check_pending` leaves: a candidate that passed, one that failed, or a check process whose
end is not confirmed. -/
inductive Checked (pending : PendingRuntime F) (candidate : List UInt8) (w : PortWorld) :
    Bool × PendingRuntime F → PortWorld → Prop
  | passed (w' : PortWorld) (live : w'.live = w.live) (processes : w'.processes ⊆ w.processes)
      (next : w'.nextProcess = w.nextProcess + 1)
      (events : w'.events = [.read pending.runtime.configPath candidate,
        .exited w.nextProcess true, .startedCheck w.nextProcess pending.runtime.configPath,
        .read pending.runtime.configPath candidate] ++ w.events) :
      Checked pending candidate w (true, { pending with checked := true }) w'
  | failed (w' : PortWorld)
      (live : w'.live = w.live ∨ w'.live = w.live.erase pending.runtime.instanceDir)
      (processes : w'.processes ⊆ w.processes) (next : w.nextProcess ≤ w'.nextProcess)
      (quiet : Quiet w w') : Checked pending candidate w (false, pending) w'
  | waiting (w' : PortWorld) (live : w'.live = w.live)
      (processes : w'.processes ⊆ insert w.nextProcess w.processes)
      (next : w'.nextProcess = w.nextProcess + 1) (quiet : Quiet w w') :
      Checked pending candidate w (false, { pending with checkChild := some w.nextProcess }) w'

/-- The check process has been started in the world `w`. -/
theorem ends_awaitCheck (hchild : pending.checkChild = none) (candidate : List UInt8) (w₀ : PortWorld)
    (hw : Later w₀ w) (hread : w.events = .read pending.runtime.configPath candidate :: w₀.events) :
    Ends handle (awaitCheck pending w.nextProcess candidate)
      (w.started (.startedCheck w.nextProcess pending.runtime.configPath))
      (Checked pending candidate w₀) := by
  have hsame : { pending with checkChild := none } = pending := by
    obtain ⟨runtime, secret, digest, checkChild, checked⟩ := pending
    rw [show checkChild = none from hchild]
  have hnext : w.nextProcess = w₀.nextProcess := hw.nextProcess
  have hquiet : Quiet w₀ (w.started (.startedCheck w.nextProcess pending.runtime.configPath)) :=
    hw.quiet.trans ⟨[_], rfl, by simp [ChildEvent.isRun]⟩
  refine ChildProcess.ends_waitCheck.andThen fun ok w₁ _ hwait => ?_
  obtain ⟨hlater, hok⟩ := hwait
  have hprocesses : w₁.processes ⊆ insert w.nextProcess w₀.processes :=
    hlater.processes.trans (Finset.insert_subset_insert _ hw.processes)
  have hlive : w₁.live = w₀.live := hlater.live.trans hw.live
  have hnext₁ : w₁.nextProcess = w₀.nextProcess + 1 :=
    hlater.nextProcess.trans (congrArg Nat.succ hnext)
  refine ChildProcess.ends_isRunning.andThen fun running w₂ _ hrunning => ?_
  rcases hrunning with ⟨rfl, rfl⟩ | ⟨hrunning, rfl⟩
  · have hgone : (w₁.stopped w.nextProcess).processes ⊆ w₀.processes := fun c hc => by
      obtain ⟨hne, hc⟩ := Finset.mem_erase.mp hc
      exact Finset.mem_of_mem_insert_of_ne (hprocesses hc) hne
    have hquiet₁ : Quiet w₀ (w₁.stopped w.nextProcess) := hquiet.trans hlater.quiet
    cases ok with
    | false =>
      dsimp only
      rw [hsame]
      exact ends_done.mpr (.failed _ (.inl hlive) hgone (hnext₁ ▸ Nat.le_succ _) hquiet₁)
    | true =>
      refine (ends_matchesFinalBytes _ candidate).andThen fun found w₃ _ hfound => ?_
      obtain ⟨hlater₃, hfound⟩ := hfound
      have hnext₃ : w₃.nextProcess = w₀.nextProcess + 1 := hlater₃.nextProcess.trans hnext₁
      cases found with
      | false =>
        dsimp only
        rw [hsame]
        exact ends_done.mpr (.failed _ (.inl (hlater₃.live.trans hlive))
          (hlater₃.processes.trans hgone) (hnext₃ ▸ Nat.le_succ _) (hquiet₁.trans hlater₃.quiet))
      | true =>
        have hpassed : ({ pending with checkChild := none, checked := true } : PendingRuntime F) =
            { pending with checked := true } := by rw [← hchild]
        have hevents : w₁.events = .exited w.nextProcess true ::
            .startedCheck w.nextProcess pending.runtime.configPath :: w.events := hok rfl
        dsimp only
        rw [hpassed]
        refine ends_done.mpr (.passed _ (hlater₃.live.trans hlive) (hlater₃.processes.trans hgone)
          hnext₃ ?_)
        rw [hfound rfl, ← hnext, show (w₁.stopped w.nextProcess).events = w₁.events from rfl,
          hevents, hread]
        rfl
  · have hwaiting : Checked pending candidate w₀
        (false, { pending with checkChild := some w.nextProcess }) w₂ := by
      rw [hnext]
      exact .waiting w₂ hlive (hnext ▸ hprocesses) hnext₁ (hquiet.trans hlater.quiet)
    cases running with
    | none => exact ends_done.mpr hwaiting
    | some running =>
      cases running with
      | false => exact absurd rfl hrunning
      | true => exact ends_done.mpr hwaiting

/-- **Spec.**  `check_pending`. -/
theorem ends_checkPending (hchild : pending.checkChild = none) (candidate : List UInt8) :
    Ends handle (checkPending pending candidate) w (Checked pending candidate w) := by
  refine (ends_left (pending.runtime.ends_writeCheckedConfig candidate)).andThen
    fun result w₁ _ hwrite => ?_
  cases result with
  | error e =>
    have hwrite : w₁ = w ∨ w₁ = w.removed pending.runtime.instanceDir := hwrite
    refine ends_done.mpr ?_
    rcases hwrite with rfl | rfl
    · exact .failed _ (.inl rfl) subset_rfl le_rfl (.refl _)
    · exact .failed _ (.inr rfl) subset_rfl le_rfl ⟨[], rfl, by simp⟩
  | ok =>
    have hwrite : w₁ = w := hwrite
    subst hwrite
    refine (ends_matchesFinalBytes _ candidate).andThen fun found w₂ _ hfound => ?_
    obtain ⟨hlater, hfound⟩ := hfound
    have hfailed : Checked pending candidate w₁ (false, pending) w₂ :=
      .failed _ (.inl hlater.live) hlater.processes hlater.nextProcess.ge hlater.quiet
    cases found with
    | false => exact ends_done.mpr hfailed
    | true =>
      exact ends_spawnCheck (ends_awaitCheck hchild candidate w₁ hlater (hfound rfl))
        (ends_done.mpr hfailed)

end WindowsManagedSidecarPort

end Veyra
