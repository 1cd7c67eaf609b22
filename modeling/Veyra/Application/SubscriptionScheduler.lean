import Veyra.Application.ConditionalRequests
import Veyra.Application.DueTimes
import Veyra.Lib.Transition

/-!
# Veyra.Application.SubscriptionScheduler

The subscription manager over time, as the scheduler and its callers drive it: what is stored, the
deadlines that the process keeps, and the operation that holds `write_in_progress`.

An update or an edit with a new URL is a fetch attempt.  It captures its subscription, waits for
the fetch, remembers a deadline when the fetch answers, and ends with its commit, with the record
of its failure, or with neither.  Routing mutations save in between; every other operation saves
in one step, since it commits over the state it has read.

* `attempts_spaced` -- after an attempt the subscription is not due for one interval;
* `due_on_time` -- one interval after its last attempt it is due.

Both fail where an edit remembers the deadline of an interval that is not the stored one.
-/

namespace Veyra

open Check Transition

variable {env : SubscriptionEnv}

/-! ## The state -/

/-- What a fetch attempt goes on to do: commit what it fetched, or record that it failed.  What
was fetched is read again at the commit. -/
inductive FetchOutcome
  | update (fetched : FetchResult)
  | edit (input : EditSubscription) (baseline : AppState) (fetched : FetchResult)
  | failed

/-- A fetch attempt that was answered; `remembered` is the policy of the snapshot that
`remember_process_deadline` was given. -/
structure FetchAttempt where
  snapshot : UpdateSnapshot
  remembered : SubscriptionUpdatePolicy
  attemptedAt : UInt64
  outcome : FetchOutcome

def FetchAttempt.id (attempt : FetchAttempt) : String := attempt.snapshot.subscriptionId.val

/-- The operation that holds `write_in_progress`. -/
inductive Writer
  | updating (snapshot : UpdateSnapshot)
  | editing (input : EditSubscription) (baseline : AppState) (edited : Subscription)
      (snapshot : UpdateSnapshot)
  | attempted (attempt : FetchAttempt)

/-- The manager between two steps; `clock` is the last time that was read.  Two histories stand
beside it, the last entry first: `remembered` tells the intervals that attempts of this process had
when they left a deadline, and `finished` the subscriptions that were attempted and when. -/
structure SchedulerState where
  stored : Option AppState
  deadlines : ProcessDeadlines
  clock : UInt64
  writer : Option Writer
  remembered : List (String × UInt32)
  finished : List (String × UInt64)

namespace SchedulerState

/-- A process that starts over a stored state, which tells the attempts of earlier ones. -/
def start (stored : Option AppState) (clock : UInt64) : SchedulerState where
  stored
  deadlines := []
  clock
  writer := none
  remembered := []
  finished := (stored.getD .empty).subscriptions.map fun sub => (sub.id.val, sub.persistedBase)

/-- The interval of a subscription. -/
def interval? (s : SchedulerState) (id : String) : Option UInt32 :=
  (s.stored.bind (·.subscription? id)).bind (·.updatePolicy.intervalMinutes)

/-- The last stored attempt of a subscription. -/
def base? (s : SchedulerState) (id : String) : Option UInt64 := (s.stored.getD .empty).base? id

/-- When a subscription was attempted for the last time. -/
def lastFinished (s : SchedulerState) (id : String) : UInt64 :=
  ((s.finished.filter (·.1 = id)).map (·.2)).foldr max 0

/-- `due_subscription_ids`. -/
def due (s : SchedulerState) (now : UInt64) : Except SubscriptionOperationError (List String) :=
  dueSubscriptionIds now (.ok s.stored) s.deadlines

end SchedulerState

/-! ## Attempts -/

/-- What an update does with the answer to its fetch. -/
def updateAttempt (env : SubscriptionEnv) (snapshot : UpdateSnapshot)
    (answer : Except SubscriptionOperationError FetchResult) (now : UInt64) : FetchAttempt :=
  { snapshot, remembered := snapshot.updatePolicy, attemptedAt := now
    outcome := match answer with
      | .error _ => .failed
      | .ok fetched =>
        if (updateParsed env.toContentEnv fetched).isOk && !cacheUnavailable snapshot fetched then
          .update fetched
        else .failed }

/-- What an edit does with the answer from its new URL.  A document is an attempt with the
interval that the edit asks for, or that the document's header names for it. -/
def editAttempt (env : SubscriptionEnv) (input : EditSubscription) (baseline : AppState)
    (edited : Subscription) (snapshot : UpdateSnapshot)
    (answer : Except SubscriptionOperationError FetchResult) (now : UInt64) : FetchAttempt :=
  match answer with
  | .error _ | .ok (.notModified ..) =>
    { snapshot, remembered := snapshot.updatePolicy, attemptedAt := now, outcome := .failed }
  | .ok (.modified body metadata profile validators) =>
    { snapshot, remembered := adoptProfileInterval edited.updatePolicy profile, attemptedAt := now
      outcome :=
        if (editReplacement env.toContentEnv (.modified body metadata profile validators) now).isOk
        then .edit input baseline (.modified body metadata profile validators)
        else .failed }

/-- What an attempt saves over the state it finds. -/
def FetchAttempt.commit (env : SubscriptionEnv) (attempt : FetchAttempt) (current : AppState) :
    Except SubscriptionOperationError AppState :=
  match attempt.outcome with
  | .update fetched => do
    let parsed ← updateParsed env.toContentEnv fetched
    let (after, _) ← commitUpdate env.text attempt.id attempt.snapshot fetched parsed
      attempt.attemptedAt current
    .ok after
  | .edit input baseline fetched => do
    let (edited, _) ← prepareEdit env input baseline
    let replacement ← editReplacement env.toContentEnv fetched attempt.attemptedAt
    let (after, _) ← commitEdit env.text baseline input.id edited (some replacement) current
    .ok after
  | .failed => commitFailedAttempt attempt.snapshot attempt.attemptedAt current

/-- What is stored after the end of an attempt: its commit, unless anything refuses it. -/
def FetchAttempt.endOn (env : SubscriptionEnv) (attempt : FetchAttempt) (saved : Bool)
    (stored : Option AppState) : Option AppState :=
  if saved then (stored.bind fun current => (attempt.commit env current).toOption).or stored
  else stored

/-- The attempt ends with something saved. -/
def FetchAttempt.persists (env : SubscriptionEnv) (attempt : FetchAttempt) (saved : Bool)
    (stored : Option AppState) : Bool :=
  saved && (stored.bind fun current => (attempt.commit env current).toOption).isSome

/-! ## Steps -/

/-- The operations that save in one step. -/
inductive SchedulerWrite
  | importManual (name description content : String) (identity : List UInt8) (now : UInt64)
  | importRemote (name description url : String) (options : RemoteImportOptions)
      (initiallyEmpty : Bool) (fetched : FetchResult) (identity : List UInt8) (now : UInt64)
  | updateManual (id content : String) (now : UInt64)
  | edit (input : EditSubscription)
  | document (worker : Option DocumentErrorCode) (input : DocumentSaveInput)
  | delete (id : String) (activeRuntimeStopped : Bool)
  | activate (id : String) (force : Bool) (expectedDesiredGeneration : Option UInt64)

/-- What such an operation saves. -/
def SchedulerWrite.commit (env : SubscriptionEnv) :
    SchedulerWrite → Option AppState → Option AppState
  | .importManual name description content identity now, current => do
    let input ← (prepareManualImport env name description content).toOption
    (commitImport env.text input identity now current).toOption
  | .importRemote name description url options initiallyEmpty fetched identity now, current => do
    let input ← (prepareRemoteImport env name description url options initiallyEmpty
      fetched).toOption
    (commitImport env.text input identity now current).toOption
  | .updateManual id content now, some current => do
    let snapshot ← (updateSnapshot current id).toOption
    let fetched ← (updateFetched snapshot (some content) false (.error .invalidInput)).toOption
    let parsed ← (updateParsed env.toContentEnv fetched).toOption
    let (after, _) ← (commitUpdate env.text id snapshot fetched parsed now current).toOption
    some after
  | .edit input, some current => do
    let (edited, urlChanged) ← (prepareEdit env input current).toOption
    if urlChanged then none
    else do
      let (after, _) ← (commitEdit env.text current input.id edited none current).toOption
      some after
  | .document worker input, some current => do
    let prepared ← (prepareDocumentSave env worker input current).toOption
    let saved ← (commitPreparedDocument prepared current).toOption
    saved
  | .delete id activeRuntimeStopped, some current =>
    (commitDelete id activeRuntimeStopped current).toOption
  | .activate id force expectedDesiredGeneration, some current => do
    let plan ← (planActivation id force expectedDesiredGeneration current).toOption
    let saved ← (commitActivation plan current).toOption
    saved
  | _, none => none

/-- The subscription that such an operation brings up to date, and when. -/
def SchedulerWrite.attempt : SchedulerWrite → Option (String × UInt64)
  | .importManual _ _ _ identity now | .importRemote _ _ _ _ _ _ identity now =>
    some (identityOf "sub" identity, now)
  | .updateManual id _ now => some (id, now)
  | _ => none

inductive SchedulerEvent
  | write (op : SchedulerWrite)
  | mutate (routing : ProxyRouting.Env) (revisions : ProxyRouting.RevisionState)
      (request : ProxyRouting.MutateRequest)
  | beginUpdate (id : String)
  | beginEdit (input : EditSubscription)
  /-- An operation ends before its fetch is an attempt: the manager is closing, or the clock
  cannot be read. -/
  | cancel
  | fetched (answer : Except SubscriptionOperationError FetchResult) (now : UInt64)
  /-- An attempt ends; `saved` when the gate, the store and a closing manager let it save. -/
  | ended (saved : Bool)

/-- The time that the clock told. -/
def SchedulerEvent.time : SchedulerEvent → Option UInt64
  | .write op => op.attempt.map (·.2)
  | .fetched _ now => some now
  | _ => none

/-- The history of intervals with that of an attempt, if it has one. -/
def FetchAttempt.note (attempt : FetchAttempt) (remembered : List (String × UInt32)) :
    List (String × UInt32) :=
  match attempt.remembered.intervalMinutes with
  | none => remembered
  | some minutes => (attempt.id, minutes) :: remembered

namespace SchedulerState

/-- An attempt was answered. -/
def answered (s : SchedulerState) (attempt : FetchAttempt) : SchedulerState :=
  { s with
    clock := attempt.attemptedAt
    deadlines := rememberProcessDeadline
      { attempt.snapshot with updatePolicy := attempt.remembered } attempt.attemptedAt s.deadlines
    remembered := attempt.note s.remembered
    writer := some (.attempted attempt) }

/-- One step. -/
def step (env : SubscriptionEnv) (s : SchedulerState) : SchedulerEvent → Option SchedulerState
  | .write op =>
    if s.writer.isSome then none
    else do
      let after ← op.commit env s.stored
      some { s with
        stored := some after
        clock := (op.attempt.map (·.2)).getD s.clock
        finished := op.attempt.toList ++ s.finished }
  | .mutate routing revisions request =>
    match ProxyRouting.mutate routing revisions request (s.stored.getD .empty) with
    | .ok (_, .save after _) => some { s with stored := some after }
    | _ => none
  | .beginUpdate id =>
    if s.writer.isSome then none
    else do
      let current ← s.stored
      (validateUpdateId id).toOption
      let snapshot ← (updateSnapshot current id).toOption
      if snapshot.source.isRemote && snapshot.remoteRequest.isSome then
        some { s with writer := some (.updating snapshot) }
      else none
  | .beginEdit input =>
    if s.writer.isSome then none
    else do
      let baseline ← s.stored
      (validateId input.id).toOption
      let (edited, urlChanged) ← (prepareEdit env input baseline).toOption
      let snapshot ← (updateSnapshot baseline input.id).toOption
      if urlChanged then some { s with writer := some (.editing input baseline edited snapshot) }
      else none
  | .cancel =>
    match s.writer with
    | some (.updating _) | some (.editing ..) => some { s with writer := none }
    | _ => none
  | .fetched answer now =>
    match s.writer with
    | some (.updating snapshot) => some (s.answered (updateAttempt env snapshot answer now))
    | some (.editing input baseline edited snapshot) =>
      some (s.answered (editAttempt env input baseline edited snapshot answer now))
    | _ => none
  | .ended saved =>
    match s.writer with
    | some (.attempted attempt) =>
      some { s with
        stored := attempt.endOn env saved s.stored
        writer := none
        finished := (attempt.id, attempt.attemptedAt) :: s.finished }
    | _ => none

/-! ## What a step can do -/

/-- No fetch has been answered. -/
def Unanswered (s : SchedulerState) : Prop := ∀ attempt, s.writer ≠ some (.attempted attempt)

/-- What a step does to the stored attempts, the deadlines and the operation in flight. -/
inductive Moves (env : SubscriptionEnv) (s : SchedulerState) :
    SchedulerEvent → SchedulerState → Prop
  | turn {e : SchedulerEvent} {writer : Option Writer} (before : s.Unanswered)
      (after : ∀ attempt, writer ≠ some (.attempted attempt))
      (named : ∀ input baseline edited snapshot,
        writer = some (.editing input baseline edited snapshot) →
        input.id = snapshot.subscriptionId.val) : Moves env s e { s with writer }
  | answered {answer : Except SubscriptionOperationError FetchResult} {attempt : FetchAttempt}
      (before : s.Unanswered)
      (named : ∀ input baseline fetched, attempt.outcome = .edit input baseline fetched →
        input.id = attempt.id) :
      Moves env s (.fetched answer attempt.attemptedAt) (s.answered attempt)
  | mutated {e : SchedulerEvent} {after : AppState}
      (kept : after.subscriptions = (s.stored.getD .empty).subscriptions) (valid : after.Valid) :
      Moves env s e { s with stored := some after }
  | written {op : SchedulerWrite} {after : AppState} (idle : s.writer = none)
      (unstamped : Unstamped (s.stored.getD .empty) after) :
      Moves env s (.write op) { s with stored := some after }
  | stamped {op : SchedulerWrite} {after : AppState} {id : String} {now : UInt64}
      (idle : s.writer = none) (attempt : op.attempt = some (id, now))
      (stamped : Stamped id now (s.stored.getD .empty) after) :
      Moves env s (.write op)
        { s with stored := some after, clock := now, finished := (id, now) :: s.finished }
  | dropped {attempt : FetchAttempt} {saved : Bool} (flight : s.writer = some (.attempted attempt))
      (lost : attempt.persists env saved s.stored = false) :
      Moves env s (.ended saved)
        { s with writer := none, finished := (attempt.id, attempt.attemptedAt) :: s.finished }
  | persisted {attempt : FetchAttempt} {saved : Bool} {current after : AppState}
      (flight : s.writer = some (.attempted attempt)) (stored : s.stored = some current)
      (stamped : Stamped attempt.id attempt.attemptedAt current after) :
      Moves env s (.ended saved)
        { s with
          stored := some after, writer := none
          finished := (attempt.id, attempt.attemptedAt) :: s.finished }

end SchedulerState

/-- A one-step operation stamps the subscription that it brings up to date, and no other. -/
theorem SchedulerWrite.commit_stamps {op : SchedulerWrite} {stored : Option AppState}
    {after : AppState} (h : op.commit env stored = some after) :
    (op.attempt = none ∧ Unstamped (stored.getD .empty) after) ∨
      ∃ id now, op.attempt = some (id, now) ∧ Stamped id now (stored.getD .empty) after := by
  cases op with
  | importManual name description content identity now =>
    obtain ⟨input, -, h⟩ := Option.bind_eq_some_iff.mp h
    exact .inr ⟨_, _, rfl, stamped_commitImport (toOption_eq_some.mp h)⟩
  | importRemote name description url options initiallyEmpty fetched identity now =>
    obtain ⟨input, -, h⟩ := Option.bind_eq_some_iff.mp h
    exact .inr ⟨_, _, rfl, stamped_commitImport (toOption_eq_some.mp h)⟩
  | updateManual id content now =>
    cases stored with
    | none => cases h
    | some current =>
      obtain ⟨snapshot, -, h⟩ := Option.bind_eq_some_iff.mp h
      obtain ⟨fetched, -, h⟩ := Option.bind_eq_some_iff.mp h
      obtain ⟨parsed, -, h⟩ := Option.bind_eq_some_iff.mp h
      obtain ⟨⟨saved, changed⟩, hcommit, h⟩ := Option.bind_eq_some_iff.mp h
      cases h
      exact .inr ⟨_, _, rfl, stamped_commitUpdate (toOption_eq_some.mp hcommit)⟩
  | edit input =>
    cases stored with
    | none => cases h
    | some current =>
      obtain ⟨⟨edited, urlChanged⟩, hprepared, h⟩ := Option.bind_eq_some_iff.mp h
      dsimp only at h
      split at h
      · cases h
      · obtain ⟨⟨saved, changed⟩, hcommit, h⟩ := Option.bind_eq_some_iff.mp h
        cases h
        exact .inl ⟨rfl, unstamped_commitEdit (toOption_eq_some.mp hprepared)
          (toOption_eq_some.mp hcommit)⟩
  | document worker input =>
    cases stored with
    | none => cases h
    | some current =>
      obtain ⟨prepared, hprepared, h⟩ := Option.bind_eq_some_iff.mp h
      obtain ⟨saved, hcommit, rfl⟩ := Option.bind_eq_some_iff.mp h
      obtain ⟨-, rfl⟩ := commitPreparedDocument_ok (toOption_eq_some.mp hcommit)
      exact .inl ⟨rfl, unstamped_document (toOption_eq_some.mp hprepared)⟩
  | delete id activeRuntimeStopped =>
    cases stored with
    | none => cases h
    | some current => exact .inl ⟨rfl, unstamped_delete (toOption_eq_some.mp h)⟩
  | activate id force expectedDesiredGeneration =>
    cases stored with
    | none => cases h
    | some current =>
      obtain ⟨plan, hplan, h⟩ := Option.bind_eq_some_iff.mp h
      obtain ⟨saved, hcommit, rfl⟩ := Option.bind_eq_some_iff.mp h
      have commit : ActivationCommit current after :=
        ⟨toOption_eq_some.mp hplan, toOption_eq_some.mp hcommit⟩
      exact .inl ⟨rfl, unstamped_of_eq commit.valid commit.subscriptions⟩

/-- A commit of an attempt stamps its subscription. -/
theorem FetchAttempt.commit_stamps {attempt : FetchAttempt} {current after : AppState}
    (named : ∀ input baseline fetched, attempt.outcome = .edit input baseline fetched →
      input.id = attempt.id)
    (h : attempt.commit env current = .ok after) :
    Stamped attempt.id attempt.attemptedAt current after := by
  rw [FetchAttempt.commit] at h
  split at h
  · obtain ⟨parsed, -, h⟩ := ok_bind.mp h
    obtain ⟨⟨saved, changed⟩, hcommit, h⟩ := ok_bind.mp h
    cases h
    exact stamped_commitUpdate hcommit
  · next input baseline fetched houtcome =>
    obtain ⟨⟨edited, urlChanged⟩, hprepared, h⟩ := ok_bind.mp h
    obtain ⟨replacement, hreplacement, h⟩ := ok_bind.mp h
    obtain ⟨⟨saved, changed⟩, hcommit, h⟩ := ok_bind.mp h
    cases h
    have hnow : replacement.now = attempt.attemptedAt := by
      cases fetched with
      | notModified => cases hreplacement
      | modified body metadata profile validators =>
        obtain ⟨parsed, -, hreplacement⟩ := ok_bind.mp hreplacement
        cases hreplacement
        rfl
    have hstamped := stamped_commitEdit hprepared hcommit
    rwa [hnow, named _ _ _ houtcome] at hstamped
  · exact stamped_failedAttempt h

/-- Without an interval nothing is remembered. -/
theorem FetchAttempt.note_none {attempt : FetchAttempt} {remembered : List (String × UInt32)}
    (h : attempt.remembered.intervalMinutes = none) : attempt.note remembered = remembered := by
  rw [FetchAttempt.note, h]

/-- The interval of an attempt is remembered for its subscription. -/
theorem FetchAttempt.note_some (attempt : FetchAttempt) {remembered : List (String × UInt32)}
    {minutes : UInt32} (h : attempt.remembered.intervalMinutes = some minutes) :
    attempt.note remembered = (attempt.id, minutes) :: remembered := by
  rw [FetchAttempt.note, h]

/-- An attempt notes nothing about other subscriptions. -/
theorem FetchAttempt.lookup_note_of_ne {attempt : FetchAttempt}
    {remembered : List (String × UInt32)} {id : String} (h : id ≠ attempt.id) :
    (attempt.note remembered).lookup id = remembered.lookup id := by
  rw [FetchAttempt.note]
  split
  · rfl
  · rw [List.lookup_cons, beq_eq_false_iff_ne.mpr h]

/-- An update works on the subscription that was asked for. -/
theorem updateSnapshot_id {s : AppState} {id : String} {snapshot : UpdateSnapshot}
    (h : updateSnapshot s id = .ok snapshot) : snapshot.subscriptionId.val = id := by
  obtain ⟨sub, hsub, h⟩ := ok_bind.mp h
  obtain ⟨providerId, -, h⟩ := ok_bind.mp h
  cases h
  exact (subscription?_found (okOr_eq_ok.mp hsub)).2

namespace SchedulerState

variable {s t : SchedulerState} {e : SchedulerEvent}

/-- What holds in every state of a run. -/
structure Sound (s : SchedulerState) : Prop where
  valid : ∀ current, s.stored = some current → current.Valid
  editing : ∀ input baseline edited snapshot,
    s.writer = some (.editing input baseline edited snapshot) →
    input.id = snapshot.subscriptionId.val
  named : ∀ attempt, s.writer = some (.attempted attempt) →
    ∀ input baseline fetched, attempt.outcome = .edit input baseline fetched → input.id = attempt.id
  clock : ∀ attempt, s.writer = some (.attempted attempt) → attempt.attemptedAt = s.clock
  deadline : ∀ attempt, s.writer = some (.attempted attempt) →
    ∀ minutes, attempt.remembered.intervalMinutes = some minutes →
      s.deadlines.deadline attempt.id = afterInterval attempt.attemptedAt minutes ∧
        s.remembered.lookup attempt.id = some minutes

/-- A process starts with nothing in flight. -/
theorem sound_start {stored : Option AppState} {clock : UInt64}
    (hvalid : ∀ current, stored = some current → current.Valid) : (start stored clock).Sound :=
  { valid := hvalid
    editing := fun _ _ _ _ h => by cases h
    named := fun _ h => by cases h
    clock := fun _ h => by cases h
    deadline := fun _ h => by cases h }

/-- A save without a fetch, as a move of the coordinator. -/
theorem moves_write {op : SchedulerWrite} (hstep : step env s (.write op) = some t) :
    s.Moves env (.write op) t := by
  rw [step] at hstep
  split at hstep
  · cases hstep
  · next hidle =>
    have hidle : s.writer = none := by simpa using hidle
    obtain ⟨after, hcommit, hstep⟩ := Option.bind_eq_some_iff.mp hstep
    cases SchedulerWrite.commit_stamps hcommit with
    | inl hkept =>
      obtain ⟨hattempt, hunstamped⟩ := hkept
      rw [hattempt] at hstep
      cases hstep
      exact .written hidle hunstamped
    | inr hnew =>
      obtain ⟨id, now, hattempt, hstamped⟩ := hnew
      rw [hattempt] at hstep
      cases hstep
      exact .stamped hidle hattempt hstamped

/-- A mutation of the routing, as a move that keeps the subscriptions. -/
theorem moves_mutate {routing : ProxyRouting.Env} {revisions : ProxyRouting.RevisionState}
    {request : ProxyRouting.MutateRequest}
    (hstep : step env s (.mutate routing revisions request) = some t) : s.Moves env e t := by
  rw [step] at hstep
  split at hstep
  · next observed after outcome hmutate =>
    cases hstep
    have commit : ProxyRouting.MutationCommit routing request (s.stored.getD .empty) after :=
      ⟨hmutate⟩
    exact .mutated commit.subscriptions (ProxyRouting.mutate_save hmutate).2.1
  · cases hstep

theorem Unanswered.of_idle (h : s.writer = none) : s.Unanswered := by
  intro attempt
  rw [h]
  nofun

/-- An update begins: its request is in flight. -/
theorem moves_beginUpdate {id : String} (hstep : step env s (.beginUpdate id) = some t) :
    s.Moves env e t := by
  rw [step] at hstep
  split at hstep
  · cases hstep
  · next hidle =>
    have hidle : s.writer = none := by simpa using hidle
    obtain ⟨current, -, hstep⟩ := Option.bind_eq_some_iff.mp hstep
    obtain ⟨-, -, hstep⟩ := Option.bind_eq_some_iff.mp hstep
    obtain ⟨snapshot, -, hstep⟩ := Option.bind_eq_some_iff.mp hstep
    split at hstep
    · obtain rfl := Option.some.inj hstep
      exact .turn (.of_idle hidle) (by simp) (by simp)
    · cases hstep

/-- An edit begins; one that needs no fetch is answered at once. -/
theorem moves_beginEdit {input : EditSubscription}
    (hstep : step env s (.beginEdit input) = some t) : s.Moves env e t := by
  rw [step] at hstep
  split at hstep
  · cases hstep
  · next hidle =>
    have hidle : s.writer = none := by simpa using hidle
    obtain ⟨baseline, -, hstep⟩ := Option.bind_eq_some_iff.mp hstep
    obtain ⟨-, -, hstep⟩ := Option.bind_eq_some_iff.mp hstep
    obtain ⟨⟨edited, urlChanged⟩, -, hstep⟩ := Option.bind_eq_some_iff.mp hstep
    obtain ⟨snapshot, hsnapshot, hstep⟩ := Option.bind_eq_some_iff.mp hstep
    have hname := updateSnapshot_id (toOption_eq_some.mp hsnapshot)
    split at hstep
    · obtain rfl := Option.some.inj hstep
      refine .turn (.of_idle hidle) (by simp) ?_
      intro input' baseline' edited' snapshot' heq
      obtain ⟨rfl, -, -, rfl⟩ := Writer.editing.inj (Option.some.inj heq)
      exact hname.symm
    · cases hstep

/-- A call that gives up before its answer, as a move to nothing in flight. -/
theorem moves_cancel (hstep : step env s .cancel = some t) : s.Moves env e t := by
  rw [step] at hstep
  split at hstep
  · next hwriter =>
    obtain rfl := Option.some.inj hstep
    exact .turn (fun _ => by simp [hwriter]) (by simp) (by simp)
  · next hwriter =>
    obtain rfl := Option.some.inj hstep
    exact .turn (fun _ => by simp [hwriter]) (by simp) (by simp)
  · cases hstep

end SchedulerState

/-- An answered edit goes on with its own input, if it goes on. -/
theorem editAttempt_named {input : EditSubscription} {baseline : AppState} {edited : Subscription}
    {snapshot : UpdateSnapshot} {answer : Except SubscriptionOperationError FetchResult}
    {now : UInt64} (hname : input.id = snapshot.subscriptionId.val) :
    (editAttempt env input baseline edited snapshot answer now).attemptedAt = now ∧
      ∀ input' baseline' fetched,
        (editAttempt env input baseline edited snapshot answer now).outcome =
          .edit input' baseline' fetched →
        input'.id = (editAttempt env input baseline edited snapshot answer now).id := by
  unfold editAttempt
  split
  · exact ⟨rfl, by simp⟩
  · exact ⟨rfl, by simp⟩
  · refine ⟨rfl, fun input' baseline' fetched houtcome => ?_⟩
    dsimp only at houtcome
    split at houtcome
    · cases houtcome
      exact hname
    · cases houtcome

/-- The answer to an update is not one to an edit. -/
theorem updateAttempt_named {snapshot : UpdateSnapshot}
    {answer : Except SubscriptionOperationError FetchResult} {now : UInt64}
    {input : EditSubscription} {baseline : AppState} {fetched : FetchResult} :
    (updateAttempt env snapshot answer now).outcome ≠ .edit input baseline fetched := by
  unfold updateAttempt
  dsimp only
  split
  · simp
  · split <;> simp

namespace SchedulerState

variable {s t : SchedulerState} {e : SchedulerEvent}

/-- The answer to a request decides what is saved. -/
theorem Sound.moves_fetched (h : s.Sound)
    {answer : Except SubscriptionOperationError FetchResult} {now : UInt64}
    (hstep : step env s (.fetched answer now) = some t) : s.Moves env (.fetched answer now) t := by
  rw [step] at hstep
  split at hstep
  · next snapshot hwriter =>
    cases hstep
    have hbefore : s.Unanswered := fun _ => by simp [hwriter]
    exact @Moves.answered env s answer (updateAttempt env snapshot answer now) hbefore
      fun _ _ _ houtcome => absurd houtcome updateAttempt_named
  · next input baseline edited snapshot hwriter =>
    cases hstep
    have hbefore : s.Unanswered := fun _ => by simp [hwriter]
    obtain ⟨hnow, hnamed⟩ := @editAttempt_named env input baseline edited snapshot answer now
      (h.editing _ _ _ _ hwriter)
    have hmoves := @Moves.answered env s answer _ hbefore hnamed
    rwa [hnow] at hmoves
  · cases hstep

/-- An attempt ends with its save, or without it. -/
theorem Sound.moves_ended (h : s.Sound) {saved : Bool}
    (hstep : step env s (.ended saved) = some t) : s.Moves env (.ended saved) t := by
  rw [step] at hstep
  split at hstep
  · next attempt hwriter =>
    cases hstep
    by_cases hpersists : attempt.persists env saved s.stored = true
    · rw [FetchAttempt.persists, Bool.and_eq_true] at hpersists
      obtain ⟨hsaved, hsome⟩ := hpersists
      obtain ⟨after, hafter⟩ := Option.isSome_iff_exists.mp hsome
      obtain ⟨current, hstored, hcommit⟩ := Option.bind_eq_some_iff.mp hafter
      have hstamped := FetchAttempt.commit_stamps (h.named _ hwriter) (toOption_eq_some.mp hcommit)
      rw [FetchAttempt.endOn, if_pos hsaved, hafter]
      exact .persisted hwriter hstored hstamped
    · have hlost : attempt.persists env saved s.stored = false := by simpa using hpersists
      have hsame : attempt.endOn env saved s.stored = s.stored := by
        rw [FetchAttempt.endOn]
        split
        · next hsaved =>
          rw [FetchAttempt.persists, hsaved, Bool.true_and, Option.isSome_eq_false_iff,
            Option.isNone_iff_eq_none] at hlost
          rw [hlost, Option.none_or]
        · rfl
      rw [hsame]
      exact .dropped hwriter hlost
  · cases hstep

/-- **Inversion.**  Every step is one of the moves. -/
theorem Sound.moves (h : s.Sound) (hstep : step env s e = some t) : s.Moves env e t := by
  cases e with
  | write op => exact moves_write hstep
  | mutate routing revisions request => exact moves_mutate hstep
  | beginUpdate id => exact moves_beginUpdate hstep
  | beginEdit input => exact moves_beginEdit hstep
  | cancel => exact moves_cancel hstep
  | fetched answer now => exact h.moves_fetched hstep
  | ended saved => exact h.moves_ended hstep

/-- A state whose operation in flight was not answered keeps what it says of attempts. -/
theorem Sound.of_unanswered (hunanswered : s.Unanswered)
    (hvalid : ∀ current, s.stored = some current → current.Valid)
    (hediting : ∀ input baseline edited snapshot,
      s.writer = some (.editing input baseline edited snapshot) →
      input.id = snapshot.subscriptionId.val) : s.Sound where
  valid := hvalid
  editing := hediting
  named attempt h := absurd h (hunanswered attempt)
  clock attempt h := absurd h (hunanswered attempt)
  deadline attempt h := absurd h (hunanswered attempt)

/-- With nothing in flight only the stored state has to be valid. -/
theorem Sound.of_idle (hidle : s.writer = none)
    (hvalid : ∀ current, s.stored = some current → current.Valid) : s.Sound :=
  .of_unanswered (.of_idle hidle) hvalid fun _ _ _ _ h => by rw [hidle] at h; cases h

/-- An answer belongs to the request in flight. -/
theorem Sound.of_answered (h : s.Sound) {attempt : FetchAttempt}
    (named : ∀ input baseline fetched, attempt.outcome = .edit input baseline fetched →
      input.id = attempt.id) : (s.answered attempt).Sound where
  valid := h.valid
  editing := fun _ _ _ _ hwriter => by cases hwriter
  named := fun attempt' hwriter => by
    obtain rfl := Writer.attempted.inj (Option.some.inj hwriter)
    exact named
  clock := fun attempt' hwriter => by
    obtain rfl := Writer.attempted.inj (Option.some.inj hwriter)
    rfl
  deadline := fun attempt' hwriter minutes hminutes => by
    obtain rfl := Writer.attempted.inj (Option.some.inj hwriter)
    refine ⟨@deadline_remember_some { attempt.snapshot with updatePolicy := attempt.remembered }
      _ _ _ hminutes, ?_⟩
    show (attempt.note s.remembered).lookup attempt.id = some minutes
    rw [attempt.note_some hminutes, List.lookup_cons_self]

/-- One step keeps a state sound. -/
theorem Sound.keeps (h : s.Sound) (moves : s.Moves env e t) : t.Sound := by
  have hnew {after : AppState} (hafter : after.Valid) :
      ∀ current, some after = some current → current.Valid := by
    intro current hcurrent
    exact Option.some.inj hcurrent ▸ hafter
  cases moves with
  | turn before after named => exact .of_unanswered after h.valid named
  | answered before named => exact h.of_answered named
  | mutated kept valid => exact ⟨hnew valid, h.editing, h.named, h.clock, h.deadline⟩
  | written idle unstamped => exact .of_idle idle (hnew unstamped.valid)
  | stamped idle attempt stamped => exact .of_idle idle (hnew stamped.valid)
  | dropped flight lost => exact .of_idle rfl h.valid
  | persisted flight stored stamped => exact .of_idle rfl (hnew stamped.valid)

/-- Every state of a run is sound. -/
theorem Sound.of_run {ok : SchedulerState → SchedulerEvent → Prop} {events : List SchedulerEvent}
    (h : s.Sound) (run : Runs (step env) ok s events t) : t.Sound :=
  run.invariant Sound h fun _ _ _ hsound _ hstep => hsound.keeps (hsound.moves hstep)

/-! ## What is due -/

/-- A subscription with an interval has a last stored attempt. -/
theorem base?_of_interval? {id : String} {minutes : UInt32} (h : s.interval? id = some minutes) :
    ∃ base, s.base? id = some base := by
  obtain ⟨sub, hsub, -⟩ := Option.bind_eq_some_iff.mp h
  obtain ⟨current, hstored, hsub⟩ := Option.bind_eq_some_iff.mp hsub
  refine ⟨sub.persistedBase, ?_⟩
  rw [base?, hstored, Option.getD_some, AppState.base?, hsub]
  rfl

/-- What is due is past both deadlines. -/
theorem mem_due (hsound : s.Sound) {now : UInt64} {ids : List String} {id : String}
    (hdue : s.due now = .ok ids) {sub : Subscription}
    (hsub : s.stored.bind (·.subscription? id) = some sub) :
    id ∈ ids ↔ sub.isDue s.deadlines now = true := by
  obtain ⟨current, hstored, hsub⟩ := Option.bind_eq_some_iff.mp hsub
  rw [due, hstored] at hdue
  rw [mem_dueSubscriptionIds hdue]
  constructor
  · rintro ⟨found, hfound, hisdue, hname⟩
    rwa [subscription?_unique (hsound.valid _ hstored) hsub hfound hname] at hisdue
  · intro hisdue
    have hfound := subscription?_found hsub
    exact ⟨sub, hfound.1, hisdue, hfound.2⟩

/-- An attempt in flight whose remembered deadline is earlier than one interval of its
subscription: an edit that asks for a shorter one. -/
def Undercut (s : SchedulerState) (id : String) (minutes : UInt32) : Prop :=
  ∃ attempt shorter, s.writer = some (.attempted attempt) ∧ attempt.id = id ∧
    attempt.remembered.intervalMinutes = some shorter ∧ shorter < minutes

/-- The clock never goes back. -/
def OnTime (s : SchedulerState) (e : SchedulerEvent) : Prop := ∀ now, e.time = some now → s.clock ≤ now

/-- An attempt that asks for a shorter interval than the stored one, or for none, does not end
without saving. -/
def Careful (env : SubscriptionEnv) (s : SchedulerState) (e : SchedulerEvent) : Prop :=
  ∀ attempt saved, s.writer = some (.attempted attempt) → e = .ended saved →
    attempt.persists env saved s.stored = false →
    ∀ minutes, s.interval? attempt.id = some minutes →
      ∃ longer, attempt.remembered.intervalMinutes = some longer ∧ minutes ≤ longer

/-- Since an attempt at `time`, something keeps a subscription from being due too soon. -/
structure Shielded (id : String) (time : UInt64) (minutes : UInt32) (s : SchedulerState) :
    Prop where
  clock : time ≤ s.clock
  shield : afterInterval time minutes ≤ s.deadlines.deadline id ∨
    (∃ base, s.base? id = some base ∧ time ≤ base) ∨ s.Undercut id minutes

variable {id : String} {time : UInt64} {minutes : UInt32}

/-- Outside an undercut it is the deadline or a stored attempt that does so. -/
theorem Shielded.settled (h : Shielded id time minutes s) (hsettled : ¬ s.Undercut id minutes) :
    afterInterval time minutes ≤ s.deadlines.deadline id ∨
      ∃ base, s.base? id = some base ∧ time ≤ base := by
  rcases h.shield with hdeadline | hbase | hundercut
  · exact .inl hdeadline
  · exact .inr hbase
  · exact absurd hundercut hsettled

/-- Only an answered attempt can undercut an interval. -/
theorem Unanswered.not_undercut (h : s.Unanswered) : ¬ s.Undercut id minutes :=
  fun ⟨attempt, _, hwriter, _⟩ => h attempt hwriter

/-- An answered attempt of another subscription undercuts nothing. -/
theorem not_undercut_of_ne {attempt : FetchAttempt} (hwriter : s.writer = some (.attempted attempt))
    (hid : attempt.id ≠ id) : ¬ s.Undercut id minutes := by
  rintro ⟨other, shorter, hother, hname, -⟩
  rw [hwriter] at hother
  obtain rfl := Writer.attempted.inj (Option.some.inj hother)
  exact hid hname

/-- An answer gives a deadline as late, unless it undercuts the interval. -/
theorem Shielded.answered (h : Shielded id time minutes s) (unanswered : s.Unanswered)
    {attempt : FetchAttempt} (hclock : s.clock ≤ attempt.attemptedAt) :
    Shielded id time minutes (s.answered attempt) := by
  have htime := UInt64.le_trans h.clock hclock
  have hbefore := h.settled unanswered.not_undercut
  refine ⟨htime, ?_⟩
  by_cases hid : attempt.id = id
  · cases hremembered : attempt.remembered.intervalMinutes with
    | none =>
      have hsame : (s.answered attempt).deadlines = s.deadlines := remember_none hremembered
      rw [hsame]
      exact hbefore.imp_right .inl
    | some longer =>
      by_cases hshorter : longer < minutes
      · exact .inr (.inr ⟨attempt, longer, rfl, hid, hremembered, hshorter⟩)
      · have hdeadline : (s.answered attempt).deadlines.deadline attempt.id =
            afterInterval attempt.attemptedAt longer :=
          @deadline_remember_some { attempt.snapshot with updatePolicy := attempt.remembered } _ _ _
            hremembered
        rw [← hid, hdeadline]
        exact .inl (afterInterval_mono htime (UInt32.not_lt.mp hshorter))
  · have hsame : (s.answered attempt).deadlines.deadline id = s.deadlines.deadline id :=
      @deadline_remember_of_ne { attempt.snapshot with updatePolicy := attempt.remembered } _ _ _
        (Ne.symm hid)
    rw [hsame]
    exact hbefore.imp_right .inl

/-- A later stamp shields as well, and that of another subscription changes nothing. -/
theorem shield_stamped {other : String} {now : UInt64} {after : AppState}
    (hbefore : other ≠ id → afterInterval time minutes ≤ s.deadlines.deadline id ∨
      ∃ base, s.base? id = some base ∧ time ≤ base)
    (stamped : Stamped other now (s.stored.getD .empty) after) (hnow : time ≤ now)
    (hafter : ∃ base, after.base? id = some base) :
    afterInterval time minutes ≤ s.deadlines.deadline id ∨
      ∃ base, after.base? id = some base ∧ time ≤ base := by
  obtain ⟨base, hbase⟩ := hafter
  by_cases hother : other = id
  · subst hother
    exact .inr ⟨base, hbase, UInt64.le_trans hnow (stamped.own _ hbase).1⟩
  · obtain hdeadline | hold := hbefore hother
    · exact .inl hdeadline
    · rw [stamped.others _ (Ne.symm hother)]
      exact .inr hold

/-- One step keeps a shield while the interval stays. -/
theorem Shielded.keeps (h : Shielded id time minutes s) (hsound : s.Sound)
    (moves : s.Moves env e t) (htime : s.OnTime e) (hcareful : s.Careful env e)
    (hinterval : s.interval? id = some minutes) (hafter : t.interval? id = some minutes) :
    Shielded id time minutes t := by
  have hbase := base?_of_interval? hafter
  cases moves with
  | turn before after named => exact ⟨h.clock, (h.settled before.not_undercut).imp_right .inl⟩
  | answered before named => exact h.answered before (htime _ rfl)
  | mutated kept valid =>
    have hsame := base?_congr kept id
    refine ⟨h.clock, ?_⟩
    rcases h.shield with hdeadline | ⟨base, hbase, hle⟩ | hundercut
    · exact .inl hdeadline
    · exact .inr (.inl ⟨base, hsame.trans hbase, hle⟩)
    · exact .inr (.inr hundercut)
  | written idle unstamped =>
    refine ⟨h.clock, ?_⟩
    obtain hdeadline | ⟨old, hold, hle⟩ := h.settled (Unanswered.of_idle idle).not_undercut
    · exact .inl hdeadline
    · obtain ⟨base, hbase⟩ := hbase
      have hsame := (unstamped.kept _ _ hbase).symm.trans hold
      exact .inr (.inl ⟨base, hbase, Option.some.inj hsame ▸ hle⟩)
  | stamped idle attempt stamped =>
    have hnow := UInt64.le_trans h.clock (htime _ (by rw [SchedulerEvent.time, attempt]; rfl))
    exact ⟨hnow, (shield_stamped (fun _ => h.settled (Unanswered.of_idle idle).not_undercut)
      stamped hnow hbase).imp_right .inl⟩
  | @dropped attempt saved flight lost =>
    refine ⟨h.clock, ?_⟩
    by_cases hid : attempt.id = id
    · obtain ⟨longer, hlonger, hle⟩ := hcareful attempt saved flight rfl lost minutes (hid ▸ hinterval)
      have hdeadline := (hsound.deadline attempt flight longer hlonger).1
      have hattempted : time ≤ attempt.attemptedAt := hsound.clock attempt flight ▸ h.clock
      rw [hid] at hdeadline
      exact .inl (hdeadline ▸ afterInterval_mono hattempted hle)
    · exact (h.settled (not_undercut_of_ne flight hid)).imp_right .inl
  | @persisted attempt saved current after flight stored stamped =>
    have hattempted : time ≤ attempt.attemptedAt := hsound.clock attempt flight ▸ h.clock
    have hcurrent : s.stored.getD .empty = current := by rw [stored, Option.getD_some]
    rw [← hcurrent] at stamped
    exact ⟨h.clock, (shield_stamped (fun hid => h.settled (not_undercut_of_ne flight hid))
      stamped hattempted hbase).imp_right .inl⟩

/-- An attempt that ends shields its subscription. -/
theorem shielded_of_finished (hsound : s.Sound) (moves : s.Moves env e t)
    (hcareful : s.Careful env e) (hfinished : t.finished = (id, time) :: s.finished)
    (hinterval : t.interval? id = some minutes) : Shielded id time minutes t := by
  obtain ⟨base, hbase⟩ := base?_of_interval? hinterval
  cases moves with
  | turn | answered | mutated | written => exact absurd hfinished.symm (List.cons_ne_self _ _)
  | stamped idle attempt stamped =>
    obtain ⟨heq, -⟩ := List.cons.inj hfinished
    cases heq
    exact ⟨UInt64.le_refl _, .inr (.inl ⟨base, hbase, (stamped.own _ hbase).1⟩)⟩
  | @dropped attempt saved flight lost =>
    obtain ⟨heq, -⟩ := List.cons.inj hfinished
    cases heq
    obtain ⟨longer, hlonger, hle⟩ := hcareful attempt saved flight rfl lost minutes hinterval
    have hdeadline := (hsound.deadline attempt flight longer hlonger).1
    have hclock := hsound.clock attempt flight
    refine ⟨UInt64.le_of_eq hclock, .inl ?_⟩
    change _ ≤ s.deadlines.deadline attempt.id
    rw [hdeadline]
    exact afterInterval_mono (UInt64.le_refl _) hle
  | @persisted attempt saved current after flight stored stamped =>
    obtain ⟨heq, -⟩ := List.cons.inj hfinished
    cases heq
    have hclock := hsound.clock attempt flight
    exact ⟨UInt64.le_of_eq hclock, .inr (.inl ⟨base, hbase, (stamped.own _ hbase).1⟩)⟩

/-- A shielded subscription is not due. -/
theorem Shielded.not_due (h : Shielded id time minutes s) (hsound : s.Sound)
    (hinterval : s.interval? id = some minutes) (hsettled : ¬ s.Undercut id minutes)
    {now : UInt64} {ids : List String} (hearly : now < afterInterval time minutes)
    (hdue : s.due now = .ok ids) : id ∉ ids := by
  intro hid
  obtain ⟨sub, hsub, hminutes⟩ := Option.bind_eq_some_iff.mp hinterval
  obtain ⟨-, -, hdeadline, hpersisted⟩ := (isDue_iff hminutes).mp ((mem_due hsound hdue hsub).mp hid)
  obtain ⟨current, hstored, hfound⟩ := Option.bind_eq_some_iff.mp hsub
  cases h.settled hsettled with
  | inl hshield =>
    rw [(subscription?_found hfound).2] at hdeadline
    exact UInt64.not_le.mpr hearly (UInt64.le_trans hshield hdeadline)
  | inr hstamp =>
    obtain ⟨base, hbase, hle⟩ := hstamp
    rw [base?, hstored, Option.getD_some, AppState.base?, hfound] at hbase
    cases hbase
    have hshield := afterInterval_mono hle (UInt32.le_refl minutes)
    exact UInt64.not_le.mpr hearly (UInt64.le_trans hshield hpersisted)

end SchedulerState

/-! ## Attempts are spaced -/

open SchedulerState

/-- While the interval of a subscription stays, no run after an attempt makes it due before that
interval is over.  The steps meet `careful`, and `settled` is met when it is asked what is due. -/
def AttemptsSpaced (env : SubscriptionEnv) (careful : SchedulerState → SchedulerEvent → Prop)
    (settled : SchedulerState → String → UInt32 → Prop) : Prop :=
  ∀ (stored : Option AppState) (clock : UInt64) (before after : List SchedulerEvent)
    (s₀ s₁ s : SchedulerState) (e : SchedulerEvent) (id : String) (time now : UInt64)
    (minutes : UInt32) (ids : List String),
    (∀ current, stored = some current → current.Valid) →
    Runs (step env) OnTime (start stored clock) before s₀ →
    step env s₀ e = some s₁ → s₀.OnTime e → careful s₀ e →
    s₁.finished = (id, time) :: s₀.finished →
    Runs (step env) (fun s e => s.interval? id = some minutes ∧ s.OnTime e ∧ careful s e)
      s₁ after s →
    s.interval? id = some minutes → settled s id minutes →
    now < afterInterval time minutes → s.due now = .ok ids → id ∉ ids

/-- **No retry storm.**  After an attempt at `time`, whether it committed, failed, or could not
save its failure, the subscription is not due for one interval, unless an edit that asks for a
shorter interval ends without saving. -/
theorem attempts_spaced (env : SubscriptionEnv) :
    AttemptsSpaced env (Careful env) fun s id minutes => ¬ s.Undercut id minutes := by
  intro stored clock before after s₀ s₁ s e id time now minutes ids hvalid reached hstep htime
    hcareful hfinished rest hinterval hsettled hearly hdue
  have hsound₀ : s₀.Sound := (sound_start hvalid).of_run reached
  have moves := hsound₀.moves hstep
  have hsound₁ := hsound₀.keeps moves
  have hshielded : s.Sound ∧ (s.interval? id = some minutes → Shielded id time minutes s) := by
    refine rest.invariant
      (fun s => s.Sound ∧ (s.interval? id = some minutes → Shielded id time minutes s)) ?_ ?_
    · exact ⟨hsound₁, shielded_of_finished hsound₀ moves hcareful hfinished⟩
    · rintro s e t ⟨hsound, hshield⟩ ⟨hbefore, htime, hcareful⟩ hstep
      have moves := hsound.moves hstep
      exact ⟨hsound.keeps moves, (hshield hbefore).keeps hsound moves htime hcareful hbefore⟩
  exact (hshielded.2 hinterval).not_due hshielded.1 hinterval hsettled hearly hdue

/-- A remote subscription that is updated every two days, without nodes. -/
def scheduledState : AppState :=
  importCandidate { remoteImport noMetadata with updatePolicy := ⟨true, some 2880⟩ } [1] 1000 .empty

theorem scheduledState_valid (current : AppState) (h : some scheduledState = some current) :
    current.Valid :=
  AppState.validate_eq_ok.mp (Option.some.inj h ▸ (rfl : scheduledState.validate = .ok ()))

/-- A manager that has seen a fetch fail and could not save that. -/
def afterFailure : SchedulerState where
  stored := some scheduledState
  deadlines := [("sub-01", 345601000)]
  clock := 172801000
  writer := none
  remembered := [("sub-01", 2880)]
  finished := [("sub-01", 172801000), ("sub-01", 1000)]

/-- The failed fetch is not tried again for two days. -/
theorem attempts_spaced_afterFailure (now : UInt64) (ids : List String)
    (hearly : now < afterInterval 172801000 2880) (hdue : afterFailure.due now = .ok ids) :
    "sub-01" ∉ ids := by
  have htime : ∀ s : SchedulerState, s.OnTime (.beginUpdate "sub-01") := fun _ _ h => by cases h
  have hnow : (172801000 : UInt64) ≥ 1000 := by decide
  refine attempts_spaced remoteEnv (some scheduledState) 1000
    [.beginUpdate "sub-01", .fetched (.error .busy) 172801000] [] _ afterFailure afterFailure
    (.ended false) "sub-01" 172801000 now 2880 ids scheduledState_valid
    ((Runs.refl.tail (htime _) rfl).tail ?_ rfl) rfl ?_ ?_ rfl .refl rfl ?_ hearly hdue
  · intro time htime
    exact Option.some.inj htime ▸ hnow
  · intro time htime
    cases htime
  · intro attempt saved hwriter _ _ minutes hminutes
    obtain rfl := Writer.attempted.inj (Option.some.inj hwriter)
    exact ⟨2880, rfl, UInt32.le_of_eq (Option.some.inj hminutes).symm⟩
  · rintro ⟨attempt, shorter, hwriter, -⟩
    cases hwriter

/-- An edit of the schedule or the URL. -/
def scheduleEdit (urlReplacement : Option String) (intervalMinutes : Option UInt32) :
    EditSubscription :=
  { id := "sub-01", name := none, description := none, urlReplacement, remoteRequest := none
    updatePolicy := some ⟨none, some intervalMinutes⟩ }

/-- A new URL whose document does not parse: if the edit also asks for no interval and its failure
is not saved, the subscription is due again at once. -/
theorem attempt_without_deadline :
    ¬ AttemptsSpaced remoteEnv (fun _ _ => True) fun s _ _ => s.writer = none := by
  intro h
  have hedit : (1000 : UInt64) ≤ 172801000 := by decide
  refine h (some scheduledState) 1000
    [.beginEdit (scheduleEdit (some "https://example.invalid/new") none),
      .fetched (.ok (.modified "x" noMetadata none true)) 172801000] [] _
    { afterFailure with deadlines := [], remembered := [] } _ (.ended false) "sub-01" 172801000 172801000 2880
    ["sub-01"] scheduledState_valid ((Runs.refl.tail ?_ rfl).tail ?_ rfl) rfl ?_ trivial rfl .refl
    rfl rfl (by decide) rfl List.mem_cons_self
  · intro time htime
    cases htime
  · intro time htime
    exact Option.some.inj htime ▸ hedit
  · intro time htime
    cases htime

/-! ## A changed interval takes effect -/

namespace SchedulerState

variable {s t : SchedulerState} {e : SchedulerEvent} {id : String} {minutes : UInt32}

/-- An attempt of a subscription that was answered has not ended. -/
def InFlight (s : SchedulerState) (id : String) : Prop :=
  ∃ attempt, s.writer = some (.attempted attempt) ∧ attempt.id = id

/-- A step gives no subscription a new interval shorter than the one that the last attempt of
this process left a deadline for, and ends no attempt that left one for a longer interval than
the stored one. -/
def Timely (env : SubscriptionEnv) (s : SchedulerState) (e : SchedulerEvent) : Prop :=
  ∀ t, step env s e = some t →
    (∀ id minutes, t.interval? id = some minutes → s.interval? id ≠ some minutes →
      ∀ longer, s.remembered.lookup id = some longer → longer ≤ minutes) ∧
    ∀ attempt longer, s.writer = some (.attempted attempt) → t.writer = none →
      attempt.remembered.intervalMinutes = some longer →
      ∀ minutes, t.interval? attempt.id = some minutes → longer ≤ minutes

/-- A step that stores nothing is timely, if it ends no attempt with a longer interval. -/
theorem timely_of_stored (hstep : step env s e = some t) (hstored : t.stored = s.stored)
    (hended : ∀ attempt longer, s.writer = some (.attempted attempt) → t.writer = none →
      attempt.remembered.intervalMinutes = some longer →
      ∀ minutes, s.interval? attempt.id = some minutes → longer ≤ minutes) : s.Timely env e := by
  intro after hafter
  obtain rfl := Option.some.inj (hstep.symm.trans hafter)
  have hsame : ∀ id, t.interval? id = s.interval? id := fun id => by rw [interval?, hstored]; rfl
  refine ⟨fun id minutes hnew hold => absurd ((hsame id).symm.trans hnew) hold, ?_⟩
  intro attempt longer hwriter hnone hlonger minutes hminutes
  exact hended attempt longer hwriter hnone hlonger minutes ((hsame _).symm.trans hminutes)

/-- The last attempt of a subscription is its latest one. -/
theorem lastFinished_cons {name : String} {time : UInt64}
    (h : t.finished = (name, time) :: s.finished) (id : String) :
    t.lastFinished id = if name = id then max time (s.lastFinished id) else s.lastFinished id := by
  rw [lastFinished, h, List.filter_cons]
  by_cases hname : name = id
  · rw [if_pos (by simpa using hname), if_pos hname]
    rfl
  · rw [if_neg (by simpa using hname), if_neg hname]
    rfl

/-- An attempt that ends is one of the attempts that count. -/
theorem lastFinished_le {name : String} {time : UInt64}
    (h : t.finished = (name, time) :: s.finished) :
    time ≤ t.lastFinished name ∧ ∀ id, s.lastFinished id ≤ t.lastFinished id := by
  constructor
  · rw [lastFinished_cons h, if_pos rfl, UInt64.le_iff_toNat_le, max_toNat]
    exact Nat.le_max_left _ _
  · intro id
    rw [lastFinished_cons h]
    split
    · rw [UInt64.le_iff_toNat_le, max_toNat]
      exact Nat.le_max_right _ _
    · exact UInt64.le_refl _

/-- No attempt ended after the last one. -/
theorem le_lastFinished {time : UInt64} (h : (id, time) ∈ s.finished) :
    time ≤ s.lastFinished id := by
  have hmem : time ∈ (s.finished.filter (·.1 = id)).map (·.2) :=
    List.mem_map.mpr ⟨_, List.mem_filter.mpr ⟨h, by simp⟩, rfl⟩
  rw [lastFinished]
  generalize (s.finished.filter (·.1 = id)).map (·.2) = times at hmem
  induction times with
  | nil => cases hmem
  | cons first times ih =>
    rw [List.foldr_cons, UInt64.le_iff_toNat_le, max_toNat]
    cases hmem with
    | head => exact Nat.le_max_left _ _
    | tail _ hmem =>
      have hle := UInt64.le_iff_toNat_le.mp (ih hmem)
      exact Nat.le_trans hle (Nat.le_max_right _ _)

/-- No stored attempt is later than the last one that ended. -/
def Bounded (s : SchedulerState) : Prop := ∀ id base, s.base? id = some base → base ≤ s.lastFinished id

theorem bounded_start (stored : Option AppState) (clock : UInt64) : (start stored clock).Bounded := by
  intro id base hbase
  obtain ⟨sub, hsub, rfl⟩ := Option.map_eq_some_iff.mp hbase
  obtain ⟨hmem, hid⟩ := subscription?_found hsub
  exact le_lastFinished (List.mem_map.mpr ⟨sub, hmem, by rw [hid]⟩)

/-- An attempt that is saved bounds what is stored of it. -/
theorem Bounded.stamped (h : s.Bounded) {name : String} {now : UInt64} {after : AppState}
    (stamped : Stamped name now (s.stored.getD .empty) after) (hstored : t.stored = some after)
    (hfinished : t.finished = (name, now) :: s.finished) : t.Bounded := by
  obtain ⟨hnow, hlast⟩ := lastFinished_le hfinished
  intro id base hbase
  rw [base?, hstored, Option.getD_some] at hbase
  by_cases hid : id = name
  · subst hid
    obtain hbefore | ⟨before, hbefore, hle⟩ := (stamped.own _ hbase).2
    · exact UInt64.le_trans hbefore hnow
    · exact UInt64.le_trans hle (UInt64.le_trans (h _ _ hbefore) (hlast _))
  · rw [stamped.others _ hid] at hbase
    exact UInt64.le_trans (h _ _ hbase) (hlast _)

/-- **Step.**  No move stores an attempt that is later than the last one that ended. -/
theorem Bounded.keeps (h : s.Bounded) (moves : s.Moves env e t) : t.Bounded := by
  cases moves with
  | turn | answered => exact h
  | mutated kept valid => exact fun id base hbase => h id base ((base?_congr kept id).symm.trans hbase)
  | written idle unstamped => exact fun id base hbase => h id base (unstamped.kept _ _ hbase)
  | stamped idle attempt stamped => exact h.stamped stamped rfl rfl
  | dropped flight lost =>
    exact fun id base hbase => UInt64.le_trans (h _ _ hbase) ((lastFinished_le rfl).2 id)
  | @persisted attempt saved current after flight stored stamped =>
    have hcurrent : s.stored.getD .empty = current := by rw [stored, Option.getD_some]
    rw [← hcurrent] at stamped
    exact h.stamped stamped rfl rfl

/-- The attempt in flight has given its subscription a deadline. -/
def Replaced (s : SchedulerState) (id : String) : Prop :=
  ∃ attempt longer, s.writer = some (.attempted attempt) ∧ attempt.id = id ∧
    attempt.remembered.intervalMinutes = some longer

/-- Only an answered attempt has given a deadline before it ends. -/
theorem Unanswered.not_replaced (h : s.Unanswered) : ¬ s.Replaced id :=
  fun ⟨attempt, _, hwriter, _⟩ => h attempt hwriter

/-- A deadline of the process is that of an attempt which counts, with the interval it had. -/
def Explained (s : SchedulerState) : Prop :=
  ∀ id, ¬ s.Replaced id → s.deadlines.deadline id = 0 ∨
    ∃ longer, s.remembered.lookup id = some longer ∧
      s.deadlines.deadline id ≤ afterInterval (s.lastFinished id) longer

/-- At the start there is nothing to explain. -/
theorem explained_start (stored : Option AppState) (clock : UInt64) :
    (start stored clock).Explained :=
  fun _ _ => .inl rfl

/-- Later attempts leave a deadline as it was explained. -/
theorem Explained.stays (h : s.Explained) (hdeadlines : t.deadlines = s.deadlines)
    (hremembered : t.remembered = s.remembered)
    (hlast : ∀ id, s.lastFinished id ≤ t.lastFinished id) (hreplaced : ¬ s.Replaced id) :
    t.deadlines.deadline id = 0 ∨ ∃ longer, t.remembered.lookup id = some longer ∧
      t.deadlines.deadline id ≤ afterInterval (t.lastFinished id) longer := by
  rw [hdeadlines, hremembered]
  refine (h id hreplaced).imp_right ?_
  rintro ⟨longer, hlonger, hle⟩
  exact ⟨longer, hlonger, UInt64.le_trans hle
    (afterInterval_mono (hlast id) (UInt32.le_refl longer))⟩

/-- The end of an attempt explains the deadline that it has left. -/
theorem Explained.ended (h : s.Explained) (hsound : s.Sound) {attempt : FetchAttempt}
    (flight : s.writer = some (.attempted attempt)) (hdeadlines : t.deadlines = s.deadlines)
    (hremembered : t.remembered = s.remembered)
    (hfinished : t.finished = (attempt.id, attempt.attemptedAt) :: s.finished) : t.Explained := by
  obtain ⟨hattempted, hlast⟩ := lastFinished_le hfinished
  intro id _
  by_cases hreplaced : s.Replaced id
  · obtain ⟨other, longer, hother, rfl, hlonger⟩ := hreplaced
    rw [flight] at hother
    obtain rfl := Writer.attempted.inj (Option.some.inj hother)
    obtain ⟨hdeadline, hnoted⟩ := hsound.deadline attempt flight longer hlonger
    rw [hdeadlines, hremembered]
    exact .inr ⟨longer, hnoted, hdeadline ▸ afterInterval_mono hattempted (UInt32.le_refl longer)⟩
  · exact h.stays hdeadlines hremembered hlast hreplaced

/-- An answer leaves the deadlines of the other subscriptions alone, and its own if it has no
interval. -/
theorem deadline_answered {attempt : FetchAttempt} (hreplaced : ¬ (s.answered attempt).Replaced id) :
    (s.answered attempt).deadlines.deadline id = s.deadlines.deadline id ∧
      (s.answered attempt).remembered.lookup id = s.remembered.lookup id := by
  by_cases hid : attempt.id = id
  · cases hremembered : attempt.remembered.intervalMinutes with
    | none =>
      have hdeadlines : (s.answered attempt).deadlines = s.deadlines := remember_none hremembered
      have hnoted : (s.answered attempt).remembered = s.remembered :=
        FetchAttempt.note_none hremembered
      rw [hdeadlines, hnoted]
      exact ⟨rfl, rfl⟩
    | some longer => exact absurd ⟨attempt, longer, rfl, hid, hremembered⟩ hreplaced
  · exact ⟨@deadline_remember_of_ne { attempt.snapshot with updatePolicy := attempt.remembered }
      _ _ _ (Ne.symm hid), FetchAttempt.lookup_note_of_ne (Ne.symm hid)⟩

/-- **Step.**  Every deadline of the process goes back to an attempt and its interval. -/
theorem Explained.keeps (h : s.Explained) (hsound : s.Sound) (moves : s.Moves env e t) :
    t.Explained := by
  have hrefl : ∀ id, s.lastFinished id ≤ s.lastFinished id := fun _ => UInt64.le_refl _
  cases moves with
  | turn before after named => exact fun id _ => h.stays rfl rfl hrefl before.not_replaced
  | answered before named =>
    intro id hreplaced
    obtain ⟨hdeadline, hnoted⟩ := deadline_answered hreplaced
    rw [hdeadline, hnoted]
    exact h id before.not_replaced
  | mutated kept valid => exact h
  | written idle unstamped =>
    exact fun id _ => h.stays rfl rfl hrefl (Unanswered.of_idle idle).not_replaced
  | stamped idle attempt stamped =>
    exact fun id _ =>
      h.stays rfl rfl (lastFinished_le rfl).2 (Unanswered.of_idle idle).not_replaced
  | dropped flight lost => exact h.ended hsound flight rfl rfl rfl
  | persisted flight stored stamped => exact h.ended hsound flight rfl rfl rfl

/-- No deadline of the process is later than the interval of now after the last attempt. -/
def Current (s : SchedulerState) : Prop :=
  ∀ id minutes, s.interval? id = some minutes → ¬ s.Replaced id →
    s.deadlines.deadline id ≤ afterInterval (s.lastFinished id) minutes

theorem current_start (stored : Option AppState) (clock : UInt64) : (start stored clock).Current :=
  fun _ _ _ _ => UInt64.zero_le

/-- Where the deadline stays, a new interval that is no shorter than the one it was left for
keeps it in time. -/
theorem Current.stays (h : s.Current) (hexplained : s.Explained) (htimely : s.Timely env e)
    (hstep : step env s e = some t) (hinterval : t.interval? id = some minutes)
    (hdeadline : t.deadlines = s.deadlines) (hlast : ∀ id, s.lastFinished id ≤ t.lastFinished id)
    (hreplaced : ¬ s.Replaced id) :
    t.deadlines.deadline id ≤ afterInterval (t.lastFinished id) minutes := by
  rw [hdeadline]
  by_cases hold : s.interval? id = some minutes
  · exact UInt64.le_trans (h _ _ hold hreplaced)
      (afterInterval_mono (hlast id) (UInt32.le_refl minutes))
  · obtain hzero | ⟨longer, hlonger, hle⟩ := hexplained id hreplaced
    · rw [hzero]
      exact UInt64.zero_le
    · have hshorter := (htimely t hstep).1 id minutes hinterval hold longer hlonger
      exact UInt64.le_trans hle (afterInterval_mono (hlast id) hshorter)

/-- The end of an attempt leaves a deadline that is no later than the interval of then. -/
theorem Current.ended (h : s.Current) (hsound : s.Sound) (hexplained : s.Explained)
    (htimely : s.Timely env e) (hstep : step env s e = some t) {attempt : FetchAttempt}
    (flight : s.writer = some (.attempted attempt)) (hwriter : t.writer = none)
    (hdeadline : t.deadlines = s.deadlines)
    (hfinished : t.finished = (attempt.id, attempt.attemptedAt) :: s.finished) : t.Current := by
  obtain ⟨hattempted, hlast⟩ := lastFinished_le hfinished
  intro id minutes hinterval _
  by_cases hreplaced : s.Replaced id
  · obtain ⟨other, longer, hother, rfl, hlonger⟩ := hreplaced
    rw [flight] at hother
    obtain rfl := Writer.attempted.inj (Option.some.inj hother)
    have hle := (htimely t hstep).2 attempt longer flight hwriter hlonger minutes hinterval
    rw [hdeadline, (hsound.deadline attempt flight longer hlonger).1]
    exact afterInterval_mono hattempted hle
  · exact h.stays hexplained htimely hstep hinterval hdeadline hlast hreplaced

/-- One timely step keeps the deadlines in time. -/
theorem Current.keeps (h : s.Current) (hsound : s.Sound) (hexplained : s.Explained)
    (htimely : s.Timely env e) (hstep : step env s e = some t) : t.Current := by
  have hrefl : ∀ id, s.lastFinished id ≤ s.lastFinished id := fun _ => UInt64.le_refl _
  cases hsound.moves hstep with
  | turn before after named =>
    exact fun id minutes hinterval _ =>
      h.stays hexplained htimely hstep hinterval rfl hrefl before.not_replaced
  | answered before named =>
    intro id minutes hinterval hreplaced
    rw [(deadline_answered hreplaced).1]
    exact h id minutes hinterval before.not_replaced
  | mutated kept valid =>
    exact fun id minutes hinterval hreplaced =>
      h.stays hexplained htimely hstep hinterval rfl hrefl hreplaced
  | written idle unstamped =>
    exact fun id minutes hinterval _ =>
      h.stays hexplained htimely hstep hinterval rfl hrefl (Unanswered.of_idle idle).not_replaced
  | stamped idle attempt stamped =>
    exact fun id minutes hinterval _ =>
      h.stays hexplained htimely hstep hinterval rfl (lastFinished_le rfl).2
        (Unanswered.of_idle idle).not_replaced
  | dropped flight lost => exact h.ended hsound hexplained htimely hstep flight rfl rfl rfl
  | persisted flight stored stamped =>
    exact h.ended hsound hexplained htimely hstep flight rfl rfl rfl

/-- One interval after its last attempt a subscription is due, if and only if the deadline of the
process has passed by then. -/
theorem due_iff_deadline (hsound : s.Sound) (hbounded : s.Bounded) {sub : Subscription}
    (hsub : s.stored.bind (·.subscription? id) = some sub) (hremote : sub.source.isRemote = true)
    (hauto : sub.updatePolicy.allowAutoUpdate = true)
    (hminutes : sub.updatePolicy.intervalMinutes = some minutes) :
    (∀ now ids, afterInterval (s.lastFinished id) minutes ≤ now → s.due now = .ok ids → id ∈ ids) ↔
      s.deadlines.deadline id ≤ afterInterval (s.lastFinished id) minutes ∨
        maxSafeInteger < afterInterval (s.lastFinished id) minutes := by
  obtain ⟨current, hstored, hfound⟩ := Option.bind_eq_some_iff.mp hsub
  have hid := (subscription?_found hfound).2
  have hbase : sub.persistedBase ≤ s.lastFinished id := by
    apply hbounded
    rw [base?, hstored, Option.getD_some, AppState.base?, hfound]
    rfl
  have hpersisted : sub.persistedDeadline minutes ≤ afterInterval (s.lastFinished id) minutes :=
    afterInterval_mono hbase (UInt32.le_refl minutes)
  constructor
  · intro hdue
    by_cases hsafe : maxSafeInteger < afterInterval (s.lastFinished id) minutes
    · exact .inr hsafe
    · have hok : ∃ ids, s.due (afterInterval (s.lastFinished id) minutes) = .ok ids := by
        rw [due, hstored]
        exact ⟨_, ok_seq.mpr ⟨reject_eq_ok.mpr (by simpa using hsafe), rfl⟩⟩
      obtain ⟨ids, hids⟩ := hok
      have hmem := (mem_due hsound hids hsub).mp (hdue _ _ (UInt64.le_refl _) hids)
      obtain ⟨-, -, hdeadline, -⟩ := (isDue_iff hminutes).mp hmem
      exact .inl (hid ▸ hdeadline)
  · intro hdeadline now ids hnow hdue
    rw [mem_due hsound hdue hsub, isDue_iff hminutes, hid]
    refine ⟨hremote, hauto, ?_, UInt64.le_trans hpersisted hnow⟩
    cases hdeadline with
    | inl hdeadline => exact UInt64.le_trans hdeadline hnow
    | inr hunsafe =>
      rw [due, dueSubscriptionIds] at hdue
      obtain ⟨hnot, -⟩ := ok_seq.mp hdue
      have hlate := UInt64.lt_of_lt_of_le hunsafe hnow
      exact absurd hlate (by simpa using reject_eq_ok.mp hnot)

end SchedulerState

/-- One interval after its last attempt a subscription is due, with the interval of now, unless
an answered attempt of it has yet to end.  The steps meet `timely`. -/
def DueOnTime (env : SubscriptionEnv) (timely : SchedulerState → SchedulerEvent → Prop) : Prop :=
  ∀ (stored : Option AppState) (clock : UInt64) (events : List SchedulerEvent) (s : SchedulerState)
    (id : String) (sub : Subscription) (minutes : UInt32) (now : UInt64) (ids : List String),
    (∀ current, stored = some current → current.Valid) →
    Runs (step env) timely (start stored clock) events s →
    s.stored.bind (·.subscription? id) = some sub → sub.source.isRemote = true →
    sub.updatePolicy.allowAutoUpdate = true → sub.updatePolicy.intervalMinutes = some minutes →
    ¬ s.InFlight id → afterInterval (s.lastFinished id) minutes ≤ now → s.due now = .ok ids →
    id ∈ ids

/-- **A changed interval takes effect**, in every run where no interval becomes shorter than the
one that the last attempt of the process left a deadline for. -/
theorem due_on_time (env : SubscriptionEnv) : DueOnTime env (Timely env) := by
  intro stored clock events s id sub minutes now ids hvalid run hsub hremote hauto hminutes hidle
    hnow hdue
  have hinvariant : s.Sound ∧ s.Bounded ∧ s.Explained ∧ s.Current := by
    refine run.invariant (fun s => s.Sound ∧ s.Bounded ∧ s.Explained ∧ s.Current) ?_ ?_
    · exact ⟨sound_start hvalid, bounded_start stored clock, explained_start stored clock,
        current_start stored clock⟩
    · rintro s e t ⟨hsound, hbounded, hexplained, hcurrent⟩ htimely hstep
      have moves := hsound.moves hstep
      exact ⟨hsound.keeps moves, hbounded.keeps moves, hexplained.keeps hsound moves,
        hcurrent.keeps hsound hexplained htimely hstep⟩
  obtain ⟨hsound, hbounded, -, hcurrent⟩ := hinvariant
  have hinterval : s.interval? id = some minutes := by rw [interval?, hsub]; exact hminutes
  have hreplaced : ¬ s.Replaced id := fun ⟨attempt, _, hwriter, hid, _⟩ =>
    hidle ⟨attempt, hwriter, hid⟩
  exact (due_iff_deadline hsound hbounded hsub hremote hauto hminutes).mpr
    (.inl (hcurrent _ _ hinterval hreplaced)) now ids hnow hdue

/-- The interval is made three days after the fetch has failed. -/
def lengthened : SchedulerState :=
  { afterFailure with
    stored := some (importCandidate
      { remoteImport noMetadata with updatePolicy := ⟨true, some 4320⟩ } [1] 1000 .empty) }

theorem step_lengthened :
    step remoteEnv afterFailure (.write (.edit (scheduleEdit none (some 4320)))) =
      some lengthened := by
  rfl

/-- The longer interval is no shorter than the one that the fetch left a deadline for. -/
theorem timely_lengthened :
    afterFailure.Timely remoteEnv (.write (.edit (scheduleEdit none (some 4320)))) := by
  intro after hafter
  obtain rfl := Option.some.inj (step_lengthened.symm.trans hafter)
  refine ⟨fun id minutes hnew _ longer hlonger => ?_, fun _ _ hwriter => by cases hwriter⟩
  have hremembered : longer = 2880 := by
    rw [afterFailure, List.lookup_cons] at hlonger
    split at hlonger
    · exact (Option.some.inj hlonger).symm
    · cases hlonger
  have hminutes : minutes = 4320 := by
    obtain ⟨sub, hsub, hminutes⟩ := Option.bind_eq_some_iff.mp hnew
    obtain ⟨current, hstored, hfound⟩ := Option.bind_eq_some_iff.mp hsub
    cases hstored
    rw [List.mem_singleton.mp (subscription?_found hfound).1] at hminutes
    exact (Option.some.inj hminutes).symm
  rw [hremembered, hminutes]
  decide

/-- The failed fetch and the longer interval: the subscription is due three days after the
attempt. -/
theorem due_on_time_lengthened (now : UInt64) (ids : List String)
    (hnow : afterInterval 172801000 4320 ≤ now) (hdue : lengthened.due now = .ok ids) :
    "sub-01" ∈ ids := by
  have hbegin : (start (some scheduledState) 1000).Timely remoteEnv (.beginUpdate "sub-01") :=
    timely_of_stored rfl rfl fun _ _ hwriter => by cases hwriter
  refine due_on_time remoteEnv (some scheduledState) 1000
    [.beginUpdate "sub-01", .fetched (.error .busy) 172801000, .ended false,
      .write (.edit (scheduleEdit none (some 4320)))] lengthened "sub-01" _ 4320 now ids
    scheduledState_valid
    ((((Runs.refl.tail hbegin rfl).tail ?_ rfl).tail ?_ rfl).tail timely_lengthened
      step_lengthened) rfl rfl rfl rfl ?_ hnow hdue
  · exact timely_of_stored rfl rfl fun _ _ hwriter => by cases hwriter
  · refine timely_of_stored rfl rfl fun attempt longer hwriter _ hlonger minutes hminutes => ?_
    obtain rfl := Writer.attempted.inj (Option.some.inj hwriter)
    have hstored : (2880 : UInt32) = minutes := Option.some.inj hminutes
    have hremembered : (2880 : UInt32) = longer := Option.some.inj hlonger
    exact UInt32.le_of_eq (hremembered.symm.trans hstored)
  · rintro ⟨attempt, hwriter, -⟩
    cases hwriter

/-- The interval is made a day, and two days are waited for all the same. -/
theorem shorter_interval_waits : ¬ DueOnTime remoteEnv OnTime := by
  intro h
  have hnow : (1000 : UInt64) ≤ 172801000 := by decide
  have hmem := h (some scheduledState) 1000
    [.beginUpdate "sub-01", .fetched (.error .busy) 172801000, .ended false,
      .write (.edit (scheduleEdit none (some 1440)))] _ "sub-01" _ 1440 259201000 []
    scheduledState_valid ((((Runs.refl.tail ?_ rfl).tail ?_ rfl).tail ?_ rfl).tail ?_ rfl) rfl rfl
    rfl rfl ?_ ?_ rfl
  · cases hmem
  · intro time htime
    cases htime
  · intro time htime
    exact Option.some.inj htime ▸ hnow
  · intro time htime
    cases htime
  · intro time htime
    cases htime
  · rintro ⟨attempt, hwriter, -⟩
    cases hwriter
  · decide

end Veyra
