import Veyra.Application.ManagerRules

/-!
# Veyra.Application.CallRules

The calls of the controller keep the rules of the threads: a call takes its
guards, hands them to its request or gives them back, and ends without any
(`Finishes`); a shutdown that returns `true` has learned that it is complete
(`wp_shutdown`).
-/

namespace Veyra

open Check Threads Function

namespace Controller

variable {P Bytes Value ι α β : Type}

/-! ## Guards of a request -/

/-- A thread that has no guards, and nothing that goes with them. -/
structure Idle (g : Ghost) : Prop where
  owns : ∀ lock, g.owns lock = false
  entered : g.entered = false
  seen : g.seen = none
  selected : g.selected = none
  stopped : g.stopped = false

/-- An idle thread is outside every manager. -/
theorem Idle.outside {g : Ghost} (h : Idle g) : Outside g :=
  ⟨⟨h.owns _, h.seen⟩, h.owns _, h.entered, h.selected⟩

/-- A call that finishes, with `g'`. -/
def Finishes (i : Thread ι) (g g' : Ghost) (p : Task P Bytes Outcome) : Prop :=
  p.wp rules i g fun outcome last => outcome = .finished ∧ last = g'

section Guards

variable {i : Thread ι} {g : Ghost} {request : WorkerRequest Bytes}

/-- A call goes on from the thread that its first part leaves. -/
theorem Finishes.next {last : Ghost} {p : Task P Bytes α} {f : α → Task P Bytes Outcome}
    {h : α → Ghost} (hp : p.wp rules i g fun a g' => g' = h a)
    (hf : ∀ a, Finishes i (h a) last (f a)) : Finishes i g last (p >>= f) :=
  wp_next hp hf

/-- A neutral part comes before the rest. -/
theorem Finishes.bind {last : Ghost} {p : Task P Bytes α} {f : α → Task P Bytes Outcome}
    (hp : Neutral i g p) (hf : ∀ a, Finishes i g last (f a)) : Finishes i g last (p >>= f) :=
  .next hp hf

/-- A call that has finished. -/
theorem Finishes.done : Finishes i g g (pure .finished : Task P Bytes Outcome) := ⟨rfl, rfl⟩

/-- No request carries the gate, or the guard of the shutdowns. -/
theorem guards_split (request : WorkerRequest Bytes) : request.guards = fun lock =>
    request.guards .runtime && lock = .runtime || request.guards .writes && lock = .writes := by
  funext lock
  cases request <;> cases lock <;> simp [WorkerRequest.guards]

/-- Guards that are given away twice. -/
theorem Ghost.without_without (dropped dropped' : Lock → Bool) :
    (g.without dropped).without dropped' = g.without fun lock => dropped lock || dropped' lock := by
  cases hgate : dropped .gate <;> cases hwrites : dropped .writes <;>
    simp [Ghost.without, Bool.and_assoc, hgate, hwrites]

theorem Ghost.without_none : g.without (fun _ => false) = g := by
  simp [Ghost.without]

/-- Guards were taken over and are given away again. -/
theorem Ghost.give_receive (h : Idle g) {request' : WorkerRequest Bytes}
    (hguards : request'.guards = request.guards) :
    (g.receive request).give request' =
      { g with quiet := g.quiet || request.isShutdown, serving := true } := by
  rw [Ghost.give, hguards]
  refine Ghost.ext (funext fun lock => ?_) ?_ rfl rfl rfl rfl rfl rfl rfl rfl ?_ ?_ ?_ rfl rfl rfl
  · cases hlock : request.guards lock <;> simp [Ghost.without, Ghost.receive, h.owns lock, hlock]
  · cases hlock : request.guards .writes <;>
      simp [Ghost.without, Ghost.receive, h.entered, hlock]
  · simp [Ghost.without, Ghost.receive, h.seen]
  · rw [Ghost.without, Ghost.receive, h.selected]
    dsimp only
    cases hwrites : request.guards .writes with
    | true => rfl
    | false =>
      by_contra hintends
      obtain ⟨selection, hselection⟩ := Option.ne_none_iff_exists'.mp hintends
      rw [if_neg (by simp)] at hselection
      rw [request.writes_of_intends hselection] at hwrites
      cases hwrites
  · simp [Ghost.without, Ghost.receive, h.stopped]

/-- A guard is given back, if it is there. -/
theorem wp_unlockIf {lock : Lock} {held : Bool} (owned : held = true → g.owns lock = true) :
    ((if held then unlock lock else pure ()) : Task P Bytes Unit).wp rules i g fun _ g' =>
      g' = g.without fun l => held && l = lock := by
  cases held with
  | false => exact Ghost.without_none.symm
  | true =>
    refine wp_unlock (owned rfl) ?_
    simp [Ghost.release]

/-- The guards of a request are given away with it. -/
theorem wp_dropGuards (howns : ∀ lock, request.guards lock = true → g.owns lock = true) :
    (dropGuards request : Task P Bytes Unit).wp rules i g fun _ g' => g' = g.give request := by
  have hparts : (dropGuards request : Task P Bytes Unit) =
      (if request.guards .runtime then unlock .runtime else pure ()) >>= fun _ =>
        if request.guards .writes then unlock .writes else pure () := by
    rw [dropGuards]
    cases request.guards .runtime <;> rfl
  rw [hparts]
  refine wp_then (wp_unlockIf (howns .runtime)) fun _ g' hg => ?_
  subst hg
  refine Code.wp_mono (fun _ g' hg => ?_) (wp_unlockIf fun hwrites => ?_)
  · rw [hg, Ghost.without_without, Ghost.give]
    exact congrArg g.without (guards_split request).symm
  · simp [Ghost.without, howns .writes hwrites]

/-- A lock is tried. -/
theorem wp_tryLock (lock : Lock) :
    (tryLock lock : Task P Bytes Bool).wp rules i g fun taken g' =>
      g' = if taken then g.take lock else g := by
  intro taken _
  cases taken with
  | false => exact ⟨g, .refused, rfl⟩
  | true => exact ⟨_, .taken, rfl⟩

/-- **The rule of the channel.**  A request takes its guards with it, or loses them. -/
theorem wp_dispatch (howns : ∀ lock, request.guards lock = true → g.owns lock = true)
    (hentered : request.guards .writes = true → g.entered = true)
    (hrequest : request.isShutdown = false)
    (hintends : ∀ selection, request.intends = some selection → g.selected = some selection)
    (hplanned : request.Planned) :
    (dispatch request : Task P Bytes Bool).wp rules i g fun _ g' => g' = g.give request := by
  intro sent _
  cases sent with
  | true =>
    exact ⟨_, .sent howns hentered (fun h => (by rw [hrequest] at h; cases h)) hintends hplanned, rfl⟩
  | false =>
    have hdropped : (dropGuards request >>= fun _ => pure false : Task P Bytes Bool).wp rules i g
        fun _ g' => g' = g.give request := wp_then (wp_dropGuards howns) fun _ _ hg => hg
    exact ⟨g, .unsent, hdropped⟩

/-- The flag is read again once the write guard is there. -/
theorem wp_readOpen (owned : g.owns .writes = true) :
    (read .closing : Task P Bytes Bool).wp rules i g fun closing g' =>
      g' = if closing then g else { g with entered := true } := by
  intro closing _
  cases closing with
  | true => exact ⟨g, .read, rfl⟩
  | false => exact ⟨_, .enter owned, rfl⟩

/-- `begin_write_owned`. -/
theorem wp_beginWriteOwned (hfree : g.owns .writes = false) (hentered : g.entered = false)
    (hselected : g.selected = none) :
    (beginWriteOwned : Task P Bytes Bool).wp rules i g fun begun g' =>
      g' = if begun then g.enter else g := by
  rw [beginWriteOwned]
  refine wp_next (Neutral.read _) fun closing => ?_
  cases closing with
  | true => exact rfl
  | false =>
    refine wp_next (wp_tryLock .writes) fun taken => ?_
    cases taken with
    | false => exact rfl
    | true =>
      refine wp_next (wp_readOpen (Ghost.take_owns _)) fun closing => ?_
      cases closing with
      | false => exact rfl
      | true =>
        exact wp_unlock (Ghost.take_owns _)
          (Ghost.release_take hfree (fun _ => ⟨hentered, hselected⟩) (by simp) (by simp))

/-- The guards that a call takes. -/
def callGuards (subscription : Bool) (lock : Lock) : Bool :=
  lock = .runtime || subscription && lock = .writes

/-- With the guards that a call takes. -/
def Ghost.guarded (g : Ghost) (subscription : Bool) : Ghost :=
  { g with
    owns := fun lock => g.owns lock || callGuards subscription lock
    entered := g.entered || subscription }

/-- The guards of a call are given away, with what it knows by them. -/
theorem Ghost.without_guarded (h : Idle g) {subscription : Bool}
    (selected : Option (SubscriptionId × UInt64)) (stopped : Bool)
    (hselected : subscription = false → selected = none) :
    ({ g.guarded subscription with selected, stopped } : Ghost).without (callGuards subscription) =
      g := by
  refine Ghost.ext (funext fun lock => ?_) ?_ rfl rfl rfl rfl rfl rfl rfl rfl ?_ ?_ ?_ rfl rfl rfl
  · cases hlock : callGuards subscription lock <;>
      simp [Ghost.without, Ghost.guarded, h.owns]
  · cases subscription <;> simp [Ghost.without, Ghost.guarded, callGuards, h.entered]
  · simp [Ghost.without, Ghost.guarded, h.seen]
  · cases subscription with
    | false => simp [Ghost.without, callGuards, h.selected, hselected rfl]
    | true => simp [Ghost.without, callGuards, h.selected]
  · simp [Ghost.without, callGuards, h.stopped]

/-- The runtime guard alone. -/
theorem Ghost.take_runtime : g.take .runtime = g.guarded false := by
  refine Ghost.ext (funext fun lock => ?_) ?_ rfl rfl rfl rfl rfl rfl rfl rfl rfl rfl rfl rfl rfl rfl
  · cases lock <;> simp [Ghost.take, Ghost.guarded, callGuards]
  · simp [Ghost.take, Ghost.guarded]

/-- `acquire_guards`. -/
theorem wp_acquireGuards (h : Idle g) (subscription : Bool) :
    (acquireGuards subscription : Task P Bytes Bool).wp rules i g fun taken g' =>
      g' = if taken then g.guarded subscription else g := by
  rw [acquireGuards]
  refine wp_next (wp_tryLock .runtime) fun taken => ?_
  cases taken with
  | false => exact rfl
  | true =>
    have hwrites : (g.take .runtime).owns .writes = false := by
      simp [Ghost.take, h.owns]
    cases subscription with
    | false => exact Ghost.take_runtime
    | true =>
      refine wp_next (wp_beginWriteOwned hwrites h.entered h.selected) fun begun => ?_
      cases begun with
      | false =>
        exact wp_unlock (Ghost.take_owns _)
          (Ghost.release_take (h.owns _) (by simp) (fun _ => h.stopped) (by simp))
      | true =>
        refine Ghost.ext (funext fun lock => ?_) ?_ rfl rfl rfl rfl rfl rfl rfl rfl rfl rfl rfl rfl
          rfl rfl
        · cases lock <;> simp [Ghost.enter, Ghost.take, Ghost.guarded, callGuards, h.owns]
        · simp [Ghost.enter, Ghost.guarded]

end Guards

/-! ## The calls -/

section Calls

variable {i : Thread ι} {g : Ghost}

/-- A change that leaves the runtime alone. -/
theorem Neutral.note {change : ManagedRuntime P Bytes → ManagedRuntime P Bytes}
    (notes : Notes change) : Neutral i g (touch change : Task P Bytes (ManagedRuntime P Bytes)) :=
  .act (fun _ _ => .note notes) fun _ _ => rfl

/-- A look at the memory. -/
theorem Notes.look : Notes (fun w : ManagedRuntime P Bytes => w) := fun w => ⟨.refl w, rfl⟩

/-- A failure that is recorded. -/
theorem Notes.failure (failure : ManagedRuntimeFailure) :
    Notes (fun w : ManagedRuntime P Bytes => w.record (.managedFailure none failure)) :=
  fun w => ⟨(ManagedRuntime.Unmoved.refl w).failure failure, rfl⟩

theorem Neutral.answered : Neutral i g (answered : Task P Bytes Unit) := by
  refine .bind .ask fun told => ?_
  split
  · exact .bind (.note (.failure _)) fun _ => rfl
  · exact rfl

/-- The runtime guard of a call is given back. -/
theorem wp_unlockRuntime (h : Idle g) (stopped : Bool) :
    (unlock .runtime : Task P Bytes Unit).wp rules i { g.guarded false with stopped }
      fun _ g' => g' = g := by
  refine wp_unlock (by simp [Ghost.guarded, callGuards]) ?_
  have hguards : (fun lock => decide (lock = Lock.runtime)) = callGuards false := by
    funext lock
    simp [callGuards]
  rw [Ghost.release, hguards]
  exact Ghost.without_guarded h g.selected stopped fun _ => h.selected

/-- Both guards of a call are given back, then the rest. -/
theorem Finishes.unlockBoth (h : Idle g) (selected : Option (SubscriptionId × UInt64)) {last : Ghost}
    {f : Task P Bytes Outcome} (hf : Finishes i g last f) :
    Finishes i { g.guarded true with selected } last (do unlock .runtime; unlock .writes; f) := by
  have hguards : (fun lock => decide (lock = Lock.runtime) || decide (lock = .writes)) =
      callGuards true := by
    funext lock
    simp [callGuards]
  have hboth : (({ g.guarded true with selected } : Ghost).release .runtime).release .writes = g := by
    rw [Ghost.release, Ghost.release, Ghost.without_without, hguards]
    exact Ghost.without_guarded h selected g.stopped fun hfalse => by cases hfalse
  refine .next (h := fun _ => ({ g.guarded true with selected } : Ghost).release .runtime)
    (wp_unlock (by simp [Ghost.guarded, callGuards]) rfl) fun _ => ?_
  refine .next (h := fun _ => g) (wp_unlock ?_ hboth) fun _ => hf
  simp [Ghost.release, Ghost.without, Ghost.guarded, callGuards]

/-- A request is sent with the guards that the call has taken for it. -/
theorem wp_dispatchSelected (h : Idle g) {request : WorkerRequest Bytes} {subscription : Bool}
    {selected : Option (SubscriptionId × UInt64)} (hselected : subscription = false → selected = none)
    (hguards : request.guards = callGuards subscription) (hrequest : request.isShutdown = false)
    (hintends : ∀ selection, request.intends = some selection → selected = some selection)
    (hplanned : request.Planned) :
    (dispatch request : Task P Bytes Bool).wp rules i { g.guarded subscription with selected }
      fun _ g' => g' = g := by
  have hgiven : ({ g.guarded subscription with selected } : Ghost).give request = g := by
    rw [Ghost.give, hguards]
    exact Ghost.without_guarded h selected g.stopped hselected
  refine Code.wp_mono (fun _ g' hg => hg.trans hgiven) (wp_dispatch (fun lock hlock => ?_) ?_
    hrequest hintends hplanned)
  · rw [hguards] at hlock
    simp [Ghost.guarded, hlock]
  · intro hwrites
    rw [hguards] at hwrites
    have hsubscription : subscription = true := by simpa [callGuards] using hwrites
    simp [Ghost.guarded, hsubscription]

/-- The same for a request that intends nothing. -/
theorem wp_dispatchGuarded (h : Idle g) {request : WorkerRequest Bytes} {subscription : Bool}
    (hguards : request.guards = callGuards subscription) (hrequest : request.isShutdown = false)
    (hintends : request.intends = none) (hplanned : request.Planned) :
    (dispatch request : Task P Bytes Bool).wp rules i (g.guarded subscription)
      fun _ g' => g' = g := by
  have hnone : g.guarded subscription = { g.guarded subscription with selected := none } :=
    Ghost.ext rfl rfl rfl rfl rfl rfl rfl rfl rfl rfl rfl h.selected rfl rfl rfl rfl
  rw [hnone]
  refine wp_dispatchSelected h (fun _ => rfl) hguards hrequest (fun selection hselection => ?_) hplanned
  rw [hintends] at hselection
  cases hselection

/-- A call takes its guards, or is done. -/
theorem Finishes.guarded (h : Idle g) {subscription : Bool} {f : Task P Bytes Outcome}
    (hf : Finishes i (g.guarded subscription) g f) :
    Finishes i g g (do
      let taken ← acquireGuards subscription
      if !taken then pure .finished else f) := by
  refine .next (wp_acquireGuards h subscription) fun taken => ?_
  cases taken with
  | false => exact .done
  | true => exact hf

/-- The guards of a call are not the gate. -/
theorem guarded_gate (h : Idle g) (subscription : Bool) : Gateless (g.guarded subscription) :=
  ⟨by simp [Ghost.guarded, callGuards, h.owns], h.seen⟩

/-- With both guards a call may write. -/
theorem guarded_mayWrite : MayWrite i (g.guarded true) := .inl (by simp [Ghost.guarded])

/-- With both guards it has entered. -/
theorem guarded_entered (h : Idle g) : Entered (g.guarded true) :=
  ⟨guarded_gate h true, by simp [Ghost.guarded]⟩

/-- What a capture changes is what is known to be selected. -/
theorem Ghost.captured_eq {ε : Type} (g : Ghost) (loaded : Except ε AppState) :
    g.captured loaded = { g with selected := (g.captured loaded).selected } := by
  cases loaded <;> rfl

/-- The intent of a start is what its state selects. -/
theorem Ghost.selected_of_intent {loaded : Except LoadRuntimeIntentError AppState}
    {intent : SelectedRuntimeProjection} (h : ManagedRuntime.loadRuntimeIntent loaded = .ok intent) :
    (g.captured loaded).selected =
      some (intent.selectedSubscriptionId, intent.selectedGeneration) := by
  obtain ⟨state, rfl, h⟩ := ok_bind.mp h
  obtain ⟨-, h⟩ := ok_seq.mp h
  exact selection_of_project (mapError_eq_ok.mp h)

/-- `start` gives back what it takes. -/
theorem Finishes.start (h : Idle g) :
    Finishes i g g (Controller.start : Task P Bytes Outcome) := by
  rw [Controller.start]
  refine .bind (.read _) fun requested => ?_
  split
  · exact .done
  · have hloads : (loadState .starting : Task P Bytes _).wp rules i (g.guarded true)
        fun loaded g' => g' = (g.guarded true).captured loaded :=
      wp_capture (fun _ => .managerAnswers) (guarded_gate h true) guarded_mayWrite
        (by simp [Ghost.guarded, callGuards])
    refine .guarded h (.next hloads fun loaded => ?_)
    rw [Ghost.captured_eq]
    split
    · split
      · exact .bind (.note (.failure _)) fun _ => .unlockBoth h _ .done
      · exact .unlockBoth h _ .done
    · next intent hintent =>
      refine .next (wp_dispatchSelected h nofun ?_ rfl (fun selection hselection => ?_) trivial)
        fun sent => ?_
      · funext lock
        cases lock <;> simp [WorkerRequest.guards, callGuards]
      · rw [Ghost.selected_of_intent hintent]
        exact hselection
      · split
        · exact .bind .answered fun _ => .done
        · exact .done

/-- So does `stop`. -/
theorem Finishes.stop (h : Idle g) : Finishes i g g (Controller.stop : Task P Bytes Outcome) := by
  rw [Controller.stop]
  refine .bind (.read _) fun requested => .guarded h ?_
  refine .next (wp_dispatchGuarded h ?_ rfl rfl trivial) fun sent => ?_
  · funext lock
    cases lock <;> simp [WorkerRequest.guards, callGuards]
  · split
    · exact .bind .answered fun _ => .done
    · exact .done

/-- A refusal needs no guard. -/
theorem Finishes.refuse (call : ActivationCall) (error : ActivationError)
    (observed : Option AppState) :
    Finishes i g g (Controller.refuse call error observed : Task P Bytes Outcome) :=
  .bind (.note fun w => ManagedRuntime.Unmoved.recordRefusal w call error observed) fun _ => .done

/-- A request is sent with the plan that was made for it. -/
theorem planned_of_preflight [DecidableEq Value] {env : RuntimeEnv P Bytes Value}
    {w : ManagedRuntime P Bytes} {call : ActivationCall} {a : PreflightAnswers} {expected : AppState}
    {request : ActivationRequest Bytes}
    (h : w.preflight env call a expected = .ok (.send request)) :
    (WorkerRequest.activate request).Planned := by
  obtain ⟨hplan, -⟩ := ManagedRuntime.preflight_send h
  obtain ⟨hexpected, -⟩ := planActivation_ok hplan
  rw [← hexpected] at hplan
  exact ⟨_, _, _, hplan⟩

/-- An activation hands its guards over with its request, or gives them back. -/
theorem Finishes.activateLoaded [DecidableEq Value] (h : Idle g) (env : RuntimeEnv P Bytes Value)
    (call : ActivationCall) (expected : AppState) :
    Finishes i (g.guarded true) g (Controller.activateLoaded env call expected) := by
  rw [Controller.activateLoaded]
  refine .bind (.note fun w => ManagedRuntime.Unmoved.queueRouting w call expected) fun _ =>
    .bind .ask fun told => .bind (.note .look) fun w => ?_
  split
  · exact .unlockBoth h _ (.refuse call _ _)
  · exact .unlockBoth h _ .done
  · next hsend =>
    refine .next (wp_dispatchGuarded h ?_ rfl rfl (planned_of_preflight hsend)) fun sent => ?_
    · funext lock
      cases lock <;> simp [WorkerRequest.guards, callGuards]
    · split
      · exact .done
      · exact .refuse call _ _

/-- `activate` gives back what it takes. -/
theorem Finishes.activate [DecidableEq Value] (h : Idle g) (env : RuntimeEnv P Bytes Value)
    (call : ActivationCall) : Finishes i g g (Controller.activate env call) := by
  rw [Controller.activate]
  refine .bind (.read _) fun requested => ?_
  split
  · exact .refuse call _ _
  · split
    · exact .refuse call _ _
    · refine .next (wp_acquireGuards h true) fun taken => ?_
      cases taken with
      | false => exact .refuse call _ _
      | true =>
        refine .bind (guarded_entered h).captures.neutral fun loaded => ?_
        cases loaded with
        | error e => exact .unlockBoth h _ (.refuse call _ _)
        | ok expected => exact .activateLoaded h env call expected

/-- So does a document save. -/
theorem Finishes.saveDocument (h : Idle g) (input : DocumentSaveInput) (operationId : String) :
    Finishes i g g (Controller.saveDocument input operationId : Task P Bytes Outcome) := by
  rw [Controller.saveDocument]
  refine .bind (.read _) fun requested => ?_
  split
  · exact .done
  · refine .next (wp_tryLock .runtime) fun taken => ?_
    cases taken with
    | false => exact .done
    | true =>
      rw [if_pos rfl, Ghost.take_runtime]
      refine .bind .ask fun told => ?_
      split
      · exact .next (wp_unlockRuntime h _) fun _ => .done
      · refine .next (wp_dispatchGuarded h ?_ rfl rfl trivial) fun sent => .done
        funext lock
        cases lock <;> simp [WorkerRequest.guards, callGuards]

/-- So does a look at the running configuration. -/
theorem Finishes.runningConfiguration (h : Idle g) :
    Finishes i g g (Controller.runningConfiguration : Task P Bytes Outcome) := by
  refine .guarded h (.next (wp_dispatchGuarded h ?_ rfl rfl trivial) fun sent => .done)
  funext lock
  cases lock <;> simp [WorkerRequest.guards, callGuards]

/-- So does a selection by hand. -/
theorem Finishes.reconcileManualSelection (h : Idle g) (poolId : PoolId) (nodeId : NodeId) :
    Finishes i g g (Controller.reconcileManualSelection poolId nodeId : Task P Bytes Outcome) := by
  rw [Controller.reconcileManualSelection]
  refine .bind (.read _) fun requested => ?_
  split
  · exact .done
  · refine .guarded h (.next (wp_dispatchGuarded h ?_ rfl rfl trivial) fun sent => .done)
    funext lock
    cases lock <;> simp [WorkerRequest.guards, callGuards]

/-- A look at what is shown, with the guard of the runtime in hand. -/
theorem wp_seesStopped (owned : g.owns .runtime = true) :
    (touch fun w => w : Task P Bytes (ManagedRuntime P Bytes)).wp rules i g fun w g' =>
      g' = if w.observations.sidecarLifecycle = .stopped then { g with stopped := true } else g := by
  intro w _
  by_cases hstopped : w.observations.sidecarLifecycle = .stopped
  · exact ⟨_, .stopped .look owned hstopped, (if_pos hstopped).symm⟩
  · exact ⟨g, .note .look, (if_neg hstopped).symm⟩

/-- So does a deletion. -/
theorem Finishes.delete (h : Idle g) (id : String) :
    Finishes i g g (Controller.delete id : Task P Bytes Outcome) := by
  have houtside : ∀ stopped, Outside { g.guarded false with stopped } := by
    intro stopped
    refine ⟨⟨(guarded_gate h false).gate, h.seen⟩, ?_, ?_, h.selected⟩
    · simp [Ghost.guarded, callGuards, h.owns]
    · simp [Ghost.guarded, h.entered]
  refine .guarded h (.next (wp_seesStopped (by simp [Ghost.guarded, callGuards])) fun w => ?_)
  by_cases hstopped : w.observations.sidecarLifecycle = .stopped
  · rw [if_pos hstopped]
    exact .bind ((houtside true).delete id fun _ => rfl).neutral fun _ =>
      .next (wp_unlockRuntime h true) fun _ => .done
  · rw [if_neg hstopped]
    exact .bind ((houtside _).delete id fun hseen => absurd (of_decide_eq_true hseen) hstopped).neutral
      fun _ => .next (wp_unlockRuntime h _) fun _ => .done

/-- So does every operation of a manager. -/
theorem Finishes.called {ε : Type} {writer : Writer} {attempt : Attempt ε α}
    (h : Keeps (managerAnswers : Task P Bytes Answers) writer i g attempt) :
    Finishes i g g (Controller.called writer attempt : Task P Bytes Outcome) :=
  .bind h.neutral fun _ => .done

/-! ### Shutdown -/

/-- The manager is closed, the scheduler gone, and now nobody has the write guard. -/
theorem wp_isQuiet (armed : g.armed = true) (alone : g.alone = true) :
    (isLocked .writes : Task P Bytes Bool).wp rules i g fun writing g' =>
      g' = if writing then g else { g with quiet := true } := by
  intro writing _
  cases writing with
  | true => exact ⟨g, .isLocked, rfl⟩
  | false => exact ⟨_, .quiet armed alone, rfl⟩

/-- Nobody may write: seen with the gate in hand, after the manager was closed. -/
theorem wp_quiescentWithin (hgate : Gateless g) (armed : g.armed = true)
    (alone : g.alone = true) (rounds : Nat) :
    (quiescentWithin rounds : Task P Bytes Bool).wp rules i g fun quiescent g' =>
      g' = if quiescent then { g with quiet := true } else g := by
  induction rounds with
  | zero => exact rfl
  | succ rounds ih =>
    have hlooks : Neutral i g (isLocked .writes : Task P Bytes Bool) := fun _ _ => ⟨g, .isLocked, rfl⟩
    rw [quiescentWithin]
    refine wp_next hlooks fun writing => ?_
    split
    · exact ih
    · refine wp_next (wp_tryLock .gate) fun taken => ?_
      cases taken with
      | false => exact ih
      | true =>
        refine wp_next (wp_isQuiet armed alone) fun writing => ?_
        cases writing with
        | true =>
          exact wp_next (h := fun _ => g) (wp_unlock (Ghost.take_owns _)
            (Ghost.release_take hgate.gate (by simp) (by simp) fun _ => hgate.seen)) fun _ => ih
        | false =>
          have hquiet : Gateless { g with quiet := true } := ⟨hgate.gate, hgate.seen⟩
          exact wp_next (h := fun _ => { g with quiet := true })
            (wp_unlock (Ghost.take_owns (g := g) .gate)
              (Ghost.release_take hquiet.gate (by simp) (by simp) fun _ => hquiet.seen)) fun _ => rfl

/-- The guards are the same, and so is the leave to write. -/
structure Learns (g g' : Ghost) : Prop where
  owns : g'.owns = g.owns
  entered : g'.entered = g.entered
  seen : g'.seen = g.seen
  selected : g'.selected = g.selected
  stopped : g'.stopped = g.stopped

/-- Closing the managers arms the shutdown. -/
theorem wp_close : (store .closing true : Task P Bytes Unit).wp rules i g fun _ g' =>
    g' = { g with armed := true } :=
  fun _ _ => ⟨_, .close, rfl⟩

/-- A scheduler that is done leaves the process alone. -/
theorem wp_readDone : (read .schedulerDone : Task P Bytes Bool).wp rules i g fun finished g' =>
    g' = if finished then { g with alone := true } else g := by
  intro finished _
  cases finished with
  | false => exact ⟨g, .read, rfl⟩
  | true => exact ⟨_, .alone, rfl⟩

/-- `SubscriptionScheduler::shutdown`. -/
theorem wp_schedulerShutdown (hgate : Gateless g) :
    (schedulerShutdown : Task P Bytes Bool).wp rules i g fun quiescent g' =>
      Learns g g' ∧ (quiescent = true → g'.quiet = true) := by
  rw [schedulerShutdown]
  refine wp_next wp_close fun _ => wp_next wp_readDone fun finished => ?_
  cases finished with
  | false => exact ⟨⟨rfl, rfl, rfl, rfl, rfl⟩, nofun⟩
  | true =>
    refine wp_next wp_close fun _ => wp_next Neutral.ask fun told => ?_
    refine Code.wp_mono ?_
      (wp_quiescentWithin (g := { g with armed := true, alone := true }) ⟨hgate.gate, hgate.seen⟩
        rfl rfl _)
    rintro quiescent g' rfl
    cases quiescent with
    | false => exact ⟨⟨rfl, rfl, rfl, rfl, rfl⟩, nofun⟩
    | true => exact ⟨⟨rfl, rfl, rfl, rfl, rfl⟩, fun _ => rfl⟩

/-- The guard of the shutdowns is given back. -/
theorem wp_unlockWaiting (h : Idle g) {g' : Ghost} (hg : Learns (g.take .waiting) g')
    {outcome : Outcome} (knows : outcome = .shutdown true → g'.knows = true) :
    (do unlock .waiting; pure outcome : Task P Bytes Outcome).wp rules i g' fun outcome last =>
      Idle last ∧ (outcome = .shutdown true → last.knows = true) := by
  have howned : g'.owns .waiting = true := by
    rw [hg.owns]
    exact Ghost.take_owns _
  refine wp_then (Q := fun _ last => last = g'.release .waiting) (wp_unlock howned rfl)
    fun _ last hlast => ?_
  subst hlast
  refine ⟨⟨fun lock => ?_, ?_, ?_, ?_, ?_⟩, knows⟩
  · cases lock <;> simp [Ghost.release, Ghost.without, hg.owns, Ghost.take, h.owns]
  · simp [Ghost.release, Ghost.without, hg.entered, Ghost.take, h.entered]
  · simp [Ghost.release, Ghost.without, hg.seen, Ghost.take, h.seen]
  · simp [Ghost.release, Ghost.without, hg.selected, Ghost.take, h.selected]
  · simp [Ghost.release, Ghost.without, hg.stopped, Ghost.take, h.stopped]

/-- A shutdown that is complete is known from then on. -/
theorem wp_readComplete :
    (read .shutdownComplete : Task P Bytes Bool).wp rules i g fun complete g' =>
      g' = if complete then { g with knows := true } else g := by
  intro complete _
  cases complete with
  | false => exact ⟨g, .read, rfl⟩
  | true => exact ⟨_, .known, rfl⟩

/-- The answer of the worker. -/
theorem wp_await (response : Nat) :
    (await response : Task P Bytes (Option ShutdownResult)).wp rules i g fun result g' =>
      Learns g g' ∧ (result = some .shutdownComplete → g'.knows = true) := by
  intro result _
  by_cases hresult : result = some .shutdownComplete
  · subst hresult
    exact ⟨_, .learned, ⟨rfl, rfl, rfl, rfl, rfl⟩, fun _ => rfl⟩
  · exact ⟨g, .await, ⟨rfl, rfl, rfl, rfl, rfl⟩, fun h => absurd h hresult⟩

/-- The request of a shutdown carries no guards. -/
theorem Neutral.sendShutdown (quiet : g.quiet = true) (response : Nat) :
    Neutral i g (send (.shutdown response) : Task P Bytes Bool) := by
  have hgiven : g.give (.shutdown response : WorkerRequest Bytes) = g := by
    have hnone : (.shutdown response : WorkerRequest Bytes).guards = fun _ => false := rfl
    rw [Ghost.give, hnone, Ghost.without_none]
  intro sent _
  cases sent with
  | false => exact ⟨g, .unsent, rfl⟩
  | true => exact ⟨_, .sent nofun nofun (fun _ => quiet) nofun trivial, hgiven⟩

/-- `shutdown`: who is told that it is complete knows it. -/
theorem wp_shutdown (h : Idle g) :
    (shutdown : Task P Bytes Outcome).wp rules i g fun outcome g' =>
      Idle g' ∧ (outcome = .shutdown true → g'.knows = true) := by
  have hrequest : ∀ g, Neutral i g (store .shutdownRequested true : Task P Bytes Unit) :=
    fun g _ _ => ⟨g, .request, rfl⟩
  have hopen : ∀ g, Neutral i g (openChannel : Task P Bytes Nat) :=
    fun g _ _ => ⟨g, .openChannel, rfl⟩
  rw [shutdown]
  refine wp_next wp_readComplete fun complete => ?_
  cases complete with
  | true => exact ⟨⟨h.owns, h.entered, h.seen, h.selected, h.stopped⟩, fun _ => rfl⟩
  | false =>
    refine wp_next (wp_tryLock .waiting) fun taken => ?_
    cases taken with
    | false => exact ⟨h, nofun⟩
    | true =>
      have hgate : Gateless (g.take .waiting) := ⟨by simp [Ghost.take, h.owns], h.seen⟩
      refine wp_next (hrequest _) fun _ => wp_then (wp_schedulerShutdown hgate) ?_
      rintro quiescent g' ⟨hlearns, hquiet⟩
      cases quiescent with
      | false => exact wp_unlockWaiting h hlearns nofun
      | true =>
        refine wp_next (hopen _) fun response =>
          wp_next (Neutral.sendShutdown (hquiet rfl) response) fun sent => ?_
        cases sent with
        | false => exact wp_unlockWaiting h hlearns nofun
        | true =>
          refine wp_then (wp_await response) ?_
          rintro result last ⟨hsame, hknows⟩
          refine wp_unlockWaiting h ⟨hsame.owns.trans hlearns.owns,
            hsame.entered.trans hlearns.entered, hsame.seen.trans hlearns.seen,
            hsame.selected.trans hlearns.selected, hsame.stopped.trans hlearns.stopped⟩
            fun houtcome => hknows ?_
          simpa using houtcome

end Calls

end Controller

end Veyra
