import Veyra.Application.Documents
import Veyra.Application.Generation
import Veyra.Application.LoopRules
import Veyra.Application.RouteOrder

/-!
# Veyra.Application.Shutdown

A shutdown is final: once a call of `shutdown` has returned `true`, in every
order of the threads, nothing runs and nothing will; only the routing manager
and calls that read, which may have to settle the file, still have it written.

* `guard_held` — a guard that is taken has one owner, who is not done;
* `stored_after_shutdown` — the stored subscriptions, nodes and selection stay as they are;
* `operations_end_with_shutdown` — no operation has anything written after it.
-/

namespace Veyra

open Check Threads Function

namespace Controller

variable {P Bytes Value ι : Type}

section System

variable [DecidableEq Value] {env : ControllerEnv P Bytes Value} [DecidableEq ι]

/-- **A guard that is taken has one owner.**  In a ledger of what every thread takes, gives back,
sends and receives, it belongs to one thread, which is not done, or to the request in the channel;
and what belongs to one of them is taken. -/
theorem guard_held {stored : Option AppState}
    {moves : List (Move (Thread ι) (Choice P) Operation)}
    {c : Config (Thread ι) (Shared P Bytes) (Action P Bytes) Answer Outcome}
    (run : Transition.Runs (system env ι).step Transition.Free (initial ι stored) moves c) :
    ∃ owners : Thread ι → Lock → Bool,
      Transition.Runs ((system env ι).bookedStep hand) Transition.Free
        (initial ι stored, fun _ _ => false) moves (c, owners) ∧
      ∀ lock, c.shared.locked lock = true ↔
        (∃ i, owners i lock = true ∧ (∀ outcome, c.code i ≠ .done outcome) ∧
          (∀ j, owners j lock = true → j = i) ∧ c.shared.queue.any (·.guards lock) = false) ∨
        ∃ request, c.shared.queue = some request ∧ request.guards lock = true ∧
          ∀ i, owners i lock = false := by
  obtain ⟨owners, booked⟩ := System.exists_booked hand run fun _ _ => false
  obtain ⟨γ, holds, howners⟩ := Logic.Holds.booked (fun goes => Goes.owns goes) booked
    (holds_initial env stored) fun _ => rfl
  have hexclusive : Exclusive c.shared.locked (holders c.shared γ) := Inv.exclusive holds.inv
  have hholder : ∀ i lock, holders c.shared γ (some i) lock = owners i lock := fun i lock =>
    congrFun (howners i) lock
  refine ⟨owners, booked, fun lock => ⟨fun taken => ?_, ?_⟩⟩
  · obtain ⟨holder, hholds⟩ := (hexclusive.held lock).mp taken
    cases holder with
    | none =>
      obtain ⟨request, hqueue, hguards⟩ := (Option.any_eq_true _ _).mp hholds
      refine .inr ⟨request, hqueue, hguards, fun i => ?_⟩
      rw [← hholder i lock]
      exact hexclusive.other hholds (by simp)
    | some i =>
      have hqueue : holders c.shared γ none lock = false := hexclusive.other hholds (by simp)
      refine .inl ⟨i, (hholder i lock).symm.trans hholds, fun outcome hdone => ?_, fun j hj => ?_,
        hqueue⟩
      · have hidle := Rest.idle (holds.done hdone)
        rw [holders, hidle.owns] at hholds
        cases hholds
      · exact Option.some.inj (hexclusive.alone ((hholder j lock).trans hj) hholds)
  · rintro (⟨i, howned, -⟩ | ⟨request, hqueue, hguards, -⟩)
    · exact (hexclusive.held lock).mpr ⟨some i, (hholder i lock).trans howned⟩
    · refine (hexclusive.held lock).mpr ⟨none, ?_⟩
      rw [holders, hqueue]
      exact hguards

/-! ## After a shutdown -/

/-- From a shutdown on: the runtime stays, and so does what is stored but for the routing. -/
structure Settled (s s' : Shared P Bytes) : Prop where
  complete : s'.raised .shutdownComplete = true
  runtime : s'.world.runtime = s.world.runtime
  stored : Reroutes s.stored s'.stored
  log : ∃ written, s'.log = s.log ++ written ∧ ∀ entry ∈ written,
    (entry.1 = .routing ∨ entry.1 = .reading) ∧ Reroutes s.stored entry.2

omit [DecidableEq ι] in
/-- Nobody has the leave to write any more. -/
theorem Inv.not_mayWrite {s : Shared P Bytes} {γ : Thread ι → Ghost} (h : Inv s γ)
    (complete : s.raised .shutdownComplete = true) (i : Thread ι) : ¬ MayWrite i (γ i) := by
  have hfinal := h.complete.mp complete
  have hclosed := h.quiet .worker (h.final hfinal).1
  rintro (hentered | ⟨rfl, hnot⟩ | ⟨rfl, hthere⟩)
  · rw [hclosed.threads i] at hentered
    cases hentered
  · rw [hfinal] at hnot
    cases hnot
  · rw [h.gone hclosed.alone] at hthere
    cases hthere

/-- Nothing that counts after a shutdown has changed. -/
theorem Settled.same {s s' : Shared P Bytes} (complete : s.raised .shutdownComplete = true)
    (raised : s'.raised .shutdownComplete = s.raised .shutdownComplete)
    (runtime : s'.world.runtime = s.world.runtime) (stored : s'.stored = s.stored)
    (log : s'.log = s.log) : Settled s s' :=
  ⟨raised.trans complete, runtime, stored ▸ .refl _, [], by rw [log, List.append_nil], by simp⟩

/-- Flags may still be raised. -/
theorem Settled.raises {s : Shared P Bytes} (complete : s.raised .shutdownComplete = true)
    (signal : Signal) : Settled s { s with raised := update s.raised signal true } :=
  ⟨raised_mono s signal _ complete, rfl, .refl _, [], (List.append_nil _).symm, by simp⟩

/-- A query may still settle the state file, and a mutation of the routing write it. -/
theorem Settled.wrote {s : Shared P Bytes} (complete : s.raised .shutdownComplete = true)
    {writer : Writer} (hwriter : writer = .routing ∨ writer = .reading) {state : Option AppState}
    (hstate : Reroutes s.stored state) : Settled s (s.write writer state) :=
  ⟨complete, rfl, hstate, [(writer, state)], rfl, by simpa using ⟨hwriter, hstate⟩⟩

/-- Settled phases follow each other. -/
theorem Settled.trans {s₁ s₂ s₃ : Shared P Bytes} (h : Settled s₁ s₂) (h' : Settled s₂ s₃) :
    Settled s₁ s₃ := by
  obtain ⟨written, hlog, hwritten⟩ := h.log
  obtain ⟨written', hlog', hwritten'⟩ := h'.log
  refine ⟨h'.complete, h'.runtime.trans h.runtime, h.stored.trans h'.stored, written ++ written', ?_,
    fun entry hentry => ?_⟩
  · rw [hlog', hlog, List.append_assoc]
  · obtain hold | hnew := List.mem_append.mp hentry
    · exact hwritten entry hold
    · exact (hwritten' entry hnew).imp_right h.stored.trans

omit [DecidableEq ι] in
/-- **Step lemma.**  No step undoes a shutdown. -/
theorem Inv.settled {s s' : Shared P Bytes} {γ : Thread ι → Ghost} {i : Thread ι} {g : Ghost}
    (h : Inv s γ) (complete : s.raised .shutdownComplete = true) {action : Action P Bytes}
    {choice : Choice P} {answer : Answer action}
    (performed : perform action choice s = some (answer, s'))
    (goes : Goes i action (γ i) answer g) : Settled s s' := by
  have hfinal := h.complete.mp complete
  generalize hg : γ i = before at goes
  cases goes with
  | taken | refused =>
    rw [perform] at performed
    split at performed <;> cases performed
    exact .same complete rfl rfl rfl rfl
  | unlock | isLocked | quiet | read | enter | alone | known | remember | ask | openChannel
  | respond | await | learned =>
    obtain ⟨-, rfl⟩ := Prod.mk.inj (Option.some.inj performed)
    exact .same complete rfl rfl rfl rfl
  | close | request | complete | leave =>
    cases performed
    exact .raises complete _
  | incomplete notFinal =>
    rw [← hg, hfinal] at notFinal
    cases notFinal
  | load owned allowed =>
    have hwriter := allowed.resolve_left (hg ▸ h.not_mayWrite complete i)
    rw [perform] at performed
    split at performed
    · cases performed
      split
      · exact .wrote complete hwriter (.refl _)
      · exact .same complete rfl rfl rfl rfl
    · cases performed
      exact .same complete rfl rfl rfl rfl
  | hold owned allowed => exact absurd (hg ▸ allowed) (h.not_mayWrite complete i)
  | unsaved =>
    rw [perform] at performed
    split at performed <;> cases performed
    exact .same complete rfl rfl rfl rfl
  | save owned seen allowed =>
    obtain ⟨rfl, hreroutes⟩ := allowed.resolve_left (hg ▸ h.not_mayWrite complete i)
    obtain ⟨-, rfl⟩ := (h.knows i).seen _ (hg ▸ seen)
    rw [perform] at performed
    split at performed <;> cases performed
    exact .wrote complete (.inl rfl) hreroutes
  | note notes | stopped notes =>
    cases performed
    exact .same complete rfl (notes _).2 rfl rfl
  | select _ _ notFinal | work notFinal =>
    rw [← hg, hfinal] at notFinal
    cases notFinal
  | sent | unsent =>
    rw [perform] at performed
    split at performed <;> cases performed
    exact .same complete rfl rfl rfl rfl
  | received | timeout | disconnected =>
    rw [perform] at performed
    split at performed
    · cases performed <;> exact .same complete rfl rfl rfl rfl
    · obtain ⟨-, rfl⟩ := Prod.mk.inj (Option.some.inj performed)
      exact .same complete rfl rfl rfl rfl
  | hangUp =>
    cases performed
    rw [Shared.dropQueue]
    split <;> exact .same complete rfl rfl rfl rfl

/-- What holds wherever the application gets once a call of `shutdown` has returned `true`. -/
theorem settled_of_returned {stored : Option AppState}
    {moves later : List (Move (Thread ι) (Choice P) Operation)}
    {c c' : Config (Thread ι) (Shared P Bytes) (Action P Bytes) Answer Outcome}
    (run : Transition.Runs (system env ι).step Transition.Free (initial ι stored) moves c)
    {name : ι} (returned : c.code (.caller name) = .done (.shutdown true))
    (after : Transition.Runs (system env ι).step Transition.Free c later c') :
    Settled c.shared c'.shared ∧ Down c'.shared.world ∧ c'.shared.world.instance? = none := by
  obtain ⟨γ, holds⟩ := holds_run run
  obtain ⟨-, hknows⟩ := holds.done returned
  have hcomplete := ((Inv.knows holds.inv (.caller name))).knows (hknows rfl)
  have hsettled : Settled c.shared c'.shared := by
    refine holds.stable (P := Settled c.shared) (fun hinv hsettled performed goes => ?_)
      (.same hcomplete rfl rfl rfl rfl) after
    exact hsettled.trans (Inv.settled hinv hsettled.complete performed goes)
  obtain ⟨γ', holds'⟩ := holds.run after
  have hinv' : Inv c'.shared γ' := holds'.inv
  obtain ⟨-, hclean, hdown⟩ := hinv'.final (hinv'.complete.mp hsettled.complete)
  have hstopped := hinv'.down hdown
  refine ⟨hsettled, ⟨hstopped, hinv'.clean hclean⟩, ?_⟩
  rw [ManagedRuntime.instance?]
  cases hruntime : c'.shared.world.runtime with
  | none => rfl
  | some r =>
    rw [ManagedRuntime.lifecycle_of_runtime hruntime] at hstopped
    exact SidecarRuntime.child_of_stopped hstopped

/-- What an operation has had written to the state file. -/
def Shared.writtenBy (s : Shared P Bytes) (writer : Writer) : List (Option AppState) :=
  (s.log.filter (·.1 = writer)).map (·.2)

/-- No other writer writes in a settled phase. -/
theorem Settled.writtenBy {s s' : Shared P Bytes} (h : Settled s s') {writer : Writer}
    (hrouting : writer ≠ .routing) (hreading : writer ≠ .reading) :
    s'.writtenBy writer = s.writtenBy writer := by
  obtain ⟨written, hlog, hwritten⟩ := h.log
  have hnone : written.filter (·.1 = writer) = [] := by
    refine List.filter_eq_nil_iff.mpr fun entry hentry => ?_
    obtain ⟨hentry | hentry, -⟩ := hwritten entry hentry
    · simpa [hentry] using hrouting.symm
    · simpa [hentry] using hreading.symm
  rw [Shared.writtenBy, Shared.writtenBy, hlog, List.filter_append, hnone, List.append_nil]

/-- **Operations end with a shutdown.**  Once a call of `shutdown` has returned `true`, nothing runs
and nothing is prepared or started, whatever is called; and no operation but those of the routing
manager and the calls that only read, in progress or called later, ever has the state file written
again: what it has had written by then is all. -/
theorem operations_end_with_shutdown {stored : Option AppState}
    {moves later : List (Move (Thread ι) (Choice P) Operation)}
    {c c' : Config (Thread ι) (Shared P Bytes) (Action P Bytes) Answer Outcome}
    (run : Transition.Runs (system env ι).step Transition.Free (initial ι stored) moves c)
    {name : ι} (returned : c.code (.caller name) = .done (.shutdown true))
    (after : Transition.Runs (system env ι).step Transition.Free c later c') :
    Down c'.shared.world ∧ c'.shared.world.instance? = none ∧
      c'.shared.world.runtime = c.shared.world.runtime ∧
      ∀ writer : Writer, writer ≠ .routing → writer ≠ .reading →
        c'.shared.writtenBy writer = c.shared.writtenBy writer := by
  obtain ⟨hsettled, hdown, hinstance⟩ := settled_of_returned run returned after
  exact ⟨hdown, hinstance, hsettled.runtime, fun writer => hsettled.writtenBy⟩

end System

/-! ## A run -/

section Run

open Transition ProxyRouting

/-- A world without incidents; whether a load has to settle the file is left open. -/
def calmWorld (settles : Bool) : Choice UInt64 where
  succeeds := true
  settles := settles
  disconnected := false
  told :=
    { answers := ⟨false, false, .error .fetchFailed, some 0, none, none, none, none⟩
      flag := false
      secret := some apiSecret
      created := some 0
      sample := ⟨none, none⟩
      selector := ⟨false, false, false, none⟩
      due := []
      rounds := 1 }

def calmEnv : ControllerEnv UInt64 Document Document :=
  ⟨plainEnv, linkEnv, ⟨fun _ => none, some [3]⟩, fun _ => none⟩

abbrev CalmMove := Move (Thread Bool) (Choice UInt64) Operation

abbrev CalmConfig :=
  Config (Thread Bool) (Shared UInt64 Document) (Action UInt64 Document) Answer Outcome

/-- A thread goes on `n` times. -/
def goesOn (i : Thread Bool) (n : Nat) (settles : Bool) : List CalmMove :=
  List.replicate n (.act i (calmWorld settles))

/-- A start of the selected subscription has sent its request. -/
def requestMoves : List CalmMove :=
  .begin (.caller true) .start :: goesOn (.caller true) 13 false

/-- Another caller looks at the subscriptions, with the gate in hand. -/
def lookMoves : List CalmMove :=
  .begin (.caller false) .list :: goesOn (.caller false) 3 false

/-- The worker serves the start. -/
def startMoves : List CalmMove :=
  .begin .worker .serve :: goesOn .worker 7 false ++ goesOn (.caller true) 1 false

/-- The other subscription is about to be deleted when a shutdown closes the manager; the scheduler
leaves its loop, the deletion is committed, and the worker stops. -/
def shutdownMoves : List CalmMove :=
  .begin (.caller true) (.delete "sub-02") :: goesOn (.caller true) 13 false ++
    .begin (.caller false) .shutdown :: goesOn (.caller false) 4 false ++
    .begin .scheduler .tick :: goesOn .scheduler 2 false ++ goesOn (.caller false) 4 false ++
    goesOn (.caller true) 4 false ++ goesOn (.caller false) 6 false ++
    .begin .worker .serve :: goesOn .worker 5 false ++ goesOn (.caller false) 2 false

/-- A custom pool of the subscription that is left. -/
def lateMutation : MutateRequest :=
  ⟨1, .createCustomPool "all" true [⟨"provider-01", ⟨[], [], [], [], [], []⟩⟩] (.manual none)⟩

/-- Then a start, a mutation of the routing, and a look at a file that has to be settled. -/
def laterMoves : List CalmMove :=
  .begin (.caller true) .start :: goesOn (.caller true) 1 false ++
    .begin (.caller true) (.mutate lateMutation) :: goesOn (.caller true) 8 false ++
    .begin (.caller false) .list :: goesOn (.caller false) 7 true


/-- What a list of moves leads to. -/
def CalmConfig.after (c : CalmConfig) (moves : List CalmMove) : Option CalmConfig :=
  evaluate (system calmEnv Bool).step (fun _ _ => true) c moves

/-- A start is in the channel, and the gate is taken. -/
def requestedConfig : CalmConfig :=
  (CalmConfig.after (initial Bool (some activeState)) (requestMoves ++ lookMoves)).get
    (by decide +kernel)

/-- A child runs. -/
def runningConfig : CalmConfig :=
  (CalmConfig.after (initial Bool (some activeState)) (requestMoves ++ startMoves)).get
    (by decide +kernel)

/-- The shutdown has returned. -/
def downConfig : CalmConfig :=
  (CalmConfig.after (initial Bool (some activeState))
    (requestMoves ++ startMoves ++ shutdownMoves)).get (by decide +kernel)

def laterConfig : CalmConfig := (downConfig.after laterMoves).get (by decide +kernel)

/-- The call of the second caller was a shutdown, and has returned `true`. -/
def CalmConfig.returned (c : CalmConfig) : Bool :=
  match c.code (.caller false) with
  | .done (.shutdown true) => true
  | _ => false

/-- A shutdown that has returned has gone well. -/
theorem code_of_returned {c : CalmConfig} (h : c.returned = true) :
    c.code (.caller false) = .done (.shutdown true) := by
  rw [CalmConfig.returned] at h
  split at h
  · next hdone => exact hdone
  · cases h

theorem downConfig_returned : downConfig.code (.caller false) = .done (.shutdown true) :=
  code_of_returned (by decide +kernel)

/-- The start has its guards in the channel, the other caller the gate. -/
theorem guard_held_requested :
    (requestedConfig.shared.locked .gate = true ∧
      requestedConfig.shared.queue.any (·.guards .writes) = true) ∧
    ∃ owners : Thread Bool → Lock → Bool,
      Runs ((system calmEnv Bool).bookedStep hand) Free
        (initial Bool (some activeState), fun _ _ => false) (requestMoves ++ lookMoves)
        (requestedConfig, owners) ∧
      ∀ lock, requestedConfig.shared.locked lock = true ↔
        (∃ i, owners i lock = true ∧ (∀ outcome, requestedConfig.code i ≠ .done outcome) ∧
          (∀ j, owners j lock = true → j = i) ∧
          requestedConfig.shared.queue.any (·.guards lock) = false) ∨
        ∃ request, requestedConfig.shared.queue = some request ∧ request.guards lock = true ∧
          ∀ i, owners i lock = false :=
  ⟨by decide +kernel, guard_held (.of_free (Option.some_get _).symm)⟩

/-- A child ran and a deletion was under way when the shutdown began; the start that comes after it
starts nothing. -/
theorem operations_end_with_shutdown_deleting :
    (runningConfig.shared.world.instance?.isSome = true ∧
      runningConfig.shared.writtenBy .deleting = [] ∧
      (downConfig.shared.writtenBy .deleting).length = 1) ∧
    Down laterConfig.shared.world ∧ laterConfig.shared.world.instance? = none ∧
      laterConfig.shared.world.runtime = downConfig.shared.world.runtime ∧
      ∀ writer : Writer, writer ≠ .routing → writer ≠ .reading →
        laterConfig.shared.writtenBy writer = downConfig.shared.writtenBy writer :=
  ⟨by decide +kernel, operations_end_with_shutdown (.of_free (Option.some_get _).symm)
    downConfig_returned (.of_free (Option.some_get _).symm)⟩

end Run

end Controller

end Veyra
