import Veyra.Application.ControllerThreads
import Veyra.Application.StoredSelection

/-!
# Veyra.Application.ControllerRules

What the threads of the application own and know, and the rules they keep.

A guard has one holder: a thread, or the request in the channel that carries
it.  A thread that has the write guard and found the manager open after it got
it may write the state file (`Ghost.entered`); once a shutdown has found the
manager closed, the scheduler gone and the write guard free, nobody can get
there any more (`Closed`).  Only the routing manager may write without it, and
then over the state that it loaded with the gate in hand (`Ghost.seen`).

What the state file selects stays so for a thread that has the write guard
(`Ghost.selected`), and what runs belongs to it (`Belongs`): only the worker
selects another subscription, which it then runs or nothing (`Ghost.behind`),
and only a deletion that has seen nothing run takes one away (`Ghost.stopped`).
-/

namespace Veyra

open Threads Function

namespace Controller

variable {P Bytes ι : Type}

/-! ## Ghosts -/

/-- The request that ends the worker. -/
def WorkerRequest.isShutdown : WorkerRequest Bytes → Bool
  | .shutdown _ => true
  | _ => false

/-- What is to run. -/
def WorkerRequest.intends : WorkerRequest Bytes → Option (SubscriptionId × UInt64)
  | .start intent => some (intent.selectedSubscriptionId, intent.selectedGeneration)
  | _ => none

/-- What is to run comes with the write guard. -/
theorem WorkerRequest.writes_of_intends (request : WorkerRequest Bytes)
    {selection : SubscriptionId × UInt64} (h : request.intends = some selection) :
    request.guards .writes = true := by
  cases request with
  | start intent => rfl
  | _ => cases h

/-- The plan of a request was made for the state that it expects. -/
def WorkerRequest.Planned : WorkerRequest Bytes → Prop
  | .activate request => ∃ id force generation,
    planActivation id force generation request.plan.expected = .ok request.plan
  | _ => True

/-- What a thread owns and knows. -/
@[ext] structure Ghost where
  owns : Lock → Bool
  /-- has the write guard, and found the manager open since -/
  entered : Bool
  /-- has closed the manager -/
  armed : Bool
  /-- has seen that the scheduler is gone -/
  alone : Bool
  /-- has found nobody who may write -/
  quiet : Bool
  /-- has learned that the shutdown is complete -/
  knows : Bool
  /-- of the worker: no candidate waits -/
  clean : Bool
  /-- of the worker: nothing runs -/
  down : Bool
  /-- of the worker: it has completed the shutdown -/
  final : Bool
  /-- of the scheduler: it has left its loop -/
  gone : Bool
  /-- the state file, as it was loaded with the gate in hand -/
  seen : Option (Option AppState)
  /-- what the state file selects, with the write guard in hand -/
  selected : Option (SubscriptionId × UInt64)
  /-- has seen that nothing runs, with the guard of the runtime in hand -/
  stopped : Bool
  /-- of the worker: the lifecycle of its runtime -/
  lifecycle : Option SidecarLifecycle
  /-- of the worker: it serves a request -/
  serving : Bool
  /-- of the worker: it has selected a subscription, and does not run it yet -/
  behind : Bool

namespace Ghost

/-- Before any call. -/
def start : Ghost where
  owns := fun _ => false
  entered := false
  armed := false
  alone := false
  quiet := false
  knows := false
  clean := true
  down := false
  final := false
  gone := false
  seen := none
  selected := none
  stopped := false
  lifecycle := none
  serving := false
  behind := false

def take (g : Ghost) (lock : Lock) : Ghost := { g with owns := update g.owns lock true }

/-- Guards are given away. -/
def without (g : Ghost) (dropped : Lock → Bool) : Ghost :=
  { g with
    owns := fun lock => g.owns lock && !dropped lock
    entered := g.entered && !dropped .writes
    seen := if dropped .gate then none else g.seen
    selected := if dropped .writes then none else g.selected
    stopped := g.stopped && !dropped .runtime }

def release (g : Ghost) (lock : Lock) : Ghost := g.without fun l => l = lock

/-- The guards of a request are given away. -/
def give (g : Ghost) (request : WorkerRequest Bytes) : Ghost := g.without request.guards

/-- The guards of a request are taken over. -/
def receive (g : Ghost) (request : WorkerRequest Bytes) : Ghost :=
  { g with
    owns := fun lock => g.owns lock || request.guards lock
    entered := g.entered || request.guards .writes
    quiet := g.quiet || request.isShutdown
    selected := request.intends
    serving := true }

/-- The tuples that a thread may have run: with the guard of the runtime, what is selected. -/
def Picks (g : Ghost) (id : String) (generation : UInt64) : Prop :=
  g.owns .runtime = true ∧ ∃ sub, sub.val = id ∧ g.selected = some (sub, generation)

end Ghost

/-- Who may write the state file: a thread that has entered, the worker until it is through, and
the scheduler while it is there. -/
def MayWrite (i : Thread ι) (g : Ghost) : Prop :=
  g.entered = true ∨ (i = .worker ∧ g.final = false) ∨ (i = .scheduler ∧ g.gone = false)

/-- What is stored stays, but for the routing and the generation. -/
structure Reroutes (before next : Option AppState) : Prop where
  subscriptions : (next.getD .empty).subscriptions = (before.getD .empty).subscriptions
  providers : (next.getD .empty).providers = (before.getD .empty).providers
  nodes : (next.getD .empty).nodes = (before.getD .empty).nodes
  active : (next.getD .empty).activeSubscriptionId = (before.getD .empty).activeSubscriptionId

theorem Reroutes.refl (state : Option AppState) : Reroutes state state := ⟨rfl, rfl, rfl, rfl⟩

/-- Rerouting twice is rerouting. -/
theorem Reroutes.trans {a b c : Option AppState} (h : Reroutes a b) (h' : Reroutes b c) :
    Reroutes a c where
  subscriptions := h'.subscriptions.trans h.subscriptions
  providers := h'.providers.trans h.providers
  nodes := h'.nodes.trans h.nodes
  active := h'.active.trans h.active

/-- What a thread may save over what it has seen: what leaves the selection, or, while nothing runs
and with the write guard in hand, what takes it away. -/
def Over (g : Ghost) (before : Option AppState) (next : AppState) : Prop :=
  Onward before next ∨
    Grows before next ∧ g.owns .writes = true ∧ g.stopped = true ∧ g.selected = none

/-- A change that the runtime and what is shown of it do not take part in. -/
def Notes (change : ManagedRuntime P Bytes → ManagedRuntime P Bytes) : Prop :=
  ∀ w, w.Unmoved (change w) ∧ (change w).runtime = w.runtime

/-- Nothing runs, and no candidate waits. -/
def Down (w : ManagedRuntime P Bytes) : Prop := w.lifecycle = .stopped ∧ w.pending = none

/-! ## The rules -/

/-- What a thread may do with what it owns and knows, and what it owns and knows then. -/
inductive Goes : Thread ι → (action : Action P Bytes) → Ghost → Answer action → Ghost → Prop
  | taken {i : Thread ι} {lock : Lock} {g : Ghost} : Goes i (.tryLock lock) g true (g.take lock)
  | refused {i : Thread ι} {lock : Lock} {g : Ghost} : Goes i (.tryLock lock) g false g
  | unlock {i : Thread ι} {lock : Lock} {g : Ghost} (owned : g.owns lock = true) :
      Goes i (.unlock lock) g () (g.release lock)
  | isLocked {i : Thread ι} {lock : Lock} {g : Ghost} {locked : Bool} :
      Goes i (.isLocked lock) g locked g
  /-- the manager is closed, the scheduler gone, and nobody has the write guard -/
  | quiet {i : Thread ι} {g : Ghost} (armed : g.armed = true) (alone : g.alone = true) :
      Goes i (.isLocked .writes) g false { g with quiet := true }
  | read {i : Thread ι} {signal : Signal} {g : Ghost} {raised : Bool} :
      Goes i (.read signal) g raised g
  | enter {i : Thread ι} {g : Ghost} (owned : g.owns .writes = true) :
      Goes i (.read .closing) g false { g with entered := true }
  | alone {i : Thread ι} {g : Ghost} :
      Goes i (.read .schedulerDone) g true { g with alone := true }
  | known {i : Thread ι} {g : Ghost} :
      Goes i (.read .shutdownComplete) g true { g with knows := true }
  | close {i : Thread ι} {g : Ghost} : Goes i (.store .closing true) g () { g with armed := true }
  | request {i : Thread ι} {g : Ghost} : Goes i (.store .shutdownRequested true) g () g
  | complete {g : Ghost} (quiet : g.quiet = true) (clean : g.clean = true) (down : g.down = true) :
      Goes .worker (.store .shutdownComplete true) g () { g with final := true }
  | incomplete {g : Ghost} (notFinal : g.final = false) :
      Goes .worker (.store .shutdownComplete false) g () g
  | leave {g : Ghost} : Goes .scheduler (.store .schedulerDone true) g () { g with gone := true }
  /-- a load may have to settle the file -/
  | load {i : Thread ι} {writer : Writer} {g : Ghost} {loaded : Option (Option AppState)}
      (owned : g.owns .gate = true)
      (allowed : MayWrite i g ∨ writer = .routing ∨ writer = .reading) :
      Goes i (.load writer) g loaded { g with seen := loaded }
  /-- with the write guard, what was loaded stays selected -/
  | hold {i : Thread ι} {writer : Writer} {g : Ghost} {state : AppState}
      (owned : g.owns .gate = true) (allowed : MayWrite i g) (writes : g.owns .writes = true) :
      Goes i (.load writer) g (some (some state))
        { g with seen := some (some state), selected := state.selection }
  | unsaved {i : Thread ι} {writer : Writer} {next : Option AppState} {g : Ghost} :
      Goes i (.save writer next) g false { g with seen := none }
  | save {i : Thread ι} {writer : Writer} {before : Option AppState} {next : AppState} {g : Ghost}
      (owned : g.owns .gate = true) (seen : g.seen = some before)
      (allowed : MayWrite i g ∨ writer = .routing ∧ Reroutes before (some next))
      (replaces : Over g before next) :
      Goes i (.save writer (some next)) g true { g with seen := none }
  /-- in a request the worker may also select another subscription, and is then behind -/
  | select {writer : Writer} {before : Option AppState} {next : AppState} {g : Ghost} {behind : Bool}
      (owned : g.owns .gate = true) (seen : g.seen = some before) (notFinal : g.final = false)
      (writes : g.owns .writes = true) (serving : g.serving = true) (grows : Grows before next)
      (onward : behind = false → g.behind = false ∧ Onward before next) :
      Goes .worker (.save writer (some next)) g true
        { g with seen := none, selected := next.selection, behind }
  | remember {i : Thread ι} {update : ProxyRouting.RevisionState → ProxyRouting.RevisionState}
      {g : Ghost} {revisions : ProxyRouting.RevisionState} : Goes i (.remember update) g revisions g
  | ask {i : Thread ι} {g : Ghost} {told : Told P} : Goes i .ask g told g
  /-- the runtime is left alone -/
  | note {i : Thread ι} {change : ManagedRuntime P Bytes → ManagedRuntime P Bytes} {g : Ghost}
      {w : ManagedRuntime P Bytes} (notes : Notes change) : Goes i (.touch change) g w g
  /-- with the guard of the runtime, nothing is seen to run -/
  | stopped {i : Thread ι} {change : ManagedRuntime P Bytes → ManagedRuntime P Bytes} {g : Ghost}
      {w : ManagedRuntime P Bytes} (notes : Notes change) (owned : g.owns .runtime = true)
      (stopped : w.observations.sidecarLifecycle = .stopped) :
      Goes i (.touch change) g w { g with stopped := true }
  /-- the worker changes its runtime -/
  | work {change : ManagedRuntime P Bytes → ManagedRuntime P Bytes} {g : Ghost}
      {w : ManagedRuntime P Bytes} {clean down : Bool} {lifecycle : Option SidecarLifecycle}
      {selected : Option (SubscriptionId × UInt64)} (notFinal : g.final = false)
      (notStopped : g.stopped = false) (isClean : clean = true → (change w).pending = none)
      (isDown : down = true → (change w).lifecycle = .stopped)
      (isIn : ∀ l, lifecycle = some l → (change w).lifecycle = l)
      (leaves : ManagedRuntime.Leaves g.Picks w (change w))
      (renews : g.behind = true → (change w).Renews g.Picks)
      (forgets : selected = g.selected ∨ selected = none) :
      Goes .worker (.touch change) g w { g with clean, down, lifecycle, selected, behind := false }
  | openChannel {i : Thread ι} {g : Ghost} {channel : Nat} : Goes i .openChannel g channel g
  | sent {i : Thread ι} {request : WorkerRequest Bytes} {g : Ghost}
      (guards : ∀ lock, request.guards lock = true → g.owns lock = true)
      (entered : request.guards .writes = true → g.entered = true)
      (quiet : request.isShutdown = true → g.quiet = true)
      (intends : ∀ selection, request.intends = some selection → g.selected = some selection)
      (planned : request.Planned) : Goes i (.send request) g true (g.give request)
  | unsent {i : Thread ι} {request : WorkerRequest Bytes} {g : Ghost} :
      Goes i (.send request) g false g
  | received {request : WorkerRequest Bytes} {g : Ghost} :
      Goes .worker .receive g (.request request) (g.receive request)
  | timeout {g : Ghost} (settled : g.behind = false) :
      Goes .worker .receive g .timeout { g with serving := false }
  | disconnected {g : Ghost} (settled : g.behind = false) :
      Goes .worker .receive g .disconnected { g with serving := false }
  | respond {channel : Nat} {result : ShutdownResult} {g : Ghost}
      (final : result = .shutdownComplete → g.final = true) :
      Goes .worker (.respond channel result) g () g
  | await {i : Thread ι} {channel : Nat} {g : Ghost} {result : Option ShutdownResult} :
      Goes i (.await channel) g result g
  | learned {i : Thread ι} {channel : Nat} {g : Ghost} :
      Goes i (.await channel) g (some .shutdownComplete) { g with knows := true }
  | hangUp {g : Ghost} : Goes .worker .hangUp g () g

/-- The guards of a thread after an action: what it takes and gives back itself, and what goes and
comes with a request. -/
def hand : (action : Action P Bytes) → Answer action → (Lock → Bool) → Lock → Bool
  | .tryLock lock, true, owned => update owned lock true
  | .unlock lock, _, owned => update owned lock false
  | .send request, true, owned => fun lock => owned lock && !request.guards lock
  | .receive, .request request, owned => fun lock => owned lock || request.guards lock
  | _, _, owned => owned

/-- The rules keep account of the guards. -/
theorem Goes.owns {i : Thread ι} {action : Action P Bytes} {g g' : Ghost} {answer : Answer action}
    (h : Goes i action g answer g') : g'.owns = hand action answer g.owns := by
  cases h with
  | @unlock _ lock =>
    funext other
    change (g.owns other && !decide (other = lock)) = update g.owns lock false other
    by_cases hother : other = lock
    · simp [hother]
    · simp [hother]
  | _ => rfl

/-- Whether a thread serves a request after an action. -/
def serves : (action : Action P Bytes) → Answer action → Bool → Bool
  | .receive, .request _, _ => true
  | .receive, _, _ => false
  | _, _, serving => serving

/-- The rules keep account of the requests. -/
theorem Goes.serves {i : Thread ι} {action : Action P Bytes} {g g' : Ghost} {answer : Answer action}
    (h : Goes i action g answer g') : g'.serving = Controller.serves action answer g.serving := by
  cases h <;> rfl

/-- What a thread can be answered: the worker finds the memory as it left it, and requests with the
plans that they were made with. -/
def Can : Thread ι → (action : Action P Bytes) → Ghost → Answer action → Prop
  | .worker, .touch _, g, w =>
    (g.clean = true → w.pending = none) ∧ ∀ l, g.lifecycle = some l → w.lifecycle = l
  | .worker, .receive, _, .request request => request.Planned
  | _, _, _, _ => True

/-! ## The invariant -/

/-- Who holds which guard: the threads, and the request in the channel. -/
def holders (s : Shared P Bytes) (γ : Thread ι → Ghost) : Option (Thread ι) → Lock → Bool
  | none, lock => s.queue.any (·.guards lock)
  | some i, lock => (γ i).owns lock

/-- Nobody may write any more. -/
structure Closed (s : Shared P Bytes) (γ : Thread ι → Ghost) : Prop where
  closing : s.raised .closing = true
  alone : s.raised .schedulerDone = true
  threads : ∀ i, (γ i).entered = false
  queue : s.queue.any (·.guards .writes) = false

/-- Nothing is shown to run. -/
def Shared.Bare (s : Shared P Bytes) : Prop := s.world.observations.appliedTuple = (none, none)

/-- What a thread knows is true. -/
structure Knows (s : Shared P Bytes) (g : Ghost) : Prop where
  armed : g.armed = true → s.raised .closing = true
  alone : g.alone = true → s.raised .schedulerDone = true
  knows : g.knows = true → s.raised .shutdownComplete = true
  entered : g.entered = true → g.owns .writes = true
  seen : ∀ before, g.seen = some before → g.owns .gate = true ∧ s.stored = before
  selected : ∀ id generation, g.selected = some (id, generation) →
    g.owns .writes = true ∧ StillSelects s.stored id generation
  stopped : g.stopped = true → g.owns .runtime = true ∧ s.Bare

/-- What is shown to run belongs to what is stored. -/
def Belongs (s : Shared P Bytes) : Prop :=
  s.world.Renews fun id generation => ∃ sub, sub.val = id ∧ StillSelects s.stored sub generation

/-- A request that waits: its plan, and what it is to run. -/
structure Awaited (s : Shared P Bytes) (request : WorkerRequest Bytes) : Prop where
  planned : request.Planned
  intends : ∀ id generation, request.intends = some (id, generation) →
    StillSelects s.stored id generation

structure Inv (s : Shared P Bytes) (γ : Thread ι → Ghost) : Prop where
  exclusive : Exclusive s.locked (holders s γ)
  knows : ∀ i, Knows s (γ i)
  quiet : ∀ i, (γ i).quiet = true → Closed s γ
  asked : s.queue.any (·.isShutdown) = true → Closed s γ
  gone : s.raised .schedulerDone = true → (γ .scheduler).gone = true
  clean : (γ .worker).clean = true → s.world.pending = none
  down : (γ .worker).down = true → s.world.lifecycle = .stopped
  final : (γ .worker).final = true →
    (γ .worker).quiet = true ∧ (γ .worker).clean = true ∧ (γ .worker).down = true
  complete : s.raised .shutdownComplete = true ↔ (γ .worker).final = true
  responses : ∀ channel, s.responses channel = some .shutdownComplete →
    s.raised .shutdownComplete = true
  displays : s.world.Displays
  lifecycle : ∀ l, (γ .worker).lifecycle = some l → s.world.lifecycle = l
  belongs : (γ .worker).behind = false → Belongs s
  behind : (γ .worker).behind = true → (γ .worker).serving = true
  awaited : ∀ request, s.queue = some request → Awaited s request

/-! ## The rules are sound -/

section Sound

variable [DecidableEq ι] {s s' : Shared P Bytes} {γ : Thread ι → Ghost} {i : Thread ι} {g : Ghost}

theorem pending_eq {w w' : ManagedRuntime P Bytes} (h : w'.runtime = w.runtime) :
    w'.pending = w.pending := by
  rw [ManagedRuntime.pending, h, ManagedRuntime.pending]

/-- A flag that the step leaves to its thread is left to all. -/
theorem flag_eq {α : Type} (flag : Ghost → α) (h : flag g = flag (γ i)) (j : Thread ι) :
    flag (update γ i g j) = flag (γ j) := by
  by_cases hj : j = i
  · subst hj
    rw [update_self, h]
  · rw [update_of_ne hj]

/-- The threads hold what they held, but for the one that moved. -/
theorem holders_update (s : Shared P Bytes) (γ : Thread ι → Ghost) (i : Thread ι) (g : Ghost) :
    holders s (update γ i g) = update (holders s γ) (some i) g.owns := by
  funext h lock
  cases h with
  | none => rw [update_of_ne (by simp), holders, holders]
  | some j =>
    by_cases hj : j = i
    · subst hj
      rw [update_self, holders, update_self]
    · rw [update_of_ne (by simpa using hj), holders, holders, update_of_ne hj]

/-- Once nobody may write, nobody gets to. -/
theorem Closed.step (h : Closed s γ)
    (raised : ∀ signal, s.raised signal = true → s'.raised signal = true)
    (entered : g.entered = true → (γ i).entered = true ∨ s.raised .closing = false ∨
      s.queue.any (·.guards .writes) = true)
    (queue : s'.queue.any (·.guards .writes) = true →
      s.queue.any (·.guards .writes) = true ∨ (γ i).entered = true) :
    Closed s' (update γ i g) := by
  refine ⟨raised _ h.closing, raised _ h.alone, fun j => ?_, ?_⟩
  · by_cases hj : j = i
    · subst hj
      rw [update_self]
      by_contra henters
      rw [Bool.not_eq_false] at henters
      obtain hold | hopen | hqueue := entered henters
      · rw [h.threads j] at hold
        cases hold
      · rw [h.closing] at hopen
        cases hopen
      · rw [h.queue] at hqueue
        cases hqueue
    · rw [update_of_ne hj]
      exact h.threads j
  · by_contra hwrites
    rw [Bool.not_eq_false] at hwrites
    obtain hold | hnew := queue hwrites
    · rw [h.queue] at hold
      cases hold
    · rw [h.threads i] at hnew
      cases hnew

/-- What a step leaves to who owns these guards: the state file to who has the gate, what it selects
to who has the write guard, and a runtime that is not shown to run to who has its guard. -/
structure Spares (s s' : Shared P Bytes) (owns : Lock → Bool) : Prop where
  stored : owns .gate = true → s'.stored = s.stored
  selects : owns .writes = true → ∀ id generation, StillSelects s.stored id generation →
    StillSelects s'.stored id generation
  bare : owns .runtime = true → s.Bare → s'.Bare

/-- Nothing that is guarded has changed. -/
theorem Spares.same {owns : Lock → Bool} (stored : s'.stored = s.stored)
    (world : s.world.Unmoved s'.world) : Spares s s' owns :=
  ⟨fun _ => stored, fun _ _ _ h => stored ▸ h, fun _ h => world.applied.trans h⟩

/-- What belongs to what is stored still does, as long as its selection stays. -/
theorem Belongs.keep (h : Belongs s) (world : s.world.Unmoved s'.world)
    (selects : ∀ id generation, StillSelects s.stored id generation →
      StillSelects s'.stored id generation) : Belongs s' := by
  obtain hbare | ⟨id, generation, ⟨sub, hsub, hselects⟩, happlied⟩ := h
  · exact .inl (world.applied.trans hbare)
  · exact .inr ⟨id, generation, ⟨sub, hsub, selects sub generation hselects⟩,
      world.applied.trans happlied⟩

/-- What the threads know stays true as long as no flag is lowered, and what they guard is left to
them. -/
theorem Knows.raise (h : Knows s g)
    (raised : ∀ signal, s.raised signal = true → s'.raised signal = true)
    (spares : Spares s s' g.owns) : Knows s' g where
  armed hg := raised _ (h.armed hg)
  alone hg := raised _ (h.alone hg)
  knows hg := raised _ (h.knows hg)
  entered := h.entered
  seen before hg :=
    ⟨(h.seen before hg).1, (spares.stored (h.seen before hg).1).trans (h.seen before hg).2⟩
  selected _ _ hg :=
    ⟨(h.selected _ _ hg).1, spares.selects (h.selected _ _ hg).1 _ _ (h.selected _ _ hg).2⟩
  stopped hg := ⟨(h.stopped hg).1, spares.bare (h.stopped hg).1 (h.stopped hg).2⟩

/-- What a thread still knows without some of its guards. -/
theorem Knows.without (h : Knows s g) (dropped : Lock → Bool) : Knows s (g.without dropped) where
  armed := h.armed
  alone := h.alone
  knows := h.knows
  entered hentered := by
    obtain ⟨hentered, hkept⟩ := Bool.and_eq_true_iff.mp hentered
    exact Bool.and_eq_true_iff.mpr ⟨h.entered hentered, hkept⟩
  seen before hseen := by
    rw [Ghost.without] at hseen
    dsimp only at hseen
    cases hdropped : dropped .gate with
    | true =>
      rw [hdropped] at hseen
      cases hseen
    | false =>
      rw [hdropped] at hseen
      obtain ⟨howned, hstored⟩ := h.seen before hseen
      refine ⟨?_, hstored⟩
      rw [Ghost.without]
      dsimp only
      rw [howned, hdropped]
      rfl
  selected id generation hselected := by
    rw [Ghost.without] at hselected ⊢
    dsimp only at hselected ⊢
    cases hdropped : dropped .writes with
    | true =>
      rw [hdropped] at hselected
      cases hselected
    | false =>
      rw [hdropped] at hselected
      refine (h.selected id generation hselected).imp_left fun howned => ?_
      rw [howned]
      rfl
  stopped hstopped := by
    obtain ⟨hstopped, hkept⟩ := Bool.and_eq_true_iff.mp hstopped
    exact (h.stopped hstopped).imp_left fun howned => Bool.and_eq_true_iff.mpr ⟨howned, hkept⟩

/-- With a request a thread knows what it is to run. -/
theorem Knows.receive (h : Knows s g) {request : WorkerRequest Bytes} (awaited : Awaited s request) :
    Knows s (g.receive request) where
  armed := h.armed
  alone := h.alone
  knows := h.knows
  entered hentered := by
    obtain hold | hnew := Bool.or_eq_true_iff.mp hentered
    · exact Bool.or_eq_true_iff.mpr (.inl (h.entered hold))
    · exact Bool.or_eq_true_iff.mpr (.inr hnew)
  seen before hseen :=
    (h.seen before hseen).imp_left fun howned => Bool.or_eq_true_iff.mpr (.inl howned)
  selected id generation hintends :=
    ⟨Bool.or_eq_true_iff.mpr (.inr (request.writes_of_intends hintends)),
      awaited.intends id generation hintends⟩
  stopped hstopped :=
    (h.stopped hstopped).imp_left fun howned => Bool.or_eq_true_iff.mpr (.inl howned)

/-- What a step has to show of the part of the invariant that all threads share. -/
structure Moves (s : Shared P Bytes) (γ : Thread ι → Ghost) (i : Thread ι) (g : Ghost)
    (s' : Shared P Bytes) : Prop where
  exclusive : Exclusive s'.locked (holders s' (update γ i g))
  raised : ∀ signal, s.raised signal = true → s'.raised signal = true
  spares : ∀ owns : Lock → Bool, (∀ lock, (γ i).owns lock = true → owns lock = false) →
    Spares s s' owns
  knows : Knows s' g
  entered : g.entered = true → (γ i).entered = true ∨ s.raised .closing = false ∨
    s.queue.any (·.guards .writes) = true
  queue : s'.queue.any (·.guards .writes) = true →
    s.queue.any (·.guards .writes) = true ∨ (γ i).entered = true
  quiet : g.quiet = true → (γ i).quiet = true ∨ s.queue.any (·.isShutdown) = true ∨ Closed s γ
  asked : s'.queue.any (·.isShutdown) = true →
    s.queue.any (·.isShutdown) = true ∨ (γ i).quiet = true
  awaited : ∀ request, s'.queue = some request → s.queue = some request ∨ Awaited s' request

/-- What it has to show of the worker and the scheduler. -/
structure Ends (s' : Shared P Bytes) (γ' : Thread ι → Ghost) : Prop where
  gone : s'.raised .schedulerDone = true → (γ' .scheduler).gone = true
  clean : (γ' .worker).clean = true → s'.world.pending = none
  down : (γ' .worker).down = true → s'.world.lifecycle = .stopped
  final : (γ' .worker).final = true →
    (γ' .worker).quiet = true ∧ (γ' .worker).clean = true ∧ (γ' .worker).down = true
  complete : s'.raised .shutdownComplete = true ↔ (γ' .worker).final = true
  responses : ∀ channel, s'.responses channel = some .shutdownComplete →
    s'.raised .shutdownComplete = true
  displays : s'.world.Displays
  lifecycle : ∀ l, (γ' .worker).lifecycle = some l → s'.world.lifecycle = l
  belongs : (γ' .worker).behind = false → Belongs s'
  behind : (γ' .worker).behind = true → (γ' .worker).serving = true

/-- **Step.**  A move with its end keeps the invariant. -/
theorem Inv.step (h : Inv s γ) (m : Moves s γ i g s') (e : Ends s' (update γ i g)) :
    Inv s' (update γ i g) := by
  have hclosed : Closed s γ → Closed s' (update γ i g) := fun hc =>
    hc.step m.raised m.entered m.queue
  -- nobody else has a guard of the one that moved
  have hothers : ∀ holder, holder ≠ some i → ∀ lock, (γ i).owns lock = true →
      holders s γ holder lock = false := fun holder hne lock howned =>
    h.exclusive.other (h := some i) howned hne
  refine ⟨m.exclusive, fun j => ?_, fun j hj => ?_, fun hasked => ?_, e.gone, e.clean, e.down,
    e.final, e.complete, e.responses, e.displays, e.lifecycle, e.belongs, e.behind,
    fun request hrequest => ?_⟩
  · by_cases hj : j = i
    · subst hj
      rw [update_self]
      exact m.knows
    · rw [update_of_ne hj]
      exact (h.knows j).raise m.raised (m.spares _ (hothers (some j) (by simpa using hj)))
  · by_cases hij : j = i
    · subst hij
      rw [update_self] at hj
      obtain hold | hasked | hc := m.quiet hj
      · exact hclosed (h.quiet j hold)
      · exact hclosed (h.asked hasked)
      · exact hclosed hc
    · rw [update_of_ne hij] at hj
      exact hclosed (h.quiet j hj)
  · obtain hold | hnew := m.asked hasked
    · exact hclosed (h.asked hold)
    · exact hclosed (h.quiet i hnew)
  · obtain hold | hnew := m.awaited request hrequest
    · have hspares := m.spares (holders s γ none) (hothers none (by simp))
      refine ⟨(h.awaited request hold).planned, fun id generation hintends => ?_⟩
      refine hspares.selects ?_ id generation ((h.awaited request hold).intends id generation hintends)
      rw [holders, hold]
      exact request.writes_of_intends hintends
    · exact hnew

/-- What the worker and the scheduler know of themselves is the same. -/
structure Ghost.Alike (g g' : Ghost) : Prop where
  clean : g'.clean = g.clean
  down : g'.down = g.down
  final : g'.final = g.final
  gone : g'.gone = g.gone
  lifecycle : g'.lifecycle = g.lifecycle
  serving : g'.serving = g.serving
  behind : g'.behind = g.behind

/-- The runtime, and what is shown of it, are left alone. -/
def Noted (s s' : Shared P Bytes) : Prop :=
  s.world.Unmoved s'.world ∧ s'.world.runtime = s.world.runtime

theorem Noted.refl (s : Shared P Bytes) : Noted s s := ⟨.refl _, rfl⟩

/-- What is left of the worker and the scheduler by a step that does not change them. -/
theorem Ends.kept (h : Inv s γ) (done : s'.raised .schedulerDone = s.raised .schedulerDone)
    (complete : s'.raised .shutdownComplete = s.raised .shutdownComplete)
    (noted : Noted s s') (responses : s'.responses = s.responses)
    (quiet : (γ i).quiet = true → g.quiet = true) (alike : (γ i).Alike g)
    (belongs : Belongs s → Belongs s') : Ends s' (update γ i g) := by
  have hquiet : (γ .worker).quiet = true → (update γ i g .worker).quiet = true := by
    by_cases hi : i = .worker
    · subst hi
      rw [update_self]
      exact quiet
    · rw [update_of_ne (Ne.symm hi)]
      exact id
  constructor
  · rw [done, flag_eq Ghost.gone alike.gone]
    exact h.gone
  · rw [flag_eq Ghost.clean alike.clean, pending_eq noted.2]
    exact h.clean
  · rw [flag_eq Ghost.down alike.down, noted.1.lifecycle]
    exact h.down
  · rw [flag_eq Ghost.final alike.final, flag_eq Ghost.clean alike.clean,
      flag_eq Ghost.down alike.down]
    exact fun hf => ⟨hquiet (h.final hf).1, (h.final hf).2⟩
  · rw [complete, flag_eq Ghost.final alike.final]
    exact h.complete
  · rw [complete, responses]
    exact h.responses
  · exact noted.1.displays h.displays
  · rw [flag_eq Ghost.lifecycle alike.lifecycle, noted.1.lifecycle]
    exact h.lifecycle
  · rw [flag_eq Ghost.behind alike.behind]
    exact fun hsettled => belongs (h.belongs hsettled)
  · rw [flag_eq Ghost.behind alike.behind, flag_eq Ghost.serving alike.serving]
    exact h.behind

/-- What a step of the worker leaves of it. -/
theorem Ends.worker (h : Inv s γ) (done : s'.raised .schedulerDone = s.raised .schedulerDone)
    (clean : g.clean = true → s'.world.pending = none)
    (down : g.down = true → s'.world.lifecycle = .stopped)
    (final : g.final = true → g.quiet = true ∧ g.clean = true ∧ g.down = true)
    (complete : s'.raised .shutdownComplete = true ↔ g.final = true)
    (responses : ∀ channel, s'.responses channel = some .shutdownComplete →
      s'.raised .shutdownComplete = true)
    (displays : s'.world.Displays) (lifecycle : ∀ l, g.lifecycle = some l → s'.world.lifecycle = l)
    (belongs : g.behind = false → Belongs s') (behind : g.behind = true → g.serving = true) :
    Ends s' (update γ .worker g) := by
  have hworker : update γ .worker g .worker = g := update_self ..
  have hscheduler : update γ .worker g .scheduler = γ .scheduler := update_of_ne (by simp) ..
  constructor
  case gone =>
    rw [done, hscheduler]
    exact h.gone
  case responses => exact responses
  case displays => exact displays
  all_goals rwa [hworker]

/-- A thread learns something; no guard changes hands. -/
theorem Moves.learns (h : Inv s γ) (locked : s'.locked = s.locked) (queue : s'.queue = s.queue)
    (raised : ∀ signal, s.raised signal = true → s'.raised signal = true)
    (spares : ∀ owns : Lock → Bool, (∀ lock, (γ i).owns lock = true → owns lock = false) →
      Spares s s' owns)
    (owns : g.owns = (γ i).owns) (knows : Knows s' g)
    (entered : g.entered = true → (γ i).entered = true ∨ s.raised .closing = false)
    (quiet : g.quiet = true → (γ i).quiet = true ∨ Closed s γ) : Moves s γ i g s' where
  exclusive := by
    have hqueue : holders s' γ = holders s γ := by
      funext h lock
      cases h with
      | none => rw [holders, holders, queue]
      | some j => rfl
    have howns : update (holders s' γ) (some i) g.owns = holders s' γ := by
      rw [owns]
      exact update_eq_self (some i) (holders s' γ)
    rw [holders_update, howns, locked, hqueue]
    exact h.exclusive
  raised := raised
  spares := spares
  knows := knows
  entered hg := (entered hg).imp_right .inl
  queue hq := .inl (queue ▸ hq)
  quiet hg := (quiet hg).imp_right .inr
  asked hq := .inl (queue ▸ hq)
  awaited _ hq := .inl (queue ▸ hq)

/-- A thread goes on as it was; no guard changes hands. -/
theorem Moves.same (h : Inv s γ) (i : Thread ι) (locked : s'.locked = s.locked)
    (queue : s'.queue = s.queue)
    (raised : ∀ signal, s.raised signal = true → s'.raised signal = true)
    (spares : ∀ owns, Spares s s' owns) : Moves s γ i (γ i) s' :=
  .learns h locked queue raised (fun owns _ => spares owns) rfl
    ((h.knows i).raise raised (spares _)) .inl .inl

/-- A step that changes no guard, no flag, no runtime, no answer and not the state file. -/
theorem Inv.kept (h : Inv s γ) (i : Thread ι) (locked : s'.locked = s.locked)
    (queue : s'.queue = s.queue) (raised : s'.raised = s.raised) (stored : s'.stored = s.stored)
    (noted : Noted s s') (responses : s'.responses = s.responses) :
    Inv s' (update γ i (γ i)) :=
  h.step (.same h i locked queue (fun _ hs => raised ▸ hs) fun _ => .same stored noted.1)
    (.kept h (congrFun raised _) (congrFun raised _) noted responses id
      ⟨rfl, rfl, rfl, rfl, rfl, rfl, rfl⟩ (·.keep noted.1 fun _ _ hs => stored ▸ hs))

/-- A guard is taken. -/
theorem Inv.take (h : Inv s γ) (i : Thread ι) {lock : Lock} (free : s.locked lock = false) :
    Inv (s.setLock lock true) (update γ i ((γ i).take lock)) := by
  have hqueue : holders (s.setLock lock true) γ = holders s γ := by
    funext h lock'
    cases h <;> rfl
  refine h.step ⟨?_, fun _ hs => hs, fun _ _ => .same rfl (.refl _), ?_, .inl, .inl, .inl, .inl,
    fun _ => .inl⟩ (.kept h rfl rfl (.refl s) rfl id ⟨rfl, rfl, rfl, rfl, rfl, rfl, rfl⟩ id)
  · rw [holders_update, hqueue]
    exact h.exclusive.take (some i) free
  · have hknows := h.knows i
    have hstill : ∀ other, (γ i).owns other = true → ((γ i).take lock).owns other = true := by
      intro other howned
      rw [Ghost.take]
      dsimp only
      by_cases hother : other = lock
      · rw [hother, update_self]
      · rw [update_of_ne hother, howned]
    exact ⟨hknows.armed, hknows.alone, hknows.knows, fun hentered => hstill _ (hknows.entered hentered),
      fun before hseen => (hknows.seen before hseen).imp_left (hstill _),
      fun _ _ hselected => (hknows.selected _ _ hselected).imp_left (hstill _),
      fun hstopped => (hknows.stopped hstopped).imp_left (hstill _)⟩

/-- A guard is given back. -/
theorem Inv.release (h : Inv s γ) (i : Thread ι) {lock : Lock} (owned : (γ i).owns lock = true) :
    Inv (s.setLock lock false) (update γ i ((γ i).release lock)) := by
  have hqueue : holders (s.setLock lock false) γ = holders s γ := by
    funext h lock'
    cases h <;> rfl
  refine h.step ⟨?_, fun _ hs => hs, fun _ _ => .same rfl (.refl _),
    ((h.knows i).without _).raise (fun _ hs => hs) (.same rfl (.refl _)), fun hg => .inl ?_, .inl,
    .inl, .inl, fun _ => .inl⟩
    (.kept h rfl rfl (.refl s) rfl id ⟨rfl, rfl, rfl, rfl, rfl, rfl, rfl⟩ id)
  · have howns : ((γ i).release lock).owns = update (γ i).owns lock false := by
      funext other
      rw [Ghost.release, Ghost.without]
      by_cases hother : other = lock
      · simp [hother]
      · simp [hother]
    rw [holders_update, hqueue, howns]
    exact h.exclusive.release (h := some i) owned
  · exact (Bool.and_eq_true_iff.mp hg).1

/-- A request goes into the channel with its guards. -/
theorem Inv.sent (h : Inv s γ) (i : Thread ι) {request : WorkerRequest Bytes}
    (empty : s.queue = none) (guards : ∀ lock, request.guards lock = true → (γ i).owns lock = true)
    (entered : request.guards .writes = true → (γ i).entered = true)
    (quiet : request.isShutdown = true → (γ i).quiet = true) (awaited : Awaited s request) :
    Inv { s with queue := some request } (update γ i ((γ i).give request)) := by
  refine h.step ⟨?_, fun _ hs => hs, fun _ _ => .same rfl (.refl _),
    ((h.knows i).without _).raise (fun _ hs => hs) (.same rfl (.refl _)),
    fun hg => .inl (Bool.and_eq_true_iff.mp hg).1,
    fun hq => .inr (entered hq), .inl, fun hq => .inr (quiet hq), fun _ hq => ?_⟩
    (.kept h rfl rfl (.refl s) rfl id ⟨rfl, rfl, rfl, rfl, rfl, rfl, rfl⟩ id)
  · have hpassed := h.exclusive.pass (by simp : some i ≠ none) request.guards guards
    have hholders : holders { s with queue := some request } (update γ i ((γ i).give request)) =
        update (update (holders s γ) (some i)
          fun lock => holders s γ (some i) lock && !request.guards lock) none
            fun lock => holders s γ none lock || request.guards lock := by
      rw [holders_update]
      funext h lock
      cases h with
      | none =>
        rw [update_of_ne (by simp), update_self, holders, holders, empty]
        simp
      | some j =>
        rw [update_of_ne (by simp : some j ≠ none)]
        by_cases hj : j = i
        · subst hj
          rw [update_self, update_self]
          rfl
        · rw [update_of_ne (by simpa using hj), update_of_ne (by simpa using hj)]
          rfl
    rw [hholders]
    exact hpassed
  · cases hq
    exact .inr ⟨awaited.planned, awaited.intends⟩

/-- The worker takes a request over with its guards. -/
theorem Inv.received (h : Inv s γ) {request : WorkerRequest Bytes}
    (hqueue : s.queue = some request) :
    Inv { s with queue := none } (update γ .worker ((γ .worker).receive request)) := by
  have hguards : ∀ lock, holders s γ none lock = request.guards lock := fun lock => by
    rw [holders, hqueue]
    rfl
  have hasked : s.queue.any (·.isShutdown) = request.isShutdown := by rw [hqueue]; rfl
  have hwrites : s.queue.any (·.guards .writes) = request.guards .writes := by rw [hqueue]; rfl
  have hknows := (h.knows .worker).receive (h.awaited request hqueue)
  refine h.step ⟨?_, fun _ hs => hs, fun _ _ => .same rfl (.refl _),
    hknows.raise (fun _ hs => hs) (.same rfl (.refl _)), ?_, fun hq => (by cases hq), ?_,
    fun hq => (by cases hq), fun _ hq => (by cases hq)⟩
    (.worker h rfl h.clean h.down (fun hf => ⟨?_, (h.final hf).2⟩) h.complete h.responses h.displays
      h.lifecycle h.belongs fun _ => rfl)
  · have hpassed := h.exclusive.pass (by simp : none ≠ some (.worker : Thread ι)) request.guards
      fun lock hlock => (hguards lock).trans hlock
    have hholders : holders { s with queue := none }
          (update γ .worker ((γ .worker).receive request)) =
        update (update (holders s γ) none
          fun lock => holders s γ none lock && !request.guards lock) (some .worker)
            fun lock => holders s γ (some .worker) lock || request.guards lock := by
      rw [holders_update]
      funext h lock
      cases h with
      | none =>
        rw [update_of_ne (by simp), update_of_ne (by simp), update_self, hguards]
        simp [holders]
      | some j =>
        by_cases hj : j = .worker
        · subst hj
          rw [update_self, update_self]
          rfl
        · rw [update_of_ne (by simpa using hj), update_of_ne (by simpa using hj),
            update_of_ne (by simp)]
          rfl
    rw [hholders]
    exact hpassed
  · intro hentered
    obtain hold | hnew := Bool.or_eq_true_iff.mp hentered
    · exact .inl hold
    · exact .inr (.inr (hwrites.trans hnew))
  · intro hquiet
    obtain hold | hnew := Bool.or_eq_true_iff.mp hquiet
    · exact .inl hold
    · exact .inr (.inl (hasked.trans hnew))
  · rw [Ghost.receive]
    dsimp only
    rw [(h.final hf).1, Bool.true_or]

/-- The channel is closed; the request in it is dropped with its guards. -/
theorem Inv.hangUp (h : Inv s γ) :
    Inv { s.dropQueue with connected := false } (update γ .worker (γ .worker)) := by
  rw [Shared.dropQueue]
  cases hqueue : s.queue with
  | none => exact h.kept .worker rfl rfl rfl rfl (.refl s) rfl
  | some request =>
    refine h.step ⟨?_, fun _ hs => hs, fun _ _ => .same rfl (.refl _),
      (h.knows .worker).raise (fun _ hs => hs) (.same rfl (.refl _)), .inl, fun hq => (by cases hq),
      .inl, fun hq => (by cases hq), fun _ hq => (by cases hq)⟩
      (.kept h rfl rfl (.refl s) rfl id ⟨rfl, rfl, rfl, rfl, rfl, rfl, rfl⟩ id)
    have hdropped := h.exclusive.drop none
    have hguards : ∀ lock, holders s γ none lock = request.guards lock := fun lock => by
      rw [holders, hqueue]
      rfl
    have hholders : holders ({ s with
          queue := none
          locked := fun lock => s.locked lock && !request.guards lock
          connected := false } : Shared P Bytes) (update γ .worker (γ .worker)) =
        update (holders s γ) none fun _ => false := by
      rw [update_eq_self]
      funext h lock
      cases h with
      | none => rfl
      | some j =>
        rw [update_of_ne (by simp)]
        rfl
    rw [hholders]
    simp only [hguards] at hdropped
    exact hdropped

omit [DecidableEq ι] in
/-- What a change of the worker applies belongs to what is stored. -/
theorem Belongs.work (h : (γ .worker).behind = false → Belongs s) (hknows : Knows s (γ .worker))
    {w : ManagedRuntime P Bytes} (leaves : ManagedRuntime.Leaves (γ .worker).Picks s.world w)
    (renews : (γ .worker).behind = true → w.Renews (γ .worker).Picks) :
    Belongs { s with world := w } := by
  have hpicked : ∀ id generation, (γ .worker).Picks id generation →
      ∃ sub, sub.val = id ∧ StillSelects s.stored sub generation := by
    rintro id generation ⟨-, sub, hsub, hselected⟩
    exact ⟨sub, hsub, (hknows.selected _ _ hselected).2⟩
  cases hbehind : (γ .worker).behind with
  | true =>
    obtain hbare | ⟨id, generation, hpicks, happlied⟩ := renews hbehind
    · exact .inl hbare
    · exact .inr ⟨id, generation, hpicked _ _ hpicks, happlied⟩
  | false =>
    cases leaves with
    | kept lifecycle observed applied =>
      obtain hbare | ⟨id, generation, hbelongs, happlied⟩ := h hbehind
      · exact .inl (applied.trans hbare)
      · exact .inr ⟨id, generation, hbelongs, applied.trans happlied⟩
    | down lifecycle observed applied => exact .inl applied
    | ready id generation tuple lifecycle observed applied =>
      exact .inr ⟨id, generation, hpicked _ _ tuple, applied⟩

/-- Without the guard of the runtime, nothing comes to be shown. -/
theorem Shared.Bare.work (h : s.Bare) (without : g.owns .runtime = false)
    {w : ManagedRuntime P Bytes} (leaves : ManagedRuntime.Leaves g.Picks s.world w) :
    ({ s with world := w } : Shared P Bytes).Bare := by
  cases leaves with
  | kept lifecycle observed applied => exact applied.trans h
  | down lifecycle observed applied => exact applied
  | ready id generation tuple lifecycle observed applied =>
    rw [tuple.1] at without
    cases without

/-- The worker changes its runtime. -/
theorem Inv.work (h : Inv s γ) (change : ManagedRuntime P Bytes → ManagedRuntime P Bytes)
    {clean down : Bool} {lifecycle : Option SidecarLifecycle}
    {selected : Option (SubscriptionId × UInt64)} (notFinal : (γ .worker).final = false)
    (notStopped : (γ .worker).stopped = false) (isClean : clean = true → (change s.world).pending = none)
    (isDown : down = true → (change s.world).lifecycle = .stopped)
    (isIn : ∀ l, lifecycle = some l → (change s.world).lifecycle = l)
    (leaves : ManagedRuntime.Leaves (γ .worker).Picks s.world (change s.world))
    (renews : (γ .worker).behind = true → (change s.world).Renews (γ .worker).Picks)
    (forgets : selected = (γ .worker).selected ∨ selected = none) :
    Inv { s with world := change s.world }
      (update γ .worker { γ .worker with clean, down, lifecycle, selected, behind := false }) := by
  have hknows := h.knows .worker
  refine h.step (.learns h rfl rfl (fun _ hs => hs) (fun owns hothers => ⟨fun _ => rfl,
    fun _ _ _ hs => hs, fun howned hbare => hbare.work ?_ leaves⟩) rfl ⟨hknows.armed, hknows.alone,
    hknows.knows, hknows.entered, hknows.seen, fun id generation hselected => ?_,
    fun hstopped => ?_⟩ .inl .inl)
    (.worker h rfl isClean isDown (fun hfinal => ?_) h.complete h.responses (leaves.displays h.displays)
      isIn (fun _ => .work h.belongs hknows leaves renews) nofun)
  · by_contra hruntime
    rw [Bool.not_eq_false] at hruntime
    rw [hothers .runtime hruntime] at howned
    cases howned
  · obtain rfl | rfl := forgets
    · exact hknows.selected id generation hselected
    · cases hselected
  · rw [notStopped] at hstopped
    cases hstopped
  · rw [notFinal] at hfinal
    cases hfinal

/-- A flag that is raised lowers none. -/
theorem raised_mono (s : Shared P Bytes) (signal : Signal) (other : Signal)
    (h : s.raised other = true) : update s.raised signal true other = true := by
  by_cases hother : other = signal
  · rw [hother, update_self]
  · rw [update_of_ne hother, h]

/-- The worker records that the shutdown is complete. -/
theorem Inv.completes (h : Inv s γ) (quiet : (γ .worker).quiet = true)
    (clean : (γ .worker).clean = true) (down : (γ .worker).down = true) :
    Inv { s with raised := update s.raised .shutdownComplete true }
      (update γ .worker { γ .worker with final := true }) := by
  have hraised := raised_mono s .shutdownComplete
  have hcomplete : update s.raised .shutdownComplete true .shutdownComplete = true :=
    update_self ..
  have hknows : Knows { s with raised := update s.raised .shutdownComplete true } (γ .worker) :=
    (h.knows .worker).raise hraised (.same rfl (.refl _))
  have hother : update s.raised .shutdownComplete true .schedulerDone = s.raised .schedulerDone :=
    update_of_ne (by simp) ..
  exact h.step (.learns h rfl rfl hraised (fun _ _ => .same rfl (.refl _)) rfl
    ⟨hknows.armed, hknows.alone, hknows.knows, hknows.entered, hknows.seen, hknows.selected,
      hknows.stopped⟩ .inl .inl)
    (.worker h hother h.clean h.down (fun _ => ⟨quiet, clean, down⟩) (iff_of_true hcomplete rfl)
      (fun _ _ => hcomplete) h.displays h.lifecycle h.belongs h.behind)

/-- The worker did not complete the shutdown. -/
theorem Inv.fails (h : Inv s γ) (notFinal : (γ .worker).final = false) :
    Inv { s with raised := update s.raised .shutdownComplete false }
      (update γ .worker (γ .worker)) := by
  have hlowered : update s.raised .shutdownComplete false = s.raised := by
    have hraised : s.raised .shutdownComplete = false := by
      by_contra hcomplete
      rw [Bool.not_eq_false] at hcomplete
      rw [h.complete.mp hcomplete] at notFinal
      cases notFinal
    rw [← hraised, update_eq_self]
  rw [hlowered]
  exact h.kept .worker rfl rfl rfl rfl (.refl s) rfl

/-- The manager is closed. -/
theorem Inv.closes (h : Inv s γ) (i : Thread ι) :
    Inv { s with raised := update s.raised .closing true }
      (update γ i { γ i with armed := true }) := by
  have hraised := raised_mono s .closing
  have hknows : Knows { s with raised := update s.raised .closing true } (γ i) :=
    (h.knows i).raise hraised (.same rfl (.refl _))
  have hclosing : update s.raised .closing true .closing = true := update_self ..
  have hother : ∀ signal, signal ≠ .closing →
      update s.raised .closing true signal = s.raised signal := fun _ hne => update_of_ne hne ..
  exact h.step (.learns h rfl rfl hraised (fun _ _ => .same rfl (.refl _)) rfl
    ⟨fun _ => hclosing, hknows.alone, hknows.knows, hknows.entered, hknows.seen, hknows.selected,
      hknows.stopped⟩ .inl .inl)
    (.kept h (hother .schedulerDone (by simp)) (hother .shutdownComplete (by simp)) (.refl s) rfl id
      ⟨rfl, rfl, rfl, rfl, rfl, rfl, rfl⟩ id)

/-- A shutdown is requested. -/
theorem Inv.requests (h : Inv s γ) (i : Thread ι) :
    Inv { s with raised := update s.raised .shutdownRequested true } (update γ i (γ i)) := by
  have hother : ∀ signal, signal ≠ .shutdownRequested →
      update s.raised .shutdownRequested true signal = s.raised signal :=
    fun _ hne => update_of_ne hne ..
  exact h.step (.same h i rfl rfl (raised_mono s .shutdownRequested)
      fun _ => .same rfl (.refl _))
    (.kept h (hother .schedulerDone (by simp)) (hother .shutdownComplete (by simp)) (.refl s) rfl id
      ⟨rfl, rfl, rfl, rfl, rfl, rfl, rfl⟩ id)

/-- The scheduler leaves its loop. -/
theorem Inv.leaves (h : Inv s γ) :
    Inv { s with raised := update s.raised .schedulerDone true }
      (update γ .scheduler { γ .scheduler with gone := true }) := by
  have hraised := raised_mono s .schedulerDone
  have hworker : update γ .scheduler { γ .scheduler with gone := true } .worker = γ .worker :=
    update_of_ne (by simp) ..
  have hcomplete : update s.raised .schedulerDone true .shutdownComplete =
      s.raised .shutdownComplete := update_of_ne (by simp) ..
  have hknows : Knows { s with raised := update s.raised .schedulerDone true } (γ .scheduler) :=
    (h.knows .scheduler).raise hraised (.same rfl (.refl _))
  refine h.step (.learns h rfl rfl hraised (fun _ _ => .same rfl (.refl _)) rfl
    ⟨hknows.armed, hknows.alone, hknows.knows, hknows.entered, hknows.seen, hknows.selected,
      hknows.stopped⟩ .inl .inl)
    ⟨fun _ => by rw [update_self], ?_, ?_, ?_, ?_, ?_, h.displays, ?_, ?_, ?_⟩
  · rw [hworker]
    exact h.clean
  · rw [hworker]
    exact h.down
  · rw [hworker]
    exact h.final
  · dsimp only
    rw [hworker, hcomplete]
    exact h.complete
  · dsimp only
    rw [hcomplete]
    exact h.responses
  · rw [hworker]
    exact h.lifecycle
  · rw [hworker]
    exact fun hsettled => h.belongs hsettled
  · rw [hworker]
    exact h.behind

/-- The worker answers a shutdown. -/
theorem Inv.responds (h : Inv s γ) {channel : Nat} {result : ShutdownResult}
    (final : result = .shutdownComplete → s.raised .shutdownComplete = true) :
    Inv { s with responses := update s.responses channel (some result) }
      (update γ .worker (γ .worker)) := by
  rw [update_eq_self]
  refine { h with
    exclusive := h.exclusive
    knows := fun i => (h.knows i).raise (fun _ hs => hs) (.same rfl (.refl _))
    quiet := fun i hi => ⟨(h.quiet i hi).closing, (h.quiet i hi).alone, (h.quiet i hi).threads,
      (h.quiet i hi).queue⟩
    asked := fun ha => ⟨(h.asked ha).closing, (h.asked ha).alone, (h.asked ha).threads,
      (h.asked ha).queue⟩
    awaited := fun request hrequest =>
      ⟨(h.awaited request hrequest).planned, (h.awaited request hrequest).intends⟩
    responses := fun channel' hresponse => ?_ }
  dsimp only at hresponse
  by_cases hchannel : channel' = channel
  · subst hchannel
    rw [update_self] at hresponse
    exact final (Option.some.inj hresponse)
  · rw [update_of_ne hchannel] at hresponse
    exact h.responses channel' hresponse

/-- What a thread finds out about the shared state. -/
theorem Inv.finds (h : Inv s γ) (i : Thread ι) (owns : g.owns = (γ i).owns) (knows : Knows s g)
    (entered : g.entered = true → (γ i).entered = true ∨ s.raised .closing = false)
    (quiet : g.quiet = true → (γ i).quiet = true ∨ Closed s γ)
    (still : (γ i).quiet = true → g.quiet = true) (alike : (γ i).Alike g) : Inv s (update γ i g) :=
  h.step (.learns h rfl rfl (fun _ hs => hs) (fun _ _ => .same rfl (.refl _)) owns knows entered
    quiet) (.kept h rfl rfl (.refl s) rfl still alike id)

/-- What a thread has of the state file, with the gate in hand. -/
theorem Inv.sees (h : Inv s γ) {i : Thread ι} (owned : (γ i).owns .gate = true)
    {seen : Option (Option AppState)} (hseen : ∀ before, seen = some before → s.stored = before) :
    Inv s (update γ i { γ i with seen }) := by
  have hknows := h.knows i
  exact h.finds i rfl ⟨hknows.armed, hknows.alone, hknows.knows, hknows.entered,
    fun before hbefore => ⟨owned, hseen before hbefore⟩, hknows.selected, hknows.stopped⟩ .inl .inl id
    ⟨rfl, rfl, rfl, rfl, rfl, rfl, rfl⟩

/-- What a thread has of the state file stays selected, with the write guard in hand as well. -/
theorem Inv.holds (h : Inv s γ) {i : Thread ι} (owned : (γ i).owns .gate = true)
    (writes : (γ i).owns .writes = true) {state : AppState} (stored : s.stored = some state) :
    Inv s (update γ i { γ i with seen := some (some state), selected := state.selection }) := by
  have hknows := h.knows i
  refine h.finds i rfl ⟨hknows.armed, hknows.alone, hknows.knows, hknows.entered,
    fun before hbefore => ⟨owned, stored.trans (Option.some.inj hbefore)⟩,
    fun id generation hselected => ⟨writes, ?_⟩, hknows.stopped⟩ .inl .inl id
    ⟨rfl, rfl, rfl, rfl, rfl, rfl, rfl⟩
  rw [stored]
  exact .self hselected

/-- Who saves has the guards of what it changes. -/
theorem Spares.write {owns : Lock → Bool} {writer : Writer} {before : Option AppState}
    {next : AppState} (hgate : owns .gate = false) (stored : s.stored = before)
    (replaces : Onward before next ∨ owns .writes = false) :
    Spares s (s.write writer (some next)) owns := by
  refine ⟨fun howned => ?_, fun howned id generation hselects => ?_, fun _ hbare => hbare⟩
  · rw [hgate] at howned
    cases howned
  · obtain onward | hwrites := replaces
    · exact onward.stillSelects (stored ▸ hselects)
    · rw [hwrites] at howned
      cases howned

/-- The state file is written by who has the gate, and has to be loaded again. -/
theorem Inv.saves (h : Inv s γ) {i : Thread ι} {before : Option AppState} {next : AppState}
    (owned : (γ i).owns .gate = true) (seen : (γ i).seen = some before)
    (replaces : Over (γ i) before next) (writer : Writer) :
    Inv (s.write writer (some next)) (update γ i { γ i with seen := none }) := by
  have hknows := h.knows i
  have hstored := (hknows.seen before seen).2
  refine h.step (.learns h rfl rfl (fun _ hs => hs) (fun owns hothers =>
    .write (hothers _ owned) hstored (replaces.imp_right fun htakes => hothers _ htakes.2.1)) rfl
    ⟨hknows.armed, hknows.alone, hknows.knows, hknows.entered, nofun,
      fun id generation hselected => ?_, hknows.stopped⟩ .inl .inl)
    (.kept h rfl rfl (.refl s) rfl id ⟨rfl, rfl, rfl, rfl, rfl, rfl, rfl⟩ fun hbelongs => ?_)
  · obtain onward | ⟨-, -, -, hnone⟩ := replaces
    · refine (hknows.selected id generation hselected).imp_right fun hselects => ?_
      exact onward.stillSelects (hstored ▸ hselects)
    · rw [hnone] at hselected
      cases hselected
  · obtain onward | ⟨-, -, hstopped, -⟩ := replaces
    · exact hbelongs.keep (.refl _) fun _ _ hselects => onward.stillSelects (hstored ▸ hselects)
    · exact .inl (hknows.stopped hstopped).2

/-- So it is by the worker, which may be behind what it has selected. -/
theorem Inv.selects (h : Inv s γ) {before : Option AppState} {next : AppState} {behind : Bool}
    (owned : (γ .worker).owns .gate = true) (seen : (γ .worker).seen = some before)
    (writes : (γ .worker).owns .writes = true) (serving : (γ .worker).serving = true)
    (onward : behind = false → (γ .worker).behind = false ∧ Onward before next) (writer : Writer) :
    Inv (s.write writer (some next))
      (update γ .worker { γ .worker with seen := none, selected := next.selection, behind }) := by
  have hknows := h.knows .worker
  have hstored := (hknows.seen before seen).2
  refine h.step (.learns h rfl rfl (fun _ hs => hs) (fun owns hothers =>
    .write (hothers _ owned) hstored (.inr (hothers _ writes))) rfl
    ⟨hknows.armed, hknows.alone, hknows.knows, hknows.entered, nofun,
      fun id generation hselected => ⟨writes, .self hselected⟩, hknows.stopped⟩ .inl .inl)
    (.worker h rfl h.clean h.down h.final h.complete h.responses h.displays h.lifecycle
      (fun hbehind => ?_) fun _ => serving)
  obtain ⟨hsettled, honward⟩ := onward hbehind
  exact (h.belongs hsettled).keep (.refl _) fun _ _ hselects =>
    honward.stillSelects (hstored ▸ hselects)

/-- A load settles the file: it is written as it is. -/
theorem Inv.settles (h : Inv s γ) (writer : Writer) : Inv (s.write writer s.stored) γ := by
  have hsame : Inv (s.write writer s.stored) (update γ .worker (γ .worker)) :=
    h.kept .worker rfl rfl rfl rfl (.refl s) rfl
  rwa [update_eq_self] at hsame

/-- With the guard of the runtime in hand, nothing is seen to run. -/
theorem Inv.seesStopped (h : Inv s γ) {i : Thread ι} {w : ManagedRuntime P Bytes}
    (owned : (γ i).owns .runtime = true)
    (stopped : s.world.observations.sidecarLifecycle = .stopped)
    (notes : s.world.Unmoved w ∧ w.runtime = s.world.runtime) :
    Inv { s with world := w } (update γ i { γ i with stopped := true }) := by
  have hknows := h.knows i
  have hbare : s.Bare := by
    refine h.displays.down fun hready => ?_
    rw [h.displays.ready_iff.mpr hready] at stopped
    cases stopped
  have hkept : ({ s with world := w } : Shared P Bytes).Bare := notes.1.applied.trans hbare
  exact h.step (.learns h rfl rfl (fun _ hs => hs) (fun _ _ => .same rfl notes.1) rfl
    ⟨hknows.armed, hknows.alone, hknows.knows, hknows.entered, hknows.seen, hknows.selected,
      fun _ => ⟨owned, hkept⟩⟩ .inl .inl)
    (.kept h rfl rfl notes rfl id ⟨rfl, rfl, rfl, rfl, rfl, rfl, rfl⟩ (·.keep notes.1 fun _ _ => id))

/-- The worker has found no request. -/
theorem Inv.rests (h : Inv s γ) (settled : (γ .worker).behind = false) :
    Inv s (update γ .worker { γ .worker with serving := false }) := by
  have hknows := h.knows .worker
  refine h.step (.learns h rfl rfl (fun _ hs => hs) (fun _ _ => .same rfl (.refl _)) rfl
    ⟨hknows.armed, hknows.alone, hknows.knows, hknows.entered, hknows.seen, hknows.selected,
      hknows.stopped⟩ .inl .inl)
    (.worker h rfl h.clean h.down h.final h.complete h.responses h.displays h.lifecycle h.belongs
      fun hbehind => ?_)
  rw [settled] at hbehind
  cases hbehind

omit [DecidableEq ι] in
/-- A shutdown that has closed the manager and seen the scheduler go finds the write guard free. -/
theorem Inv.isQuiet (h : Inv s γ) {i : Thread ι} (armed : (γ i).armed = true)
    (alone : (γ i).alone = true) (free : s.locked .writes = false) : Closed s γ := by
  refine ⟨(h.knows i).armed armed, (h.knows i).alone alone, fun j => ?_, ?_⟩
  · by_contra hentered
    rw [Bool.not_eq_false] at hentered
    have howned : holders s γ (some j) .writes = true := (h.knows j).entered hentered
    rw [h.exclusive.free free] at howned
    cases howned
  · exact h.exclusive.free free none

/-! ### One lemma for each action -/

section Actions

variable {choice : Choice P}

/-- A lock that is taken has no other holder. -/
theorem Inv.onTryLock (h : Inv s γ) {lock : Lock} {taken : Bool}
    (performed : perform (.tryLock lock : Action P Bytes) choice s = some (taken, s'))
    (goes : Goes i (.tryLock lock : Action P Bytes) (γ i) taken g) : Inv s' (update γ i g) := by
  rw [perform] at performed
  generalize hg : γ i = before at goes
  cases goes with
  | taken =>
    split at performed
    · cases performed
    · next hfree =>
      cases performed
      subst hg
      exact h.take i (Bool.not_eq_true _ ▸ hfree)
  | refused =>
    split at performed
    · cases performed
      exact hg ▸ h.kept i rfl rfl rfl rfl (.refl s) rfl
    · cases performed

/-- Looking at a lock changes nothing. -/
theorem Inv.onIsLocked (h : Inv s γ) {lock : Lock} {locked : Bool}
    (performed : perform (.isLocked lock : Action P Bytes) choice s = some (locked, s'))
    (goes : Goes i (.isLocked lock : Action P Bytes) (γ i) locked g) : Inv s' (update γ i g) := by
  generalize hg : γ i = before at goes
  cases goes with
  | isLocked =>
    cases performed
    exact hg ▸ h.kept i rfl rfl rfl rfl (.refl s) rfl
  | quiet armed alone =>
    obtain ⟨hfree, rfl⟩ := Prod.mk.inj (Option.some.inj performed)
    subst hg
    have hknows := h.knows i
    exact h.finds i rfl ⟨hknows.armed, hknows.alone, hknows.knows, hknows.entered, hknows.seen,
      hknows.selected, hknows.stopped⟩ .inl (fun _ => .inr (h.isQuiet armed alone hfree))
      (fun _ => rfl) ⟨rfl, rfl, rfl, rfl, rfl, rfl, rfl⟩

/-- What a flag tells. -/
theorem Inv.onRead (h : Inv s γ) {signal : Signal} {raised : Bool}
    (performed : perform (.read signal : Action P Bytes) choice s = some (raised, s'))
    (goes : Goes i (.read signal : Action P Bytes) (γ i) raised g) : Inv s' (update γ i g) := by
  obtain ⟨hraised, rfl⟩ := Prod.mk.inj (Option.some.inj performed)
  have hknows := h.knows i
  generalize hg : γ i = before at goes
  cases goes with
  | read => exact hg ▸ h.kept i rfl rfl rfl rfl (.refl s) rfl
  | enter owned =>
    subst hg
    exact h.finds i rfl ⟨hknows.armed, hknows.alone, hknows.knows, fun _ => owned, hknows.seen,
      hknows.selected, hknows.stopped⟩ (fun _ => .inr hraised) .inl id
      ⟨rfl, rfl, rfl, rfl, rfl, rfl, rfl⟩
  | alone =>
    subst hg
    exact h.finds i rfl ⟨hknows.armed, fun _ => hraised, hknows.knows, hknows.entered, hknows.seen,
      hknows.selected, hknows.stopped⟩ .inl .inl id ⟨rfl, rfl, rfl, rfl, rfl, rfl, rfl⟩
  | known =>
    subst hg
    exact h.finds i rfl ⟨hknows.armed, hknows.alone, fun _ => hraised, hknows.entered, hknows.seen,
      hknows.selected, hknows.stopped⟩ .inl .inl id ⟨rfl, rfl, rfl, rfl, rfl, rfl, rfl⟩

/-- A flag is raised by the thread that may. -/
theorem Inv.onStore (h : Inv s γ) {signal : Signal} {value : Bool} {answer : Unit}
    (performed : perform (.store signal value : Action P Bytes) choice s = some (answer, s'))
    (goes : Goes i (.store signal value : Action P Bytes) (γ i) answer g) :
    Inv s' (update γ i g) := by
  cases performed
  generalize hg : γ i = before at goes
  cases goes with
  | close =>
    subst hg
    exact h.closes i
  | request => exact hg ▸ h.requests i
  | complete quiet clean down =>
    subst hg
    exact h.completes quiet clean down
  | incomplete notFinal =>
    subst hg
    exact h.fails notFinal
  | leave =>
    subst hg
    exact h.leaves

/-- What is loaded is what is stored. -/
theorem Inv.onLoad (h : Inv s γ) {writer : Writer} {loaded : Option (Option AppState)}
    (performed : perform (.load writer : Action P Bytes) choice s = some (loaded, s'))
    (goes : Goes i (.load writer : Action P Bytes) (γ i) loaded g) : Inv s' (update γ i g) := by
  rw [perform] at performed
  generalize hg : γ i = before at goes
  cases goes with
  | load owned allowed =>
    subst hg
    split at performed
    · cases performed
      split
      · exact (h.settles writer).sees owned fun before hbefore => Option.some.inj hbefore
      · exact h.sees owned fun before hbefore => Option.some.inj hbefore
    · cases performed
      exact h.sees owned nofun
  | hold owned allowed writes =>
    subst hg
    split at performed
    · obtain ⟨hstored, rfl⟩ := Prod.mk.inj (Option.some.inj performed)
      have hstored := Option.some.inj hstored
      split
      · exact (h.settles writer).holds owned writes hstored
      · exact h.holds owned writes hstored
    · cases performed

/-- Who saves may write. -/
theorem Inv.onSave (h : Inv s γ) {writer : Writer} {next : Option AppState} {saved : Bool}
    (performed : perform (.save writer next : Action P Bytes) choice s = some (saved, s'))
    (goes : Goes i (.save writer next : Action P Bytes) (γ i) saved g) :
    Inv s' (update γ i g) := by
  rw [perform] at performed
  generalize hg : γ i = before at goes
  cases goes with
  | unsaved =>
    split at performed <;> cases performed
    subst hg
    have hknows := h.knows i
    exact h.finds i rfl ⟨hknows.armed, hknows.alone, hknows.knows, hknows.entered, nofun,
      hknows.selected, hknows.stopped⟩ .inl .inl id ⟨rfl, rfl, rfl, rfl, rfl, rfl, rfl⟩
  | save owned seen allowed replaces =>
    split at performed <;> cases performed
    subst hg
    exact h.saves owned seen replaces writer
  | select owned seen notFinal writes serving grows onward =>
    split at performed <;> cases performed
    subst hg
    exact h.selects owned seen writes serving onward writer

/-- A change is one of a thread that may make it. -/
theorem Inv.onTouch (h : Inv s γ) {change : ManagedRuntime P Bytes → ManagedRuntime P Bytes}
    {w : ManagedRuntime P Bytes}
    (performed : perform (.touch change : Action P Bytes) choice s = some (w, s'))
    (goes : Goes i (.touch change : Action P Bytes) (γ i) w g) : Inv s' (update γ i g) := by
  cases performed
  generalize hg : γ i = before at goes
  cases goes with
  | note notes => exact hg ▸ h.kept i rfl rfl rfl rfl (notes _) rfl
  | stopped notes owned stopped =>
    subst hg
    exact h.seesStopped owned stopped (notes _)
  | work notFinal notStopped isClean isDown isIn leaves renews forgets =>
    subst hg
    exact h.work _ notFinal notStopped isClean isDown isIn leaves renews forgets

/-- A request takes its guards with it. -/
theorem Inv.onSend (h : Inv s γ) {request : WorkerRequest Bytes} {sent : Bool}
    (performed : perform (.send request : Action P Bytes) choice s = some (sent, s'))
    (goes : Goes i (.send request : Action P Bytes) (γ i) sent g) : Inv s' (update γ i g) := by
  rw [perform] at performed
  generalize hg : γ i = before at goes
  cases goes with
  | sent guards entered quiet intends planned =>
    split at performed
    · next hsend =>
      cases performed
      subst hg
      have hempty := Option.isNone_iff_eq_none.mp (Bool.and_eq_true_iff.mp hsend).2
      exact h.sent i hempty guards entered quiet ⟨planned, fun id generation hintends =>
        ((h.knows i).selected id generation (intends _ hintends)).2⟩
    · cases performed
  | unsent =>
    split at performed
    · cases performed
    · cases performed
      exact hg ▸ h.kept i rfl rfl rfl rfl (.refl s) rfl

/-- A request brings its guards along. -/
theorem Inv.onReceive (h : Inv s γ) {received : Received Bytes}
    (performed : perform (.receive : Action P Bytes) choice s = some (received, s'))
    (goes : Goes i (.receive : Action P Bytes) (γ i) received g) : Inv s' (update γ i g) := by
  rw [perform] at performed
  generalize hg : γ i = before at goes
  cases goes with
  | received =>
    split at performed
    · next hqueue =>
      cases performed
      subst hg
      exact h.received hqueue
    · obtain ⟨hnone, -⟩ := Prod.mk.inj (Option.some.inj performed)
      cases hchoice : choice.disconnected <;> rw [hchoice] at hnone <;> cases hnone
  | timeout settled | disconnected settled =>
    split at performed
    · cases performed
    · obtain ⟨-, rfl⟩ := Prod.mk.inj (Option.some.inj performed)
      subst hg
      exact h.rests settled

/-- A shutdown that is awaited has been answered. -/
theorem Inv.onAwait (h : Inv s γ) {channel : Nat} {result : Option ShutdownResult}
    (performed : perform (.await channel : Action P Bytes) choice s = some (result, s'))
    (goes : Goes i (.await channel : Action P Bytes) (γ i) result g) : Inv s' (update γ i g) := by
  obtain ⟨hresponse, rfl⟩ := Prod.mk.inj (Option.some.inj performed)
  generalize hg : γ i = before at goes
  cases goes with
  | await => exact hg ▸ h.kept i rfl rfl rfl rfl (.refl s) rfl
  | learned =>
    subst hg
    have hknows := h.knows i
    have hcomplete : s.raised .shutdownComplete = true := by
      cases hchoice : choice.succeeds <;> rw [hchoice] at hresponse
      · cases hresponse
      · exact h.responses _ hresponse
    exact h.finds i rfl ⟨hknows.armed, hknows.alone, fun _ => hcomplete, hknows.entered, hknows.seen,
      hknows.selected, hknows.stopped⟩ .inl .inl id ⟨rfl, rfl, rfl, rfl, rfl, rfl, rfl⟩

end Actions

/-- **The rules are sound.** -/
theorem Inv.keeps (h : Inv s γ) {action : Action P Bytes} {choice : Choice P}
    {answer : Answer action} (performed : perform action choice s = some (answer, s'))
    (goes : Goes i action (γ i) answer g) : Inv s' (update γ i g) := by
  cases action with
  | tryLock lock => exact h.onTryLock performed goes
  | isLocked lock => exact h.onIsLocked performed goes
  | read signal => exact h.onRead performed goes
  | store signal value => exact h.onStore performed goes
  | load writer => exact h.onLoad performed goes
  | save writer next => exact h.onSave performed goes
  | touch change => exact h.onTouch performed goes
  | send request => exact h.onSend performed goes
  | receive => exact h.onReceive performed goes
  | await channel => exact h.onAwait performed goes
  | unlock lock =>
    generalize hg : γ i = before at goes
    cases goes with
    | unlock owned =>
      cases performed
      subst hg
      exact h.release i owned
  | respond channel result =>
    generalize hg : γ i = before at goes
    cases goes with
    | respond final =>
      cases performed
      subst hg
      exact h.responds fun hresult => h.complete.mpr (final hresult)
  | hangUp =>
    generalize hg : γ i = before at goes
    cases goes with
    | hangUp =>
      cases performed
      exact hg ▸ h.hangUp
  | remember update | ask | openChannel =>
    generalize hg : γ i = before at goes
    cases goes
    cases performed
    exact hg ▸ h.kept i rfl rfl rfl rfl (.refl s) rfl

omit [DecidableEq ι] in
/-- Before any call. -/
theorem Inv.start (stored : Option AppState) :
    Inv (.start stored : Shared P Bytes) fun _ : Thread ι => .start where
  exclusive := by
    refine ⟨fun lock => ?_, fun {h} => ?_⟩
    · rw [Shared.start]
      refine iff_of_false (by simp) ?_
      rintro ⟨h, hholds⟩
      cases h <;> cases hholds
    · intro h' lock hholds
      cases h <;> cases hholds
  knows _ := ⟨nofun, nofun, nofun, nofun, nofun, nofun, nofun⟩
  quiet _ := nofun
  asked := nofun
  gone := nofun
  clean _ := rfl
  down := nofun
  final := nofun
  complete := iff_of_false (by simp [Shared.start]) (by simp [Ghost.start])
  responses _ := nofun
  displays := ManagedRuntime.Shown.new.toDisplays
  lifecycle _ := nofun
  belongs _ := .inl rfl
  behind := nofun
  awaited _ := nofun

omit [DecidableEq ι] in
/-- The worker finds the memory as it left it. -/
theorem Inv.can (h : Inv s γ) {action : Action P Bytes} {choice : Choice P}
    {answer : Answer action} (performed : perform action choice s = some (answer, s')) :
    Can i action (γ i) answer := by
  cases i with
  | worker =>
    cases action with
    | touch change =>
      cases performed
      exact ⟨h.clean, h.lifecycle⟩
    | receive =>
      rw [perform] at performed
      split at performed
      · next request hqueue =>
        cases performed
        exact (h.awaited request hqueue).planned
      · cases hchoice : choice.disconnected <;> rw [hchoice] at performed <;> cases performed <;>
          trivial
    | _ => trivial
  | _ => trivial

end Sound

end Controller

end Veyra
