import Veyra.Application.ControllerRules

/-!
# Veyra.Application.ManagerRules

The managers keep the rules of the threads: an operation ends with what its
thread owned and knew before it (`Neutral`), and looks at the state file only
where it may.
-/

namespace Veyra

open Check Threads Function

namespace Controller

variable {P Bytes ι ε α β ρ : Type}

/-- The rules of the threads. -/
def rules : Rules (Thread ι) (Action P Bytes) Answer Ghost := ⟨Can, Goes⟩

/-- A task after which its thread owns and knows what it did before. -/
def Neutral (i : Thread ι) (g : Ghost) (p : Task P Bytes α) : Prop :=
  p.wp rules i g fun _ g' => g' = g

section Neutral

variable {i : Thread ι} {g : Ghost}

/-- An action that changes nothing, then the rest. -/
theorem Neutral.act {action : Action P Bytes} {next : Answer action → Task P Bytes α}
    (goes : ∀ answer, Can i action g answer → Goes i action g answer g)
    (hnext : ∀ answer, Can i action g answer → Neutral i g (next answer)) :
    Neutral i g (.act action next) :=
  fun answer hcan => ⟨g, goes answer hcan, hnext answer hcan⟩

/-- Neutral parts make a neutral whole. -/
theorem Neutral.bind {p : Task P Bytes α} {f : α → Task P Bytes β} (hp : Neutral i g p)
    (hf : ∀ a, Neutral i g (f a)) : Neutral i g (p >>= f) := by
  refine Code.wp_bind.mpr (Code.wp_mono (fun a g' hg => ?_) hp)
  subst hg
  exact hf a

/-- One task after another. -/
theorem wp_then {p : Task P Bytes α} {f : α → Task P Bytes β} {Q : α → Ghost → Prop}
    {R : β → Ghost → Prop} (hp : p.wp rules i g Q)
    (hf : ∀ a g', Q a g' → (f a).wp rules i g' R) : (p >>= f).wp rules i g R :=
  Code.wp_bind.mpr (Code.wp_mono hf hp)

/-- A task with one outcome for each of its results, then another one. -/
theorem wp_next {p : Task P Bytes α} {f : α → Task P Bytes β} {h : α → Ghost}
    {R : β → Ghost → Prop} (hp : p.wp rules i g fun a g' => g' = h a)
    (hf : ∀ a, (f a).wp rules i (h a) R) : (p >>= f).wp rules i g R := by
  refine wp_then hp fun a g' hg => ?_
  rw [hg]
  exact hf a

/-! ## Guards -/

/-- A guard is taken and given back: the leave to write and the selection go with the write guard,
what was seen to run with the guard of the runtime, and what was seen of the state file with the
gate. -/
theorem Ghost.release_take {lock : Lock} (hfree : g.owns lock = false)
    (hwrites : lock = .writes → g.entered = false ∧ g.selected = none)
    (hruntime : lock = .runtime → g.stopped = false) (hseen : lock = .gate → g.seen = none) :
    (g.take lock).release lock = g := by
  refine Ghost.ext (funext fun other => ?_) ?_ rfl rfl rfl rfl rfl rfl rfl rfl ?_ ?_ ?_ rfl rfl rfl
  · by_cases hother : other = lock
    · subst hother
      simp [Ghost.release, Ghost.without, hfree]
    · simp [Ghost.release, Ghost.without, Ghost.take, hother]
  · by_cases hlock : lock = .writes
    · simp [Ghost.release, Ghost.without, hlock, (hwrites hlock).1]
    · simp [Ghost.release, Ghost.without, Ghost.take, Ne.symm hlock]
  · by_cases hlock : lock = .gate
    · simp [Ghost.release, Ghost.without, hlock, hseen hlock]
    · simp [Ghost.release, Ghost.without, Ghost.take, Ne.symm hlock]
  · by_cases hlock : lock = .writes
    · simp [Ghost.release, Ghost.without, hlock, (hwrites hlock).2]
    · simp [Ghost.release, Ghost.without, Ghost.take, Ne.symm hlock]
  · by_cases hlock : lock = .runtime
    · simp [Ghost.release, Ghost.without, hlock, hruntime hlock]
    · simp [Ghost.release, Ghost.without, Ghost.take, Ne.symm hlock]

/-- The write guard was taken, and the manager found open. -/
def Ghost.enter (g : Ghost) : Ghost := { g.take .writes with entered := true }

/-- The leave to write goes with the write guard, and so does what is selected. -/
theorem Ghost.release_enter (hfree : g.owns .writes = false) (hentered : g.entered = false)
    (hselected : g.selected = none) (selected : Option (SubscriptionId × UInt64)) :
    ({ g.enter with selected } : Ghost).release .writes = g := by
  have hreleased : ({ g.enter with selected } : Ghost).release .writes =
      (g.take .writes).release .writes := by
    simp [Ghost.enter, Ghost.release, Ghost.without]
  rw [hreleased, Ghost.release_take hfree (fun _ => ⟨hentered, hselected⟩) (by simp) (by simp)]

/-- A lock that the thread owns is given back. -/
theorem wp_unlock {lock : Lock} {Q : Unit → Ghost → Prop} (owned : g.owns lock = true)
    (hQ : Q () (g.release lock)) : (unlock lock : Task P Bytes Unit).wp rules i g Q :=
  fun _ _ => ⟨_, .unlock owned, hQ⟩

theorem Ghost.take_owns (lock : Lock) : (g.take lock).owns lock = true := update_self ..

/-! ## The gate -/

/-- Without the gate, and with nothing seen of the state file. -/
structure Gateless (g : Ghost) : Prop where
  gate : g.owns .gate = false
  seen : g.seen = none

/-- With the gate, and what was seen of the state file since. -/
def Ghost.looking (g : Ghost) (seen : Option (Option AppState)) : Ghost := { g.take .gate with seen }

theorem Ghost.looking_owns (seen : Option (Option AppState)) :
    (g.looking seen).owns .gate = true := Ghost.take_owns (g := g) .gate

/-- The gate is taken. -/
theorem Gateless.take (h : Gateless g) : g.take .gate = g.looking none := by
  rw [Ghost.looking, ← h.seen]
  rfl

/-- The gate is given back. -/
theorem Gateless.release (h : Gateless g) (seen : Option (Option AppState)) :
    (g.looking seen).release .gate = g := by
  have hsame : (g.looking seen).release .gate = (g.take .gate).release .gate := by
    simp [Ghost.looking, Ghost.release, Ghost.without]
  rw [hsame, Ghost.release_take h.gate (by simp) (by simp) fun _ => h.seen]

/-- Looking at the state file takes no leave away. -/
theorem MayWrite.looking {g : Ghost} (h : MayWrite i g) (seen : Option (Option AppState)) :
    MayWrite i (g.looking seen) := h

/-! ## Programs of the managers -/

/-- A program and then another one is a task and then another one. -/
theorem ofProgram_bind (answers : Task P Bytes Answers) (writer : Writer) (p : Program α)
    (f : α → Program ρ) :
    ofProgram answers writer (p.bind f) =
      (ofProgram answers writer p).bind fun a => ofProgram answers writer (f a) := by
  induction p with
  | done result => rfl
  | unlock lock next ih => exact congrArg (Code.act (.unlock lock.lock)) (funext fun _ => ih)
  | ask next ih =>
    rw [Gate.Prog.bind, ofProgram, ofProgram, Code.bind_assoc]
    exact congrArg _ (funext ih)
  | tryLock lock next ih | load tag next ih | save value next ih | remember tag update next ih =>
    exact congrArg (Code.act _) (funext ih)

/-- An operation of a manager that leaves its thread as it was. -/
structure Keeps (answers : Task P Bytes Answers) (writer : Writer) (i : Thread ι) (g : Ghost)
    (x : Attempt ε α) : Prop where
  neutral : Neutral i g (ofProgram answers writer x.run)

section Attempts

variable {answers : Task P Bytes Answers} {writer : Writer}

theorem Keeps.pure (a : α) : Keeps answers writer i g (pure a : Attempt ε α) := ⟨rfl⟩

theorem Keeps.throw (e : ε) : Keeps answers writer i g (throw e : Attempt ε α) := ⟨rfl⟩

/-- A check looks at nothing. -/
theorem Keeps.lift (x : Except ε α) : Keeps answers writer i g (liftM x : Attempt ε α) :=
  ⟨rfl⟩

/-- Attempts that leave the thread as it was, one after the other. -/
theorem Keeps.bind {x : Attempt ε α} {f : α → Attempt ε β} (hx : Keeps answers writer i g x)
    (hf : ∀ a, Keeps answers writer i g (f a)) : Keeps answers writer i g (x >>= f) := by
  refine ⟨?_⟩
  have hbind := ofProgram_bind answers writer x.run (ExceptT.bindCont f)
  refine hbind ▸ Neutral.bind hx.neutral fun result => ?_
  cases result with
  | ok a => exact (hf a).neutral
  | error e => exact rfl

/-- An answer that is asked for without a change. -/
theorem Keeps.answer (hanswers : Neutral i g answers) (f : Answers → Except ε α) :
    Keeps answers writer i g (Veyra.answer f) :=
  ⟨hanswers.bind fun _ => rfl⟩

/-- A task with the gate in hand that leaves its thread with it, and without it in `Q`. -/
def Under (i : Thread ι) (g : Ghost) (Q : α → Ghost → Prop) (p : Task P Bytes α) : Prop :=
  p.wp rules i g fun a g' => ∃ last seen, g' = last.looking seen ∧ Gateless last ∧ Q a last

/-- A task that leaves its thread with the gate, as it was before it but for what it has seen. -/
def Looks (i : Thread ι) (g : Ghost) (seen : Option (Option AppState)) (p : Task P Bytes α) : Prop :=
  p.wp rules i (g.looking seen) fun _ g' => ∃ seen', g' = g.looking seen'

/-- A neutral part under the gate keeps what was seen. -/
theorem Neutral.toLooks {seen : Option (Option AppState)} {p : Task P Bytes α}
    (h : Neutral i (g.looking seen) p) : Looks i g seen p :=
  Code.wp_mono (fun _ _ hg => ⟨seen, hg⟩) h

/-- A thread that only looks is left as it was. -/
theorem Looks.under {seen : Option (Option AppState)} {p : Task P Bytes α} (h : Looks i g seen p)
    (hgate : Gateless g) : Under i (g.looking seen) (fun _ g' => g' = g) p := by
  refine Code.wp_mono ?_ h
  rintro a g' ⟨seen', rfl⟩
  exact ⟨g, seen', rfl, hgate, rfl⟩

/-- **The rule of the gate.** -/
theorem wp_underGate {look : Look} {refused : ProxyRouting.StateAccessError → Program ρ}
    {unloaded : Program ρ} {body : Option AppState → Program ρ} {Q : ρ → Ghost → Prop}
    (hanswers : ∀ g, Neutral i g answers) (hgate : Gateless g)
    (hrefused : ∀ e, (ofProgram answers writer (refused e)).wp rules i g Q)
    (allowed : MayWrite i g ∨ writer = .routing ∨ writer = .reading)
    (hunloaded : Under i (g.looking none) Q (ofProgram answers writer unloaded))
    (hbody : ∀ current, ∃ g', Goes i (.load writer : Action P Bytes) (g.looking none)
      (some current) g' ∧ Under i g' Q (ofProgram answers writer (body current))) :
    (ofProgram answers writer (Veyra.underGate look refused unloaded body)).wp rules i g Q := by
  refine wp_next (h := fun _ => g) (hanswers g) fun w => ?_
  beta_reduce
  by_cases hpoisoned : w.poisoned
  · rw [if_pos hpoisoned]
    exact hrefused _
  · rw [if_neg hpoisoned]
    intro taken _
    cases taken with
    | false => exact ⟨g, .refused, hrefused _⟩
    | true =>
      refine ⟨g.looking none, hgate.take ▸ .taken, ?_⟩
      beta_reduce
      rw [if_pos rfl, ofProgram_bind]
      have hclosed : ∀ {g' : Ghost} {p : Task P Bytes ρ}, Under i g' Q p →
          (p >>= fun result => (do unlock .gate; pure result : Task P Bytes ρ)).wp rules i g' Q := by
        refine fun hunder => wp_then hunder ?_
        rintro result g' ⟨last, seen, rfl, hlast, hQ⟩
        exact wp_unlock (Ghost.looking_owns _) (by rwa [hlast.release])
      intro loaded _
      cases loaded with
      | none =>
        exact ⟨g.looking none, .load (Ghost.looking_owns _) (allowed.imp_left (·.looking _)),
          hclosed hunloaded⟩
      | some current =>
        obtain ⟨g', hgoes, hunder⟩ := hbody current
        exact ⟨g', hgoes, hclosed hunder⟩

/-- The same for a thread that only looks. -/
theorem Neutral.underGate {look : Look} {refused : ProxyRouting.StateAccessError → Program ρ}
    {unloaded : Program ρ} {body : Option AppState → Program ρ}
    (hanswers : ∀ g, Neutral i g answers) (hgate : Gateless g)
    (allowed : MayWrite i g ∨ writer = .routing ∨ writer = .reading)
    (hrefused : ∀ e, Neutral i g (ofProgram answers writer (refused e)))
    (hunloaded : Looks i g none (ofProgram answers writer unloaded))
    (hbody : ∀ current, Looks i g (some current) (ofProgram answers writer (body current))) :
    Neutral i g (ofProgram answers writer (Veyra.underGate look refused unloaded body)) := by
  exact wp_underGate hanswers hgate hrefused allowed (hunloaded.under hgate) fun current =>
    ⟨g.looking (some current), .load (Ghost.looking_owns _) (allowed.imp_left (·.looking _)),
      (hbody current).under hgate⟩

/-- A decision that is saved by who may write. -/
theorem Keeps.decideUnderGate {errors : StateErrors ε} {look : Look}
    {decide : Answers → Option AppState → Except ε (Option AppState × α)}
    (hanswers : ∀ g, Neutral i g answers) (hgate : Gateless g) (allowed : MayWrite i g)
    (saves : ∀ {w current next a}, decide w current = .ok (some next, a) → Over g current next) :
    Keeps answers writer i g (Veyra.decideUnderGate errors look decide) := by
  refine ⟨?_⟩
  rw [Veyra.decideUnderGate, ExceptT.run_mk]
  refine .underGate hanswers hgate (.inl allowed) (fun _ => rfl) ⟨none, rfl⟩ fun current => ?_
  refine wp_then (hanswers _) fun w g' hg => ?_
  subst hg
  beta_reduce
  cases hdecided : decide w current with
  | error e => exact ⟨_, rfl⟩
  | ok decided =>
    obtain ⟨next, a⟩ := decided
    cases next with
    | none => exact ⟨_, rfl⟩
    | some next =>
      intro saved _
      cases saved with
      | false => exact ⟨_, .unsaved, none, rfl⟩
      | true =>
        exact ⟨_, .save (Ghost.looking_owns _) rfl (.inl (allowed.looking _)) (saves hdecided),
          none, rfl⟩

/-- A look at the whole state saves nothing. -/
theorem Keeps.captures {errors : StateErrors ε} {look : Look} {missing : ε}
    (hanswers : ∀ g, Neutral i g answers) (hgate : Gateless g) (allowed : MayWrite i g) :
    Keeps answers writer i g (Veyra.decideUnderGate errors look fun _ current => do
      let state ← okOr current missing
      .ok (none, state)) :=
  .decideUnderGate hanswers hgate allowed fun hdecided => by
    obtain ⟨state, -, hpair⟩ := ok_bind.mp hdecided
    cases hpair

/-- What a thread knows to be selected once it has loaded the state. -/
def Ghost.captured (g : Ghost) : Except ε AppState → Ghost
  | .ok state => { g with selected := state.selection }
  | .error _ => g

/-- With the write guard in hand, what is loaded stays selected. -/
theorem wp_capture {errors : StateErrors ε} {look : Look} {missing : ε}
    (hanswers : ∀ g, Neutral i g answers) (hgate : Gateless g) (allowed : MayWrite i g)
    (writes : g.owns .writes = true) :
    (ofProgram answers writer (Veyra.decideUnderGate errors look fun _ current => do
      let state ← okOr current missing
      .ok (none, state)).run).wp rules i g fun loaded g' => g' = g.captured loaded := by
  rw [Veyra.decideUnderGate, ExceptT.run_mk]
  refine wp_underGate hanswers hgate (fun _ => rfl) (.inl allowed) ⟨g, none, rfl, hgate, rfl⟩
    fun current => ?_
  cases current with
  | none =>
    refine ⟨g.looking (some none), .load (Ghost.looking_owns _) (.inl (allowed.looking _)),
      wp_then (hanswers _) fun w g' hg => ?_⟩
    exact ⟨g, _, hg, hgate, rfl⟩
  | some state =>
    refine ⟨_, .hold (Ghost.looking_owns _) (allowed.looking _) ?_,
      wp_then (hanswers _) fun w g' hg => ?_⟩
    · simpa [Ghost.looking, Ghost.take] using writes
    · exact ⟨{ g with selected := state.selection }, some (some state), hg,
        ⟨hgate.gate, hgate.seen⟩, rfl⟩

/-- A look that saves nothing needs no leave. -/
theorem Keeps.readUnderGate {errors : StateErrors ε} {read : Option AppState → Except ε α}
    (hanswers : ∀ g, Neutral i g answers) (hgate : Gateless g) :
    Keeps answers .reading i g (SubscriptionManager.readUnderGate errors read) := by
  refine ⟨?_⟩
  rw [SubscriptionManager.readUnderGate, Veyra.decideUnderGate, ExceptT.run_mk]
  refine .underGate hanswers hgate (.inr (.inr rfl)) (fun _ => rfl) ⟨none, rfl⟩ fun current => ?_
  refine wp_then (hanswers _) fun w g' hg => ?_
  subst hg
  beta_reduce
  cases read current <;> exact ⟨_, rfl⟩

/-! ## What the managers are told -/

/-- A flag is looked at. -/
theorem Neutral.read (signal : Signal) : Neutral i g (read signal : Task P Bytes Bool) :=
  .act (fun _ _ => .read) fun _ _ => rfl

theorem Neutral.ask : Neutral i g (ask : Task P Bytes (Told P)) :=
  .act (fun _ _ => .ask) fun _ _ => rfl

theorem Neutral.managerAnswers : Neutral i g (managerAnswers : Task P Bytes Answers) :=
  .bind (.read _) fun _ => .bind .ask fun _ => rfl

theorem Neutral.activationAnswers : Neutral i g (activationAnswers : Task P Bytes Answers) :=
  .bind .ask fun _ => .bind (.read _) fun _ => rfl

/-- A manager that holds the write guard finds itself open, and may write from then on. -/
theorem wp_enter {f : Answers → Task P Bytes β} {Q : β → Ghost → Prop}
    (owned : g.owns .writes = true)
    (closing : ∀ w, w.closing = true → (f w).wp rules i g Q)
    (opened : ∀ w, w.closing = false → (f w).wp rules i { g with entered := true } Q) :
    (Controller.managerAnswers >>= f).wp rules i g Q := by
  intro raised _
  cases raised with
  | true => exact ⟨g, .read, fun told _ => ⟨g, .ask, closing _ rfl⟩⟩
  | false => exact ⟨_, .enter owned, fun told _ => ⟨_, .ask, opened _ rfl⟩⟩

/-- **The rule of the write guard.** -/
theorem Keeps.beginWriteOwned {busy : ε} {body : Attempt ε α} (hfree : g.owns .writes = false)
    (hentered : g.entered = false) (hselected : g.selected = none)
    (hbody : Keeps (managerAnswers : Task P Bytes Answers) writer i g.enter body) :
    Keeps (managerAnswers : Task P Bytes Answers) writer i g
      (Veyra.beginWriteOwned busy body) := by
  refine ⟨Neutral.managerAnswers.bind fun w => ?_⟩
  beta_reduce
  by_cases hclosing : w.closing
  · rw [if_pos hclosing]
    exact rfl
  · rw [if_neg hclosing]
    intro taken _
    cases taken with
    | false => exact ⟨g, .refused, rfl⟩
    | true =>
      refine ⟨g.take .writes, .taken, ?_⟩
      beta_reduce
      rw [if_pos rfl]
      refine wp_enter (Ghost.take_owns _) (fun w hw => ?_) fun w hw => ?_
      · beta_reduce
        rw [if_pos hw]
        exact wp_unlock (Ghost.take_owns _)
          (Ghost.release_take hfree (fun _ => ⟨hentered, hselected⟩) (by simp) (by simp))
      · beta_reduce
        rw [if_neg (by simp [hw]), ofProgram_bind]
        refine wp_then hbody.neutral fun result g' hg => ?_
        subst hg
        have howned : g.enter.owns .writes = true := Ghost.take_owns (g := g) .writes
        exact wp_unlock howned (Ghost.release_enter hfree hentered hselected _)

end Attempts

/-! ## The operations of the managers -/

/-- With neither the gate nor the write guard, and no leave to write. -/
structure Outside (g : Ghost) : Prop extends Gateless g where
  writes : g.owns .writes = false
  entered : g.entered = false
  selected : g.selected = none

/-- With the write guard, and nothing else. -/
structure Entered (g : Ghost) : Prop extends Gateless g where
  entered : g.entered = true

/-- A thread that has entered may write. -/
theorem Ghost.enter_entered (hgate : Gateless g) : Entered g.enter where
  gate := by
    rw [Ghost.enter, Ghost.take]
    dsimp only
    rw [update_of_ne (by simp), hgate.gate]
  seen := hgate.seen
  entered := rfl

section Operations

variable {writer : Writer} {i : Thread ι} {g : Ghost}

/-- A commit of a thread that may write. -/
theorem Entered.commits (h : Entered g) {errors : StateErrors ε} {look : Look}
    {decide : Answers → Option AppState → Except ε (Option AppState × α)}
    (onward : ∀ {w current next a}, decide w current = .ok (some next, a) → Onward current next) :
    Keeps (managerAnswers : Task P Bytes Answers) writer i g
      (Veyra.decideUnderGate errors look decide) :=
  .decideUnderGate (fun _ => .managerAnswers) h.toGateless (.inl h.entered) fun hdecided =>
    .inl (onward hdecided)

/-- A look of a thread that may write. -/
theorem Entered.looks (h : Entered g) {errors : StateErrors ε} {look : Look} {missing : ε}
    {read : AppState → Except ε α} :
    Keeps (managerAnswers : Task P Bytes Answers) writer i g
      (Veyra.decideUnderGate errors look fun _ current => do
        let state ← okOr current missing
        let a ← read state
        .ok (none, a)) :=
  h.commits fun hdecided => by
    obtain ⟨state, -, hdecided⟩ := ok_bind.mp hdecided
    obtain ⟨a, -, hpair⟩ := ok_bind.mp hdecided
    cases hpair

/-- A look at the whole state. -/
theorem Entered.captures (h : Entered g) {errors : StateErrors ε} {look : Look} {missing : ε} :
    Keeps (managerAnswers : Task P Bytes Answers) writer i g
      (Veyra.decideUnderGate errors look fun _ current => do
        let state ← okOr current missing
        .ok (none, state)) :=
  .captures (fun _ => .managerAnswers) h.toGateless (.inl h.entered)

theorem Keeps.told (f : Answers → Except ε α) :
    Keeps (managerAnswers : Task P Bytes Answers) writer i g (Veyra.answer f) :=
  .answer .managerAnswers f

/-- An operation that takes the write guard. -/
theorem Outside.keeps (h : Outside g) {busy : ε} {body : Attempt ε α}
    (hbody : Entered g.enter → g.enter.owns .writes = true →
      Keeps (managerAnswers : Task P Bytes Answers) writer i g.enter body) :
    Keeps (managerAnswers : Task P Bytes Answers) writer i g
      (Veyra.beginWriteOwned busy body) :=
  .beginWriteOwned h.writes h.entered h.selected
    (hbody (Ghost.enter_entered h.toGateless) (Ghost.take_owns (g := g) .writes))

namespace Entered

open SubscriptionManager

variable (h : Entered g)
include h

/-- Saving a failed attempt leaves the thread as it was. -/
theorem failAttempt (snapshot : UpdateSnapshot) (attemptedAt : UInt64)
    (error : SubscriptionOperationError) :
    Keeps (managerAnswers : Task P Bytes Answers) writer i g
      (SubscriptionManager.failAttempt snapshot attemptedAt error : Attempt _ α) :=
  (h.commits onward_decideFailedAttempt).bind fun _ => .throw error

/-- A fetch takes no lock at all. -/
theorem fetchRemote (snapshot : UpdateSnapshot) :
    Keeps (managerAnswers : Task P Bytes Answers) writer i g
      (SubscriptionManager.fetchRemote snapshot) := by
  refine .bind (.told _) fun fetched => ?_
  cases fetched with
  | ok fetched => exact .pure fetched
  | error error =>
    refine .bind (.told _) fun closing => ?_
    split
    · exact .throw _
    · exact .bind (.told _) fun attemptedAt => h.failAttempt snapshot attemptedAt error

/-- Nor does the body that an update was given. -/
theorem fetchUpdate (snapshot : UpdateSnapshot) (content : Option String) (routeOverride : Bool) :
    Keeps (managerAnswers : Task P Bytes Answers) writer i g
      (SubscriptionManager.fetchUpdate snapshot content routeOverride) := by
  rw [SubscriptionManager.fetchUpdate.eq_def]
  split
  · exact .bind (.lift _) fun _ => .bind (h.fetchRemote snapshot) fun _ => .bind (.told _) fun _ =>
      .pure _
  · exact .bind (.lift _) fun _ => .pure _

/-- A body that cannot be parsed ends in a failed attempt, which gives its locks back. -/
theorem parseUpdate (env : SubscriptionEnv) (snapshot : UpdateSnapshot) (fetched : FetchResult)
    (attemptedAt : Option UInt64) :
    Keeps (managerAnswers : Task P Bytes Answers) writer i g
      (SubscriptionManager.parseUpdate env snapshot fetched attemptedAt) := by
  rw [SubscriptionManager.parseUpdate]
  split
  · exact .pure _
  · split
    · exact .bind (.lift _) fun _ => h.failAttempt snapshot _ _
    · exact .throw _

/-- So does a body that is missing. -/
theorem requireBody (snapshot : UpdateSnapshot) (fetched : FetchResult)
    (attemptedAt : Option UInt64) :
    Keeps (managerAnswers : Task P Bytes Answers) writer i g
      (SubscriptionManager.requireBody snapshot fetched attemptedAt) := by
  rw [SubscriptionManager.requireBody]
  split
  · exact .bind (.lift _) fun _ => h.failAttempt snapshot _ _
  · exact .pure ()

/-- The fetch of an edit takes no lock. -/
theorem replacementFor (env : SubscriptionEnv) (baseline : AppState) (id : String)
    (urlChanged : Bool) :
    Keeps (managerAnswers : Task P Bytes Answers) writer i g
      (SubscriptionManager.replacementFor env baseline id urlChanged) := by
  rw [SubscriptionManager.replacementFor]
  split
  · refine .bind (.bind (.lift _) fun snapshot => .bind (h.fetchRemote snapshot) fun fetched =>
      .bind (.told _) fun attemptedAt => ?_) fun _ => .pure _
    split
    · exact .pure _
    · exact h.failAttempt snapshot attemptedAt _
  · exact .pure none

end Entered

namespace Outside

open SubscriptionManager

variable (h : Outside g)
include h

/-- An import by hand gives back what it takes. -/
theorem importManual (env : SubscriptionEnv) (name description content : String) :
    Keeps (managerAnswers : Task P Bytes Answers) writer i g
      (SubscriptionManager.importManual env name description content) :=
  h.keeps fun entered _ => .bind (.lift _) fun _ => entered.commits onward_decideImport

/-- An import by URL gives back what it takes, also when its fetch fails. -/
theorem importRemote (env : SubscriptionEnv) (name description url : String)
    (options : RemoteImportOptions) :
    Keeps (managerAnswers : Task P Bytes Answers) writer i g
      (SubscriptionManager.importRemote env name description url options) :=
  h.keeps fun entered _ => .bind (.lift _) fun _ => .bind (entered.commits nofun) fun _ =>
    .bind (.told _) fun _ => .bind (.lift _) fun _ => entered.commits onward_decideImport

/-- An update gives back what it takes, on each of its exits. -/
theorem update (env : SubscriptionEnv) (id : String) (content : Option String)
    (routeOverride : Bool) :
    Keeps (managerAnswers : Task P Bytes Answers) writer i g
      (SubscriptionManager.update env id content routeOverride) := by
  refine h.keeps fun entered _ => .bind (.lift _) fun _ => .bind entered.looks
    fun snapshot => .bind (entered.fetchUpdate snapshot content routeOverride) ?_
  rintro ⟨fetched, attemptedAt⟩
  exact .bind (entered.parseUpdate env snapshot fetched attemptedAt) fun _ =>
    .bind (entered.requireBody snapshot fetched attemptedAt) fun _ =>
      entered.commits onward_decideUpdate

/-- An edit gives back what it takes, on each of its exits. -/
theorem edit (env : SubscriptionEnv) (input : EditSubscription) :
    Keeps (managerAnswers : Task P Bytes Answers) writer i g
      (SubscriptionManager.edit env input) := by
  refine h.keeps fun entered _ => .bind (.lift _) fun _ => .bind entered.captures
    fun baseline => .bind (.lift _) ?_
  rintro ⟨edited, urlChanged⟩
  exact .bind (entered.replacementFor env baseline input.id urlChanged) fun _ =>
    entered.commits onward_decideEdit

/-- A deletion gives the gate back. -/
theorem delete (id : String) {activeRuntimeStopped : Bool}
    (stopped : activeRuntimeStopped = true → g.stopped = true) :
    Keeps (managerAnswers : Task P Bytes Answers) writer i g
      (SubscriptionManager.delete id activeRuntimeStopped) :=
  h.keeps fun entered writes => .bind (.lift _) fun _ =>
    .decideUnderGate (fun _ => .managerAnswers) entered.toGateless (.inl entered.entered)
      fun hdecided => by
        obtain ⟨hgrows, honward⟩ := grows_decideDelete hdecided
        cases hstopped : activeRuntimeStopped with
        | false => exact .inl (honward hstopped)
        | true => exact .inr ⟨hgrows, writes, stopped hstopped, h.selected⟩

/-- A reading call takes the gate alone, and gives it back. -/
theorem reads {errors : StateErrors ε} {read : Option AppState → Except ε α} :
    Keeps (managerAnswers : Task P Bytes Answers) .reading i g
      (SubscriptionManager.readUnderGate errors read) :=
  .readUnderGate (fun _ => .managerAnswers) h.toGateless

end Outside

/-! ## The routing manager -/

/-- The revisions are looked at. -/
theorem Neutral.remember {answers : Task P Bytes Answers} {look : Look}
    {update : ProxyRouting.RevisionState → ProxyRouting.RevisionState}
    {next : ProxyRouting.RevisionState → Program ρ}
    (hnext : ∀ revisions, Neutral i g (ofProgram answers writer (next revisions))) :
    Neutral i g (ofProgram answers writer (.remember look update next)) :=
  fun revisions _ => ⟨g, .remember, hnext revisions⟩

/-- An error for which the revision is looked up. -/
theorem Neutral.failKnown (error : ProxyRouting.MutationError) :
    Neutral i g (ofProgram Controller.managerAnswers writer (ProxyRouting.failKnown error) :
      Task P Bytes ProxyRouting.MutateNext) :=
  .remember fun _ => rfl

/-- What a mutation saves over the state that it was decided on. -/
theorem reroutes_of_mutateOn {env : ProxyRouting.Env} {revisions observed : ProxyRouting.RevisionState}
    {request : ProxyRouting.MutateRequest} {current : Option AppState} {next : AppState}
    {outcome : ProxyRouting.MutationOutcome}
    (hobserved : revisions.observe (.of (current.getD .empty)) = .ok observed)
    (h : ProxyRouting.mutateOn env observed request (current.getD .empty) =
      .ok (.save next outcome)) : Reroutes current (some next) := by
  obtain ⟨-, hedits, -⟩ := ProxyRouting.mutateState_save
    (ProxyRouting.RevisionState.observe_ok hobserved).1 (ProxyRouting.mutateOn_save h).2
  have hkeeps := hedits.keepsContent
  exact ⟨hkeeps.subscriptions, hkeeps.providers, hkeeps.nodes, hkeeps.active⟩

/-- A mutation that saves reroutes the state that was loaded, with the gate still in hand. -/
theorem Looks.mutateLoaded (env : ProxyRouting.Env) (request : ProxyRouting.MutateRequest)
    (current : Option AppState) :
    Looks i g (some current) (ofProgram managerAnswers .routing
      (ProxyRouting.mutateLoaded env request (current.getD .empty)) :
        Task P Bytes ProxyRouting.MutateNext) := by
  rw [ProxyRouting.mutateLoaded]
  intro revisions _
  refine ⟨_, .remember, ?_⟩
  beta_reduce
  cases hobserved : revisions.observe (.of (current.getD .empty)) with
  | error error => exact Neutral.toLooks (.failKnown error)
  | ok observed =>
    dsimp only
    cases hmutated : ProxyRouting.mutateOn env observed request (current.getD .empty) with
    | error error => exact ⟨_, rfl⟩
    | ok mutated =>
      cases mutated with
      | apply activeId generation => exact ⟨_, rfl⟩
      | unchanged outcome => exact ⟨_, rfl⟩
      | save next outcome =>
        intro saved _
        cases saved with
        | false => exact ⟨g.looking none, .unsaved, _, rfl⟩
        | true =>
          refine ⟨g.looking none, .save (Ghost.looking_owns _) rfl
            (.inr ⟨rfl, reroutes_of_mutateOn hobserved hmutated⟩)
            (.inl (onward_mutateOn hobserved hmutated)), ?_⟩
          beta_reduce
          rw [if_pos rfl, ProxyRouting.commitRevision]
          refine Neutral.toLooks (Neutral.remember fun revisions => ?_)
          cases revisions.observe (.of next) <;> exact rfl

/-- A mutation of the routing gives its locks back. -/
theorem Outside.mutateProgram (h : Outside g) (env : ProxyRouting.Env)
    (request : ProxyRouting.MutateRequest) :
    Neutral i g (ofProgram managerAnswers .routing (ProxyRouting.mutateProgram env request) :
      Task P Bytes ProxyRouting.MutateNext) := by
  rw [ProxyRouting.mutateProgram]
  split
  · exact .failKnown _
  · exact .underGate (fun _ => .managerAnswers) h.toGateless (.inr (.inl rfl))
      (fun e => .failKnown _) (Neutral.toLooks (.failKnown _))
      fun current => .mutateLoaded env request current

/-- A query of the routing gives its lock back. -/
theorem Outside.queryProgram (h : Outside g) :
    Neutral i g (ofProgram managerAnswers .routing ProxyRouting.queryProgram.run :
      Task P Bytes (Except ProxyRouting.QueryError (AppState × UInt64))) := by
  rw [ProxyRouting.queryProgram, ExceptT.run_mk]
  refine .underGate (fun _ => .managerAnswers) h.toGateless (.inr (.inl rfl)) (fun _ => rfl)
    (Neutral.toLooks rfl) fun current => Neutral.toLooks (.remember fun revisions => ?_)
  cases revisions.observe (.of (current.getD .empty)) <;> exact rfl

end Operations

end Neutral

end Controller

end Veyra
