import Veyra.Lib.Transition
import Mathlib.Logic.Function.Basic

/-!
# Veyra.Lib.Gate

Threads that share a stored value and a memory, under locks that are tried and
never waited for.

A `Prog` is what one thread does; `Config.step` interleaves any number of them.
A `Discipline` says what the holder of a lock can rely on, and `Prog.wp` is the
weakest precondition of a program under it: what the thread must know when it
starts so that it keeps the discipline and ends as it should.

* `Config.Keeps.run` — threads that keep the discipline keep it together;
* `Config.Keeps.save` — who saves holds the gate, and saves what it may;
* `Config.finishes` — a thread is never stuck.
-/

namespace Gate

open Function Transition

/-! ## Programs -/

/-- The program of a thread, over locks `L`, stored values `σ`, a memory `μ`, answers of the world
`ι`, tags of its loads `τ` and results `ρ`. -/
inductive Prog (L σ μ ι τ ρ : Type)
  | done (result : ρ)
  | tryLock (lock : L) (next : Bool → Prog L σ μ ι τ ρ)
  | unlock (lock : L) (next : Prog L σ μ ι τ ρ)
  | load (tag : τ) (next : Option σ → Prog L σ μ ι τ ρ)
  | save (value : σ) (next : Bool → Prog L σ μ ι τ ρ)
  | remember (tag : τ) (update : μ → μ) (next : μ → Prog L σ μ ι τ ρ)
  | ask (next : ι → Prog L σ μ ι τ ρ)

variable {I L σ μ ι τ ρ ρ' : Type}

namespace Prog

/-- One program after another. -/
def bind (p : Prog L σ μ ι τ ρ) (f : ρ → Prog L σ μ ι τ ρ') : Prog L σ μ ι τ ρ' :=
  match p with
  | .done result => f result
  | .tryLock lock next => .tryLock lock fun taken => (next taken).bind f
  | .unlock lock next => .unlock lock (next.bind f)
  | .load tag next => .load tag fun loaded => (next loaded).bind f
  | .save value next => .save value fun saved => (next saved).bind f
  | .remember tag update next => .remember tag update fun memory => (next memory).bind f
  | .ask next => .ask fun answer => (next answer).bind f

/-- A program while a lock is held, and another one when somebody else has the lock. -/
def within (lock : L) (busy body : Prog L σ μ ι τ ρ) : Prog L σ μ ι τ ρ :=
  .tryLock lock fun taken =>
    if taken then body.bind fun result => .unlock lock (.done result) else busy

instance : Monad (Prog L σ μ ι τ) where
  pure := .done
  bind := bind

end Prog

/-! ## Interleavings -/

/-- What a thread remembers of its own steps. -/
inductive Event (σ μ τ : Type)
  | loaded (tag : τ) (value : σ)
  | saved (value : σ)
  | recalled (tag : τ) (memory : μ)

/-- The shared parts, and every thread with what is left of its program; `log` lists the saves,
with the thread and the stored values before and after. -/
structure Config (I L σ μ ι τ ρ : Type) where
  stored : σ
  memory : μ
  owner : L → Option I
  prog : I → Prog L σ μ ι τ ρ
  trace : I → List (Event σ μ τ)
  log : List (I × σ × σ)

/-- Whose step it is, whether a load or a save succeeds, and what the world answers. -/
structure Move (I ι : Type) where
  thread : I
  succeeds : Bool
  answer : ι

section Step

variable [DecidableEq I] [DecidableEq L]

/-- A thread goes on with the rest of its program. -/
def Config.goOn (c : Config I L σ μ ι τ ρ) (i : I) (next : Prog L σ μ ι τ ρ) :
    Config I L σ μ ι τ ρ :=
  { c with prog := update c.prog i next }

/-- A thread notes an event. -/
def Config.note (c : Config I L σ μ ι τ ρ) (i : I) (event : Event σ μ τ) :
    Config I L σ μ ι τ ρ :=
  { c with trace := update c.trace i (c.trace i ++ [event]) }

/-- One step of one thread; a thread that is done has none. -/
def Config.step (c : Config I L σ μ ι τ ρ) (move : Move I ι) : Option (Config I L σ μ ι τ ρ) :=
  let i := move.thread
  match c.prog i with
  | .done _ => none
  | .tryLock lock next =>
    if (c.owner lock).isNone then
      some (Config.goOn { c with owner := update c.owner lock (some i) } i (next true))
    else some (c.goOn i (next false))
  | .unlock lock next => some (Config.goOn { c with owner := update c.owner lock none } i next)
  | .load tag next =>
    if move.succeeds then some ((c.note i (.loaded tag c.stored)).goOn i (next (some c.stored)))
    else some (c.goOn i (next none))
  | .save value next =>
    if move.succeeds then
      some (Config.goOn { c.note i (.saved value) with
        stored := value, log := c.log ++ [(i, c.stored, value)] } i (next true))
    else some (c.goOn i (next false))
  | .remember tag change next =>
    some (Config.goOn { c.note i (.recalled tag (change c.memory)) with
      memory := change c.memory } i (next c.memory))
  | .ask next => some (c.goOn i (next move.answer))

/-- Before any step: no lock is held. -/
def Config.start (stored : σ) (memory : μ) (prog : I → Prog L σ μ ι τ ρ) :
    Config I L σ μ ι τ ρ :=
  { stored, memory, owner := fun _ => none, prog, trace := fun _ => [], log := [] }

end Step

/-! ## The discipline -/

/-- What the holder of a lock can rely on: nobody else changes the part of the stored value that
`same` looks at, and for the gate that is all of it.  `evolves` and `follows` are what every
change keeps to. -/
structure Discipline (L σ μ : Type) where
  gate : L
  same : L → σ → σ → Prop
  evolves : σ → σ → Prop
  follows : μ → μ → Prop
  same_gate : ∀ {a b}, same gate a b → a = b
  same_refl : ∀ l a, same l a a
  same_trans : ∀ {l a b c}, same l a b → same l b c → same l a c
  evolves_refl : ∀ a, evolves a a
  evolves_trans : ∀ {a b c}, evolves a b → evolves b c → evolves a c
  follows_refl : ∀ m, follows m m
  follows_trans : ∀ {m m' m''}, follows m m' → follows m' m'' → follows m m''

/-- What a thread has of a lock: nothing, the lock, or the lock and a value that the stored one is
the same as for it. -/
inductive Held (σ : Type)
  | free
  | blind
  | seen (value : σ)

/-- What a thread has of every lock. -/
abbrev Known (L σ : Type) := L → Held σ

/-- The thread holds no lock. -/
def Known.nothing : Known L σ := fun _ => .free

/-- After a look at the stored value. -/
def Known.see (known : Known L σ) (value : σ) : Known L σ := fun lock =>
  match known lock with
  | .free => .free
  | _ => .seen value

/-- What is seen is the same as what is stored. -/
theorem Known.see_seen {known : Known L σ} {lock : L} {value a : σ}
    (h : known.see value lock = .seen a) : a = value ∧ known lock ≠ .free := by
  rw [Known.see] at h
  cases hlock : known lock <;> rw [hlock] at h <;> cases h <;> exact ⟨rfl, by simp⟩

theorem Known.see_ne_free {known : Known L σ} {lock : L} {value : σ} :
    known.see value lock ≠ .free ↔ known lock ≠ .free := by
  rw [Known.see]
  cases known lock <;> simp

/-- The same locks are held. -/
def Known.Alike (known known' : Known L σ) : Prop :=
  ∀ lock, known' lock = .free ↔ known lock = .free

theorem Known.Alike.refl (known : Known L σ) : known.Alike known := fun _ => Iff.rfl

theorem Known.alike_see (known : Known L σ) (value : σ) : known.Alike (known.see value) :=
  fun _ => not_iff_not.mp Known.see_ne_free

/-- A later look replaces an earlier one. -/
@[simp] theorem Known.see_see (known : Known L σ) (a b : σ) :
    (known.see a).see b = known.see b := by
  funext lock
  rw [Known.see, Known.see, Known.see]
  cases known lock <;> rfl

/-- What stays of a look once the lock is given back. -/
theorem Known.release_see [DecidableEq L] {known : Known L σ} {lock : L} (h : known lock = .free)
    (value : σ) :
    update ((Known.see (update known lock .blind)) value) lock .free = known.see value := by
  funext l
  by_cases hl : l = lock
  · subst hl
    simp [Known.see, h]
  · simp [Known.see, hl]

/-- The stored value may be this one, for a thread with the given knowledge. -/
structure Allows (D : Discipline L σ μ) (known : Known L σ) (trace : List (Event σ μ τ))
    (value : σ) : Prop where
  held : ∀ lock a, known lock = .seen a → D.same lock a value
  loaded : ∀ tag a, .loaded tag a ∈ trace → D.evolves a value

/-- The memory may be this one. -/
def Recalls (D : Discipline L σ μ) (trace : List (Event σ μ τ)) (memory : μ) : Prop :=
  ∀ tag m, .recalled tag m ∈ trace → D.follows m memory

namespace Prog

variable [DecidableEq L] (D : Discipline L σ μ) (may : List (Event σ μ τ) → σ → σ → Prop)

/-- The weakest precondition of a program: it loads under the gate, saves under the gate what it may
and what the locks of others leave it, and ends in `Q`. -/
def wp (p : Prog L σ μ ι τ ρ) (known : Known L σ) (trace : List (Event σ μ τ))
    (Q : ρ → Known L σ → List (Event σ μ τ) → Prop) : Prop :=
  match p with
  | .done result => Q result known trace
  | .tryLock lock next => known lock = .free ∧
    (next true).wp (update known lock .blind) trace Q ∧ (next false).wp known trace Q
  | .unlock lock next => known lock ≠ .free ∧ next.wp (update known lock .free) trace Q
  | .load tag next => known D.gate ≠ .free ∧ (next none).wp known trace Q ∧
    ∀ value, Allows D known trace value →
      (next (some value)).wp (known.see value) (trace ++ [.loaded tag value]) Q
  | .save value next => (∃ a, known D.gate = .seen a ∧ may trace a value ∧ D.evolves a value ∧
      ∀ lock, known lock = .free → D.same lock a value) ∧
    (next true).wp (known.see value) (trace ++ [.saved value]) Q ∧ (next false).wp known trace Q
  | .remember tag change next => ∀ memory, Recalls D trace memory →
    D.follows memory (change memory) ∧
      (next memory).wp known (trace ++ [.recalled tag (change memory)]) Q
  | .ask next => ∀ answer, (next answer).wp known trace Q

variable {D may}

theorem wp_mono {p : Prog L σ μ ι τ ρ} {known : Known L σ} {trace : List (Event σ μ τ)}
    {Q Q' : ρ → Known L σ → List (Event σ μ τ) → Prop}
    (hQ : ∀ result known trace, Q result known trace → Q' result known trace)
    (h : p.wp D may known trace Q) : p.wp D may known trace Q' := by
  induction p generalizing known trace with
  | done result => exact hQ _ _ _ h
  | tryLock lock next ih => exact ⟨h.1, ih true h.2.1, ih false h.2.2⟩
  | unlock lock next ih => exact ⟨h.1, ih h.2⟩
  | load tag next ih =>
    exact ⟨h.1, ih none h.2.1, fun value hvalue => ih (some value) (h.2.2 value hvalue)⟩
  | save value next ih => exact ⟨h.1, ih true h.2.1, ih false h.2.2⟩
  | remember tag change next ih =>
    exact fun memory hmemory => ⟨(h memory hmemory).1, ih memory (h memory hmemory).2⟩
  | ask next ih => exact fun answer => ih answer (h answer)

/-- **The rule of sequence.** -/
theorem wp_bind {p : Prog L σ μ ι τ ρ} {f : ρ → Prog L σ μ ι τ ρ'} {known : Known L σ}
    {trace : List (Event σ μ τ)} {Q : ρ' → Known L σ → List (Event σ μ τ) → Prop} :
    (p.bind f).wp D may known trace Q ↔
      p.wp D may known trace fun result known trace => (f result).wp D may known trace Q := by
  induction p generalizing known trace with
  | done result => exact Iff.rfl
  | tryLock lock next ih => simp only [bind, wp, ih]
  | unlock lock next ih => simp only [bind, wp, ih]
  | load tag next ih => simp only [bind, wp, ih]
  | save value next ih => simp only [bind, wp, ih]
  | remember tag change next ih => simp only [bind, wp, ih]
  | ask next ih => simp only [bind, wp, ih]

/-- The rule of sequence for programs that can fail. -/
theorem wp_except {ε α β : Type} {x : ExceptT ε (Prog L σ μ ι τ) α}
    {f : α → ExceptT ε (Prog L σ μ ι τ) β} {known : Known L σ} {trace : List (Event σ μ τ)}
    {Q : Except ε β → Known L σ → List (Event σ μ τ) → Prop} :
    (x >>= f).run.wp D may known trace Q ↔ x.run.wp D may known trace fun result known trace =>
      match result with
      | .ok a => (f a).run.wp D may known trace Q
      | .error e => Q (.error e) known trace := by
  have hseq : (x >>= f).run.wp D may known trace Q ↔ x.run.wp D may known trace
      fun result known trace => (ExceptT.bindCont f result).wp D may known trace Q := wp_bind
  rw [hseq]
  constructor
  · exact wp_mono fun result known trace h => by cases result <;> exact h
  · exact wp_mono fun result known trace h => by cases result <;> exact h

/-- **The rule of locks.** -/
theorem wp_within {lock : L} {busy body : Prog L σ μ ι τ ρ} {known : Known L σ}
    {trace : List (Event σ μ τ)} {Q : ρ → Known L σ → List (Event σ μ τ) → Prop}
    (hfree : known lock = .free) (hbusy : busy.wp D may known trace Q)
    (hbody : body.wp D may (update known lock .blind) trace fun result known trace =>
      known lock ≠ .free ∧ Q result (update known lock .free) trace) :
    (within lock busy body).wp D may known trace Q := by
  exact ⟨hfree, wp_bind.mpr hbody, hbusy⟩

end Prog

/-! ## Threads that keep the discipline -/

/-- The saves lead from one stored value to another. -/
def Path : σ → List (I × σ × σ) → σ → Prop
  | a, [], b => a = b
  | a, (_, x, y) :: rest, b => a = x ∧ Path y rest b

theorem path_append {a b c : σ} {log : List (I × σ × σ)} {i : I} (h : Path a log b) :
    Path a (log ++ [(i, b, c)]) c := by
  induction log generalizing a with
  | nil => exact ⟨h, rfl⟩
  | cons entry rest ih => exact ⟨h.1, ih h.2⟩

section Keeps

variable [DecidableEq L]

/-- A thread that knows what it should: which locks it has, what the stored value can be, and
enough for the rest of its program. -/
structure Config.Knows (D : Discipline L σ μ) (may : I → List (Event σ μ τ) → σ → σ → Prop)
    (ends : I → ρ → List (Event σ μ τ) → Prop) (c : Config I L σ μ ι τ ρ) (i : I)
    (known : Known L σ) : Prop where
  owns : ∀ lock, known lock ≠ .free ↔ c.owner lock = some i
  allows : Allows D known (c.trace i) c.stored
  recalls : Recalls D (c.trace i) c.memory
  wp : (c.prog i).wp D (may i) known (c.trace i) fun result known trace =>
    (∀ lock, known lock = .free) ∧ ends i result trace

/-- Every thread keeps the discipline, and the saves so far were allowed. -/
structure Config.Keeps (D : Discipline L σ μ) (may : I → List (Event σ μ τ) → σ → σ → Prop)
    (ends : I → ρ → List (Event σ μ τ) → Prop) (first : σ) (c : Config I L σ μ ι τ ρ) : Prop where
  threads : ∀ i, ∃ known, c.Knows D may ends i known
  path : Path first c.log c.stored
  allowed : ∀ i a b, (i, a, b) ∈ c.log → ∃ trace, may i trace a b

variable {D : Discipline L σ μ} {may : I → List (Event σ μ τ) → σ → σ → Prop}
  {ends : I → ρ → List (Event σ μ τ) → Prop} {first : σ} {c c' : Config I L σ μ ι τ ρ} {i : I}
  {known : Known L σ}

/-- What a step of another thread leaves alone. -/
structure Config.Spares (D : Discipline L σ μ) (c c' : Config I L σ μ ι τ ρ) (j : I) : Prop where
  prog : c'.prog j = c.prog j
  trace : c'.trace j = c.trace j
  owner : ∀ lock, c'.owner lock = some j ↔ c.owner lock = some j
  same : ∀ lock, c.owner lock = some j → D.same lock c.stored c'.stored
  evolves : D.evolves c.stored c'.stored
  follows : D.follows c.memory c'.memory

/-- **The frame rule.**  A thread that was spared knows what it knew. -/
theorem Config.Knows.spared (h : c.Knows D may ends i known) (hs : c.Spares D c' i) :
    c'.Knows D may ends i known where
  owns := fun lock => (h.owns lock).trans (hs.owner lock).symm
  allows := by
    rw [hs.trace]
    refine ⟨fun lock a hseen => ?_, fun tag a hloaded => ?_⟩
    · have howns : c.owner lock = some i := (h.owns lock).mp (by simp [hseen])
      exact D.same_trans (h.allows.held lock a hseen) (hs.same lock howns)
    · exact D.evolves_trans (h.allows.loaded tag a hloaded) hs.evolves
  recalls := by
    rw [hs.trace]
    exact fun tag m hrecalled => D.follows_trans (h.recalls tag m hrecalled) hs.follows
  wp := by
    rw [hs.trace, hs.prog]
    exact h.wp

/-- Threads that need nothing but free locks keep the discipline from the start. -/
theorem Config.Keeps.start {memory : μ} {prog : I → Prog L σ μ ι τ ρ}
    (h : ∀ i, (prog i).wp D (may i) Known.nothing [] fun result known trace =>
      (∀ lock, known lock = .free) ∧ ends i result trace) :
    (Config.start first memory prog).Keeps D may ends first where
  threads := fun i => by
    refine ⟨Known.nothing, ?_, ⟨?_, ?_⟩, ?_, h i⟩
    · simp [Known.nothing, Config.start]
    · simp [Known.nothing]
    · simp [Config.start]
    · simp [Recalls, Config.start]
  path := rfl
  allowed := by simp [Config.start]

/-- **Who saves holds the gate**, and may save over exactly what is stored. -/
theorem Config.Keeps.save (h : c.Keeps D may ends first) {value : σ}
    {next : Bool → Prog L σ μ ι τ ρ} (hprog : c.prog i = .save value next) :
    c.owner D.gate = some i ∧ may i (c.trace i) c.stored value := by
  obtain ⟨known, hi⟩ := h.threads i
  have hwp := hi.wp
  rw [hprog] at hwp
  obtain ⟨a, hseen, hmay, -, -⟩ := hwp.1
  have howns : c.owner D.gate = some i := (hi.owns D.gate).mp (by simp [hseen])
  obtain rfl := D.same_gate (hi.allows.held D.gate a hseen)
  exact ⟨howns, hmay⟩

/-- Who is done ended as it should, and holds no lock. -/
theorem Config.Keeps.done (h : c.Keeps D may ends first) {result : ρ}
    (hprog : c.prog i = .done result) :
    ends i result (c.trace i) ∧ ∀ lock, c.owner lock ≠ some i := by
  obtain ⟨known, hi⟩ := h.threads i
  have hwp := hi.wp
  rw [hprog] at hwp
  refine ⟨hwp.2, fun lock howns => ?_⟩
  exact (hi.owns lock).mpr howns (hwp.1 lock)

/-! ## What each step keeps -/

variable [DecidableEq I]

/-- Every thread knows what it should, if the one that moved does and the others were spared. -/
theorem Config.threads_of (i : I) (hmover : ∃ known, c'.Knows D may ends i known)
    (h : ∀ j, ∃ known, c.Knows D may ends j known) (hothers : ∀ j, j ≠ i → c.Spares D c' j) :
    ∀ j, ∃ known, c'.Knows D may ends j known := by
  intro j
  by_cases hj : j = i
  · exact hj ▸ hmover
  · obtain ⟨known, hknown⟩ := h j
    exact ⟨known, hknown.spared (hothers j hj)⟩

/-- A step that only goes on with the program. -/
theorem Config.Keeps.goOn (h : c.Keeps D may ends first) (hi : c.Knows D may ends i known)
    {next : Prog L σ μ ι τ ρ} (hwp : next.wp D (may i) known (c.trace i) fun result known trace =>
      (∀ lock, known lock = .free) ∧ ends i result trace) :
    (c.goOn i next).Keeps D may ends first where
  threads := by
    refine Config.threads_of i ⟨known, hi.owns, hi.allows, hi.recalls, ?_⟩ h.threads fun j hj => ?_
    · simpa [Config.goOn] using hwp
    · exact ⟨by simp [Config.goOn, hj], rfl, fun _ => Iff.rfl, fun _ _ => D.same_refl _ _,
        D.evolves_refl _, D.follows_refl _⟩
  path := h.path
  allowed := h.allowed

/-- A step after which another thread, or none, has a lock, where no third one is concerned. -/
theorem Config.Keeps.reown (h : c.Keeps D may ends first) (hi : c.Knows D may ends i known)
    {lock : L} {o : Option I} (held : Held σ) (hmine : held ≠ .free ↔ o = some i)
    (hblind : ∀ a, held ≠ .seen a) (hothers : ∀ j, j ≠ i → (o = some j ↔ c.owner lock = some j))
    {next : Prog L σ μ ι τ ρ}
    (hwp : next.wp D (may i) (update known lock held) (c.trace i) fun result known trace =>
      (∀ lock, known lock = .free) ∧ ends i result trace) :
    (Config.goOn { c with owner := update c.owner lock o } i next).Keeps D may ends first where
  threads := by
    refine Config.threads_of i ⟨update known lock held, fun l => ?_, ⟨fun l a hseen => ?_,
      hi.allows.loaded⟩, hi.recalls, ?_⟩ h.threads fun j hj => ?_
    · by_cases hl : l = lock
      · subst hl
        simpa [Config.goOn] using hmine
      · simpa [Config.goOn, hl] using hi.owns l
    · by_cases hl : l = lock
      · subst hl
        exact absurd (by simpa using hseen) (hblind a)
      · exact hi.allows.held l a (by simpa [hl] using hseen)
    · simpa [Config.goOn] using hwp
    · refine ⟨by simp [Config.goOn, hj], rfl, fun l => ?_, fun _ _ => D.same_refl _ _,
        D.evolves_refl _, D.follows_refl _⟩
      by_cases hl : l = lock
      · subst hl
        simpa [Config.goOn] using hothers j hj
      · simp [Config.goOn, hl]
  path := h.path
  allowed := h.allowed

/-- A step that looks at the stored value. -/
theorem Config.Keeps.look (h : c.Keeps D may ends first) (hi : c.Knows D may ends i known)
    {tag : τ} {next : Prog L σ μ ι τ ρ}
    (hwp : next.wp D (may i) (known.see c.stored) (c.trace i ++ [.loaded tag c.stored])
      fun result known trace => (∀ lock, known lock = .free) ∧ ends i result trace) :
    ((c.note i (.loaded tag c.stored)).goOn i next).Keeps D may ends first where
  threads := by
    refine Config.threads_of i ⟨known.see c.stored, ?_⟩ h.threads fun j hj => ?_
    · have htrace : ((c.note i (.loaded tag c.stored)).goOn i next).trace i =
          c.trace i ++ [.loaded tag c.stored] := by simp [Config.goOn, Config.note]
      refine ⟨fun l => Known.see_ne_free.trans (hi.owns l), ⟨fun l a hseen => ?_, ?_⟩, ?_, ?_⟩
      · obtain ⟨rfl, -⟩ := Known.see_seen hseen
        exact D.same_refl _ _
      · intro tag' a hloaded
        rw [htrace] at hloaded
        rcases List.mem_append.mp hloaded with hloaded | hloaded
        · exact hi.allows.loaded tag' a hloaded
        · cases List.mem_singleton.mp hloaded
          exact D.evolves_refl _
      · intro tag' m hrecalled
        rw [htrace] at hrecalled
        rcases List.mem_append.mp hrecalled with hrecalled | hrecalled
        · exact hi.recalls tag' m hrecalled
        · cases List.mem_singleton.mp hrecalled
      · rw [htrace]
        simpa [Config.goOn] using hwp
    · exact ⟨by simp [Config.goOn, Config.note, hj], by simp [Config.goOn, Config.note, hj],
        fun _ => Iff.rfl, fun _ _ => D.same_refl _ _, D.evolves_refl _, D.follows_refl _⟩
  path := h.path
  allowed := h.allowed

/-- A step that saves. -/
theorem Config.Keeps.put (h : c.Keeps D may ends first) (hi : c.Knows D may ends i known)
    {value : σ} {next : Prog L σ μ ι τ ρ} (hmay : may i (c.trace i) c.stored value)
    (hevolves : D.evolves c.stored value)
    (hsame : ∀ lock, known lock = .free → D.same lock c.stored value)
    (hwp : next.wp D (may i) (known.see value) (c.trace i ++ [.saved value])
      fun result known trace => (∀ lock, known lock = .free) ∧ ends i result trace) :
    (Config.goOn { c.note i (.saved value) with
      stored := value, log := c.log ++ [(i, c.stored, value)] } i next).Keeps D may ends
        first where
  threads := by
    refine Config.threads_of i ⟨known.see value, ?_⟩ h.threads fun j hj => ?_
    · have htrace : (Config.goOn { c.note i (.saved value) with
          stored := value, log := c.log ++ [(i, c.stored, value)] } i next).trace i =
          c.trace i ++ [.saved value] := by simp [Config.goOn, Config.note]
      refine ⟨fun l => Known.see_ne_free.trans (hi.owns l), ⟨fun l a hseen => ?_, ?_⟩, ?_, ?_⟩
      · obtain ⟨rfl, -⟩ := Known.see_seen hseen
        exact D.same_refl _ _
      · intro tag a hloaded
        rw [htrace] at hloaded
        rcases List.mem_append.mp hloaded with hloaded | hloaded
        · exact D.evolves_trans (hi.allows.loaded tag a hloaded) hevolves
        · cases List.mem_singleton.mp hloaded
      · intro tag m hrecalled
        rw [htrace] at hrecalled
        rcases List.mem_append.mp hrecalled with hrecalled | hrecalled
        · exact hi.recalls tag m hrecalled
        · cases List.mem_singleton.mp hrecalled
      · rw [htrace]
        simpa [Config.goOn] using hwp
    · refine ⟨by simp [Config.goOn, Config.note, hj], by simp [Config.goOn, Config.note, hj],
        fun _ => Iff.rfl, fun lock howns => hsame lock ?_, hevolves, D.follows_refl _⟩
      -- the lock is with another thread, so this one does not have it
      by_contra hfree
      exact hj (Option.some.inj (howns.symm.trans ((hi.owns lock).mp hfree)))
  path := path_append h.path
  allowed := by
    intro j a b hlog
    rcases List.mem_append.mp hlog with hlog | hlog
    · exact h.allowed j a b hlog
    · cases List.mem_singleton.mp hlog
      exact ⟨c.trace i, hmay⟩

/-- A step that changes the memory. -/
theorem Config.Keeps.recall (h : c.Keeps D may ends first) (hi : c.Knows D may ends i known)
    {tag : τ} {memory : μ} {next : Prog L σ μ ι τ ρ} (hfollows : D.follows c.memory memory)
    (hwp : next.wp D (may i) known (c.trace i ++ [.recalled tag memory])
      fun result known trace => (∀ lock, known lock = .free) ∧ ends i result trace) :
    (Config.goOn { c.note i (.recalled tag memory) with memory := memory } i next).Keeps D may
      ends first where
  threads := by
    refine Config.threads_of i ⟨known, ?_⟩ h.threads fun j hj => ?_
    · have htrace : (Config.goOn { c.note i (.recalled tag memory) with
          memory := memory } i next).trace i = c.trace i ++ [.recalled tag memory] := by
        simp [Config.goOn, Config.note]
      refine ⟨hi.owns, ⟨hi.allows.held, ?_⟩, ?_, ?_⟩
      · intro tag' a hloaded
        rw [htrace] at hloaded
        rcases List.mem_append.mp hloaded with hloaded | hloaded
        · exact hi.allows.loaded tag' a hloaded
        · cases List.mem_singleton.mp hloaded
      · intro tag' m hrecalled
        rw [htrace] at hrecalled
        rcases List.mem_append.mp hrecalled with hrecalled | hrecalled
        · exact D.follows_trans (hi.recalls tag' m hrecalled) hfollows
        · cases List.mem_singleton.mp hrecalled
          exact D.follows_refl _
      · rw [htrace]
        simpa [Config.goOn] using hwp
    · exact ⟨by simp [Config.goOn, Config.note, hj], by simp [Config.goOn, Config.note, hj],
        fun _ => Iff.rfl, fun _ _ => D.same_refl _ _, D.evolves_refl _, hfollows⟩
  path := h.path
  allowed := h.allowed

/-- **One step of any thread keeps the discipline.** -/
theorem Config.Keeps.step {move : Move I ι} (h : c.Keeps D may ends first)
    (hs : c.step move = some c') : c'.Keeps D may ends first := by
  obtain ⟨known, hi⟩ := h.threads move.thread
  have hwp := hi.wp
  rw [Config.step] at hs
  dsimp only at hs
  cases hprog : c.prog move.thread with
  | done result => rw [hprog] at hs; cases hs
  | tryLock lock next =>
    rw [hprog] at hs hwp
    dsimp only at hs
    by_cases howner : (c.owner lock).isNone
    · rw [if_pos howner] at hs
      cases hs
      have hnone : c.owner lock = none := by simpa using howner
      refine h.reown hi .blind (by simp) (by simp) (fun j hj => ?_) hwp.2.1
      simp [hnone, Ne.symm hj]
    · rw [if_neg howner] at hs
      cases hs
      exact h.goOn hi hwp.2.2
  | unlock lock next =>
    rw [hprog] at hs hwp
    cases hs
    have hmine : c.owner lock = some move.thread := (hi.owns lock).mp hwp.1
    refine h.reown hi .free (by simp) (by simp) (fun j hj => ?_) hwp.2
    simp [hmine, Ne.symm hj]
  | load tag next =>
    rw [hprog] at hs hwp
    dsimp only at hs
    by_cases hsucceeds : move.succeeds
    · rw [if_pos hsucceeds] at hs
      cases hs
      exact h.look hi (hwp.2.2 c.stored hi.allows)
    · rw [if_neg hsucceeds] at hs
      cases hs
      exact h.goOn hi hwp.2.1
  | save value next =>
    rw [hprog] at hs hwp
    dsimp only at hs
    by_cases hsucceeds : move.succeeds
    · rw [if_pos hsucceeds] at hs
      cases hs
      obtain ⟨a, hseen, hmay, hevolves, hsame⟩ := hwp.1
      obtain rfl := D.same_gate (hi.allows.held D.gate a hseen)
      exact h.put hi hmay hevolves hsame hwp.2.1
    · rw [if_neg hsucceeds] at hs
      cases hs
      exact h.goOn hi hwp.2.2
  | remember tag change next =>
    rw [hprog] at hs hwp
    cases hs
    obtain ⟨hfollows, hnext⟩ := hwp c.memory hi.recalls
    exact h.recall hi hfollows hnext
  | ask next =>
    rw [hprog] at hs hwp
    cases hs
    exact h.goOn hi (hwp move.answer)

/-- **Threads that keep the discipline keep it together**, in every interleaving. -/
theorem Config.Keeps.run {moves : List (Move I ι)} (h : c.Keeps D may ends first)
    (run : Runs Config.step Free c moves c') : c'.Keeps D may ends first :=
  run.invariant (·.Keeps D may ends first) h fun _ _ _ hkeeps _ hs => hkeeps.step hs

/-! ## The log and the threads -/

/-- Every save in the log is one that its thread remembers. -/
def Config.Logged (c : Config I L σ μ ι τ ρ) : Prop :=
  ∀ i a b, (i, a, b) ∈ c.log → .saved b ∈ c.trace i

omit [DecidableEq L] in
theorem Config.mem_note {event : Event σ μ τ} {j : I} {e : Event σ μ τ} (h : e ∈ c.trace j) :
    e ∈ (c.note i event).trace j := by
  by_cases hj : j = i
  · subst hj
    simpa [Config.note] using Or.inl h
  · simpa [Config.note, hj] using h

theorem Config.Logged.step {move : Move I ι} (h : c.Logged) (hs : c.step move = some c') :
    c'.Logged := by
  rw [Config.step] at hs
  dsimp only at hs
  cases hprog : c.prog move.thread with
  | done result => rw [hprog] at hs; cases hs
  | tryLock lock next =>
    rw [hprog] at hs
    dsimp only at hs
    by_cases howner : (c.owner lock).isNone
    · rw [if_pos howner] at hs
      cases hs
      exact h
    · rw [if_neg howner] at hs
      cases hs
      exact h
  | unlock lock next =>
    rw [hprog] at hs
    cases hs
    exact h
  | load tag next =>
    rw [hprog] at hs
    dsimp only at hs
    by_cases hsucceeds : move.succeeds
    · rw [if_pos hsucceeds] at hs
      cases hs
      exact fun i a b hlog => Config.mem_note (h i a b hlog)
    · rw [if_neg hsucceeds] at hs
      cases hs
      exact h
  | save value next =>
    rw [hprog] at hs
    dsimp only at hs
    by_cases hsucceeds : move.succeeds
    · rw [if_pos hsucceeds] at hs
      cases hs
      intro i a b hlog
      rcases List.mem_append.mp hlog with hlog | hlog
      · exact Config.mem_note (h i a b hlog)
      · cases List.mem_singleton.mp hlog
        simp [Config.goOn, Config.note]
    · rw [if_neg hsucceeds] at hs
      cases hs
      exact h
  | remember tag change next =>
    rw [hprog] at hs
    cases hs
    exact fun i a b hlog => Config.mem_note (h i a b hlog)
  | ask next =>
    rw [hprog] at hs
    cases hs
    exact h

theorem Config.Logged.run {moves : List (Move I ι)} (h : c.Logged)
    (run : Runs Config.step Free c moves c') : c'.Logged :=
  run.invariant Config.Logged h fun _ _ _ hlogged _ hs => hlogged.step hs

end Keeps

/-! ## Progress -/

section Progress

variable [DecidableEq I] [DecidableEq L] {c c' : Config I L σ μ ι τ ρ} {i : I}

/-- A thread that can finish after a step of its own can finish. -/
theorem Config.finishes_of_step {move : Move I ι} (hs : c.step move = some c')
    (h : ∃ moves d result, Runs Config.step Free c' moves d ∧
      (∀ m ∈ moves, m.thread = move.thread) ∧ d.prog move.thread = .done result) :
    ∃ moves d result, Runs Config.step Free c moves d ∧
      (∀ m ∈ moves, m.thread = move.thread) ∧ d.prog move.thread = .done result := by
  obtain ⟨moves, d, result, run, hmine, hdone⟩ := h
  have first : Runs Config.step Free c [move] c' := Runs.refl.tail trivial hs
  exact ⟨[move] ++ moves, d, result, first.append run, by simpa using hmine, hdone⟩

/-- **A thread is never stuck**: its own steps alone take it to its end, from everywhere. -/
theorem Config.finishes (answer : ι) (c : Config I L σ μ ι τ ρ) (i : I) :
    ∃ moves d result, Runs Config.step Free c moves d ∧ (∀ m ∈ moves, m.thread = i) ∧
      d.prog i = .done result := by
  generalize hprog : c.prog i = p
  induction p generalizing c with
  | done result => exact ⟨[], c, result, .refl, by simp, hprog⟩
  | tryLock lock next ih =>
    by_cases howner : (c.owner lock).isNone
    · have hs : c.step ⟨i, true, answer⟩ = some
          (Config.goOn { c with owner := update c.owner lock (some i) } i (next true)) := by
        simp [Config.step, hprog, howner]
      exact finishes_of_step hs (ih true _ (by simp [Config.goOn]))
    · have hs : c.step ⟨i, true, answer⟩ = some (c.goOn i (next false)) := by
        simp [Config.step, hprog, howner]
      exact finishes_of_step hs (ih false _ (by simp [Config.goOn]))
  | unlock lock next ih =>
    have hs : c.step ⟨i, true, answer⟩ = some
        (Config.goOn { c with owner := update c.owner lock none } i next) := by
      simp [Config.step, hprog]
    exact finishes_of_step hs (ih _ (by simp [Config.goOn]))
  | load tag next ih =>
    have hs : c.step ⟨i, true, answer⟩ = some
        ((c.note i (.loaded tag c.stored)).goOn i (next (some c.stored))) := by
      simp [Config.step, hprog]
    exact finishes_of_step hs (ih (some c.stored) _ (by simp [Config.goOn]))
  | save value next ih =>
    have hs : c.step ⟨i, false, answer⟩ = some (c.goOn i (next false)) := by
      simp [Config.step, hprog]
    exact finishes_of_step hs (ih false _ (by simp [Config.goOn]))
  | remember tag change next ih =>
    have hs : c.step ⟨i, true, answer⟩ = some
        (Config.goOn { c.note i (.recalled tag (change c.memory)) with
          memory := change c.memory } i (next c.memory)) := by
      simp [Config.step, hprog]
    exact finishes_of_step hs (ih c.memory _ (by simp [Config.goOn]))
  | ask next ih =>
    have hs : c.step ⟨i, true, answer⟩ = some (c.goOn i (next answer)) := by
      simp [Config.step, hprog]
    exact finishes_of_step hs (ih answer _ (by simp [Config.goOn]))

end Progress

end Gate
