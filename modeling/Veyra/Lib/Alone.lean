import Veyra.Lib.Gate

/-!
# Veyra.Lib.Alone

A program of `Veyra.Lib.Gate` on its own: nobody else takes a lock or saves, but a lock can be
found taken, a load or a save can fail, and the world answers what it likes.

`Prog.alone` runs a program over a stored value, with a tape that has one turn of the world for
each step.  A save that fails leaves the stored value as it is.  `Prog.Leaves` says what every run
leaves in which the world only takes the turns it may, with one rule for each kind of step.
-/

namespace Gate

variable {L σ μ ι τ ρ ρ' : Type}

/-- What the world does at a step: whether the lock is free or the load or the save succeeds, and
what it answers. -/
structure Turn (ι : Type) where
  succeeds : Bool
  answer : ι

/-- What a program finds, and what it leaves behind. -/
structure Scene (σ μ ι : Type) where
  stored : σ
  memory : μ
  tape : ℕ → Turn ι

namespace Scene

/-- The turn of the next step. -/
def turn (w : Scene σ μ ι) : Turn ι := w.tape 0

/-- The scene after a step that changes nothing. -/
def next (w : Scene σ μ ι) : Scene σ μ ι := { w with tape := fun n => w.tape (n + 1) }

@[simp] theorem next_stored (w : Scene σ μ ι) : w.next.stored = w.stored := rfl

end Scene

namespace Prog

/-- The run of a program on its own: its result, and the scene after it. -/
def alone : Prog L σ μ ι τ ρ → Scene σ μ ι → ρ × Scene σ μ ι
  | .done result, w => (result, w)
  | .tryLock _ next, w => (next w.turn.succeeds).alone w.next
  | .unlock _ next, w => next.alone w.next
  | .load _ next, w => (next (if w.turn.succeeds then some w.stored else none)).alone w.next
  | .save value next, w =>
    (next w.turn.succeeds).alone
      { w.next with stored := if w.turn.succeeds then value else w.stored }
  | .remember _ update next, w => (next w.memory).alone { w.next with memory := update w.memory }
  | .ask next, w => (next w.turn.answer).alone w.next

/-- The rule of sequence. -/
@[simp] theorem alone_bind (p : Prog L σ μ ι τ ρ) (f : ρ → Prog L σ μ ι τ ρ') (w : Scene σ μ ι) :
    (p.bind f).alone w = (f (p.alone w).1).alone (p.alone w).2 := by
  induction p generalizing w with
  | done result => rfl
  | tryLock lock next ih => exact ih _ _
  | unlock lock next ih => exact ih _
  | load tag next ih => exact ih _ _
  | save value next ih => exact ih _ _
  | remember tag update next ih => exact ih _ _
  | ask next ih => exact ih _ _

/-- The rule of locks: the lock was taken, or the body ran and gave it back. -/
theorem alone_within (lock : L) (busy body : Prog L σ μ ι τ ρ) (w : Scene σ μ ι) :
    (within lock busy body).alone w =
      if w.turn.succeeds then ((body.alone w.next).1, (body.alone w.next).2.next)
      else busy.alone w.next := by
  rw [within, alone]
  cases w.turn.succeeds with
  | true => rw [if_pos rfl, if_pos rfl, alone_bind, alone, alone]
  | false => rfl

/-- The rule of sequence for programs that can fail. -/
theorem alone_except {ε α β : Type} (x : ExceptT ε (Prog L σ μ ι τ) α)
    (f : α → ExceptT ε (Prog L σ μ ι τ) β) (w : Scene σ μ ι) :
    (x >>= f).run.alone w =
      match (x.run.alone w).1 with
      | .ok a => (f a).run.alone (x.run.alone w).2
      | .error e => (.error e, (x.run.alone w).2) := by
  have hseq : (x >>= f).run.alone w = (ExceptT.bindCont f (x.run.alone w).1).alone (x.run.alone w).2 :=
    alone_bind _ _ _
  rw [hseq]
  cases (x.run.alone w).1 <;> rfl

/-! ## What every run leaves -/

/-- Every run from a stored value, with turns the world may take, ends in `Q`. -/
def Leaves (may : Turn ι → Prop) (p : Prog L σ μ ι τ ρ) (s : σ) (Q : ρ → σ → Prop) : Prop :=
  ∀ w : Scene σ μ ι, (∀ n, may (w.tape n)) → w.stored = s → Q (p.alone w).1 (p.alone w).2.stored

variable {may : Turn ι → Prop} {s : σ} {Q : ρ → σ → Prop}

theorem Leaves.mono {p : Prog L σ μ ι τ ρ} {Q' : ρ → σ → Prop} (h : p.Leaves may s Q)
    (hQ : ∀ result s', Q result s' → Q' result s') : p.Leaves may s Q' :=
  fun w hmay hs => hQ _ _ (h w hmay hs)

theorem leaves_done {result : ρ} (h : Q result s) :
    (done result : Prog L σ μ ι τ ρ).Leaves may s Q := by
  intro w hmay hs
  rw [alone, hs]
  exact h

theorem leaves_ask {next : ι → Prog L σ μ ι τ ρ}
    (h : ∀ c : Turn ι, may c → (next c.answer).Leaves may s Q) : (ask next).Leaves may s Q :=
  fun w hmay hs => h w.turn (hmay 0) w.next (fun n => hmay (n + 1)) hs

theorem leaves_load {tag : τ} {next : Option σ → Prog L σ μ ι τ ρ}
    (h : ∀ c : Turn ι, may c →
      (next (if c.succeeds then some s else none)).Leaves may s Q) :
    (load tag next).Leaves may s Q := by
  intro w hmay hs
  rw [alone, hs]
  exact h w.turn (hmay 0) w.next (fun n => hmay (n + 1)) hs

theorem leaves_save {value : σ} {next : Bool → Prog L σ μ ι τ ρ}
    (h : ∀ c : Turn ι, may c →
      (next c.succeeds).Leaves may (if c.succeeds then value else s) Q) :
    (save value next).Leaves may s Q := by
  intro w hmay hs
  rw [alone, hs]
  exact h w.turn (hmay 0) _ (fun n => hmay (n + 1)) rfl

theorem leaves_within {lock : L} {busy body : Prog L σ μ ι τ ρ}
    (h : ∀ c : Turn ι, may c →
      if c.succeeds then body.Leaves may s Q else busy.Leaves may s Q) :
    (within lock busy body).Leaves may s Q := by
  intro w hmay hs
  rw [alone_within]
  have hnext := h w.turn (hmay 0)
  cases hc : w.turn.succeeds with
  | true =>
    rw [hc, if_pos rfl] at hnext
    rw [if_pos rfl]
    exact hnext w.next (fun n => hmay (n + 1)) hs
  | false =>
    rw [hc, if_neg (by decide)] at hnext
    rw [if_neg (by decide)]
    exact hnext w.next (fun n => hmay (n + 1)) hs

/-- A run goes on with turns the world may take. -/
theorem alone_tape {p : Prog L σ μ ι τ ρ} {w : Scene σ μ ι} (h : ∀ n, may (w.tape n)) :
    ∀ n, may ((p.alone w).2.tape n) := by
  induction p generalizing w with
  | done result => exact h
  | tryLock lock next ih => exact ih _ fun n => h (n + 1)
  | unlock lock next ih => exact ih fun n => h (n + 1)
  | load tag next ih => exact ih _ fun n => h (n + 1)
  | save value next ih => exact ih _ fun n => h (n + 1)
  | remember tag update next ih => exact ih _ fun n => h (n + 1)
  | ask next ih => exact ih _ fun n => h (n + 1)

/-- The rule of sequence for programs that can fail. -/
theorem leaves_except {ε α β : Type} {x : ExceptT ε (Prog L σ μ ι τ) α}
    {f : α → ExceptT ε (Prog L σ μ ι τ) β} {Q : Except ε β → σ → Prop}
    (h : x.run.Leaves may s fun result s' =>
      match result with
      | .ok a => (f a).run.Leaves may s' Q
      | .error e => Q (.error e) s') :
    (x >>= f).run.Leaves may s Q := by
  intro w hmay hs
  have hx := h w hmay hs
  rw [alone_except]
  cases hresult : (x.run.alone w).1 with
  | ok a =>
    rw [hresult] at hx
    exact hx _ (alone_tape hmay) rfl
  | error e =>
    rw [hresult] at hx
    exact hx

end Prog

end Gate
