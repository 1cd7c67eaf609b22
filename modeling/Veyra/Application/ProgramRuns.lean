import Veyra.Application.Programs
import Veyra.Lib.Alone

/-!
# Veyra.Application.ProgramRuns

What a run of a state operation leaves on disk: one rule for each of the parts that the operations
of `Veyra.Application.Programs` are made of.  An operation that nothing disturbs takes its locks,
loads and saves, and ends as what it decides says.
-/

namespace Veyra

open Check Gate Prog

/-- Nothing is in the way: locks are free, the store works, and the manager is not closing. -/
structure Undisturbed (c : Turn Answers) : Prop where
  succeeds : c.succeeds = true
  closing : c.answer.closing = false
  poisoned : c.answer.poisoned = false

/-- Something can be in the way. -/
def Disturbable (may : Turn Answers → Prop) : Prop := ∃ c, may c ∧ ¬Undisturbed c

theorem not_disturbable_undisturbed : ¬Disturbable Undisturbed := fun ⟨_, h, hnot⟩ => hnot h

/-- The errors of the gate and the store. -/
inductive StateErrors.Fault {ε : Type} (errors : StateErrors ε) : ε → Prop
  | access (e : ProxyRouting.StateAccessError) : errors.Fault (errors.access e)
  | unloaded : errors.Fault errors.unloaded
  | unsaved : errors.Fault errors.unsaved

/-- The result of a decision that is carried out, and the file after it. -/
def carryOut {ε α : Type} (decided : Except ε (Option AppState × α)) (s : Option AppState) :
    Except ε α × Option AppState :=
  match decided with
  | .error e => (.error e, s)
  | .ok (none, a) => (.ok a, s)
  | .ok (some next, a) => (.ok a, some next)

variable {may : Turn Answers → Prop} {s : Option AppState} {ε α β : Type}
  {Q : Except ε α → Option AppState → Prop}

/-- **The rule of the gate.**  Either the gate or the store failed and the file is as it was, or
what was decided over the file is carried out. -/
theorem leaves_decideUnderGate {errors : StateErrors ε} {look : Look}
    {decide : Answers → Option AppState → Except ε (Option AppState × α)}
    (hfault : Disturbable may → ∀ e, errors.Fault e → Q (.error e) s)
    (hdecide : ∀ c, may c → Q (carryOut (decide c.answer s) s).1 (carryOut (decide c.answer s) s).2) :
    (decideUnderGate errors look decide).run.Leaves may s Q := by
  refine leaves_ask fun c hc => ?_
  by_cases hpoisoned : c.answer.poisoned = true
  · rw [if_pos hpoisoned]
    exact leaves_done (hfault ⟨c, hc, fun h => by simp [h.poisoned] at hpoisoned⟩ _ (.access _))
  rw [if_neg hpoisoned]
  refine leaves_within fun c hc => ?_
  split
  · refine leaves_load fun c hc => ?_
    by_cases hloads : c.succeeds = true
    · rw [if_pos hloads]
      refine leaves_ask fun c hc => ?_
      have hcarried := hdecide c hc
      cases hdecided : decide c.answer s with
      | error e =>
        rw [hdecided] at hcarried
        exact leaves_done hcarried
      | ok saved =>
        obtain ⟨next, a⟩ := saved
        rw [hdecided] at hcarried
        cases next with
        | none => exact leaves_done hcarried
        | some next =>
          refine leaves_save fun c hc => ?_
          by_cases hsaves : c.succeeds = true
          · rw [if_pos hsaves, hsaves]
            exact leaves_done hcarried
          · rw [if_neg hsaves, Bool.eq_false_iff.mpr hsaves]
            exact leaves_done (hfault ⟨c, hc, fun h => hsaves h.succeeds⟩ _ .unsaved)
    · rw [if_neg hloads]
      exact leaves_done (hfault ⟨c, hc, fun h => hloads h.succeeds⟩ _ .unloaded)
  · next hfails => exact leaves_done (hfault ⟨c, hc, fun h => hfails h.succeeds⟩ _ (.access _))

/-- The rule of `begin_write_owned`. -/
theorem leaves_beginWriteOwned {busy : ε} {body : Attempt ε α}
    (hbusy : Disturbable may → Q (.error busy) s) (hbody : body.run.Leaves may s Q) :
    (beginWriteOwned busy body).run.Leaves may s Q := by
  refine leaves_ask fun c hc => ?_
  split
  · next hclosing => exact leaves_done (hbusy ⟨c, hc, fun h => by simp [h.closing] at hclosing⟩)
  refine leaves_within fun c hc => ?_
  split
  · refine leaves_ask fun c hc => ?_
    split
    · next hclosing => exact leaves_done (hbusy ⟨c, hc, fun h => by simp [h.closing] at hclosing⟩)
    · exact hbody
  · next hfails => exact leaves_done (hbusy ⟨c, hc, fun h => hfails h.succeeds⟩)

/-- The rule of the `busy` flag of the managed runtime. -/
theorem leaves_underRuntimeGuard {busy : ε} {body : Attempt ε α}
    (hbusy : Disturbable may → Q (.error busy) s) (hbody : body.run.Leaves may s Q) :
    (underRuntimeGuard busy body).run.Leaves may s Q := by
  refine leaves_within fun c hc => ?_
  split
  · exact hbody
  · next hfails => exact leaves_done (hbusy ⟨c, hc, fun h => hfails h.succeeds⟩)

/-- The rule of answers. -/
theorem leaves_answer {f : Answers → Except ε α} (h : ∀ c, may c → Q (f c.answer) s) :
    (answer f).run.Leaves may s Q :=
  leaves_ask fun c hc => leaves_done (h c hc)

/-- The rule of what is computed without a look at the state. -/
theorem leaves_liftM {result : Except ε α} (h : Q result s) :
    ((liftM result : Attempt ε α)).run.Leaves may s Q := by
  cases result <;> exact leaves_done h

end Veyra
