import Mathlib.Data.List.Basic

/-!
# Veyra.Lib.Transition

Runs of a labelled transition function: which states a sequence of events
reaches, with a condition on every step, and the rule that an invariant kept
by each step holds after every run.

An event that is not possible in a state has no successor there.
-/

namespace Transition

variable {σ ε : Type}

/-- The runs from `start`: their events, in order, and the state they reach.  Every step
meets `ok` in the state before it. -/
inductive Runs (step : σ → ε → Option σ) (ok : σ → ε → Prop) (start : σ) : List ε → σ → Prop
  | refl : Runs step ok start [] start
  | tail {events : List ε} {s t : σ} {e : ε} (run : Runs step ok start events s)
      (meets : ok s e) (next : step s e = some t) : Runs step ok start (events ++ [e]) t

/-- No condition on the steps. -/
def Free (_ : σ) (_ : ε) : Prop := True

variable {step : σ → ε → Option σ} {ok : σ → ε → Prop} {start s t : σ} {events : List ε}

/-- **The invariant rule.**  What holds at the start and is kept by every step that meets the
condition holds after every run. -/
theorem Runs.invariant (inv : σ → Prop) (run : Runs step ok start events s) (init : inv start)
    (keeps : ∀ s e t, inv s → ok s e → step s e = some t → inv t) : inv s := by
  induction run with
  | refl => exact init
  | tail _ meets next ih => exact keeps _ _ _ ih meets next

/-- A run under a condition is a run under a weaker one. -/
theorem Runs.mono {ok' : σ → ε → Prop} (h : ∀ s e, ok s e → ok' s e)
    (run : Runs step ok start events s) : Runs step ok' start events s := by
  induction run with
  | refl => exact .refl
  | tail _ meets next ih => exact ih.tail (h _ _ meets) next

/-- A run is one under a condition that each of its events meets in every state. -/
theorem Runs.of_forall_mem {ok' : σ → ε → Prop} (run : Runs step ok' start events s)
    (h : ∀ e ∈ events, ∀ s, ok s e) : Runs step ok start events s := by
  induction run with
  | refl => exact .refl
  | @tail events s t e _ _ next ih =>
    have hbefore := ih fun e he => h e (List.mem_append_left _ he)
    exact hbefore.tail (h e (List.mem_append_right _ List.mem_cons_self) s) next

/-- A run is extended by the run of the events that follow. -/
theorem Runs.append {more : List ε} (run : Runs step ok start events s)
    (rest : Runs step ok s more t) : Runs step ok start (events ++ more) t := by
  induction rest with
  | refl => rwa [List.append_nil]
  | tail _ meets next ih =>
    rw [← List.append_assoc]
    exact ih.tail meets next

/-- **The origin rule.**  What is there after a run was there at its start, or was made in a state
that the run passed. -/
theorem Runs.origin {α : Type} (here made : σ → α → Prop)
    (keeps : ∀ s e t a, ok s e → step s e = some t → here t a → here s a ∨ made t a)
    (run : Runs step ok start events s) {a : α} (h : here s a) :
    here start a ∨ ∃ earlier later past, events = earlier ++ later ∧
      Runs step ok start earlier past ∧ Runs step ok past later s ∧ made past a := by
  induction run with
  | refl => exact .inl h
  | @tail events s t e run meets next ih =>
    obtain hbefore | hnow := keeps _ _ _ _ meets next h
    · refine (ih hbefore).imp_right ?_
      rintro ⟨earlier, later, past, rfl, hearlier, hlater, hmade⟩
      exact ⟨earlier, later ++ [e], past, List.append_assoc .., hearlier,
        hlater.tail meets next, hmade⟩
    · exact .inr ⟨events ++ [e], [], t, (List.append_nil _).symm, run.tail meets next, .refl, hnow⟩

/-- Evaluate a sequence of events whose steps all meet a decidable condition. -/
def evaluate (step : σ → ε → Option σ) (ok : σ → ε → Bool) : σ → List ε → Option σ
  | s, [] => some s
  | s, e :: events => if ok s e then (step s e).bind (evaluate step ok · events) else none

/-- What evaluates is a run. -/
theorem Runs.of_evaluate {check : σ → ε → Bool} (h : ∀ s e, check s e = true → ok s e)
    (evaluated : evaluate step check s events = some t) : Runs step ok s events t := by
  induction events generalizing s with
  | nil =>
    cases evaluated
    exact .refl
  | cons e events ih =>
    rw [evaluate] at evaluated
    split at evaluated
    · next hok =>
      obtain ⟨u, next, rest⟩ := Option.bind_eq_some_iff.mp evaluated
      have first : Runs step ok s [e] u := Runs.refl.tail (h _ _ hok) next
      exact first.append (ih rest)
    · cases evaluated

/-- What evaluates without a condition is a run. -/
theorem Runs.of_free (evaluated : evaluate step (fun _ _ => true) s events = some t) :
    Runs step Free s events t :=
  .of_evaluate (fun _ _ _ => trivial) evaluated

end Transition
