import Mathlib.Data.List.Basic

/-!
# Veyra.Lib.Check

Validation in `Except`: a check that fails with a given error, and what a
sequence of checks that succeeds has established.

Everything a checker proves is read off with `ok_bind`, `reject_eq_ok` and
`each_eq_ok`, so a later proof never unfolds a checker's control flow.
-/

namespace Check

variable {ε α β : Type}

/-- Fail with `e` when `bad` holds: `if bad { return Err(e) }`. -/
def reject (bad : Bool) (e : ε) : Except ε Unit := if bad then .error e else .ok ()

/-- Turn an absent value into an error: `Option::ok_or`. -/
def okOr (o : Option α) (e : ε) : Except ε α :=
  match o with
  | some a => .ok a
  | none => .error e

/-- Run a check on each element in turn. -/
def each (f : α → Except ε Unit) : List α → Except ε Unit
  | [] => .ok ()
  | x :: xs => f x >>= fun _ => each f xs

@[simp] theorem reject_eq_ok {bad : Bool} {e : ε} : reject bad e = .ok () ↔ bad = false := by
  cases bad <;> simp [reject]

@[simp] theorem reject_false {e : ε} : reject false e = .ok () := rfl

@[simp] theorem reject_true {e : ε} : reject true e = .error e := rfl

@[simp] theorem reject_eq_error {bad : Bool} {e e' : ε} :
    reject bad e = .error e' ↔ bad = true ∧ e = e' := by
  cases bad <;> simp [reject]

@[simp] theorem okOr_eq_ok {e : ε} {o : Option α} {a : α} : okOr o e = .ok a ↔ o = some a := by
  cases o <;> simp [okOr]

/-- A sequence succeeds when its first part does and the rest does on its value. -/
theorem ok_bind {x : Except ε α} {f : α → Except ε β} {b : β} :
    (x >>= f) = .ok b ↔ ∃ a, x = .ok a ∧ f a = .ok b := by
  cases x with
  | error e => simp [bind, Except.bind]
  | ok a => simp [bind, Except.bind]

/-- The unit form: a check in front of the rest. -/
theorem ok_seq {x : Except ε Unit} {f : Unit → Except ε β} {b : β} :
    (x >>= f) = .ok b ↔ x = .ok () ∧ f () = .ok b := by
  rw [ok_bind]
  exact ⟨fun ⟨_, h⟩ => h, fun h => ⟨(), h⟩⟩

/-- A sequence fails when its first part does, or the rest does on its value. -/
theorem error_bind {x : Except ε α} {f : α → Except ε β} {e : ε} :
    (x >>= f) = .error e ↔ x = .error e ∨ ∃ a, x = .ok a ∧ f a = .error e := by
  cases x with
  | error e => simp [bind, Except.bind]
  | ok a => simp [bind, Except.bind]

/-- A check on every element of a list, which stops at the first failure. -/
theorem each_eq_ok {f : α → Except ε Unit} {xs : List α} :
    each f xs = .ok () ↔ ∀ x ∈ xs, f x = .ok () := by
  induction xs with
  | nil => simp [each]
  | cons x xs ih => simp [each, ok_seq, ih]

/-- `map_err` keeps successes. -/
@[simp] theorem mapError_eq_ok {δ : Type} {g : ε → δ} {x : Except ε α} {a : α} :
    x.mapError g = .ok a ↔ x = .ok a := by
  cases x <;> simp [Except.mapError]

@[simp] theorem map_eq_ok {f : α → β} {x : Except ε α} {b : β} :
    x.map f = .ok b ↔ ∃ a, x = .ok a ∧ f a = b := by
  cases x <;> simp [Except.map]

@[simp] theorem toOption_eq_some {x : Except ε α} {a : α} : x.toOption = some a ↔ x = .ok a := by
  cases x <;> simp [Except.toOption]

/-- A computation that evaluates to a success is one. -/
theorem exists_ok {x : Except ε α} (h : x.isOk = true) : ∃ a, x = .ok a := by
  cases x with
  | ok a => exact ⟨a, rfl⟩
  | error e => cases h

/-- A step that takes an element with a key not seen so far and a property of its own, run
over a list: the keys are distinct, and every element has the property. -/
theorem foldlM_fresh {σ κ : Type} {step : σ → α → Except ε σ} {seen : σ → List κ} {key : α → κ}
    {P : α → Prop} {add : σ → α → σ}
    (hstep : ∀ s a s', step s a = .ok s' ↔ key a ∉ seen s ∧ P a ∧ s' = add s a)
    (hseen : ∀ s a, seen (add s a) = key a :: seen s) {xs : List α} {s s' : σ} :
    xs.foldlM step s = .ok s' ↔
      (∀ a ∈ xs, P a) ∧ (xs.map key).Nodup ∧ (∀ a ∈ xs, key a ∉ seen s) ∧
      s' = xs.foldl add s := by
  induction xs generalizing s with
  | nil =>
    rw [List.foldlM_nil]
    constructor
    · intro h
      cases h
      simp
    · rintro ⟨-, -, -, rfl⟩
      rfl
  | cons x xs ih =>
    simp only [List.foldlM_cons, ok_bind, hstep, ih]
    constructor
    · rintro ⟨next, ⟨hnew, hx, rfl⟩, hxs, hnodup, hdisjoint, rfl⟩
      rw [hseen] at hdisjoint
      refine ⟨List.forall_mem_cons.mpr ⟨hx, hxs⟩, ?_, List.forall_mem_cons.mpr
        ⟨hnew, fun a ha hk => hdisjoint a ha (List.mem_cons_of_mem _ hk)⟩, rfl⟩
      rw [List.map_cons, List.nodup_cons]
      refine ⟨fun hmem => ?_, hnodup⟩
      obtain ⟨a, ha, hk⟩ := List.mem_map.mp hmem
      exact hdisjoint a ha (hk ▸ List.mem_cons_self)
    · rintro ⟨hall, hnodup, hdisjoint, rfl⟩
      obtain ⟨hx, hxs⟩ := List.forall_mem_cons.mp hall
      obtain ⟨hnew, hothers⟩ := List.forall_mem_cons.mp hdisjoint
      rw [List.map_cons, List.nodup_cons] at hnodup
      refine ⟨add s x, ⟨hnew, hx, rfl⟩, hxs, hnodup.2, fun a ha hk => ?_, rfl⟩
      rw [hseen] at hk
      rcases List.mem_cons.mp hk with hk | hk
      · exact hnodup.1 (hk ▸ List.mem_map_of_mem ha)
      · exact hothers a ha hk

end Check
