import Veyra.Lib.Transition
import Mathlib.Logic.Function.Basic

/-!
# Veyra.Lib.Threads

Any number of threads that run programs over atomic actions on a shared
state, and a logic for what holds in every interleaving of them.

A thread has a ghost: what it owns and what it knows.  `Rules` say which
answers an action can have for a ghost and what the ghost may become; `wp` is
the weakest precondition of a program under them.  In a `Logic` the rules are
sound for an invariant of the shared state and all the ghosts.

* `Logic.Holds.step`, `Logic.Holds.run` — threads that keep the rules keep the invariant;
* `Logic.Holds.stable` — what every action that the rules allow keeps, every run keeps;
* `Logic.Holds.booked` — a ledger of what the threads have is what their ghosts say;
* `Exclusive` — locks that have one holder each, and are passed on.
-/

namespace Threads

open Function Transition

/-! ## Programs -/

/-- A program over the actions `A`, which are answered in `R`. -/
inductive Code (A : Type) (R : A → Type) (ρ : Type)
  | done (result : ρ)
  | act (action : A) (next : R action → Code A R ρ)

namespace Code

variable {A : Type} {R : A → Type} {ρ ρ' : Type}

/-- One program after another. -/
def bind (p : Code A R ρ) (f : ρ → Code A R ρ') : Code A R ρ' :=
  match p with
  | .done result => f result
  | .act action next => .act action fun answer => (next answer).bind f

instance : Monad (Code A R) where
  pure := .done
  bind := bind

theorem bind_assoc {ρ'' : Type} (p : Code A R ρ) (f : ρ → Code A R ρ') (h : ρ' → Code A R ρ'') :
    (p.bind f).bind h = p.bind fun result => (f result).bind h := by
  induction p with
  | done result => rfl
  | act action next ih => exact congrArg (Code.act action) (funext fun answer => ih answer)

end Code

/-! ## Interleavings -/

/-- What an action of a thread does to the shared state, if it is possible, and which program a
thread that is done can begin; `C` are the choices of the world and `O` the operations. -/
structure System (I S C O A : Type) (R : A → Type) (ρ : Type) where
  perform : I → (action : A) → C → S → Option (R action × S)
  begin : I → ρ → O → Option (Code A R ρ)

/-- The shared state, and what is left of the program of every thread. -/
structure Config (I S A : Type) (R : A → Type) (ρ : Type) where
  shared : S
  code : I → Code A R ρ

inductive Move (I C O : Type)
  | act (thread : I) (choice : C)
  | begin (thread : I) (operation : O)

variable {I S C O A G ρ ρ' : Type} {R : A → Type}

/-- One action of one thread, or the beginning of an operation. -/
def System.step [DecidableEq I] (sys : System I S C O A R ρ) (c : Config I S A R ρ) :
    Move I C O → Option (Config I S A R ρ)
  | .act i choice =>
    match c.code i with
    | .done _ => none
    | .act action next => (sys.perform i action choice c.shared).map fun answered =>
        { shared := answered.2, code := update c.code i (next answered.1) }
  | .begin i operation =>
    match c.code i with
    | .done result =>
      (sys.begin i result operation).map fun code => { c with code := update c.code i code }
    | .act .. => none

/-! ## Ledgers -/

section Ledgers

variable [DecidableEq I] {X : Type} (sys : System I S C O A R ρ) (own : (action : A) → R action → X → X)

/-- The entry that a move makes in a ledger of what each thread has. -/
def System.entry (c : Config I S A R ρ) (ledger : I → X) : Move I C O → I → X
  | .act i choice =>
    match c.code i with
    | .done _ => ledger
    | .act action _ =>
      match sys.perform i action choice c.shared with
      | none => ledger
      | some answered => update ledger i (own action answered.1 (ledger i))
  | .begin .. => ledger

/-- A move, with its entry. -/
def System.bookedStep (booked : Config I S A R ρ × (I → X)) (move : Move I C O) :
    Option (Config I S A R ρ × (I → X)) :=
  (sys.step booked.1 move).map fun c => (c, sys.entry own booked.1 booked.2 move)

variable {sys}

/-- A ledger can be kept of every run. -/
theorem System.exists_booked {c c' : Config I S A R ρ} {moves : List (Move I C O)}
    (run : Runs sys.step Free c moves c') (ledger : I → X) :
    ∃ ledger', Runs (sys.bookedStep own) Free (c, ledger) moves (c', ledger') := by
  induction run with
  | refl => exact ⟨ledger, .refl⟩
  | tail run meets next ih =>
    obtain ⟨ledger', hbooked⟩ := ih
    exact ⟨_, hbooked.tail trivial (by rw [System.bookedStep, next]; rfl)⟩

variable {own}

/-- The entry of an action that was performed. -/
theorem System.entry_act {c : Config I S A R ρ} {i : I} {choice : C} {action : A}
    {next : R action → Code A R ρ} {answer : R action} {s : S} (ledger : I → X)
    (hcode : c.code i = .act action next)
    (performed : sys.perform i action choice c.shared = some (answer, s)) :
    sys.entry own c ledger (.act i choice : Move I C O) =
      update ledger i (own action answer (ledger i)) := by
  rw [System.entry, hcode]
  dsimp only
  rw [performed]

end Ledgers

/-! ## The rules -/

/-- The answers that an action can have for a thread with a ghost, and what the ghost may become. -/
structure Rules (I A : Type) (R : A → Type) (G : Type) where
  Can : I → (action : A) → G → R action → Prop
  Goes : I → (action : A) → G → R action → G → Prop

namespace Code

/-- The weakest precondition: every answer lets the ghost go on, and the program ends in `Q`. -/
def wp (rules : Rules I A R G) (i : I) (p : Code A R ρ) (g : G) (Q : ρ → G → Prop) : Prop :=
  match p with
  | .done result => Q result g
  | .act action next => ∀ answer, rules.Can i action g answer →
    ∃ g', rules.Goes i action g answer g' ∧ (next answer).wp rules i g' Q

variable {rules : Rules I A R G} {i : I} {p : Code A R ρ} {g : G} {Q : ρ → G → Prop}

theorem wp_mono {Q' : ρ → G → Prop} (hQ : ∀ result g, Q result g → Q' result g)
    (h : p.wp rules i g Q) : p.wp rules i g Q' := by
  induction p generalizing g with
  | done result => exact hQ _ _ h
  | act action next ih =>
    intro answer hcan
    obtain ⟨g', hgoes, hnext⟩ := h answer hcan
    exact ⟨g', hgoes, ih answer hnext⟩

/-- **The rule of sequence.** -/
theorem wp_bind {f : ρ → Code A R ρ'} {Q : ρ' → G → Prop} :
    (p >>= f).wp rules i g Q ↔ p.wp rules i g fun result g => (f result).wp rules i g Q := by
  induction p generalizing g with
  | done result => exact Iff.rfl
  | act action next ih =>
    constructor
    · intro h answer hcan
      obtain ⟨g', hgoes, hnext⟩ := h answer hcan
      exact ⟨g', hgoes, (ih answer).mp hnext⟩
    · intro h answer hcan
      obtain ⟨g', hgoes, hnext⟩ := h answer hcan
      exact ⟨g', hgoes, (ih answer).mpr hnext⟩

end Code

/-! ## Holders of locks -/

/-- The locks that are taken have one holder each, and no others have one. -/
structure Exclusive {H L : Type} (locked : L → Bool) (holds : H → L → Bool) : Prop where
  held : ∀ l, locked l = true ↔ ∃ h, holds h l = true
  alone : ∀ {h h' l}, holds h l = true → holds h' l = true → h = h'

namespace Exclusive

variable {H L : Type} {locked : L → Bool} {holds : H → L → Bool} {l : L}

/-- A lock that is free has no holder. -/
theorem free (e : Exclusive locked holds) (hfree : locked l = false) (h : H) :
    holds h l = false := by
  by_contra hholds
  rw [Bool.not_eq_false] at hholds
  rw [(e.held l).mpr ⟨h, hholds⟩] at hfree
  cases hfree

/-- What one has, no other has. -/
theorem other (e : Exclusive locked holds) {h h' : H} (hholds : holds h l = true)
    (hne : h' ≠ h) : holds h' l = false := by
  by_contra hother
  rw [Bool.not_eq_false] at hother
  exact hne (e.alone hother hholds)

section Changes

variable [DecidableEq H]

theorem take [DecidableEq L] (e : Exclusive locked holds) (h : H) (hfree : locked l = false) :
    Exclusive (update locked l true) (update holds h (update (holds h) l true)) := by
  constructor
  · intro l'
    by_cases hl : l' = l
    · subst hl
      exact iff_of_true (update_self ..) ⟨h, by rw [update_self, update_self]⟩
    · rw [update_of_ne hl, e.held l']
      refine exists_congr fun h' => ?_
      by_cases hh : h' = h
      · subst hh
        rw [update_self, update_of_ne hl]
      · rw [update_of_ne hh]
  · intro h₁ h₂ l' h₁holds h₂holds
    by_cases hl : l' = l
    · subst hl
      have honly : ∀ h', update holds h (update (holds h) l' true) h' l' = true → h' = h := by
        intro h' hh'
        by_contra hne
        rw [update_of_ne hne, e.free hfree] at hh'
        cases hh'
      rw [honly h₁ h₁holds, honly h₂ h₂holds]
    · have hsame : ∀ h', update holds h (update (holds h) l true) h' l' = holds h' l' := by
        intro h'
        by_cases hh : h' = h
        · subst hh
          rw [update_self, update_of_ne hl]
        · rw [update_of_ne hh]
      rw [hsame] at h₁holds h₂holds
      exact e.alone h₁holds h₂holds

theorem release [DecidableEq L] (e : Exclusive locked holds) {h : H} (hholds : holds h l = true) :
    Exclusive (update locked l false) (update holds h (update (holds h) l false)) := by
  have hleft : ∀ h' l', update holds h (update (holds h) l false) h' l' = true ↔
      holds h' l' = true ∧ l' ≠ l := by
    intro h' l'
    by_cases hh : h' = h
    · subst hh
      rw [update_self]
      by_cases hl : l' = l
      · subst hl
        simp
      · rw [update_of_ne hl]
        simp [hl]
    · rw [update_of_ne hh]
      refine ⟨fun hh' => ⟨hh', ?_⟩, And.left⟩
      rintro rfl
      exact hh (e.alone hh' hholds)
  constructor
  · intro l'
    simp only [hleft]
    by_cases hl : l' = l
    · subst hl
      simp
    · rw [update_of_ne hl, e.held l']
      simp [hl]
  · intro h₁ h₂ l' h₁holds h₂holds
    exact e.alone ((hleft ..).mp h₁holds).1 ((hleft ..).mp h₂holds).1

/-- Locks are passed on. -/
theorem pass (e : Exclusive locked holds) {h h' : H} (hne : h ≠ h') (passed : L → Bool)
    (hpassed : ∀ l, passed l = true → holds h l = true) :
    Exclusive locked (update (update holds h fun l => holds h l && !passed l) h'
      fun l => holds h' l || passed l) := by
  -- the holder of a lock that was passed on is the one that has it now
  have hnow : ∀ k l, update (update holds h fun l => holds h l && !passed l) h'
      (fun l => holds h' l || passed l) k l = true ↔
        if passed l then k = h' else holds k l = true := by
    intro k l
    by_cases hk' : k = h'
    · subst hk'
      rw [update_self]
      cases hl : passed l <;> simp
    · rw [update_of_ne hk']
      by_cases hk : k = h
      · subst hk
        rw [update_self]
        cases hl : passed l <;> simp [hk']
      · rw [update_of_ne hk]
        cases hl : passed l with
        | false => simp
        | true => simp [hk', e.other (hpassed l hl) hk]
  constructor
  · intro l
    simp only [hnow]
    cases hl : passed l with
    | false => simpa using e.held l
    | true => simpa using (e.held l).mpr ⟨h, hpassed l hl⟩
  · intro h₁ h₂ l h₁holds h₂holds
    rw [hnow] at h₁holds h₂holds
    split at h₁holds
    · next hl =>
      rw [if_pos hl] at h₂holds
      rw [h₁holds, h₂holds]
    · next hl =>
      rw [if_neg hl] at h₂holds
      exact e.alone h₁holds h₂holds

/-- A holder gives back all it has. -/
theorem drop (e : Exclusive locked holds) (h : H) :
    Exclusive (fun l => locked l && !holds h l) (update holds h fun _ => false) := by
  have hleft : ∀ h' l, update holds h (fun _ => false) h' l = true ↔
      holds h' l = true ∧ h' ≠ h := by
    intro h' l
    by_cases hh : h' = h
    · subst hh
      simp
    · rw [update_of_ne hh]
      simp [hh]
  constructor
  · intro l
    simp only [hleft, Bool.and_eq_true, e.held l]
    constructor
    · rintro ⟨⟨h', hh'⟩, hnot⟩
      refine ⟨h', hh', ?_⟩
      rintro rfl
      rw [hh'] at hnot
      cases hnot
    · rintro ⟨h', hh', hne⟩
      exact ⟨⟨h', hh'⟩, by rw [e.other hh' (Ne.symm hne)]; rfl⟩
  · intro h₁ h₂ l h₁holds h₂holds
    exact e.alone ((hleft ..).mp h₁holds).1 ((hleft ..).mp h₂holds).1

end Changes

end Exclusive

/-! ## The logic -/

/-- Rules that are sound for an invariant of the shared state and the ghosts, and what a thread has
to leave behind when it is done. -/
structure Logic [DecidableEq I] (sys : System I S C O A R ρ) (G : Type) extends Rules I A R G where
  Inv : S → (I → G) → Prop
  Rest : I → ρ → G → Prop
  can : ∀ {s s' : S} {γ : I → G} {i : I} {action : A} {choice : C} {answer : R action}, Inv s γ →
    sys.perform i action choice s = some (answer, s') → Can i action (γ i) answer
  keeps : ∀ {s s' : S} {γ : I → G} {i : I} {action : A} {choice : C} {answer : R action} {g : G},
    Inv s γ → sys.perform i action choice s = some (answer, s') →
    Goes i action (γ i) answer g → Inv s' (update γ i g)
  begins : ∀ {i : I} {result : ρ} {operation : O} {p : Code A R ρ} {g : G}, Rest i result g →
    sys.begin i result operation = some p → p.wp toRules i g (Rest i)

namespace Logic

variable [DecidableEq I] {sys : System I S C O A R ρ} (logic : Logic sys G)

/-- The ghosts for which the invariant holds, and every thread can go on. -/
structure Holds (c : Config I S A R ρ) (γ : I → G) : Prop where
  inv : logic.Inv c.shared γ
  code : ∀ i, (c.code i).wp logic.toRules i (γ i) (logic.Rest i)

variable {logic} {c c' : Config I S A R ρ} {γ : I → G}

/-- What is known of a thread that is done. -/
theorem Holds.done (h : logic.Holds c γ) {i : I} {result : ρ} (hdone : c.code i = .done result) :
    logic.Rest i result (γ i) := by
  have hcode := h.code i
  rwa [hdone] at hcode

/-- What is known of an action that was performed. -/
theorem Holds.act (h : logic.Holds c γ) {i : I} {choice : C}
    (hstep : sys.step c (.act i choice) = some c') :
    ∃ action next answer g, c.code i = .act action next ∧
      sys.perform i action choice c.shared = some (answer, c'.shared) ∧
      logic.Goes i action (γ i) answer g ∧ logic.Holds c' (update γ i g) := by
  rw [System.step] at hstep
  have hcode := h.code i
  cases hi : c.code i with
  | done result =>
    rw [hi] at hstep
    cases hstep
  | act action next =>
    rw [hi] at hstep hcode
    obtain ⟨⟨answer, s'⟩, hperform, hstep⟩ := Option.map_eq_some_iff.mp hstep
    cases hstep
    obtain ⟨g, hgoes, hnext⟩ := hcode answer (logic.can h.inv hperform)
    refine ⟨action, next, answer, g, rfl, hperform, hgoes, logic.keeps h.inv hperform hgoes,
      fun j => ?_⟩
    by_cases hj : j = i
    · subst hj
      simpa using hnext
    · simpa [hj] using h.code j

/-- An operation that begins leaves the invariant as it is. -/
theorem Holds.begin (h : logic.Holds c γ) {i : I} {operation : O}
    (hstep : sys.step c (.begin i operation) = some c') :
    c'.shared = c.shared ∧ logic.Holds c' γ := by
  rw [System.step] at hstep
  have hcode := h.code i
  cases hi : c.code i with
  | act action next =>
    rw [hi] at hstep
    cases hstep
  | done result =>
    rw [hi] at hstep hcode
    obtain ⟨p, hbegin, hstep⟩ := Option.map_eq_some_iff.mp hstep
    cases hstep
    refine ⟨rfl, h.inv, fun j => ?_⟩
    by_cases hj : j = i
    · subst hj
      simpa using logic.begins hcode hbegin
    · simpa [hj] using h.code j

/-- **Step lemma.**  A step keeps the invariant. -/
theorem Holds.step (h : logic.Holds c γ) {move : Move I C O} (hstep : sys.step c move = some c') :
    ∃ γ', logic.Holds c' γ' := by
  cases move with
  | act i choice =>
    obtain ⟨action, next, answer, g, -, -, -, hnext⟩ := h.act hstep
    exact ⟨_, hnext⟩
  | begin i operation => exact ⟨γ, (h.begin hstep).2⟩

/-- **Run lemma.**  Threads that keep the rules keep the invariant. -/
theorem Holds.run (h : logic.Holds c γ) {moves : List (Move I C O)}
    (run : Runs sys.step Free c moves c') : ∃ γ', logic.Holds c' γ' := by
  refine run.invariant (fun c => ∃ γ, logic.Holds c γ) ⟨γ, h⟩ ?_
  intro c move c' hholds _ hstep
  obtain ⟨γ, hholds⟩ := hholds
  exact hholds.step hstep

/-- **Stability.**  What every action that the rules allow keeps, every run keeps. -/
theorem Holds.stable (h : logic.Holds c γ) {P : S → Prop}
    (keeps : ∀ {s s' : S} {γ : I → G} {i : I} {action : A} {choice : C} {answer : R action} {g : G},
      logic.Inv s γ → P s → sys.perform i action choice s = some (answer, s') →
      logic.Goes i action (γ i) answer g → P s')
    (holds : P c.shared) {moves : List (Move I C O)} (run : Runs sys.step Free c moves c') :
    P c'.shared := by
  have hboth : (∃ γ, logic.Holds c' γ) ∧ P c'.shared := by
    refine run.invariant (fun c => (∃ γ, logic.Holds c γ) ∧ P c.shared) ⟨⟨γ, h⟩, holds⟩ ?_
    rintro c move c' ⟨⟨γ, hholds⟩, hP⟩ _ hstep
    refine ⟨hholds.step hstep, ?_⟩
    cases move with
    | act i choice =>
      obtain ⟨action, next, answer, g, -, hperform, hgoes, -⟩ := hholds.act hstep
      exact keeps hholds.inv hP hperform hgoes
    | begin i operation => exact (hholds.begin hstep).1 ▸ hP
  exact hboth.2

/-- **The rule of ledgers.**  If the ghosts go on as the entries say, a ledger of the run is what
the ghosts show at its end. -/
theorem Holds.booked {X : Type} {own : (action : A) → R action → X → X} {view : G → X}
    (owns : ∀ {i : I} {action : A} {g g' : G} {answer : R action},
      logic.Goes i action g answer g' → view g' = own action answer (view g))
    {moves : List (Move I C O)} {ledger ledger' : I → X}
    (run : Runs (sys.bookedStep own) Free (c, ledger) moves (c', ledger'))
    (h : logic.Holds c γ) (hledger : ∀ i, view (γ i) = ledger i) :
    ∃ γ', logic.Holds c' γ' ∧ ∀ i, view (γ' i) = ledger' i := by
  refine run.invariant (fun booked => ∃ γ, logic.Holds booked.1 γ ∧ ∀ i, view (γ i) = booked.2 i)
    ⟨γ, h, hledger⟩ ?_
  rintro ⟨c, ledger⟩ move booked ⟨γ, hholds, hview⟩ - hbooked
  obtain ⟨c', hstep, rfl⟩ := Option.map_eq_some_iff.mp hbooked
  cases move with
  | act i choice =>
    obtain ⟨action, next, answer, g, hcode, hperform, hgoes, hnext⟩ := hholds.act hstep
    refine ⟨_, hnext, fun j => ?_⟩
    dsimp only
    rw [System.entry_act ledger hcode hperform]
    by_cases hj : j = i
    · subst hj
      rw [update_self, update_self, owns hgoes, hview]
    · rw [update_of_ne hj, update_of_ne hj]
      exact hview j
  | begin i operation => exact ⟨γ, (hholds.begin hstep).2, hview⟩

end Logic

end Threads
