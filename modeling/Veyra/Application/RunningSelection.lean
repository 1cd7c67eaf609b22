import Veyra.Application.Shutdown

/-!
# Veyra.Application.RunningSelection

The running instance belongs to the selection that is stored: while a runtime
is shown to be ready, and the worker is not in the middle of a request, what is
applied is the subscription that the state file selects, at the stored
generation or an earlier one.

By `Veyra.Application.ControllerRules` this holds as long as the worker is not
behind what it has selected itself, and between two requests it never is.
-/

namespace Veyra

open Threads Transition Function

namespace Controller

variable {P Bytes Value ι : Type}

/-! ## What is stored -/

/-- Only a save changes what is stored. -/
theorem stored_kept {s s' : Shared P Bytes} {action : Action P Bytes} {choice : Choice P}
    {answer : Answer action} (performed : perform action choice s = some (answer, s'))
    (hsave : ∀ writer next, action ≠ .save writer next) : s'.stored = s.stored := by
  cases action with
  | save writer next => exact absurd rfl (hsave writer next)
  | load writer =>
    rw [perform] at performed
    split at performed
    · cases performed
      split <;> rfl
    · cases performed
      rfl
  | hangUp =>
    cases performed
    rw [Shared.dropQueue]
    split <;> rfl
  | tryLock | send | receive =>
    rw [perform] at performed
    split at performed <;> cases performed <;> rfl
  | _ =>
    cases performed
    rfl

variable [DecidableEq Value] {env : ControllerEnv P Bytes Value} [DecidableEq ι]

omit [DecidableEq ι] in
/-- **Step lemma.**  Every step lets the state file go on. -/
theorem Inv.advances {s s' : Shared P Bytes} {γ : Thread ι → Ghost} {i : Thread ι} {g : Ghost}
    (h : Inv s γ) {action : Action P Bytes} {choice : Choice P} {answer : Answer action}
    (performed : perform action choice s = some (answer, s'))
    (goes : Goes i action (γ i) answer g) : Advances s.stored s'.stored := by
  cases action with
  | save writer next =>
    rw [perform] at performed
    generalize hg : γ i = before at goes
    cases goes with
    | unsaved =>
      split at performed <;> cases performed
      exact .refl _
    | save owned seen allowed replaces =>
      split at performed <;> cases performed
      rw [((h.knows i).seen _ (hg ▸ seen)).2]
      obtain honward | hgrows := replaces
      · exact honward.toGrows.advances
      · exact hgrows.1.advances
    | select owned seen notFinal writes serving grows onward =>
      split at performed <;> cases performed
      rw [((h.knows _).seen _ (hg ▸ seen)).2]
      exact grows.advances
  | _ =>
    rw [stored_kept performed (by simp)]
    exact .refl _

/-- **Run lemma.**  Wherever the application gets, the state file goes on. -/
theorem advances_run {stored : Option AppState}
    {moves later : List (Move (Thread ι) (Choice P) Operation)}
    {c c' : Config (Thread ι) (Shared P Bytes) (Action P Bytes) Answer Outcome}
    (run : Runs (system env ι).step Free (initial ι stored) moves c)
    (after : Runs (system env ι).step Free c later c') : Advances c.shared.stored c'.shared.stored := by
  obtain ⟨γ, holds⟩ := holds_run run
  refine holds.stable (P := fun s => Advances c.shared.stored s.stored)
    (fun hinv hadvances performed goes => ?_) (.refl _) after
  exact hadvances.trans (Inv.advances hinv performed goes)

/-! ## What runs -/

omit [DecidableEq Value] [DecidableEq ι] in
/-- What is shown to be ready is what is selected, if the worker is not behind. -/
theorem Inv.runs {s : Shared P Bytes} {γ : Thread ι → Ghost} (h : Inv s γ)
    (settled : (γ .worker).behind = false)
    (ready : s.world.observations.sidecarLifecycle = .ready) :
    ∃ id generation, s.world.observations.appliedTuple = (some id.val, some generation) ∧
      StillSelects s.stored id generation := by
  obtain hbare | ⟨_, generation, ⟨id, rfl, hselects⟩, happlied⟩ := h.belongs settled
  · obtain ⟨id, generation, happlied⟩ := h.displays.ready (h.displays.ready_iff.mp ready)
    rw [hbare] at happlied
    cases happlied
  · exact ⟨id, generation, happlied, hselects⟩

/-- The worker is not in the middle of a request: its round is over, or has not received yet, or it
has received none. -/
def BetweenRequests (c : Config (Thread ι) (Shared P Bytes) (Action P Bytes) Answer Outcome)
    (serving : Thread ι → Bool) : Prop :=
  (∃ outcome, c.code .worker = .done outcome) ∨ (∃ next, c.code .worker = .act .receive next) ∨
    serving .worker = false

/-- Between two requests the worker is not behind. -/
theorem BetweenRequests.settled
    {c : Config (Thread ι) (Shared P Bytes) (Action P Bytes) Answer Outcome}
    {serving : Thread ι → Bool} (h : BetweenRequests c serving) {γ : Thread ι → Ghost}
    (holds : (logic env).Holds c γ) (hserving : (γ .worker).serving = serving .worker) :
    (γ .worker).behind = false := by
  obtain ⟨outcome, hdone⟩ | ⟨next, hreceive⟩ | hidle := h
  · have hrest : WorkerRest outcome (γ .worker) := holds.done hdone
    exact hrest.2.1
  · have hcode := holds.code .worker
    rw [hreceive] at hcode
    -- it may find the channel empty, and the rules then have it settled
    obtain ⟨g', hgoes, -⟩ := hcode .timeout trivial
    cases hgoes with
    | timeout settled => exact settled
  · by_contra hbehind
    have hinv : Inv c.shared γ := holds.inv
    rw [Bool.not_eq_false] at hbehind
    rw [hserving.symm.trans (hinv.behind hbehind)] at hidle
    cases hidle

/-- **What runs belongs to what is stored.**  Let the first state be valid, as every load checks it.
In every order of the threads, whenever a runtime is shown to be ready and the worker is not in the
middle of a request, the tuple that is shown as applied is there, its subscription is the one that
is stored as selected, which exists, and its generation is at most the stored one; and the stored
generation is never lower later. -/
theorem running_selection {stored : Option AppState} (valid : ∀ s, stored = some s → s.Valid)
    {moves : List (Move (Thread ι) (Choice P) Operation)}
    {c : Config (Thread ι) (Shared P Bytes) (Action P Bytes) Answer Outcome}
    (run : Runs (system env ι).step Free (initial ι stored) moves c) :
    (∃ serving : Thread ι → Bool,
      Runs ((system env ι).bookedStep serves) Free (initial ι stored, fun _ => false) moves
        (c, serving) ∧
      (BetweenRequests c serving → c.shared.world.observations.sidecarLifecycle = .ready →
        ∃ s sub generation, c.shared.stored = some s ∧
          c.shared.world.observations.appliedTuple = (some sub.id.val, some generation) ∧
          s.activeSubscriptionId = some sub.id ∧ sub ∈ s.subscriptions ∧
          generation ≤ s.activeConfigurationGeneration)) ∧
    ∀ later c', Runs (system env ι).step Free c later c' →
      storedGeneration c.shared.stored ≤ storedGeneration c'.shared.stored := by
  refine ⟨?_, fun later c' after => (advances_run run after).generation⟩
  obtain ⟨serving, booked⟩ := System.exists_booked serves run fun _ => false
  obtain ⟨γ, holds, hserving⟩ := Logic.Holds.booked (fun goes => Goes.serves goes) booked
    (holds_initial env stored) fun _ => rfl
  refine ⟨serving, booked, fun hbetween hready => ?_⟩
  have hinv : Inv c.shared γ := holds.inv
  obtain ⟨id, generation, happlied, s, hstored, hactive, hgeneration⟩ :=
    hinv.runs (hbetween.settled holds (hserving .worker)) hready
  have hvalid : s.Valid := (advances_run .refl run).valid valid s hstored
  obtain ⟨sub, hsub, rfl⟩ := hvalid.active id hactive
  exact ⟨s, sub, generation, hstored, happlied, hactive, hsub, hgeneration⟩

/-! ## A run -/

/-- The other subscription is activated, and then updated while it runs. -/
def switchMoves : List CalmMove :=
  .begin (.caller true) (.activate ⟨"sub-02", false, none, "switch-1"⟩) ::
    goesOn (.caller true) 16 false ++ .begin .worker .serve :: goesOn .worker 19 false ++
    .begin (.caller false) (.update "sub-02" (some (socksLink "c")) false) ::
    goesOn (.caller false) 21 false

/-- What is stored is at a later generation than what runs. -/
def switchedConfig : CalmConfig :=
  (CalmConfig.after (initial Bool (some activeState)) (requestMoves ++ startMoves ++ switchMoves)).get
    (by decide +kernel)

/-- A start, an activation of the other subscription, and an update of it. -/
theorem running_selection_switched :
    (switchedConfig.shared.world.observations.sidecarLifecycle = .ready ∧
      switchedConfig.shared.world.observations.appliedTuple = (some "sub-02", some 2) ∧
      storedGeneration switchedConfig.shared.stored = 3) ∧
    (∃ serving : Thread Bool → Bool,
      Runs ((system calmEnv Bool).bookedStep serves) Free
        (initial Bool (some activeState), fun _ => false) (requestMoves ++ startMoves ++ switchMoves)
        (switchedConfig, serving) ∧
      (BetweenRequests switchedConfig serving →
        switchedConfig.shared.world.observations.sidecarLifecycle = .ready →
        ∃ s sub generation, switchedConfig.shared.stored = some s ∧
          switchedConfig.shared.world.observations.appliedTuple = (some sub.id.val, some generation) ∧
          s.activeSubscriptionId = some sub.id ∧ sub ∈ s.subscriptions ∧
          generation ≤ s.activeConfigurationGeneration)) ∧
    ∀ later c', Runs (system calmEnv Bool).step Free switchedConfig later c' →
      storedGeneration switchedConfig.shared.stored ≤ storedGeneration c'.shared.stored :=
  ⟨by decide +kernel, running_selection (fun _ hs => Option.some.inj hs ▸ activeState_valid)
    (.of_free (Option.some_get _).symm)⟩

end Controller

end Veyra
