import Veyra.Lib.Transition
import Mathlib.Logic.Function.Basic

/-!
# Veyra.Lib.Slot

A slot for one job at a time.

A caller takes the slot without waiting, starts a job in a thread of its own and waits for the
result for a while.  The job gives the slot back when it is done, whether or not its caller still
waits; a caller that finds the slot taken goes away.

* `Invariant` — the slot is taken exactly while one call occupies it;
* `Fits` — what the answer of a call says of its job.
-/

namespace Slot

open Function Transition

variable {I ρ : Type}

/-! ## Calls and jobs -/

/-- What a caller is answered. -/
inductive Answer (ρ : Type)
  | busy
  | notStarted
  | answered (result : ρ)
  | lost
  | timedOut

inductive Caller (ρ : Type)
  | idle
  | entered
  | waiting
  | ended (answer : Answer ρ)

/-- A job: `none` is the result of one that panicked. -/
inductive Job (ρ : Type)
  | absent
  | running
  | worked (result : Option ρ)
  | released (result : Option ρ)
  | reported (result : Option ρ)

structure State (I ρ : Type) where
  taken : Bool
  caller : I → Caller ρ
  job : I → Job ρ

def start : State I ρ := ⟨false, fun _ => .idle, fun _ => .absent⟩

inductive Event (I : Type)
  | enter (i : I)
  | spawn (i : I) (started : Bool)
  | work (i : I)
  | release (i : I)
  | report (i : I)
  | receive (i : I)
  | timeout (i : I)

/-- The call that an event is about. -/
def Event.call : Event I → I
  | .enter i | .spawn i _ | .work i | .release i | .report i | .receive i | .timeout i => i

section Steps

variable [DecidableEq I]

/-- The state with another caller and another job of a call. -/
def State.set (s : State I ρ) (i : I) (taken : Bool) (caller : Caller ρ) (job : Job ρ) :
    State I ρ :=
  { taken, caller := update s.caller i caller, job := update s.job i job }

/-- What a caller gets of a result. -/
def received : Option ρ → Answer ρ
  | some result => .answered result
  | none => .lost

/-- One thing that one thread does; `work` is what the jobs compute. -/
def step (work : I → Option ρ) (s : State I ρ) : Event I → Option (State I ρ)
  | .enter i =>
    match s.caller i with
    | .idle =>
      if s.taken then some (s.set i true (.ended .busy) (s.job i))
      else some (s.set i true .entered (s.job i))
    | _ => none
  | .spawn i started =>
    match s.caller i with
    | .entered =>
      if started then some (s.set i s.taken .waiting .running)
      else some (s.set i false (.ended .notStarted) (s.job i))
    | _ => none
  | .work i =>
    match s.job i with
    | .running => some (s.set i s.taken (s.caller i) (.worked (work i)))
    | _ => none
  | .release i =>
    match s.job i with
    | .worked result => some (s.set i false (s.caller i) (.released result))
    | _ => none
  | .report i =>
    match s.job i with
    | .released result => some (s.set i s.taken (s.caller i) (.reported result))
    | _ => none
  | .receive i =>
    match s.caller i, s.job i with
    | .waiting, .reported result => some (s.set i s.taken (.ended (received result)) (s.job i))
    | _, _ => none
  | .timeout i =>
    match s.caller i with
    | .waiting => some (s.set i s.taken (.ended .timedOut) (s.job i))
    | _ => none

end Steps

/-! ## The invariant -/

/-- A call has the slot: before its job is there, and until the job is done. -/
def occupies : Caller ρ → Job ρ → Bool
  | .entered, _ => true
  | _, .running | _, .worked _ => true
  | _, _ => false

def State.Occupied (s : State I ρ) (i : I) : Prop := occupies (s.caller i) (s.job i) = true

/-- A job that was started, with the result that it computes. -/
def Job.Of (work : Option ρ) : Job ρ → Prop
  | .absent => False
  | .running => True
  | .worked result | .released result | .reported result => result = work

/-- What a caller knows of its job. -/
inductive Fits (work : Option ρ) : Caller ρ → Job ρ → Prop
  | idle : Fits work .idle .absent
  | entered : Fits work .entered .absent
  | busy : Fits work (.ended .busy) .absent
  | notStarted : Fits work (.ended .notStarted) .absent
  | waiting {job : Job ρ} (of : job.Of work) : Fits work .waiting job
  | timedOut {job : Job ρ} (of : job.Of work) : Fits work (.ended .timedOut) job
  | received {result : Option ρ} (of : result = work) :
      Fits work (.ended (received result)) (.reported result)

structure Invariant (work : I → Option ρ) (s : State I ρ) : Prop where
  exclusive : ∀ i j, s.Occupied i → s.Occupied j → i = j
  taken : s.taken = true ↔ ∃ i, s.Occupied i
  fits : ∀ i, Fits (work i) (s.caller i) (s.job i)

theorem Invariant.start (work : I → Option ρ) : Invariant work (start : State I ρ) where
  exclusive := fun _ _ h => Bool.noConfusion h
  taken := ⟨fun h => Bool.noConfusion h, fun ⟨_, h⟩ => Bool.noConfusion h⟩
  fits := fun _ => .idle

/-- A job that was started, and has not reported. -/
def Job.Pending : Job ρ → Prop
  | .running | .worked _ | .released _ => True
  | .absent | .reported _ => False

/-- The caller of a pending job waits for it or has gone, and the job goes on by itself. -/
theorem Fits.goOn {work : Option ρ} {caller : Caller ρ} {job : Job ρ} (h : Fits work caller job)
    (hpending : job.Pending) :
    job.Of work ∧ (caller = .waiting ∨ caller = .ended .timedOut) ∧
      ∀ next : Job ρ, next.Of work → Fits work caller next := by
  cases h with
  | idle | entered | busy | notStarted | received => cases hpending
  | waiting of => exact ⟨of, .inl rfl, fun _ => .waiting⟩
  | timedOut of => exact ⟨of, .inr rfl, fun _ => .timedOut⟩

variable {work : I → Option ρ} {s t : State I ρ} {i j : I}

/-- Nobody else has the slot while one call has it. -/
theorem Invariant.other (h : Invariant work s) (hi : s.Occupied i) (hj : j ≠ i) : ¬s.Occupied j :=
  fun hother => hj (h.exclusive j i hother hi)

/-- The slot is taken while a call has it. -/
theorem Invariant.taken_of (h : Invariant work s) (hi : s.Occupied i) : s.taken = true :=
  h.taken.mpr ⟨i, hi⟩

/-- What is computed is computed for the caller: an answer tells the error of a call that was
turned away or left alone, or the result of its own job. -/
theorem answer_of_job (h : Invariant work s) {result : ρ}
    (hended : s.caller i = .ended (.answered result)) : work i = some result := by
  have hfits := h.fits i
  rw [hended] at hfits
  generalize s.job i = job, hanswer : (Caller.ended (Answer.answered result)) = caller at hfits
  cases hfits with
  | @received computed of =>
    cases computed with
    | none => cases hanswer
    | some value =>
      cases hanswer
      exact of.symm
  | idle | entered | busy | notStarted | waiting | timedOut => cases hanswer

/-- A call that was turned away has no job. -/
theorem no_job (h : Invariant work s) {answer : Answer ρ} (hended : s.caller i = .ended answer)
    (hrefused : answer = .busy ∨ answer = .notStarted) : s.job i = .absent := by
  have hfits := h.fits i
  rw [hended] at hfits
  generalize s.job i = job at hfits ⊢
  obtain rfl | rfl := hrefused
  · generalize hbusy : Caller.ended (Answer.busy : Answer ρ) = caller at hfits
    cases hfits with
    | busy => rfl
    | @received computed => cases computed <;> cases hbusy
    | idle | entered | notStarted | waiting | timedOut => cases hbusy
  · generalize hfailed : Caller.ended (Answer.notStarted : Answer ρ) = caller at hfits
    cases hfits with
    | notStarted => rfl
    | @received computed => cases computed <;> cases hfailed
    | idle | entered | busy | waiting | timedOut => cases hfailed

variable [DecidableEq I]

/-- **Frame.**  A call goes on, and the slot is taken exactly if it was for another call or the
call has it now. -/
theorem Invariant.set (h : Invariant work s) {taken : Bool} {caller : Caller ρ} {job : Job ρ}
    (hfits : Fits (work i) caller job)
    (hfree : occupies caller job = true → s.Occupied i ∨ s.taken = false)
    (htaken : taken = true ↔ occupies caller job = true ∨ s.taken = true ∧ ¬s.Occupied i) :
    Invariant work (s.set i taken caller job) := by
  have hself : (s.set i taken caller job).Occupied i ↔ occupies caller job = true := by
    simp [State.Occupied, State.set]
  have hrest : ∀ j, j ≠ i → ((s.set i taken caller job).Occupied j ↔ s.Occupied j) := by
    intro j hj
    simp [State.Occupied, State.set, hj]
  -- no other call has the slot that the call has now
  have hothers : occupies caller job = true → ∀ j, j ≠ i → ¬s.Occupied j := by
    intro hnow j hj
    cases hfree hnow with
    | inl hmine => exact h.other hmine hj
    | inr hfree =>
      intro hother
      rw [h.taken.mpr ⟨j, hother⟩] at hfree
      cases hfree
  refine ⟨fun j k hj hk => ?_, ?_, fun j => ?_⟩
  · by_cases hji : j = i
    · by_cases hki : k = i
      · rw [hji, hki]
      · rw [hji, hself] at hj
        exact absurd ((hrest k hki).mp hk) (hothers hj k hki)
    · by_cases hki : k = i
      · rw [hki, hself] at hk
        exact absurd ((hrest j hji).mp hj) (hothers hk j hji)
      · exact h.exclusive j k ((hrest j hji).mp hj) ((hrest k hki).mp hk)
  · refine htaken.trans ⟨?_, ?_⟩
    · rintro (hnow | ⟨hbefore, hnot⟩)
      · exact ⟨i, hself.mpr hnow⟩
      · obtain ⟨j, hj⟩ := h.taken.mp hbefore
        have hji : j ≠ i := fun heq => hnot (heq ▸ hj)
        exact ⟨j, (hrest j hji).mpr hj⟩
    · rintro ⟨j, hj⟩
      by_cases hji : j = i
      · rw [hji, hself] at hj
        exact .inl hj
      · have hj := (hrest j hji).mp hj
        exact .inr ⟨h.taken.mpr ⟨j, hj⟩, fun hi => hji (h.exclusive j i hj hi)⟩
  · by_cases hji : j = i
    · subst hji
      simpa [State.set] using hfits
    · simpa [State.set, hji] using h.fits j

/-- A call that goes on without touching the slot. -/
theorem Invariant.keep (h : Invariant work s) {caller : Caller ρ} {job : Job ρ}
    (hfits : Fits (work i) caller job)
    (hsame : occupies caller job = occupies (s.caller i) (s.job i)) :
    Invariant work (s.set i s.taken caller job) := by
  refine h.set hfits (fun hnow => .inl (hsame.symm.trans hnow)) ?_
  constructor
  · intro htaken
    by_cases hi : s.Occupied i
    · exact .inl (hsame.trans hi)
    · exact .inr ⟨htaken, hi⟩
  · rintro (hnow | ⟨htaken, -⟩)
    · exact h.taken_of (hsame.symm.trans hnow)
    · exact htaken

/-- A call that gives the slot back. -/
theorem Invariant.leave (h : Invariant work s) {caller : Caller ρ} {job : Job ρ}
    (hfits : Fits (work i) caller job) (hnow : occupies caller job = false)
    (hi : s.Occupied i) : Invariant work (s.set i false caller job) := by
  refine h.set hfits (fun hoccupies => ?_) ?_
  · rw [hnow] at hoccupies
    cases hoccupies
  · rw [hnow]
    simp [hi]

/-- A call that enters has no job yet. -/
theorem Invariant.enter (h : Invariant work s) (hstep : step work s (.enter i) = some t) :
    Invariant work t := by
  have hfits := h.fits i
  rw [Slot.step] at hstep
  cases hcaller : s.caller i with
  | idle =>
    rw [hcaller] at hstep hfits
    dsimp only at hstep
    have habsent : s.job i = .absent := by
      generalize s.job i = job at hfits ⊢
      cases hfits
      rfl
    have hfree : ¬s.Occupied i := by simp [State.Occupied, hcaller, habsent, occupies]
    rw [habsent] at hstep
    split at hstep
    · next htaken =>
      cases hstep
      exact h.set .busy (fun hnow => Bool.noConfusion hnow) (by simp [occupies, htaken, hfree])
    · next hfree =>
      cases hstep
      exact h.set .entered (fun _ => .inr (by simpa using hfree)) (by simp [occupies])
  | entered | waiting | ended answer =>
    rw [hcaller] at hstep
    cases hstep

/-- A call whose thread cannot be started gives the slot back. -/
theorem Invariant.spawn (h : Invariant work s) {started : Bool}
    (hstep : step work s (.spawn i started) = some t) : Invariant work t := by
  have hfits := h.fits i
  rw [Slot.step] at hstep
  cases hcaller : s.caller i with
  | entered =>
    rw [hcaller] at hstep hfits
    dsimp only at hstep
    have hi : s.Occupied i := by rw [State.Occupied, hcaller, occupies]
    split at hstep
    · cases hstep
      exact h.keep (.waiting trivial) hi.symm
    · cases hstep
      generalize s.job i = job at hfits ⊢
      cases hfits
      exact h.leave .notStarted rfl hi
  | idle | waiting | ended answer =>
    rw [hcaller] at hstep
    cases hstep

/-- A job that works keeps the slot. -/
theorem Invariant.works (h : Invariant work s) (hstep : step work s (.work i) = some t) :
    Invariant work t := by
  rw [Slot.step] at hstep
  cases hjob : s.job i with
  | running =>
    rw [hjob] at hstep
    cases hstep
    have hfits := h.fits i
    rw [hjob] at hfits
    obtain ⟨-, -, hnext⟩ := hfits.goOn trivial
    refine h.keep (hnext (.worked _) rfl) ?_
    rw [hjob]
    cases s.caller i <;> rfl
  | absent | worked result | released result | reported result =>
    rw [hjob] at hstep
    cases hstep

/-- A job that has worked gives the slot back, whether or not its caller still waits. -/
theorem Invariant.release (h : Invariant work s) (hstep : step work s (.release i) = some t) :
    Invariant work t := by
  rw [Slot.step] at hstep
  cases hjob : s.job i with
  | worked result =>
    rw [hjob] at hstep
    cases hstep
    have hfits := h.fits i
    rw [hjob] at hfits
    obtain ⟨hof, hcaller, hnext⟩ := hfits.goOn trivial
    have hi : s.Occupied i := by
      rw [State.Occupied, hjob]
      cases s.caller i <;> rfl
    refine h.leave (hnext (.released result) hof) ?_ hi
    obtain hwaits | hgone := hcaller
    · rw [hwaits]
      rfl
    · rw [hgone]
      rfl
  | absent | running | released result | reported result =>
    rw [hjob] at hstep
    cases hstep

/-- A result is reported after the slot was given back. -/
theorem Invariant.report (h : Invariant work s) (hstep : step work s (.report i) = some t) :
    Invariant work t := by
  rw [Slot.step] at hstep
  cases hjob : s.job i with
  | released result =>
    rw [hjob] at hstep
    cases hstep
    have hfits := h.fits i
    rw [hjob] at hfits
    obtain ⟨hof, -, hnext⟩ := hfits.goOn trivial
    refine h.keep (hnext (.reported result) hof) ?_
    rw [hjob]
    cases s.caller i <;> rfl
  | absent | running | worked result | reported result =>
    rw [hjob] at hstep
    cases hstep

/-- A caller receives the result of its own job. -/
theorem Invariant.receive (h : Invariant work s) (hstep : step work s (.receive i) = some t) :
    Invariant work t := by
  rw [Slot.step] at hstep
  have hfits := h.fits i
  split at hstep
  · next result hcaller hjob =>
    cases hstep
    rw [hcaller, hjob] at hfits
    rw [hjob]
    cases hfits with
    | waiting of =>
      refine h.keep (.received of) ?_
      rw [hcaller, hjob]
      rfl
  · cases hstep

/-- A caller that gives up leaves its job where it is. -/
theorem Invariant.timeout (h : Invariant work s) (hstep : step work s (.timeout i) = some t) :
    Invariant work t := by
  rw [Slot.step] at hstep
  have hfits := h.fits i
  cases hcaller : s.caller i with
  | waiting =>
    rw [hcaller] at hstep hfits
    cases hstep
    cases hfits with
    | waiting of =>
      refine h.keep (.timedOut of) ?_
      rw [hcaller]
      cases s.job i <;> rfl
  | idle | entered | ended answer =>
    rw [hcaller] at hstep
    cases hstep

/-- **Step lemma.**  Every step keeps the invariant. -/
theorem Invariant.step (h : Invariant work s) {e : Event I} (hstep : step work s e = some t) :
    Invariant work t := by
  cases e with
  | enter i => exact h.enter hstep
  | spawn i started => exact h.spawn hstep
  | work i => exact h.works hstep
  | release i => exact h.release hstep
  | report i => exact h.report hstep
  | receive i => exact h.receive hstep
  | timeout i => exact h.timeout hstep

/-- **Run lemma.**  After every run one call has the slot if it is taken, and every answer fits its
job. -/
theorem invariant_of_run {ok : State I ρ → Event I → Prop} {events : List (Event I)}
    (run : Runs (step work) ok start events s) : Invariant work s :=
  run.invariant (Invariant work) (.start work) fun _ _ _ h _ hstep => h.step hstep

/-! ## Answers -/

/-- **Spec.**  A call is turned away exactly while another one has the slot. -/
theorem enter_busy_iff (h : Invariant work s) (hidle : s.caller i = .idle) :
    ∃ t, step work s (.enter i) = some t ∧
      (t.caller i = .ended .busy ↔ ∃ j, s.Occupied j) := by
  rw [step, hidle, ← h.taken]
  dsimp only
  cases htaken : s.taken with
  | true => exact ⟨_, rfl, iff_of_true (by simp [State.set]) rfl⟩
  | false => exact ⟨_, rfl, iff_of_false (by simp [State.set]) Bool.false_ne_true⟩

/-- **Inversion.**  A step is about one call: it does not take its answer back, and only begins it
if it enters. -/
theorem step_cases {e : Event I} (hstep : step work s e = some t) :
    ∃ taken caller job, t = s.set e.call taken caller job ∧
      (∀ answer, s.caller e.call = .ended answer → caller = .ended answer) ∧
      (s.caller e.call = .idle → caller = .idle ∨ e = .enter e.call) := by
  cases e with
  | enter i =>
    rw [step] at hstep
    split at hstep
    · next hcaller =>
      split at hstep
      · cases hstep
        exact ⟨_, _, _, rfl, fun _ h => (by cases hcaller.symm.trans h), fun _ => .inr rfl⟩
      · cases hstep
        exact ⟨_, _, _, rfl, fun _ h => (by cases hcaller.symm.trans h), fun _ => .inr rfl⟩
    · cases hstep
  | spawn i started =>
    rw [step] at hstep
    split at hstep
    · next hcaller =>
      split at hstep
      · cases hstep
        exact ⟨_, _, _, rfl, fun _ h => (by cases hcaller.symm.trans h),
          fun h => by cases hcaller.symm.trans h⟩
      · cases hstep
        exact ⟨_, _, _, rfl, fun _ h => (by cases hcaller.symm.trans h),
          fun h => by cases hcaller.symm.trans h⟩
    · cases hstep
  | work i | release i | report i =>
    rw [step] at hstep
    split at hstep
    · cases hstep
      exact ⟨_, _, _, rfl, fun _ h => h, .inl⟩
    · cases hstep
  | receive i =>
    rw [step] at hstep
    split at hstep
    · next hcaller _ =>
      cases hstep
      exact ⟨_, _, _, rfl, fun _ h => (by cases hcaller.symm.trans h),
        fun h => by cases hcaller.symm.trans h⟩
    · cases hstep
  | timeout i =>
    rw [step] at hstep
    split at hstep
    · next hcaller =>
      cases hstep
      exact ⟨_, _, _, rfl, fun _ h => (by cases hcaller.symm.trans h),
        fun h => by cases hcaller.symm.trans h⟩
    · cases hstep

/-- An answer is final. -/
theorem ended_of_run {ok : State I ρ → Event I → Prop} {events : List (Event I)}
    {answer : Answer ρ} (hended : s.caller i = .ended answer)
    (run : Runs (step work) ok s events t) : t.caller i = .ended answer := by
  refine run.invariant (fun t => t.caller i = .ended answer) hended fun t e u h _ hstep => ?_
  obtain ⟨taken, caller, job, rfl, hkeeps, -⟩ := step_cases hstep
  by_cases hi : i = e.call
  · subst hi
    simp [State.set, hkeeps answer h]
  · simp [State.set, hi, h]

/-- A call that was begun entered under the condition of the run. -/
theorem begun_of_run {P : I → Prop} {events : List (Event I)}
    (run : Runs (step work) (fun _ e => ∀ i, e = .enter i → P i) start events s)
    (hbegun : s.caller i ≠ .idle) : P i := by
  have hall : ∀ i, s.caller i ≠ .idle → P i := by
    refine run.invariant (fun s => ∀ i, s.caller i ≠ .idle → P i) (fun _ h => absurd rfl h)
      fun s e t h hok hstep i hbegun => ?_
    obtain ⟨taken, caller, job, rfl, -, hidle⟩ := step_cases hstep
    by_cases hi : i = e.call
    · subst hi
      by_cases hbefore : s.caller e.call = .idle
      · cases hidle hbefore with
        | inl hstill => exact absurd (by simp [State.set, hstill]) hbegun
        | inr henter => exact hok _ henter
      · exact h _ hbefore
    · exact h i (by simpa [State.set, hi] using hbegun)
  exact hall i hbegun

/-- A job that has worked gives the slot back. -/
theorem frees_worked {result : Option ρ} (hjob : s.job i = .worked result) :
    ∃ t, Runs (step work) Free s [.release i] t ∧ t.taken = false := by
  have hrelease : step work s (.release i) =
      some (s.set i false (s.caller i) (.released result)) := by
    rw [step, hjob]
  exact ⟨_, Runs.refl.tail trivial hrelease, rfl⟩

/-- A job that runs works, and gives the slot back. -/
theorem frees_running (hjob : s.job i = .running) :
    ∃ t, Runs (step work) Free s [.work i, .release i] t ∧ t.taken = false := by
  have hwork : step work s (.work i) = some (s.set i s.taken (s.caller i) (.worked (work i))) := by
    rw [step, hjob]
  have hworked : (s.set i s.taken (s.caller i) (.worked (work i))).job i = .worked (work i) := by
    simp [State.set]
  obtain ⟨t, hrelease, hfree⟩ := frees_worked hworked
  exact ⟨t, (Runs.refl.tail trivial hwork).append hrelease, hfree⟩

/-- The call that has the slot gives it back by itself, whether or not its thread is started if it
has none yet. -/
theorem frees_occupied (started : Bool) (hi : s.Occupied i) :
    ∃ events t, (∀ e ∈ events, e.call = i ∧ ∀ j b, e = .spawn j b → b = started) ∧
      Runs (step work) Free s events t ∧ t.taken = false := by
  by_cases hentered : s.caller i = .entered
  · cases started with
    | false =>
      have hstep : step work s (.spawn i false) =
          some (s.set i false (.ended .notStarted) (s.job i)) := by
        rw [step, hentered]
        rfl
      exact ⟨[.spawn i false], _, by simp [Event.call], Runs.refl.tail trivial hstep, rfl⟩
    | true =>
      have hstep : step work s (.spawn i true) = some (s.set i s.taken .waiting .running) := by
        rw [step, hentered]
        rfl
      have hrunning : (s.set i s.taken .waiting .running).job i = .running := by simp [State.set]
      obtain ⟨t, hruns, hfree⟩ := frees_running hrunning
      exact ⟨[.spawn i true, .work i, .release i], t, by simp [Event.call],
        (Runs.refl.tail trivial hstep).append hruns, hfree⟩
  · cases hjob : s.job i with
    | running =>
      obtain ⟨t, hruns, hfree⟩ := frees_running hjob
      exact ⟨[.work i, .release i], t, by simp [Event.call], hruns, hfree⟩
    | worked result =>
      obtain ⟨t, hruns, hfree⟩ := frees_worked hjob
      exact ⟨[.release i], t, by simp [Event.call], hruns, hfree⟩
    | absent | released result | reported result =>
      rw [State.Occupied, hjob] at hi
      cases hcaller : s.caller i with
      | entered => exact absurd hcaller hentered
      | idle | waiting | ended answer =>
        rw [hcaller] at hi
        cases hi

/-- **Progress.**  The slot is given back by the call that has it, whether or not its thread is
started. -/
theorem frees (h : Invariant work s) (started : Bool) :
    ∃ events t, (∀ e ∈ events, s.Occupied e.call ∧ ∀ j b, e = .spawn j b → b = started) ∧
      Runs (step work) Free s events t ∧ t.taken = false := by
  cases htaken : s.taken with
  | false => exact ⟨[], s, fun _ he => absurd he List.not_mem_nil, .refl, htaken⟩
  | true =>
    obtain ⟨i, hi⟩ := h.taken.mp htaken
    obtain ⟨events, t, honly, run, hfree⟩ := frees_occupied started hi
    exact ⟨events, t, fun e he => ⟨(honly e he).1 ▸ hi, (honly e he).2⟩, run, hfree⟩

end Slot
