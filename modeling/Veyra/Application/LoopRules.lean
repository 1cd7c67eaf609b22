import Veyra.Application.CallRules

/-!
# Veyra.Application.LoopRules

Every round of the worker and of the scheduler keeps the rules of
`Veyra.Application.ControllerRules`, as the calls do, and ends without guards.

A commit of the worker is saved with the write guard in hand (`wp_commits`):
what it selects, the worker may run, and after an activation it runs that or
nothing (`wp_settles`).

* `logic`, `holds_run` — what the rules keep holds in every order of the threads.
-/

namespace Veyra

open Check Threads Function

namespace Controller

variable {P Bytes Value ι α β ε : Type}

/-! ## The worker -/

/-- The worker has nothing waiting, is not behind, and is not through. -/
structure Working (g : Ghost) : Prop where
  clean : g.clean = true
  down : g.down = false
  final : g.final = false
  stopped : g.stopped = false
  lifecycle : g.lifecycle = none
  behind : g.behind = false

/-- The worker serves a request with the guard of the runtime, and has not looked yet. -/
structure Serving (g : Ghost) : Prop extends Working g, Gateless g where
  serving : g.serving = true
  runtime : g.owns .runtime = true
  selected : g.selected = none

/-- The runtime is in hand. -/
def Ghost.owning (g : Ghost) (r : SidecarRuntime P Bytes) : Ghost :=
  { g with lifecycle := some r.lifecycle }

/-- A candidate waits. -/
def Ghost.preparing (g : Ghost) (r : SidecarRuntime P Bytes) : Ghost :=
  { g.owning r with clean := false }

section Worker

variable {g : Ghost}

/-- A worker that works is clean and has not gone down. -/
theorem Working.eq (h : Working g) :
    ({ g with clean := true, down := false, lifecycle := none, behind := false } : Ghost) = g :=
  Ghost.ext rfl rfl rfl rfl rfl rfl h.clean.symm h.down.symm rfl rfl rfl rfl rfl h.lifecycle.symm rfl
    h.behind.symm

/-- It is not behind. -/
theorem Working.not_behind (h : Working g) {C : Prop} (hbehind : g.behind = true) : C := by
  rw [h.behind] at hbehind
  cases hbehind

/-- With the write guard it still serves. -/
theorem Serving.enter (h : Serving g) : Serving g.enter where
  toWorking := ⟨h.clean, h.down, h.final, h.stopped, h.lifecycle, h.behind⟩
  toGateless := (Ghost.enter_entered h.toGateless).toGateless
  serving := h.serving
  runtime := by
    rw [Ghost.enter, Ghost.take]
    dsimp only
    rw [update_of_ne (by simp), h.runtime]
  selected := h.selected

/-- A change that leaves the runtime alone. -/
theorem Neutral.notes {i : Thread ι} {f : ManagedRuntime P Bytes → α × ManagedRuntime P Bytes}
    (notes : Notes fun w => (f w).2) : Neutral i g (change f : Task P Bytes α) :=
  .bind (.note notes) fun _ => rfl

/-- The worker changes its memory, leaves nothing waiting, and runs what is selected or nothing. -/
theorem Neutral.work (h : Working g) {change : ManagedRuntime P Bytes → ManagedRuntime P Bytes}
    (ends : ∀ w, ManagedRuntime.Ends g.Picks w (change w)) :
    Neutral (.worker : Thread ι) g (touch change) := by
  intro w hcan
  exact ⟨{ g with clean := true, down := false, lifecycle := none, behind := false },
    .work h.final h.stopped (fun _ => (ends w).pending (hcan.1 h.clean)) nofun nofun (ends w).leaves
      h.not_behind (.inl rfl), h.eq⟩

/-- The runtime that an operation works on has no candidate yet. -/
theorem wp_ownRuntime (h : Working g) (created : Option P) :
    (change (·.ownRuntime created) : Task P Bytes (Option (SidecarRuntime P Bytes))).wp rules
      (.worker : Thread ι) g fun owned g' =>
        (owned = none → g' = g) ∧ ∀ r, owned = some r → g' = g.owning r ∧ r.candidate = none := by
  intro w hcan
  have hends : ManagedRuntime.Ends g.Picks w (w.ownRuntime created).2 := .ownRuntime _ w created
  have hpending := hends.pending (hcan.1 h.clean)
  cases howned : (w.ownRuntime created).1 with
  | none =>
    refine ⟨{ g with clean := true, down := false, lifecycle := none, behind := false },
      .work h.final h.stopped (fun _ => hpending) nofun nofun hends.leaves h.not_behind (.inl rfl),
      fun _ => h.eq, fun r hr => ?_⟩
    rw [howned] at hr
    cases hr
  | some r =>
    have hruntime := ManagedRuntime.runtime_ownRuntime howned
    refine ⟨{ g with clean := true, down := false, lifecycle := some r.lifecycle, behind := false },
      .work h.final h.stopped (fun _ => hpending) nofun (fun l hl => ?_) hends.leaves h.not_behind
        (.inl rfl), fun hnone => ?_, fun r' hr' => ?_⟩
    · cases hl
      exact ManagedRuntime.lifecycle_of_runtime hruntime
    · rw [howned] at hnone
      cases hnone
    · rw [howned] at hr'
      cases hr'
      exact ⟨congrArg (Ghost.owning · r) h.eq,
        (ManagedRuntime.pending_of_runtime hruntime).symm.trans hpending⟩

/-- The worker prepares a candidate, or has none. -/
theorem wp_prepares (h : Working g) {r : SidecarRuntime P Bytes}
    {f : ManagedRuntime P Bytes → Except ε (SidecarRuntime P Bytes) × ManagedRuntime P Bytes}
    (prepares : ∀ w, w.lifecycle = r.lifecycle → ManagedRuntime.Prepares w (f w)) :
    (change f : Task P Bytes _).wp rules (.worker : Thread ι) (g.owning r) fun begun g' =>
      (∀ e, begun = .error e → g' = g) ∧
        ∀ r', begun = .ok r' → g' = g.preparing r' ∧ r'.candidate.isSome := by
  intro w hcan
  have hprepares := prepares w (hcan.2 _ rfl)
  cases hbegun : (f w).1 with
  | error e =>
    have hends := hprepares.error e hbegun
    refine ⟨{ g with clean := true, down := false, lifecycle := none, behind := false },
      .work h.final h.stopped (fun _ => hends.pending (hcan.1 h.clean)) nofun nofun
        (hends.leaves.mono fun _ _ => False.elim) h.not_behind (.inl rfl), fun _ _ => h.eq,
      fun r' hr' => ?_⟩
    rw [hbegun] at hr'
    cases hr'
  | ok prepared =>
    refine ⟨{ g with
        clean := false, down := false, lifecycle := some prepared.lifecycle, behind := false },
      .work h.final h.stopped nofun nofun (fun l hl => ?_) (hprepares.unmoved _ hbegun).leaves
        h.not_behind (.inl rfl), fun e he => ?_, fun r' hr' => ?_⟩
    · cases hl
      exact hprepares.lifecycle _ hbegun
    · rw [hbegun] at he
      cases he
    · rw [hbegun] at hr'
      cases hr'
      exact ⟨congrArg (Ghost.preparing · prepared) h.eq, hprepares.candidate _ hbegun⟩

/-- The candidate is withdrawn, or it runs if it was selected; nobody is behind any more. -/
theorem wp_settles (h : Working g) (hselected : g.selected = none) {r : SidecarRuntime P Bytes}
    {selected : Option (SubscriptionId × UInt64)} {behind : Bool}
    {f : ManagedRuntime P Bytes → α × ManagedRuntime P Bytes} (pending : ∀ w, (f w).2.pending = none)
    (ends : ∀ w, w.lifecycle = r.lifecycle →
      ManagedRuntime.Ends ({ g with selected } : Ghost).Picks w (f w).2)
    (renews : behind = true → ∀ w, (f w).2.Renews ({ g with selected } : Ghost).Picks) :
    (change f : Task P Bytes α).wp rules (.worker : Thread ι) { g.preparing r with selected, behind }
      fun _ g' => g' = g := by
  intro w hcan
  refine ⟨{ g with
      clean := true, down := false, lifecycle := none, selected := none, behind := false },
    .work h.final h.stopped (fun _ => pending w) nofun nofun (ends w (hcan.2 _ rfl)).leaves
      (fun hbehind => renews hbehind w) (.inr rfl), ?_⟩
  exact Ghost.ext rfl rfl rfl rfl rfl rfl h.clean.symm h.down.symm rfl rfl rfl hselected.symm rfl
    h.lifecycle.symm rfl h.behind.symm

/-! ### Commits -/

/-- How a commit of the worker ends: with what the state selects then, if it goes well. -/
inductive Committed (decide : Answers → Option AppState → Except ε (Option AppState × α))
    (moves : Bool) (g : Ghost) : Except ε α → Ghost → Prop
  | failed (e : ε) (selected : Option (SubscriptionId × UInt64)) :
      Committed decide moves g (.error e) { g with selected }
  | kept {w : Answers} {s : AppState} {a : α} (decided : decide w (some s) = .ok (none, a)) :
      Committed decide moves g (.ok a) { g with selected := s.selection }
  | saved {w : Answers} {s next : AppState} {a : α}
      (decided : decide w (some s) = .ok (some next, a)) :
      Committed decide moves g (.ok a) { g with selected := next.selection, behind := moves }

/-- **The rule of commits.** -/
theorem wp_commits {answers : Task P Bytes Answers} {writer : Writer} {errors : StateErrors ε}
    {look : Look} {decide : Answers → Option AppState → Except ε (Option AppState × α)} {moves : Bool}
    (hanswers : ∀ g, Neutral (.worker : Thread ι) g answers) (hgate : Gateless g)
    (notFinal : g.final = false) (writes : g.owns .writes = true) (serving : g.serving = true)
    (loaded : ∀ {w save a}, decide w none ≠ .ok (save, a))
    (saves : ∀ {w s next a}, decide w (some s) = .ok (some next, a) → Grows (some s) next ∧
      (moves = false → g.behind = false ∧ Onward (some s) next)) :
    (ofProgram answers writer (Veyra.decideUnderGate errors look decide).run).wp rules
      (.worker : Thread ι) g (Committed decide moves g) := by
  have hallowed : MayWrite (.worker : Thread ι) g := .inr (.inl ⟨rfl, notFinal⟩)
  rw [Veyra.decideUnderGate, ExceptT.run_mk]
  refine wp_underGate hanswers hgate (fun e => .failed _ g.selected) (.inl hallowed)
    ⟨g, none, rfl, hgate, .failed _ g.selected⟩ fun current => ?_
  cases current with
  | none =>
    refine ⟨g.looking (some none), .load (Ghost.looking_owns _) (.inl (hallowed.looking _)),
      wp_then (hanswers _) ?_⟩
    rintro w g' rfl
    beta_reduce
    cases hdecided : decide w none with
    | error e => exact ⟨g, _, rfl, hgate, .failed e g.selected⟩
    | ok decided => exact absurd hdecided loaded
  | some s =>
    have howned : (g.looking none).owns .gate = true := Ghost.looking_owns none
    have hwrites : (g.looking none).owns .writes = true := by
      simpa [Ghost.looking, Ghost.take] using writes
    have hfree : ∀ selected behind, Gateless { g with selected, behind } := fun _ _ =>
      ⟨hgate.gate, hgate.seen⟩
    refine ⟨_, .hold howned (hallowed.looking _) hwrites, wp_then (hanswers _) ?_⟩
    rintro w g' rfl
    beta_reduce
    cases hdecided : decide w (some s) with
    | error e => exact ⟨{ g with selected := s.selection }, _, rfl, hfree _ _, .failed e _⟩
    | ok decided =>
      obtain ⟨save, a⟩ := decided
      cases save with
      | none => exact ⟨{ g with selected := s.selection }, _, rfl, hfree _ _, .kept hdecided⟩
      | some next =>
        obtain ⟨hgrows, honward⟩ := saves hdecided
        intro saved _
        cases saved with
        | false =>
          exact ⟨_, .unsaved, { g with selected := s.selection }, none, rfl, hfree _ _, .failed _ _⟩
        | true =>
          exact ⟨_, .select howned rfl notFinal hwrites serving hgrows honward,
            { g with selected := next.selection, behind := moves }, none, rfl, hfree _ _,
            .saved hdecided⟩

/-- With the guard of the runtime, the worker may run what its state selects. -/
theorem Ghost.picks_of_project (owned : g.owns .runtime = true) {s : AppState}
    {p : SelectedRuntimeProjection} (h : projectSelectedRuntime s = .ok p) {id : String}
    {generation : UInt64} (hselects : ManagedRuntime.Selects p id generation) :
    ({ g with selected := s.selection } : Ghost).Picks id generation := by
  obtain ⟨rfl, rfl⟩ := hselects
  exact ⟨owned, _, rfl, selection_of_project h⟩

section Requests

variable {env : ControllerEnv P Bytes Value}

/-- A preparation is withdrawn. -/
theorem wp_cancelThen (h : Serving g) (r : SidecarRuntime P Bytes)
    (selected : Option (SubscriptionId × UInt64)) (operationId : String)
    {next : ManagedRuntime P Bytes → ActivationResult × ManagedRuntime P Bytes}
    (hnext : Notes fun w => (next w).2) :
    (change (·.cancelThen env.runtime.port r operationId next) : Task P Bytes ActivationResult).wp rules
      (.worker : Thread ι) { g.preparing r with selected } fun _ g' => g' = g :=
  wp_settles h.toWorking h.selected (fun _ => ManagedRuntime.pending_cancelThen fun w => (hnext w).2)
    (fun w hw => .cancelThen (.refl w) hw operationId hnext) fun hbehind => h.not_behind hbehind

/-- The candidate of an activation that was saved runs, or nothing does. -/
theorem wp_replaceInstance (h : Serving g) {r : SidecarRuntime P Bytes}
    (hcandidate : r.candidate.isSome) {request : ActivationRequest Bytes}
    (hprojection : projectSelectedRuntime request.plan.candidate = .ok request.plan.projection)
    (behind : Bool) :
    (change (·.replaceInstance env.runtime.port r request) : Task P Bytes ActivationResult).wp rules
      (.worker : Thread ι)
      { g.preparing r with selected := request.plan.candidate.selection, behind }
      fun _ g' => g' = g :=
  wp_settles h.toWorking h.selected (fun _ => ManagedRuntime.pending_replaceInstance hcandidate)
    (fun w _ => (ManagedRuntime.Ends.replaceInstance (.refl w) hcandidate).mono
      fun _ _ => Ghost.picks_of_project h.runtime hprojection)
    fun _ _ => (ManagedRuntime.Renews.replaceInstance hcandidate).mono
      fun _ _ => Ghost.picks_of_project h.runtime hprojection

/-- An activation selects its candidate, which it then has to run, or leaves all as it was. -/
theorem wp_commitActivation (h : Serving g) (writes : g.owns .writes = true)
    (r : SidecarRuntime P Bytes) {request : ActivationRequest Bytes}
    (planned : (WorkerRequest.activate request).Planned) :
    (ofProgram activationAnswers .activating
      (decideUnderGate activationErrors .commit (decideActivation request.plan)).run :
        Task P Bytes (Except ActivationError Bool)).wp rules (.worker : Thread ι) (g.preparing r)
      fun persisted g' => ∃ selected behind, g' = { g.preparing r with selected, behind } ∧
        (persisted = .ok true → selected = request.plan.candidate.selection) ∧
        (persisted ≠ .ok true → behind = g.behind) := by
  obtain ⟨id, force, generation, hplan⟩ := planned
  have hcommits : (ofProgram activationAnswers .activating
      (decideUnderGate activationErrors .commit (decideActivation request.plan)).run :
        Task P Bytes (Except ActivationError Bool)).wp rules (.worker : Thread ι) (g.preparing r)
        (Committed (decideActivation request.plan) true (g.preparing r)) := by
    refine wp_commits (fun _ => .activationAnswers) ⟨h.gate, h.seen⟩ h.final writes h.serving ?_ ?_
    · intro _ _ _ hdecided
      cases (decideActivation_cases hdecided).1
    · intro _ _ next _ hdecided
      obtain ⟨hexpected, hsaved, -⟩ := decideActivation_cases hdecided
      rw [hexpected, (hsaved next rfl).1]
      exact ⟨grows_planActivation hplan, nofun⟩
  refine Code.wp_mono (fun persisted g' hcommitted => ?_) hcommits
  cases hcommitted with
  | failed e selected => exact ⟨selected, g.behind, rfl, nofun, fun _ => rfl⟩
  | @kept _ s goesOn hdecided =>
    obtain ⟨hexpected, -, hkept⟩ := decideActivation_cases hdecided
    refine ⟨s.selection, g.behind, rfl, fun hgoes => ?_, fun _ => rfl⟩
    rw [hkept rfl (Except.ok.inj hgoes), Option.some.inj hexpected]
  | @saved _ s next goesOn hdecided =>
    obtain ⟨rfl, rfl⟩ := (decideActivation_cases hdecided).2.1 next rfl
    exact ⟨_, true, rfl, fun _ => rfl, fun hnot => absurd rfl hnot⟩

/-- An activation gives the gate back, and leaves no preparation behind. -/
theorem wp_applyActivation (h : Serving g) (writes : g.owns .writes = true)
    {r : SidecarRuntime P Bytes} (hr : r.candidate = none) {request : ActivationRequest Bytes}
    (planned : (WorkerRequest.activate request).Planned) :
    (applyActivation env r request).wp rules (.worker : Thread ι) (g.owning r)
      fun _ g' => g' = g := by
  obtain ⟨id, force, generation, hplan⟩ := planned
  obtain ⟨-, -, hprojection, -⟩ := planActivation_ok hplan
  have hpending : Notes fun w : ManagedRuntime P Bytes =>
      (ManagedRuntime.pendingActivation request.operationId w).2 := fun w =>
    ⟨(ManagedRuntime.Unmoved.refl w).switchPhase _ _ _, rfl⟩
  have hfailed : ∀ e, Notes fun w : ManagedRuntime P Bytes =>
      (ManagedRuntime.failedCommit request.operationId e w).2 := fun e w =>
    ⟨((ManagedRuntime.Unmoved.refl w).failure _).switchPhase _ _ _, rfl⟩
  rw [Controller.applyActivation]
  refine wp_then (wp_prepares h.toWorking fun w hw => .beginActivation hw hr) ?_
  rintro begun g' ⟨herror, hok⟩
  cases begun with
  | error result =>
    rw [herror result rfl]
    exact rfl
  | ok r' =>
    obtain ⟨rfl, hcandidate⟩ := hok r' rfl
    refine wp_next Neutral.ask fun told => wp_next (Neutral.read _) fun requested => ?_
    split
    · exact wp_cancelThen h r' g.selected _ hpending
    · refine wp_then (wp_commitActivation h writes r' ⟨id, force, generation, hplan⟩) ?_
      rintro persisted g' ⟨selected, behind, rfl, hselected, hkept⟩
      rcases persisted with e | ⟨goesOn⟩
      · rw [hkept nofun]
        exact wp_cancelThen h r' selected _ (hfailed e)
      · cases goesOn with
        | false =>
          rw [hkept (by simp)]
          exact wp_cancelThen h r' selected _ hpending
        | true =>
          rw [hselected rfl]
          exact wp_replaceInstance h hcandidate hprojection behind

/-- Settling an activation leaves the child, and what is shown of it, as it is. -/
theorem notes_settleActivation (p : SelectedRuntimeProjection) (result : ActivationResult) :
    Notes fun w : ManagedRuntime P Bytes =>
      (ManagedRuntime.settleActivation p (result, w)).2 := by
  intro w
  have hsame : (ManagedRuntime.settleActivation p (result, w)).2.runtime = w.runtime ∧
      (ManagedRuntime.settleActivation p (result, w)).2.observations = w.observations := by
    cases result with
    | activated | reactivated => exact ⟨rfl, rfl⟩
    | alreadyCurrent | pending | error =>
      rw [ManagedRuntime.settleActivation.eq_def]
      dsimp only
      split <;> exact ⟨rfl, rfl⟩
  exact ⟨.of_same hsame.1 hsame.2, hsame.1⟩

/-- A phase of a switch is only shown. -/
theorem notes_switchPhase (operationId : String) (status : SubscriptionSwitchStatus)
    (code : Option SubscriptionSwitchErrorCode) :
    Notes fun w : ManagedRuntime P Bytes => w.switchPhase operationId status code :=
  fun w => ⟨(ManagedRuntime.Unmoved.refl w).switchPhase _ _ _, rfl⟩

/-- The worker gives back the guards that came with an activation. -/
theorem Finishes.serveActivation (h : Serving g) {request : ActivationRequest Bytes}
    (howns : ∀ lock, (WorkerRequest.activate request).guards lock = true → g.owns lock = true)
    (planned : (WorkerRequest.activate request).Planned) :
    Finishes (.worker : Thread ι) g (g.give (.activate request)) (serveActivation env request) := by
  have hwrites : g.owns .writes = true := howns .writes (by simp [WorkerRequest.guards])
  rw [Controller.serveActivation]
  refine .bind (.note (notes_switchPhase _ _ _)) fun _ => .bind .ask fun told => ?_
  refine wp_then (wp_ownRuntime h.toWorking told.created) ?_
  rintro owned g' ⟨hnone, hsome⟩
  cases owned with
  | none =>
    rw [hnone rfl]
    exact Finishes.bind (.note (notes_switchPhase _ _ _)) fun _ =>
      .next (wp_dropGuards howns) fun _ => .done
  | some r =>
    obtain ⟨rfl, hcandidate⟩ := hsome r rfl
    refine Finishes.next (h := fun _ => g) (wp_applyActivation h hwrites hcandidate planned)
      fun result => .next (wp_dropGuards howns) fun _ =>
        .bind (.note (notes_settleActivation _ _)) fun _ => .done

/-! ### Documents -/

/-- A document that is committed selects what its state does. -/
theorem wp_commitDocument {prepared : PreparedDocumentSave} (hsound : prepared.Sound)
    (hgate : Gateless g) (notFinal : g.final = false) (writes : g.owns .writes = true)
    (serving : g.serving = true) (settled : g.behind = false) :
    (commitDocument prepared : Task P Bytes _).wp rules (.worker : Thread ι) g fun committed g' =>
      ∃ selected, g' = { g with selected } ∧
        ∀ x, committed = .ok x → selected = prepared.next.selection := by
  have hcommits : (commitDocument prepared : Task P Bytes _).wp rules (.worker : Thread ι) g
      (Committed (SubscriptionManager.decideDocument prepared) false g) := by
    rw [commitDocument, run]
    refine wp_commits (fun _ => .managerAnswers) hgate notFinal writes serving ?_ ?_
    · intro _ _ _ hdecided
      cases (SubscriptionManager.decideDocument_cases hdecided).1
    · intro _ _ next _ hdecided
      obtain ⟨hbefore, hsaved, -⟩ := SubscriptionManager.decideDocument_cases hdecided
      rw [hbefore, hsaved next rfl]
      exact ⟨hsound.onward.toGrows, fun _ => ⟨settled, hsound.onward⟩⟩
  refine Code.wp_mono (fun committed g' hcommitted => ?_) hcommits
  cases hcommitted with
  | failed e selected => exact ⟨selected, rfl, fun x hx => by cases hx⟩
  | @kept _ s a hdecided =>
    obtain ⟨hbefore, -, hsame⟩ := SubscriptionManager.decideDocument_cases hdecided
    refine ⟨s.selection, rfl, fun x _ => ?_⟩
    rw [hsound.unchanged (hsame rfl), Option.some.inj hbefore]
  | @saved _ s next a hdecided =>
    obtain ⟨-, hsaved, -⟩ := SubscriptionManager.decideDocument_cases hdecided
    refine ⟨next.selection, ?_, fun x _ => by rw [hsaved next rfl]⟩
    exact Ghost.ext rfl rfl rfl rfl rfl rfl rfl rfl rfl rfl rfl rfl rfl rfl rfl settled.symm

/-- A prepared document is committed or undone. -/
theorem wp_concludeDocument (h : Serving g) (writes : g.owns .writes = true)
    {r : SidecarRuntime P Bytes} (hr : r.candidate.isSome) (operationId : String)
    {p : SelectedRuntimeProjection} {prepared : PreparedDocumentSave} (hsound : prepared.Sound)
    (hprojected : projectSelectedRuntime prepared.next = .ok p) :
    (concludeDocument env r operationId p prepared).wp rules (.worker : Thread ι) (g.preparing r)
      fun _ g' => g' = g := by
  have hcancels : ∀ selected error, (change (·.cancelDocument env.runtime.port r operationId error) :
      Task P Bytes DocumentSaveResult).wp rules (.worker : Thread ι) { g.preparing r with selected }
        fun _ g' => g' = g := fun selected error =>
    wp_settles h.toWorking h.selected (fun w => ManagedRuntime.pending_cancelDocument)
      (fun w hw => .cancelDocument (.refl w) hw operationId error)
      fun hbehind => h.not_behind hbehind
  rw [concludeDocument]
  refine wp_next Neutral.ask fun told => wp_next (Neutral.read _) fun requested => ?_
  split
  · exact wp_next (Neutral.read _) fun requested => hcancels g.selected _
  · refine wp_then (wp_commitDocument (g := g.preparing r) hsound ⟨h.gate, h.seen⟩ h.final writes
      h.serving h.behind) ?_
    rintro committed g' ⟨selected, rfl, hselected⟩
    cases committed with
    | error e => exact hcancels selected _
    | ok x =>
      rw [hselected x rfl]
      have hgeneration : { p with
          selectedGeneration := prepared.next.activeConfigurationGeneration } = p := by
        rw [← (projectSelectedRuntime_ok hprojected).2.2.1]
      refine wp_next Neutral.ask fun told => wp_next (h := fun _ => g) (wp_settles h.toWorking
        h.selected (fun w => ManagedRuntime.pending_replaceDocument hr) (fun w hw => ?_)
        fun hbehind => h.not_behind hbehind) fun _ => rfl
      refine (ManagedRuntime.Ends.replaceDocument (.refl w) hw hr operationId prepared.next _).mono
        fun id generation htuple => ?_
      rw [ManagedRuntime.SavedTuple, hgeneration] at htuple
      exact Ghost.picks_of_project h.runtime hprojected htuple

/-- Phases of a switch are only shown. -/
theorem notes_switchPhases (operationId : String) (statuses : List SubscriptionSwitchStatus) :
    Notes fun w : ManagedRuntime P Bytes => w.switchPhases operationId statuses := by
  induction statuses with
  | nil => exact .look
  | cons status statuses ih =>
    intro w
    have hphase := notes_switchPhase operationId status none w
    have hrest := ih (w.switchPhase operationId status none)
    exact ⟨hphase.1.trans hrest.1, hrest.2.trans hphase.2⟩

/-- A document with a new configuration leaves no preparation behind. -/
theorem Neutral.switchDocument [DecidableEq Value] (h : Serving g) (writes : g.owns .writes = true)
    (operationId : String) {prepared : PreparedDocumentSave} (hsound : prepared.Sound) :
    Neutral (.worker : Thread ι) g (switchDocument env operationId prepared) := by
  have hfailed : Neutral (.worker : Thread ι) g
      (change (·.failedDocumentSwitch operationId .configurationFailed) :
        Task P Bytes DocumentSaveResult) := .notes (notes_switchPhase _ _ _)
  rw [Controller.switchDocument]
  refine .bind (.note (notes_switchPhases _ _)) fun _ => ?_
  split
  · exact hfailed
  · next p hprojected =>
    refine .bind .ask fun told => ?_
    split
    · exact hfailed
    · refine wp_then (wp_ownRuntime h.toWorking told.created) ?_
      rintro owned g' ⟨hnone, hsome⟩
      cases owned with
      | none =>
        rw [hnone rfl]
        exact hfailed
      | some r =>
        obtain ⟨rfl, hcandidate⟩ := hsome r rfl
        refine wp_then (wp_prepares h.toWorking fun w hw => .beginDocument hw hcandidate) ?_
        rintro begun g'' ⟨herror, hok⟩
        cases begun with
        | error result =>
          rw [herror result rfl]
          exact rfl
        | ok r' =>
          obtain ⟨rfl, hprepared⟩ := hok r' rfl
          exact wp_concludeDocument h writes hprepared operationId hsound hprojected

/-- A prepared save does not either. -/
theorem wp_savePrepared [DecidableEq Value] (h : Serving g) (writes : g.owns .writes = true)
    (id operationId : String) {prepared : PreparedDocumentSave} (hsound : prepared.Sound) :
    (savePrepared env id operationId prepared).wp rules (.worker : Thread ι) g
      fun _ g' => ∃ selected, g' = { g with selected } := by
  rw [Controller.savePrepared]
  refine wp_next Neutral.ask fun told => ?_
  split
  · exact ⟨g.selected, rfl⟩
  · refine wp_next (Neutral.note .look) fun w => ?_
    dsimp only
    split
    · refine wp_then (wp_commitDocument hsound h.toGateless h.final writes h.serving h.behind) ?_
      rintro committed g' ⟨selected, rfl, -⟩
      cases committed <;> exact ⟨selected, rfl⟩
    · exact Code.wp_mono (fun _ _ hg => ⟨g.selected, hg⟩)
        (Neutral.switchDocument h writes operationId hsound)

/-- Nor does a save as a whole. -/
theorem Neutral.applyDocumentSave [DecidableEq Value] (h : Serving g)
    (hwrites : g.owns .writes = false) (hentered : g.entered = false) (input : DocumentSaveInput)
    (operationId : String) :
    Neutral (.worker : Thread ι) g (applyDocumentSave env input operationId) := by
  have howned : g.enter.owns .writes = true := Ghost.take_owns (g := g) .writes
  have hunlock : ∀ (result : DocumentSaveResult) selected,
      (do unlock .writes; pure result : Task P Bytes DocumentSaveResult).wp rules
        (.worker : Thread ι) { g.enter with selected } fun _ g' => g' = g :=
    fun result selected => wp_next (h := fun _ => g)
      (wp_unlock howned (Ghost.release_enter hwrites hentered h.selected selected)) fun _ => rfl
  rw [Controller.applyDocumentSave]
  refine .bind .ask fun told => ?_
  split
  · exact rfl
  · refine wp_next (wp_beginWriteOwned hwrites hentered h.selected) fun begun => ?_
    cases begun with
    | false => exact rfl
    | true =>
      refine wp_next (Keeps.captures (fun _ => .managerAnswers) h.enter.toGateless
        (.inl rfl)).neutral fun before => ?_
      split
      · exact hunlock _ g.enter.selected
      · next prepared hprepared =>
        obtain ⟨state, -, hsave⟩ := ok_bind.mp hprepared
        refine wp_then (wp_savePrepared h.enter howned input.id operationId
          (sound_documentSaveOn hsave)) ?_
        rintro result g' ⟨selected, rfl⟩
        exact hunlock result selected

/-- Settling a save leaves the child, and what is shown of it, as it is. -/
theorem notes_settleDocument (reloaded : Except LoadRuntimeIntentError AppState)
    (result : DocumentSaveResult) :
    Notes fun w : ManagedRuntime P Bytes =>
      (ManagedRuntime.settleDocument reloaded (result, w)).2 := by
  intro w
  have hsame : (ManagedRuntime.settleDocument reloaded (result, w)).2.runtime = w.runtime ∧
      (ManagedRuntime.settleDocument reloaded (result, w)).2.observations = w.observations := by
    rw [ManagedRuntime.settleDocument.eq_def]
    rcases result with ⟨_, _ | _ | _⟩ | _ <;> dsimp only <;> split <;> exact ⟨rfl, rfl⟩
  exact ⟨.of_same hsame.1 hsame.2, hsame.1⟩

/-- The worker gives back the guards that came with a save. -/
theorem Finishes.serveDocument [DecidableEq Value] (h : Serving g)
    (hwrites : g.owns .writes = false) (hentered : g.entered = false)
    {input : DocumentSaveInput} {operationId : String}
    (howns : ∀ lock, (WorkerRequest.saveDocument input operationId :
      WorkerRequest Bytes).guards lock = true → g.owns lock = true) :
    Finishes (.worker : Thread ι) g
      (g.give (.saveDocument input operationId : WorkerRequest Bytes))
      (serveDocument env input operationId) := by
  rw [Controller.serveDocument]
  refine .bind (.applyDocumentSave h hwrites hentered input operationId) fun result => ?_
  split
  · exact .bind (Keeps.captures (fun _ => .managerAnswers) h.toGateless
      (.inr (.inl ⟨rfl, h.final⟩))).neutral fun reloaded =>
      .bind (.note (notes_settleDocument _ _)) fun _ => .next (wp_dropGuards howns) fun _ => .done
  · exact .bind (.note (notes_settleDocument _ _)) fun _ =>
      .next (wp_dropGuards howns) fun _ => .done

/-! ### The rounds -/

/-- The worker after a request: it is not behind, and goes on, or it is through and has no guards. -/
def WorkerRest (outcome : Outcome) (g : Ghost) : Prop :=
  Idle g ∧ g.behind = false ∧ (outcome = .finished → Working g)

/-- A request that is served leaves the worker at rest. -/
theorem Finishes.workerRest {last : Ghost} {p : Task P Bytes Outcome}
    (h : Finishes (.worker : Thread ι) g last p) (hidle : Idle last) (hworking : Working last) :
    p.wp rules (.worker : Thread ι) g WorkerRest := by
  refine Code.wp_mono ?_ h
  rintro outcome last' ⟨-, rfl⟩
  exact ⟨hidle, hworking.behind, fun _ => hworking⟩

/-- A stop that succeeds leaves nothing running. -/
def Ghost.stops (g : Ghost) (complete : Bool) : Ghost :=
  { g with clean := true, down := complete, lifecycle := none, behind := false }

/-- A stop that goes well leaves no child. -/
theorem wp_runStop (h : Working g) :
    (change (·.runStop env.runtime.port) : Task P Bytes ManagedRuntimeStopResult).wp rules
      (.worker : Thread ι) g fun result g' =>
        g' = g.stops (result = .stopped || result = .alreadyStopped) := by
  intro w hcan
  obtain ⟨hpending, hstopped⟩ :
      (w.runStop env.runtime.port).2.pending = none ∧ _ :=
    ManagedRuntime.pending_runStop (hcan.1 h.clean)
  have hends : ManagedRuntime.Ends g.Picks w (w.runStop env.runtime.port).2 := .runStop _ w
  refine ⟨g.stops _, .work h.final h.stopped (fun _ => hpending) (fun hdown => hstopped ?_) nofun
    hends.leaves h.not_behind (.inl rfl), rfl⟩
  simpa using hdown

/-- The end of the worker: what it has stopped stays so. -/
theorem wp_serveShutdown (hidle : Idle g) (h : Working g) (quiet : g.quiet = true)
    (response : Nat) :
    (serveShutdown env response).wp rules (.worker : Thread ι) g WorkerRest := by
  rw [serveShutdown]
  refine wp_next (wp_runStop h) fun result => ?_
  dsimp only
  generalize (decide (result = .stopped) || decide (result = .alreadyStopped)) = complete
  cases complete with
  | true =>
    refine wp_next (h := fun _ => { g.stops true with final := true })
      (fun _ _ => ⟨_, .complete quiet rfl rfl, rfl⟩) fun _ => ?_
    refine wp_next (h := fun _ => { g.stops true with final := true })
      (fun _ _ => ⟨_, .respond fun _ => rfl, rfl⟩) fun _ => ?_
    exact wp_next (h := fun _ => { g.stops true with final := true })
      (fun _ _ => ⟨_, .hangUp, rfl⟩) fun _ =>
        ⟨⟨hidle.owns, hidle.entered, hidle.seen, hidle.selected, hidle.stopped⟩, rfl, nofun⟩
  | false =>
    have hstops : g.stops false = g := h.eq
    rw [hstops]
    refine wp_next (h := fun _ => g) (fun _ _ => ⟨_, .incomplete h.final, rfl⟩) fun _ => ?_
    exact wp_next (h := fun _ => g) (fun _ _ => ⟨_, .respond nofun, rfl⟩) fun _ =>
      ⟨hidle, h.behind, fun _ => h⟩

/-- A worker that works does so with a request. -/
theorem Working.receive (h : Working g) (hidle : Idle g) (request : WorkerRequest Bytes) :
    Working (g.receive request) :=
  ⟨h.clean, h.down, h.final, hidle.stopped, h.lifecycle, h.behind⟩

/-- A request that carries the guard of the runtime, and intends nothing, is served with it. -/
theorem Working.serving (h : Working g) (hidle : Idle g) {request : WorkerRequest Bytes}
    (hruntime : request.guards .runtime = true) (hintends : request.intends = none) :
    Serving (g.receive request) where
  toWorking := h.receive hidle request
  gate := by
    have hnone : request.guards .gate = false := by
      rw [guards_split request]
      simp
    simp [Ghost.receive, hidle.owns, hnone]
  seen := hidle.seen
  serving := rfl
  runtime := by simp [Ghost.receive, hruntime]
  selected := hintends

/-- What a start is to run, the worker may run. -/
theorem Ghost.picks_of_receive {intent : SelectedRuntimeProjection} {id : String}
    {generation : UInt64} (hselects : ManagedRuntime.Selects intent id generation) :
    (g.receive (.start intent : WorkerRequest Bytes)).Picks id generation := by
  obtain ⟨rfl, rfl⟩ := hselects
  exact ⟨by simp [Ghost.receive, WorkerRequest.guards], _, rfl, rfl⟩

/-- The arms of `worker_loop`: the guards that came with the request are gone. -/
theorem wp_serveRequest [DecidableEq Value] (hidle : Idle g) (h : Working g)
    {request : WorkerRequest Bytes} (planned : request.Planned) :
    (serveRequest env request).wp rules (.worker : Thread ι) (g.receive request) WorkerRest := by
  have hworking := h.receive hidle request
  have howns : ∀ lock, request.guards lock = true → (g.receive request).owns lock = true :=
    fun lock hlock => by simp [Ghost.receive, hlock]
  have hlast : Idle ((g.receive request).give request) ∧
      Working ((g.receive request).give request) := by
    rw [Ghost.give_receive hidle (rfl : request.guards = request.guards)]
    exact ⟨⟨hidle.owns, hidle.entered, hidle.seen, hidle.selected, hidle.stopped⟩,
      ⟨h.clean, h.down, h.final, h.stopped, h.lifecycle, h.behind⟩⟩
  have hdropped : Finishes (.worker : Thread ι) (g.receive request) ((g.receive request).give request)
      (do dropGuards request; pure .finished : Task P Bytes Outcome) :=
    .next (wp_dropGuards howns) fun _ => .done
  cases request with
  | start intent =>
    refine Finishes.workerRest (.bind (.read _) fun requested => .bind .ask fun told =>
      .bind (.work hworking fun w => ?_) fun _ => .bind .answered fun _ => hdropped) hlast.1 hlast.2
    exact (ManagedRuntime.Ends.runStart env.runtime w intent _ _ _).mono
      fun _ _ => Ghost.picks_of_receive
  | stop subscription =>
    exact Finishes.workerRest (.bind (.work hworking fun w => .runStop _ w) fun _ =>
      .bind .answered fun _ => hdropped) hlast.1 hlast.2
  | activate request =>
    have hserving : Serving (g.receive (.activate request)) := h.serving hidle rfl rfl
    exact Finishes.workerRest (.serveActivation hserving howns planned) hlast.1 hlast.2
  | reconcileManualSelection poolId nodeId =>
    refine Finishes.workerRest (.bind .ask fun told => .bind (.note fun w => ?_) fun _ => hdropped)
      hlast.1 hlast.2
    obtain ⟨hruntime, hobservations⟩ :=
      ManagedRuntime.reconcileManualSelection_keeps w poolId nodeId told.selector
    exact ⟨.of_same hruntime hobservations, hruntime⟩
  | readRunningConfiguration => exact Finishes.workerRest hdropped hlast.1 hlast.2
  | saveDocument input operationId =>
    have hserving : Serving (g.receive (.saveDocument input operationId : WorkerRequest Bytes)) :=
      h.serving hidle rfl rfl
    have hwrites : (g.receive (.saveDocument input operationId : WorkerRequest Bytes)).owns .writes =
        false := by simp [Ghost.receive, WorkerRequest.guards, hidle.owns]
    have hentered : (g.receive (.saveDocument input operationId : WorkerRequest Bytes)).entered =
        false := by simp [Ghost.receive, WorkerRequest.guards, hidle.entered]
    exact Finishes.workerRest (.serveDocument hserving hwrites hentered howns) hlast.1 hlast.2
  | shutdown response =>
    have hfree : Idle (g.receive (.shutdown response : WorkerRequest Bytes)) :=
      ⟨by simp [Ghost.receive, WorkerRequest.guards, hidle.owns],
        by simp [Ghost.receive, WorkerRequest.guards, hidle.entered], hidle.seen, rfl, hidle.stopped⟩
    exact wp_serveShutdown hfree hworking (Bool.or_true _) response

/-- What the worker owns and knows with what it received. -/
def Ghost.receives (g : Ghost) : Received Bytes → Ghost
  | .request request => g.receive request
  | .timeout | .disconnected => { g with serving := false }

/-- A request comes with its guards, and its plan. -/
theorem wp_receive (h : Working g) :
    (receive : Task P Bytes (Received Bytes)).wp rules (.worker : Thread ι) g
      fun received g' => g' = g.receives received ∧
        ∀ request, received = .request request → request.Planned := by
  intro received hcan
  cases received with
  | request request =>
    refine ⟨_, .received, rfl, fun request' hrequest => ?_⟩
    cases hrequest
    exact hcan
  | timeout => exact ⟨_, .timeout h.behind, rfl, fun _ hrequest => by cases hrequest⟩
  | disconnected => exact ⟨_, .disconnected h.behind, rfl, fun _ hrequest => by cases hrequest⟩

/-- One round of `worker_loop`. -/
theorem wp_serve [DecidableEq Value] (hidle : Idle g) (h : Working g) :
    (serve env).wp rules (.worker : Thread ι) g WorkerRest := by
  have hrests : Idle { g with serving := false } ∧ Working { g with serving := false } :=
    ⟨⟨hidle.owns, hidle.entered, hidle.seen, hidle.selected, hidle.stopped⟩,
      ⟨h.clean, h.down, h.final, h.stopped, h.lifecycle, h.behind⟩⟩
  rw [serve]
  refine wp_then (wp_receive h) ?_
  rintro received g' ⟨rfl, hplanned⟩
  cases received with
  | request request => exact wp_serveRequest hidle h (hplanned request rfl)
  | timeout =>
    exact Finishes.workerRest (.bind .ask fun told =>
      .bind (.work hrests.2 fun w => .sampleRuntime _ w _) fun _ => .done) hrests.1 hrests.2
  | disconnected =>
    refine wp_next (Neutral.work hrests.2 fun w => .stopRuntime _ w) fun _ => ?_
    exact wp_next (h := fun _ => { g with serving := false }) (fun _ _ => ⟨_, .hangUp, rfl⟩) fun _ =>
      ⟨hrests.1, h.behind, nofun⟩

end Requests

end Worker

/-! ## The scheduler -/

section Scheduler

variable {g : Ghost}

/-- The scheduler after a round. -/
def SchedulerRest (outcome : Outcome) (g : Ghost) : Prop :=
  Idle g ∧ (outcome = .finished → g.gone = false)

/-- The updates of a wake-up give back what they take. -/
theorem Finishes.updateDue (h : Idle g) (env : SubscriptionEnv) (due : List String) :
    Finishes (.scheduler : Thread ι) g g (updateDue env due : Task P Bytes Outcome) := by
  induction due with
  | nil => exact .done
  | cons id due ih =>
    rw [Controller.updateDue]
    refine .bind (.read _) fun closing => ?_
    split
    · exact .done
    · exact .bind (h.outside.update env id none false).neutral fun _ => ih

/-- One round of `scheduler_loop`. -/
theorem wp_tick (h : Idle g) (hgone : g.gone = false) (env : SubscriptionEnv) :
    (tick env : Task P Bytes Outcome).wp rules (.scheduler : Thread ι) g SchedulerRest := by
  rw [tick]
  refine wp_next (Neutral.read _) fun closing => ?_
  split
  · exact wp_next (h := fun _ => { g with gone := true }) (fun _ _ => ⟨_, .leave, rfl⟩) fun _ =>
      ⟨⟨h.owns, h.entered, h.seen, h.selected, h.stopped⟩, nofun⟩
  · have hrest : ∀ outcome last, outcome = Outcome.finished ∧ last = g →
        SchedulerRest outcome last := by
      rintro outcome last ⟨-, rfl⟩
      exact ⟨h, fun _ => hgone⟩
    refine Code.wp_mono hrest ?_
    change Finishes (.scheduler : Thread ι) g g _
    have hlooks : Neutral (.scheduler : Thread ι) g
        (run .scheduling (decideUnderGate SubscriptionManager.errors .capture
          fun _ current => .ok (none, current)) : Task P Bytes _) :=
      (Keeps.decideUnderGate (fun _ => .managerAnswers) h.outside.toGateless
        (.inr (.inr ⟨rfl, hgone⟩)) fun hdecided => by cases hdecided).neutral
    refine .bind .ask fun told => .bind hlooks fun loaded => ?_
    cases loaded with
    | error e => exact .done
    | ok => exact .updateDue h env told.due

end Scheduler

/-! ## The system -/

/-- How a thread is left when it is done. -/
def Rest : Thread ι → Outcome → Ghost → Prop
  | .worker, outcome, g => WorkerRest outcome g
  | .scheduler, outcome, g => SchedulerRest outcome g
  | .caller _, outcome, g => Idle g ∧ (outcome = .shutdown true → g.knows = true)

/-- A thread that is done has no guards. -/
theorem Rest.idle {i : Thread ι} {outcome : Outcome} {g : Ghost} (h : Rest i outcome g) :
    Idle g := by
  cases i <;> exact h.1

section System

variable [DecidableEq Value] {env : ControllerEnv P Bytes Value}

/-- Every call keeps the rules. -/
theorem wp_call {i : Thread ι} {g : Ghost} (h : Idle g) {operation : Operation}
    {p : Task P Bytes Outcome} (hcall : operation.call env = some p) :
    p.wp rules i g fun outcome g' => Idle g' ∧ (outcome = .shutdown true → g'.knows = true) := by
  have hfinishes : ∀ {p : Task P Bytes Outcome}, Finishes i g g p →
      p.wp rules i g fun outcome g' => Idle g' ∧ (outcome = .shutdown true → g'.knows = true) := by
    intro p hp
    refine Code.wp_mono ?_ hp
    rintro outcome g' ⟨rfl, rfl⟩
    exact ⟨h, nofun⟩
  cases operation with
  | serve | tick => cases hcall
  | start => cases hcall; exact hfinishes (.start h)
  | stop => cases hcall; exact hfinishes (.stop h)
  | activate call => cases hcall; exact hfinishes (.activate h env.runtime call)
  | saveDocument input operationId => cases hcall; exact hfinishes (.saveDocument h input operationId)
  | runningConfiguration => cases hcall; exact hfinishes (.runningConfiguration h)
  | reconcileManualSelection poolId nodeId =>
    cases hcall
    exact hfinishes (.reconcileManualSelection h poolId nodeId)
  | delete id => cases hcall; exact hfinishes (.delete h id)
  | shutdown => cases hcall; exact wp_shutdown h
  | importManual name description content =>
    cases hcall
    exact hfinishes (.called (h.outside.importManual env.subscriptions name description content))
  | importRemote name description url options =>
    cases hcall
    exact hfinishes
      (.called (h.outside.importRemote env.subscriptions name description url options))
  | update id content routeOverride =>
    cases hcall
    exact hfinishes (.called (h.outside.update env.subscriptions id content routeOverride))
  | edit input => cases hcall; exact hfinishes (.called (h.outside.edit env.subscriptions input))
  | list => cases hcall; exact hfinishes (.called h.outside.reads)
  | getSettings id => cases hcall; exact hfinishes (.called (.bind (.lift _) fun _ => h.outside.reads))
  | readDocument id => cases hcall; exact hfinishes (.called (.bind (.lift _) fun _ => h.outside.reads))
  | shareUrl id => cases hcall; exact hfinishes (.called (.bind (.lift _) fun _ => h.outside.reads))
  | mutate request =>
    cases hcall
    exact hfinishes (.bind (h.outside.mutateProgram env.routing request) fun _ => .done)
  | query => cases hcall; exact hfinishes (.called ⟨h.outside.queryProgram⟩)

/-- The logic of the application. -/
def logic [DecidableEq ι] (env : ControllerEnv P Bytes Value) : Logic (system env ι) Ghost where
  toRules := rules
  Inv := Inv
  Rest := Rest
  can h performed := Inv.can h performed
  keeps h performed goes := Inv.keeps h performed goes
  begins {i outcome operation p g} hrest hbegin := by
    cases i with
    | caller name => exact wp_call hrest.1 hbegin
    | worker =>
      cases outcome with
      | finished =>
        cases operation <;> cases hbegin
        exact wp_serve hrest.1 (hrest.2.2 rfl)
      | _ => cases hbegin
    | scheduler =>
      cases outcome with
      | finished =>
        cases operation <;> cases hbegin
        exact wp_tick hrest.1 (hrest.2 rfl) env.subscriptions
      | _ => cases hbegin

variable [DecidableEq ι]

/-- Before any call. -/
theorem holds_initial (env : ControllerEnv P Bytes Value) (stored : Option AppState) :
    (logic env).Holds (initial ι stored) fun _ => .start where
  inv := Inv.start stored
  code i := by
    have hidle : Idle .start := ⟨fun _ => rfl, rfl, rfl, rfl, rfl⟩
    have hrest : Rest i .finished .start := by
      cases i with
      | worker => exact ⟨hidle, rfl, fun _ => ⟨rfl, rfl, rfl, rfl, rfl, rfl⟩⟩
      | scheduler => exact ⟨hidle, fun _ => rfl⟩
      | caller name => exact ⟨hidle, nofun⟩
    exact hrest

/-- What holds wherever the application gets. -/
theorem holds_run {stored : Option AppState} {moves : List (Move (Thread ι) (Choice P) Operation)}
    {c : Config (Thread ι) (Shared P Bytes) (Action P Bytes) Answer Outcome}
    (run : Transition.Runs (system env ι).step Transition.Free (initial ι stored) moves c) :
    ∃ γ, (logic env).Holds c γ :=
  (holds_initial env stored).run run

end System

end Controller

end Veyra
