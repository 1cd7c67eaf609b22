import Veyra.Application.RoutingResults

/-!
# Veyra.Application.RoutingAnswers

What the answer of a mutation says of the file, of the revision and of the selection by hand.

`MutateNext` is reached in one of four ways (`Onward`).  Whatever happens to the file before the
answer is built, the revision of an answer names the state that is shown, and a mutation that was
saved is answered with success as soon as that state can be shown.  A state with an unconfigured
route cannot: building its snapshot panics, and the command answers that the call could not be
executed.
-/

namespace Veyra.ProxyRouting

open Check

variable {env : Env} {m m' m'' : RoutingManager} {request : MutateRequest} {a : StoreAnswers}
  {disk disk' : Option AppState} {f : FinishAnswers} {s t : AppState}

/-! ## The selection by hand -/

theorem stillDesired_eq {poolId nodeId : String} :
    stillDesired s poolId nodeId = true ↔
      ∃ pool ∈ s.pools, pool.id.val = poolId ∧ pool.selection = .manual (some ⟨nodeId⟩) := by
  rw [stillDesired, List.any_eq_true]
  refine exists_congr fun pool => and_congr_right fun _ => ?_
  rw [Bool.and_eq_true, decide_eq_true_eq]
  refine and_congr_right fun _ => ?_
  cases pool.selection with
  | manual selected =>
    cases selected with
    | none => simp
    | some id =>
      rw [decide_eq_true_eq, SelectionPolicy.manual.injEq, Option.some.injEq]
      exact ⟨fun h => h ▸ rfl, fun h => congrArg NodeId.val h⟩
  | urlTest => simp

/-- The same pools desire the same nodes. -/
theorem stillDesired_congr (h : t.pools = s.pools) (poolId nodeId : String) :
    stillDesired t poolId nodeId = stillDesired s poolId nodeId := by
  rw [stillDesired, stillDesired, h]

/-- The element that is changed is there afterwards. -/
theorem mem_modifyFirst_of_find? {α : Type} {p : α → Bool} {f : α → α} {xs : List α} {x : α}
    (h : xs.find? p = some x) : f x ∈ modifyFirst p f xs := by
  induction xs with
  | nil => cases h
  | cons y ys ih =>
    rw [modifyFirst]
    rw [List.find?_cons] at h
    split at h
    · next hy =>
      rw [if_pos hy]
      obtain rfl := Option.some.inj h
      exact List.mem_cons_self
    · next hy =>
      rw [if_neg (by simp [hy])]
      exact List.mem_cons_of_mem _ (ih h)

/-- A selection by hand makes the pool select the node. -/
theorem applyMutation_selects {poolId nodeId : String} {outcome : MutationOutcome}
    (h : applyMutation env s (.setManualSelection poolId nodeId) = .ok (t, outcome)) :
    outcome = .selectorSavedOnly poolId nodeId ∧ stillDesired t poolId nodeId = true := by
  cases applyMutation_cases h with
  | @setManualSelection _ _ pool selection _ _ found selected =>
    have hid : pool.id.val = poolId := by simpa using List.find?_some found
    have hselects : selection = .manual (some ⟨nodeId⟩) := by
      unfold selectManually at selected
      split at selected
      · cases selected
        rfl
      · cases selected
    exact ⟨rfl, stillDesired_eq.mpr
      ⟨{ pool with selection }, mem_modifyFirst_of_find? found, hid, hselects⟩⟩

/-! ## How a mutation goes on -/

/-- The outcome of a selection by hand, on a state that makes it. -/
def Selects (mutation : Mutation) (state : AppState) (outcome : MutationOutcome) : Prop :=
  ∀ poolId nodeId, mutation = .setManualSelection poolId nodeId →
    outcome = .selectorSavedOnly poolId nodeId ∧ stillDesired state poolId nodeId = true

/-- A mutation failed, is an apply, or was accepted: then the manager knows the state it goes on
with by the revision it goes on with, which is a later one if the state was saved. -/
inductive Onward (request : MutateRequest) (disk : Option AppState) :
    MutateNext → RoutingManager → Option AppState → Prop
  | failed {e : MutationError} {revision : Option UInt64} {m' : RoutingManager} :
      Onward request disk (.error e revision) m' disk
  | applies {activeId : SubscriptionId} {generation revision : UInt64} {m' : RoutingManager}
      (mutation : request.mutation.isManual = false) :
      Onward request disk (.applyConfiguration activeId generation revision) m' disk
  | accepted {outcome : MutationOutcome} {state : AppState} {m' : RoutingManager}
      {disk' : Option AppState} (named : m'.revisions.material = some (.of state))
      (selects : Selects request.mutation state outcome)
      (saved : disk' = disk ∨ request.expectedRevision < m'.revisions.revision) :
      Onward request disk (outcome.next state m'.revisions.revision) m' disk'

/-- What a mutation decides follows from what it makes of the state. -/
theorem mutateState_selects {observed : RevisionState} {mutation : Mutation} {decision : Decision}
    (hobserved : observed.material = some (.of s))
    (h : mutateState env observed mutation s = .ok decision) :
    ∃ outcome, (decision = .unchanged outcome ∧ Selects mutation s outcome) ∨
      ∃ t, decision = .save t outcome ∧ Selects mutation t outcome := by
  obtain ⟨⟨edited, outcome⟩, hedited, h⟩ := ok_bind.mp h
  refine ⟨outcome, ?_⟩
  have hselects : Selects mutation edited outcome := by
    rintro poolId nodeId rfl
    exact applyMutation_selects hedited
  dsimp only at h
  split at h
  · next hsame =>
    cases h
    have hpools : edited.pools = s.pools :=
      congrArg CasMaterial.pools (Option.some.inj (hsame.trans hobserved))
    refine .inl ⟨rfl, fun poolId nodeId heq => ?_⟩
    rw [← stillDesired_congr hpools]
    exact hselects poolId nodeId heq
  · obtain ⟨generation, -, h⟩ := ok_bind.mp h
    obtain ⟨-, h⟩ := ok_seq.mp h
    obtain ⟨-, h⟩ := ok_seq.mp h
    cases h
    exact .inr ⟨_, rfl, hselects⟩

theorem mutateOn_cases {observed : RevisionState} {decision : Decision}
    (hobserved : observed.material = some (.of s))
    (h : mutateOn env observed request s = .ok decision) :
    (∃ id generation, decision = .apply id generation ∧ request.mutation.isManual = false) ∨
      ∃ outcome, (decision = .unchanged outcome ∧ Selects request.mutation s outcome) ∨
        ∃ t, decision = .save t outcome ∧ Selects request.mutation t outcome := by
  obtain ⟨-, h⟩ := ok_seq.mp h
  split at h
  · next hmutation =>
    obtain ⟨id, -, rfl⟩ := map_eq_ok.mp h
    exact .inl ⟨id, _, rfl, hmutation ▸ rfl⟩
  · exact .inr (mutateState_selects hobserved h)

/-- **Call lemma.**  How every call goes on. -/
theorem mutate_onward (env : Env) (m : RoutingManager) (request : MutateRequest) (a : StoreAnswers)
    (disk : Option AppState) :
    Onward request disk (m.mutate env request a disk).1.1 (m.mutate env request a disk).1.2
      (m.mutate env request a disk).2 := by
  rw [RoutingManager.mutate.eq_def]
  split
  · exact .failed
  · next hrange =>
    split
    · exact .failed
    · split
      · exact .failed
      · next s hload =>
        split
        · exact .failed
        · next observed hobserve =>
          have hobserved := RevisionState.observe_ok hobserve
          dsimp only
          split
          · exact .failed
          · next id generation hdecision =>
            obtain ⟨_, _, -, hmanual⟩ | ⟨outcome, ⟨hdiffers, -⟩ | ⟨t, hdiffers, -⟩⟩ :=
              mutateOn_cases hobserved.seen hdecision
            · exact .applies hmanual
            · cases hdiffers
            · cases hdiffers
          · next outcome hdecision =>
            obtain ⟨_, _, hdiffers, -⟩ | ⟨_, ⟨hsame, hselects⟩ | ⟨t, hdiffers, -⟩⟩ :=
              mutateOn_cases hobserved.seen hdecision
            · cases hdiffers
            · cases hsame
              exact @Onward.accepted request disk outcome s { m with revisions := observed } disk
                hobserved.seen hselects (.inl rfl)
            · cases hdiffers
          · next t outcome hdecision =>
            split
            · obtain ⟨hrevision, hstate⟩ := mutateOn_save hdecision
              obtain ⟨-, -, -, hchanged, -, hroom⟩ := mutateState_save hobserved.seen hstate
              obtain ⟨_, _, hdiffers, -⟩ | ⟨_, ⟨hdiffers, -⟩ | ⟨_, hsame, hselects⟩⟩ :=
                mutateOn_cases hobserved.seen hdecision
              · cases hdiffers
              · cases hdiffers
              · cases hsame
                have hbound : observed.revision < maxSafeInteger := by
                  have hle : request.expectedRevision ≤ maxSafeInteger := by simp_all
                  rw [hrevision] at hroom ⊢
                  exact UInt64.lt_of_le_of_ne hle hroom
                obtain ⟨hnext, hmaterial, hcommitted⟩ := RoutingManager.commit_ok
                  { m with revisions := observed } hobserved.seen hbound hchanged
                  request.mutation outcome
                rw [hnext]
                refine .accepted hmaterial hselects (.inr (UInt64.lt_iff_toNat_lt.mpr ?_))
                rw [hcommitted, ← hrevision]
                exact Nat.lt_succ_self _
            · exact .failed

/-! ## The answer -/

/-- The manager knows the state by the revision. -/
def RoutingManager.Names (m : RoutingManager) (state : AppState) (revision : UInt64) : Prop :=
  m.revisions = ⟨revision, some (.of state)⟩

theorem names_of {state : AppState} (h : m.revisions.material = some (.of state)) :
    m.Names state m.revisions.revision := by
  rw [RoutingManager.Names, ← h]

/-- A snapshot shows what its state desires, under the revision it was built for. -/
theorem selects_of_build {sources : SnapshotSources} {state : AppState} {revision : UInt64}
    {snapshot : ProxyRoutingSnapshot} (h : buildSnapshot sources state revision = some snapshot) :
    snapshot.revision = revision ∧ ∀ poolId nodeId,
      snapshot.selects poolId nodeId = stillDesired state poolId nodeId := by
  obtain ⟨routes, -, h⟩ := Option.bind_eq_some_iff.mp h
  obtain rfl := Option.some.inj h
  refine ⟨rfl, fun poolId nodeId => ?_⟩
  rw [ProxyRoutingSnapshot.selects, stillDesired, List.any_map]
  refine congrArg (List.any state.pools) (funext fun pool => ?_)
  simp only [Function.comp, PoolSnapshot.of]
  cases pool.selection with
  | manual selected => cases selected <;> rfl
  | urlTest => rfl

/-- What an answer is built from: a state that the manager knows by the revision it shows. -/
structure Shows (f : FinishAnswers) (m : RoutingManager) (snapshot : ProxyRoutingSnapshot)
    (state : AppState) : Prop where
  built : buildSnapshot f.sources state snapshot.revision = some snapshot
  named : m.Names state snapshot.revision

theorem shows_of_build {state : AppState} {revision : UInt64} {snapshot : ProxyRoutingSnapshot}
    (h : buildSnapshot f.sources state revision = some snapshot) (hnames : m.Names state revision) :
    Shows f m snapshot state := by
  obtain ⟨rfl, -⟩ := selects_of_build h
  exact ⟨h, hnames⟩

/-- A success is what the call itself answered. -/
theorem eq_some_of_getD {answer : Option MutationResult} {outcome : Outcome}
    {snapshot : ProxyRoutingSnapshot}
    (h : answer.getD m.executionUnavailable = .ok outcome snapshot) :
    answer = some (.ok outcome snapshot) := by
  cases answer with
  | none => cases h
  | some result => exact congrArg some h

/-- A selection by hand as the runtime has it while the snapshot shows it, and superseded when it
no longer does. -/
def reportedSelection (f : FinishAnswers) (poolId nodeId : String)
    (snapshot : ProxyRoutingSnapshot) : Outcome :=
  if snapshot.selects poolId nodeId then mapManualResult poolId nodeId f.manual
  else .selectorApplyUnknown poolId nodeId .superseded

/-- What a call that was accepted is answered with: a state that the manager knows by then, as far
as it can be shown. -/
structure Told (f : FinishAnswers) (call : Option MutationResult × RoutingManager)
    (state : AppState) (outcome : Outcome) : Prop where
  named : call.2.Names state call.2.revisions.revision
  answer : call.1 = (buildSnapshot f.sources state call.2.revisions.revision).map (.ok outcome)

theorem Told.shows {call : Option MutationResult × RoutingManager} {state : AppState}
    {outcome reported : Outcome} {snapshot : ProxyRoutingSnapshot}
    (h : Told f call state outcome) (hanswer : call.1 = some (.ok reported snapshot)) :
    reported = outcome ∧ Shows f call.2 snapshot state := by
  obtain ⟨built, hbuild, heq⟩ := Option.map_eq_some_iff.mp (h.answer.symm.trans hanswer)
  cases heq
  exact ⟨rfl, shows_of_build hbuild h.named⟩

/-- **Call lemma.**  The state that is loaded after a selection by hand may be a later one; where
none is loaded, the one that was saved is shown. -/
theorem finishManualSelection_told {poolId nodeId : String} {committed : AppState}
    (hnamed : m.revisions.material = some (.of committed)) :
    ∃ state outcome,
      Told f (m.finishManualSelection poolId nodeId committed m.revisions.revision f)
        state outcome ∧
      m.revisions.revision ≤
        (m.finishManualSelection poolId nodeId committed m.revisions.revision f).2.revisions.revision ∧
      (stillDesired committed poolId nodeId = true →
        outcome = settleManualOutcome poolId nodeId f.manual state true) := by
  have hend := m.loadObserved_end f.reload f.disk
  rw [RoutingManager.finishManualSelection]
  generalize m.loadObserved f.reload f.disk = reloaded at hend
  cases hend with
  | failed =>
    refine ⟨committed, _, ⟨names_of hnamed, rfl⟩, UInt64.le_refl _, fun hdesired => ?_⟩
    rw [settleManualOutcome, settleManualOutcome, hdesired]
    rfl
  | @answered revision m' seen told =>
    subst told
    exact ⟨f.disk.getD .empty, _, ⟨names_of seen.seen, rfl⟩, seen.follows.le, fun _ => rfl⟩

/-- What an accepted mutation is answered. -/
theorem finish_accepted {outcome : MutationOutcome} {state : AppState}
    (hnamed : m.revisions.material = some (.of state)) :
    ∃ shown reported,
      Told f (m.finish (outcome.next state m.revisions.revision) f) shown reported ∧
      m.revisions.revision ≤
        (m.finish (outcome.next state m.revisions.revision) f).2.revisions.revision ∧
      ∀ poolId nodeId, outcome = .selectorSavedOnly poolId nodeId →
        stillDesired state poolId nodeId = true →
        reported = settleManualOutcome poolId nodeId f.manual shown true := by
  cases outcome with
  | saved =>
    exact ⟨state, .saved, ⟨names_of hnamed, rfl⟩, UInt64.le_refl _,
      fun _ _ heq => MutationOutcome.noConfusion heq⟩
  | selectorSavedOnly poolId nodeId =>
    obtain ⟨shown, reported, htold, hle, hreported⟩ := finishManualSelection_told hnamed
    refine ⟨shown, reported, htold, hle, fun pool node heq => ?_⟩
    cases heq
    exact hreported

/-- What an apply is answered. -/
theorem applyConfiguration_shows {activeId : SubscriptionId} {generation revision : UInt64}
    {outcome : Outcome} {snapshot : ProxyRoutingSnapshot}
    (h : (m.applyConfiguration activeId generation revision f).1 = some (.ok outcome snapshot)) :
    ∃ state, Shows f (m.applyConfiguration activeId generation revision f).2 snapshot state := by
  rw [RoutingManager.applyConfiguration] at h ⊢
  dsimp only at h ⊢
  generalize RoutingManager.applyOutcome f.activation = activated at h ⊢
  cases activated with
  | error e => cases h
  | ok applied =>
    have hend := (m.trackApply activeId generation).loadObserved_end f.reload f.disk
    generalize RoutingManager.loadObserved _ f.reload f.disk = reloaded at h hend ⊢
    cases hend with
    | failed => cases h
    | @answered _ m' seen told =>
      subst told
      have htold : Told f ((buildSnapshot f.sources (f.disk.getD .empty)
          m'.revisions.revision).map (.ok applied), m') (f.disk.getD .empty) applied :=
        ⟨names_of seen.seen, rfl⟩
      exact ⟨_, (htold.shows h).2⟩

/-- What was saved is answered by the revision of the state that is there by then: with success if
that state can be shown, and else as a call that could not be executed. -/
structure Answers (m : RoutingManager) (result : MutationResult) (state : AppState) : Prop where
  named : m.Names state m.revisions.revision
  shown : (∀ route ∈ state.routes, route.target ≠ .unconfigured) →
    ∃ outcome snapshot, result = .ok outcome snapshot ∧
      snapshot.revision = m.revisions.revision
  hidden : (∃ route ∈ state.routes, route.target = .unconfigured) →
    result = .error .runtimeUnavailable (some m.revisions.revision)

/-- What the answer of a mutation promises, whatever happened to the file meanwhile. -/
structure Truthful (request : MutateRequest) (f : FinishAnswers) (disk disk' : Option AppState)
    (result : MutationResult) (m : RoutingManager) : Prop where
  /-- What was saved is answered under a later revision. -/
  saved : disk' ≠ disk → request.expectedRevision < m.revisions.revision ∧
    ∃ state, Answers m result state
  /-- The manager knows the state that is shown by the revision that is shown. -/
  shows : ∀ outcome snapshot, result = .ok outcome snapshot → ∃ state, Shows f m snapshot state
  /-- A selection by hand is reported as far as it is shown. -/
  selection : ∀ poolId nodeId outcome snapshot,
    request.mutation = .setManualSelection poolId nodeId → result = .ok outcome snapshot →
    outcome = reportedSelection f poolId nodeId snapshot

/-- A settled selection is the one that the snapshot of its state reports. -/
theorem settled_eq {poolId nodeId : String} {state : AppState} {snapshot : ProxyRoutingSnapshot}
    (h : Shows f m snapshot state) :
    settleManualOutcome poolId nodeId f.manual state true =
      reportedSelection f poolId nodeId snapshot := by
  rw [reportedSelection, (selects_of_build h.built).2, settleManualOutcome, Bool.not_true,
    Bool.or_false]

/-- The answer of a call, or of the command in its place when the call panics. -/
theorem Told.answers {call : Option MutationResult × RoutingManager} {state : AppState}
    {outcome : Outcome} (h : Told f call state outcome) (hpositive : 0 < call.2.revisions.revision) :
    Answers call.2 (call.1.getD call.2.executionUnavailable) state := by
  have hshown := snapshot_returns_iff f.sources state call.2.revisions.revision
  refine ⟨h.named, fun hroutes => ?_, fun ⟨route, hroute, htarget⟩ => ?_⟩
  · obtain ⟨snapshot, hbuild⟩ := Option.isSome_iff_exists.mp (hshown.mpr hroutes)
    refine ⟨outcome, snapshot, ?_, (selects_of_build hbuild).1⟩
    rw [h.answer, hbuild]
    rfl
  · have hnone : buildSnapshot f.sources state call.2.revisions.revision = none :=
      Option.not_isSome_iff_eq_none.mp fun hsome => hshown.mp hsome route hroute htarget
    rw [h.answer, hnone]
    exact congrArg (MutationResult.error .runtimeUnavailable) (if_pos hpositive)

/-- **Answers are truthful.**  Whatever the file holds when the answer is built, a saved mutation
is answered under a later revision than the expected one, and with success unless the state that
is there by then has an unconfigured route; the revision of an answer names the state that is
shown, and a selection by hand counts as superseded exactly when it is not shown. -/
theorem mutation_answers_truthful (env : Env) (m : RoutingManager) (request : MutateRequest)
    (a : StoreAnswers) (disk : Option AppState) (f : FinishAnswers) :
    Truthful request f disk (m.mutateProxyRouting env request a disk f).2
      (m.mutateProxyRouting env request a disk f).1.1
      (m.mutateProxyRouting env request a disk f).1.2 := by
  have honward := mutate_onward env m request a disk
  rw [RoutingManager.mutateProxyRouting, RoutingManager.respond]
  generalize m.mutate env request a disk = call at honward
  obtain ⟨⟨next, middle⟩, left⟩ := call
  dsimp only at honward ⊢
  cases honward with
  | failed =>
    exact ⟨fun hne => absurd rfl hne, fun _ _ heq => MutationResult.noConfusion heq,
      fun _ _ _ _ _ heq => MutationResult.noConfusion heq⟩
  | applies hmanual =>
    refine ⟨fun hne => absurd rfl hne, fun outcome snapshot heq => ?_, ?_⟩
    · exact applyConfiguration_shows (eq_some_of_getD heq)
    · intro poolId nodeId _ _ hmutation _
      rw [hmutation] at hmanual
      cases hmanual
  | @accepted outcome state _ _ named selects saved =>
    obtain ⟨shown, reported, htold, hle, hreported⟩ := finish_accepted (f := f) named
    refine ⟨fun hne => ?_, fun _ _ heq => ?_, fun poolId nodeId _ _ hmutation heq => ?_⟩
    · have hlater := UInt64.lt_of_lt_of_le (saved.resolve_left hne) hle
      exact ⟨hlater, shown, htold.answers (UInt64.lt_of_le_of_lt UInt64.zero_le hlater)⟩
    · exact ⟨shown, (htold.shows (eq_some_of_getD heq)).2⟩
    · obtain ⟨hmanual, hdesired⟩ := selects poolId nodeId hmutation
      obtain ⟨rfl, hshows⟩ := htold.shows (eq_some_of_getD heq)
      rw [hreported poolId nodeId hmanual hdesired, settled_eq hshows]

/-- What a call finds that nothing stands in the way of. -/
def openStore : StoreAnswers := ⟨.ok (), true, true, true⟩

/-- Saved, but not to be shown: the route of the file has no target. -/
example :
    let call := RoutingManager.mutateProxyRouting ⟨fun _ => none, none⟩ .new
      ⟨1, .setDefaultTarget .direct⟩ openStore (some (routedState .unconfigured))
      ⟨.applied, .pending "", openStore, none, .fresh⟩
    call.2 ≠ some (routedState .unconfigured) ∧
      call.1.1 = .error .runtimeUnavailable (some 2) := by
  constructor
  · intro heq
    exact absurd (congrArg (Option.map AppState.defaultTarget) heq) (by decide +kernel)
  · rfl

end Veyra.ProxyRouting
