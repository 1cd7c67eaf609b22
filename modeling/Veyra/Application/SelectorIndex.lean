import Veyra.Application.Documents
import Veyra.Application.ManagedRuntime
import Veyra.Lib.Transition
import Veyra.Singbox.RoutingMeaning

/-!
# Veyra.Application.SelectorIndex

What the worker knows of its selectors, against the instance it owns: the
index should be that of the projection whose configuration runs, and every
readback should come from the owned child.

* `Indexed` — the generation that is observed as applied belongs to a
  projection whose configuration runs, and an index of that generation is the
  index of that projection;
* `ReadbacksCurrent` — every readback was read from the owned child.

Each call of the worker keeps both, except in the branches that `Careful`
names: they leave the readbacks, or an index, of an instance that is gone.
-/

namespace Veyra

open Check ProxyRouting Transition

variable {P Bytes Value : Type}

/-! ## What the index should be -/

/-- A configuration was compiled and finalized from a projection of some state. -/
structure CompiledFrom [DecidableEq Value] (env : RuntimeEnv P Bytes Value) (config : Bytes)
    (state : AppState) (p : SelectedRuntimeProjection) (plan : SingBoxPlan) : Prop where
  projected : projectSelectedRuntime state = .ok p
  compiled : compile env.compiler p.runtimeIntent p.projectedDefaultTarget = .ok plan
  finalized : ∃ secret, plan.finalize env.compiler env.text secret = .ok config

/-- Every tag pair of an index names a group that is emitted and one of its members. -/
def AppliedRoutingIndex.NamesGroups (index : AppliedRoutingIndex) (plan : SingBoxPlan) : Prop :=
  ∀ pool members, (pool, members) ∈ index.poolMembers → ∀ node tags, (node, tags) ∈ members →
    ∃ group ∈ plan.document.outbounds, tags.pool ∈ group.poolTags ∧ tags.node ∈ group.members

/-- The index of a projection names the groups of its document. -/
theorem AppliedRoutingIndex.fromProjection_namesGroups {env : CompilerEnv}
    {p : SelectedRuntimeProjection} {plan : SingBoxPlan}
    (h : compile env p.runtimeIntent p.projectedDefaultTarget = .ok plan) :
    (AppliedRoutingIndex.fromProjection p).NamesGroups plan := by
  obtain ⟨_, nodes, _, groups, _, -, -, hgroups, -, hdocument, -⟩ := compile_ok h
  intro id members hmembers node tags htags
  rw [fromProjection, List.mem_map] at hmembers
  obtain ⟨pool, hpool, heq⟩ := hmembers
  cases heq
  obtain ⟨member, hmember, hpair⟩ := List.mem_map.mp htags
  obtain ⟨rfl, rfl⟩ := Prod.mk.inj hpair
  have hgroup := poolOutbound_groupOf pool
  refine ⟨poolOutbound pool pool.memberTags, ?_, ?_, ?_⟩
  · rw [hdocument, emitPools_ok hgroups, assemble]
    simp only [List.mem_append, List.mem_map, Sorted.mem_sortBy]
    exact .inl (.inr ⟨pool, hpool, rfl⟩)
  · rw [hgroup.tag]
    exact List.mem_singleton.mpr rfl
  · exact (hgroup.members _).mpr ⟨member, hmember, rfl⟩

/-- What `compile_projection` returns was compiled from the projection. -/
theorem compileProjection_ok [DecidableEq Value] {env : RuntimeEnv P Bytes Value}
    {p : SelectedRuntimeProjection} {secret : Option String} {config : Bytes}
    (h : ManagedRuntime.compileProjection env p secret = some config) :
    ∃ plan, compile env.compiler p.runtimeIntent p.projectedDefaultTarget = .ok plan ∧
      ∃ secret, plan.finalize env.compiler env.text secret = .ok config := by
  obtain ⟨plan, hplan, h⟩ := Option.bind_eq_some_iff.mp h
  obtain ⟨text, -, h⟩ := Option.bind_eq_some_iff.mp h
  exact ⟨plan, toOption_eq_some.mp hplan, text, toOption_eq_some.mp h⟩

/-- The runtime is ready with the configuration of a projection. -/
def SidecarRuntime.RunsProjection [DecidableEq Value] (env : RuntimeEnv P Bytes Value)
    (r : SidecarRuntime P Bytes) (p : SelectedRuntimeProjection) : Prop :=
  r.lifecycle = .ready ∧
    ∃ state plan config, CompiledFrom env config state p plan ∧ r.active = some config

/-- What runs a projection goes on running it while nothing of it changes. -/
theorem SidecarRuntime.Same.runs [DecidableEq Value] {env : RuntimeEnv P Bytes Value}
    {r r' : SidecarRuntime P Bytes} {p : SelectedRuntimeProjection} (h : r.Same r')
    (hr : r.RunsProjection env p) : r'.RunsProjection env p := by
  obtain ⟨hready, state, plan, config, hcompiled, hactive⟩ := hr
  exact ⟨h.lifecycle.trans hready, state, plan, config, hcompiled, h.active.trans hactive⟩

namespace ManagedRuntime

/-- No readback is held. -/
def NoReadback (w : ManagedRuntime P Bytes) : Prop := ∀ pool, w.selectorRuntimeNodes pool = none

/-- Every readback was read from the child that is owned. -/
def ReadbacksCurrent (w : ManagedRuntime P Bytes) : Prop :=
  ∀ pool node, w.selectorRuntimeNodes pool = some node →
    ∃ child, w.instance? = some child ∧ w.readFrom pool = some child

variable [DecidableEq Value]

/-- The projection behind the generation that is observed as applied. -/
structure AppliedAs (env : RuntimeEnv P Bytes Value) (w : ManagedRuntime P Bytes)
    (r : SidecarRuntime P Bytes) (p : SelectedRuntimeProjection) (applied : UInt64) : Prop where
  runtime : w.runtime = some r
  runs : r.RunsProjection env p
  generation : p.selectedGeneration = applied
  index : ∀ index, w.appliedRoutingIndex = some index →
    index.configurationGeneration = applied → index = .fromProjection p

/-- An applied generation is that of a projection whose configuration runs, and an index of
that generation is the index of that projection. -/
def Indexed (env : RuntimeEnv P Bytes Value) (w : ManagedRuntime P Bytes) : Prop :=
  ∀ generation, w.observations.appliedConfigurationGeneration = some generation →
    ∃ r p, AppliedAs env w r p generation

/-! ## Records -/

/-- A record that reports no new instance keeps the applied generation or forgets it. -/
theorem applied_change (s : RuntimeObservationSnapshot) {record : Record}
    (h : ∀ id generation op proxy, record ≠ .subscriptionReady id generation op proxy) :
    (record.change s).appliedConfigurationGeneration = s.appliedConfigurationGeneration ∨
      (record.change s).appliedConfigurationGeneration = none := by
  cases record with
  | managedObservation o =>
    left
    rw [Record.change, RuntimeObservationSnapshot.applyManagedObservation]
    cases o.traffic <;> cases o.latestLog <;> rfl
  | managedSample o memory =>
    left
    rw [Record.change, RuntimeObservationSnapshot.applyManagedObservation]
    cases o.traffic <;> cases o.latestLog <;> rfl
  | managedReady => exact .inr rfl
  | managedStopped => exact .inr rfl
  | managedRecovery => exact .inl rfl
  | managedFailure lifecycle failure =>
    cases lifecycle with
    | none => exact .inl rfl
    | some lifecycle =>
      by_cases hready : lifecycle = .ready
      · left
        subst hready
        rfl
      · right
        rw [Record.change, RuntimeObservationSnapshot.withLifecycle]
        dsimp only
        rw [if_pos hready]
        rfl
  | subscriptionSwitch change =>
    left
    rw [Record.change]
    split <;> rfl
  | subscriptionReady id generation op proxy => exact absurd rfl (h id generation op proxy)

/-- A record shows the applied generation that it brings. -/
theorem applied_record (w : ManagedRuntime P Bytes) (record : Record) :
    (w.record record).observations.appliedConfigurationGeneration =
      (record.change (w.observations.refreshObservedTime w.now)).appliedConfigurationGeneration :=
  (RuntimeObservationSnapshot.sameRuntime_update w.observations w.now _).2

/-- A record that reports no new instance keeps the index in step. -/
theorem Indexed.record {env : RuntimeEnv P Bytes Value} {w : ManagedRuntime P Bytes}
    (h : Indexed env w) {record : Record}
    (hrecord : ∀ id generation op proxy, record ≠ .subscriptionReady id generation op proxy) :
    Indexed env (w.record record) := by
  intro generation happlied
  rw [applied_record] at happlied
  cases applied_change (w.observations.refreshObservedTime w.now) hrecord with
  | inl hsame =>
    rw [hsame] at happlied
    obtain ⟨r, p, hp⟩ := h generation happlied
    exact ⟨r, p, hp.runtime, hp.runs, hp.generation, hp.index⟩
  | inr hnone =>
    rw [hnone] at happlied
    cases happlied

/-- Nothing is applied after the failure of a runtime that is not ready. -/
theorem applied_failure (w : ManagedRuntime P Bytes) {lifecycle : ObservedSidecarLifecycle}
    (h : lifecycle ≠ .ready) (failure : ManagedRuntimeFailure) :
    (w.record (.managedFailure (some lifecycle) failure)).observations.appliedConfigurationGeneration
      = none := by
  rw [applied_record, Record.change, RuntimeObservationSnapshot.withLifecycle]
  dsimp only
  rw [if_pos h]
  rfl

/-- Only a child that is ready is shown as ready. -/
theorem observedLifecycle_ready {lifecycle : SidecarLifecycle} :
    observedLifecycle lifecycle = .ready ↔ lifecycle = .ready := by
  cases lifecycle <;> simp [observedLifecycle]

/-! ## What keeps the index in step -/

section Indexed

variable {env : RuntimeEnv P Bytes Value} {w : ManagedRuntime P Bytes}
  {r r' : SidecarRuntime P Bytes} {p : SelectedRuntimeProjection}

/-- With nothing applied there is nothing to agree with. -/
theorem Indexed.of_none (h : w.observations.appliedConfigurationGeneration = none) :
    Indexed env w := by
  intro generation happlied
  rw [h] at happlied
  cases happlied

/-- A change of the runtime that keeps its child and its configuration. -/
theorem Indexed.withSame (h : Indexed env w) (hw : w.runtime = some r) (hsame : r.Same r') :
    Indexed env (w.withRuntime r') := by
  intro generation happlied
  obtain ⟨active, p, hp⟩ := h generation happlied
  obtain rfl := Option.some.inj (hw.symm.trans hp.runtime)
  exact ⟨r', p, rfl, hsame.runs hp.runs, hp.generation, hp.index⟩

/-- Nothing is applied while no runtime is ready. -/
theorem Indexed.applied_none (h : Indexed env w)
    (hdown : ∀ r, w.runtime = some r → r.lifecycle ≠ .ready) :
    w.observations.appliedConfigurationGeneration = none := by
  cases happlied : w.observations.appliedConfigurationGeneration with
  | none => rfl
  | some generation =>
    obtain ⟨r, p, hp⟩ := h generation happlied
    exact absurd hp.runs.1 (hdown r hp.runtime)

/-- The failure of a call that kept the runtime, unless it is not ready any more. -/
theorem Indexed.failure (h : Indexed env w) (hw : w.runtime = some r)
    (hsame : r'.lifecycle = .ready → r.Same r') (failure : ManagedRuntimeFailure) :
    Indexed env ((w.withRuntime r').record
      (.managedFailure (some (observedLifecycle r'.lifecycle)) failure)) := by
  by_cases hready : r'.lifecycle = .ready
  · exact (h.withSame hw (hsame hready)).record (by simp)
  · exact .of_none (applied_failure _ (fun hobserved => hready (observedLifecycle_ready.mp hobserved))
      failure)

/-- The index of the projection that a new instance runs. -/
theorem Indexed.ready (hr : r.RunsProjection env p) (op : Option String) :
    Indexed env ((w.becomeReady r p op).installIndex p) := by
  intro generation happlied
  have hgeneration : p.selectedGeneration = generation := by
    have happlied : ((w.withRuntime r).record _).observations.appliedConfigurationGeneration =
      some generation := happlied
    rw [applied_record] at happlied
    exact Option.some.inj happlied
  refine ⟨r, p, rfl, hr, hgeneration, fun index hindex _ => ?_⟩
  exact (Option.some.inj hindex).symm

/-- Without an index nothing is indexed. -/
theorem Indexed.clear (h : Indexed env w) : Indexed env w.clearIndex := by
  intro generation happlied
  obtain ⟨r, p, hp⟩ := h generation happlied
  exact ⟨r, p, hp.runtime, hp.runs, hp.generation, fun index hindex => by cases hindex⟩

end Indexed

/-! ## What keeps the readbacks current -/

section Readbacks

omit [DecidableEq Value]

variable {w : ManagedRuntime P Bytes} {r r' : SidecarRuntime P Bytes}

/-- With nothing read back there is nothing to be outdated. -/
theorem ReadbacksCurrent.of_none (h : w.NoReadback) : w.ReadbacksCurrent := by
  intro pool node hnode
  rw [h pool] at hnode
  cases hnode

/-- A change of the runtime that keeps its child. -/
theorem ReadbacksCurrent.withChild (h : w.ReadbacksCurrent) (hw : w.runtime = some r)
    (hchild : r'.child = r.child) : (w.withRuntime r').ReadbacksCurrent := by
  intro pool node hnode
  obtain ⟨child, hinstance, hread⟩ := h pool node hnode
  rw [instance?, hw] at hinstance
  exact ⟨child, hchild.trans hinstance, hread⟩

/-- Without an owned child there are no readbacks. -/
theorem ReadbacksCurrent.noReadback (h : w.ReadbacksCurrent) (hw : w.instance? = none) :
    w.NoReadback := by
  intro pool
  cases hnode : w.selectorRuntimeNodes pool with
  | none => rfl
  | some node =>
    obtain ⟨child, hinstance, -⟩ := h pool node hnode
    rw [hw] at hinstance
    cases hinstance

end Readbacks

/-! ## The invariant -/

/-- The index and the readbacks are those of the owned instance. -/
structure Described (env : RuntimeEnv P Bytes Value) (w : ManagedRuntime P Bytes) : Prop where
  indexed : Indexed env w
  readbacks : w.ReadbacksCurrent

/-- What is left to say before the index is settled: a stopped runtime loses its readbacks. -/
structure Unsettled (env : RuntimeEnv P Bytes Value) (w : ManagedRuntime P Bytes) : Prop where
  indexed : Indexed env w
  readbacks : w.isStopped = true ∨ w.ReadbacksCurrent

section Described

variable {env : RuntimeEnv P Bytes Value} {w : ManagedRuntime P Bytes}
  {r r' : SidecarRuntime P Bytes} {p : SelectedRuntimeProjection}

/-- A record without an applied tuple leaves the index right. -/
theorem Described.record (h : Described env w) {record : Record}
    (hrecord : ∀ id generation op proxy, record ≠ .subscriptionReady id generation op proxy) :
    Described env (w.record record) :=
  ⟨h.indexed.record hrecord, h.readbacks⟩

/-- A phase of a switch does too. -/
theorem Described.switchPhase (h : Described env w) (op : String)
    (status : SubscriptionSwitchStatus) (code : Option SubscriptionSwitchErrorCode) :
    Described env (w.switchPhase op status code) :=
  h.record (by simp)

/-- And also while the index is to be renewed. -/
theorem Unsettled.switchPhase (h : Unsettled env w) (op : String)
    (status : SubscriptionSwitchStatus) (code : Option SubscriptionSwitchErrorCode) :
    Unsettled env (w.switchPhase op status code) :=
  ⟨h.indexed.record (by simp), h.readbacks⟩

/-- A child that runs the same is described by the same index. -/
theorem Described.withSame (h : Described env w) (hw : w.runtime = some r) (hsame : r.Same r') :
    Described env (w.withRuntime r') :=
  ⟨h.indexed.withSame hw hsame, h.readbacks.withChild hw hsame.child⟩

/-- An index that is right may be renewed. -/
theorem Described.unsettled (h : Described env w) : Unsettled env w :=
  ⟨h.indexed, .inr h.readbacks⟩

/-- No index is right for every child. -/
theorem Described.cleared (h : Indexed env w) : Described env w.clearIndex :=
  ⟨h.clear, .of_none fun _ => rfl⟩

/-- Clearing the index of a stopped runtime settles it. -/
theorem Unsettled.settle (h : Unsettled env w) :
    Described env (if w.isStopped then w.clearIndex else w) := by
  cases hstopped : w.isStopped with
  | true => exact .cleared h.indexed
  | false =>
    refine ⟨h.indexed, h.readbacks.resolve_left ?_⟩
    rw [hstopped]
    exact Bool.false_ne_true

/-- The index of a projection is right for a child that runs it. -/
theorem Described.ready (hr : r.RunsProjection env p) (op : Option String) :
    Described env ((w.becomeReady r p op).installIndex p) :=
  ⟨.ready hr op, .of_none fun _ => rfl⟩

/-- A runtime without a child has nothing applied and no readbacks. -/
theorem Described.down (h : Described env w) (hw : w.instance? = none) :
    w.observations.appliedConfigurationGeneration = none ∧ w.NoReadback := by
  refine ⟨h.indexed.applied_none fun r hr hready => ?_, h.readbacks.noReadback hw⟩
  rw [instance?, hr] at hw
  exact SidecarRuntime.not_ready_of_child hw hready

/-- Without anything applied or read back, any runtime is described. -/
theorem Described.of_down (happlied : w.observations.appliedConfigurationGeneration = none)
    (hread : w.NoReadback) : Described env w :=
  ⟨.of_none happlied, .of_none hread⟩

end Described

/-! ## Start and stop -/

section Calls

variable {env : RuntimeEnv P Bytes Value} {w : ManagedRuntime P Bytes}
  {r r' : SidecarRuntime P Bytes} {p : SelectedRuntimeProjection}

/-- A commit of a prepared projection that succeeds runs it. -/
theorem runs_of_commit {state : AppState} {secret : Option String} {config : Bytes}
    {before prepared : SidecarRuntime P Bytes} (hprojected : projectSelectedRuntime state = .ok p)
    (hcompiled : compileProjection env p secret = some config)
    (hprepared : before.prepareReplacement env.port config = (.ok (), prepared))
    (hcommitted : prepared.commitPrepared env.port = (.ok (), r)) : r.RunsProjection env p := by
  obtain ⟨plan, hplan, hfinal⟩ := compileProjection_ok hcompiled
  obtain ⟨hchild, hactive, -, -, hrecovery⟩ := SidecarRuntime.commitPrepared_ok hcommitted
  have hcandidate := (SidecarRuntime.prepareReplacement_ok hprepared).1
  refine ⟨?_, state, plan, config, ⟨hprojected, hplan, hfinal⟩, hactive.trans hcandidate⟩
  rw [SidecarRuntime.lifecycle, if_neg (by simp [hrecovery]), if_pos hchild]

/-- Starting a runtime without a child ends with the projection running, or with nothing
applied. -/
theorem startStoppedRuntime_cases (env : RuntimeEnv P Bytes Value) {state : AppState}
    {intent : SelectedRuntimeProjection} (hprojected : projectSelectedRuntime state = .ok intent)
    (hchild : r.child = none) (happlied : w.observations.appliedConfigurationGeneration = none) (secret : Option String) :
    (∃ r', r'.RunsProjection env intent ∧
      startStoppedRuntime env w r intent secret = (.started, w.becomeReady r' intent none)) ∨
    ∃ result w', startStoppedRuntime env w r intent secret = (result, w') ∧ result ≠ .started ∧
      w'.observations.appliedConfigurationGeneration = none ∧
      w'.selectorRuntimeNodes = w.selectorRuntimeNodes := by
  rw [startStoppedRuntime]
  cases hcompiled : compileProjection env intent secret with
  | none =>
    right
    refine ⟨_, _, rfl, by simp, ?_, rfl⟩
    rw [applied_record]
    exact happlied
  | some candidate =>
    dsimp only
    have hfailed : ∀ (e : SidecarError) (r' : SidecarRuntime P Bytes), r'.lifecycle ≠ .ready →
        ∃ result w', (if configurationRefused r' e then
            (ManagedRuntimeStartResult.configurationFailed, (w.withRuntime r').record
              (.managedFailure (some (observedLifecycle r'.lifecycle)) .configuration))
          else (.startFailed, (w.withRuntime r').record
            (.managedFailure (some (observedLifecycle r'.lifecycle)) .start))) = (result, w') ∧
          result ≠ .started ∧ w'.observations.appliedConfigurationGeneration = none ∧
          w'.selectorRuntimeNodes = w.selectorRuntimeNodes := by
      intro e r' hready
      have hobserved := mt observedLifecycle_ready.mp hready
      split
      · exact ⟨_, _, rfl, by simp, applied_failure _ hobserved _, rfl⟩
      · exact ⟨_, _, rfl, by simp, applied_failure _ hobserved _, rfl⟩
    rw [SidecarRuntime.startOrReplace]
    cases hprepared : r.prepareReplacement env.port candidate with
    | mk result prepared =>
      cases result with
      | error e =>
        refine .inr (hfailed e prepared (SidecarRuntime.not_ready_of_child ?_))
        rw [(SidecarRuntime.prepareReplacement_error hprepared).2.1, hchild]
      | ok =>
        dsimp only
        cases hcommitted : prepared.commitPrepared env.port with
        | mk result r' =>
          cases result with
          | ok => exact .inl ⟨r', runs_of_commit hprojected hcompiled hprepared hcommitted, rfl⟩
          | error e =>
            refine .inr (hfailed e r' ?_)
            have hcandidate := (SidecarRuntime.prepareReplacement_ok hprepared).1
            have hend := (SidecarRuntime.commitPrepared_error hcommitted (by simp [hcandidate])).2
            cases hrecovery : r'.recoveryRequired with
            | true => exact SidecarRuntime.not_ready_of_recovery hrecovery
            | false => exact SidecarRuntime.not_ready_of_child (hend hrecovery).1

/-- A runtime that was started is described by its index. -/
theorem Described.startStopped {state : AppState} {intent : SelectedRuntimeProjection}
    (h : Described env w) (hprojected : projectSelectedRuntime state = .ok intent)
    (secret : Option String) {r : SidecarRuntime P Bytes} (hchild : r.child = none)
    (hinstance : w.instance? = none) :
    Described env (match startStoppedRuntime env w r intent secret with
      | (.started, w) => (ManagedRuntimeStartResult.started, w.installIndex intent)
      | (result, w) => (result, w)).2 := by
  obtain ⟨happlied, hread⟩ := h.down hinstance
  obtain ⟨r', hruns, heq⟩ | ⟨result, w', heq, hresult, hnone, hsame⟩ :=
    startStoppedRuntime_cases env hprojected hchild happlied secret
  · rw [heq]
    exact Described.ready hruns none
  · rw [heq]
    have hdescribed : Described env w' :=
      .of_down hnone fun pool => by rw [hsame]; exact hread pool
    cases result <;> first | exact absurd rfl hresult | exact hdescribed

/-- The worker's `Start` keeps the index that of the owned instance. -/
theorem Described.runStart {state : AppState} {intent : SelectedRuntimeProjection}
    (h : Described env w) (hprojected : projectSelectedRuntime state = .ok intent)
    (shuttingDown : Bool) (created : Option P) (secret : Option String) :
    Described env (w.runStart env intent shuttingDown created secret).2 := by
  rw [ManagedRuntime.runStart]
  split
  · exact h
  · rw [startRuntime.eq_def]
    cases hruntime : w.runtime with
    | none =>
      cases created with
      | none => exact h.record (by simp)
      | some port =>
        exact h.startStopped hprojected secret rfl (by rw [instance?, hruntime]; rfl)
    | some active =>
      dsimp only
      cases hlifecycle : active.lifecycle with
      | ready => exact h
      | recoveryRequired => exact h.record (by simp)
      | stopped =>
        have hchild := SidecarRuntime.child_of_stopped hlifecycle
        exact h.startStopped hprojected secret hchild (by rw [instance?, hruntime]; exact hchild)

/-- The worker's `Stop`, unless it loses the child of a readback. -/
theorem Described.runStop (h : Described env w)
    (hlost : (∃ r, w.runtime = some r ∧ r.losesToStop env.port) → w.NoReadback) :
    Described env (w.runStop env.port).2 := by
  have hstopped : Described env (w.record .managedStopped).clearIndex :=
    .cleared (h.record (by simp)).indexed
  rw [ManagedRuntime.runStop, stopRuntime.eq_def]
  cases hruntime : w.runtime with
  | none => exact hstopped
  | some r =>
    dsimp only
    cases r.lifecycle with
    | stopped => exact hstopped
    | ready | recoveryRequired =>
      dsimp only
      cases hstop : r.stop env.port with
      | mk result r' =>
        cases result with
        | ok =>
          refine .cleared (.of_none ?_)
          rw [applied_record]
          rfl
        | error e =>
          refine ⟨.of_none (applied_failure _ (by simp) _), ?_⟩
          cases (SidecarRuntime.stop_error hstop).2 with
          | inl hchild => exact h.readbacks.withChild hruntime hchild
          | inr hloses => exact .of_none (hlost ⟨r, hruntime, hloses⟩)

/-- A sample, unless it ends the child of a readback. -/
theorem Described.sampleRuntime (h : Described env w) (a : SampleAnswers)
    (hlost : (∃ r, w.runtime = some r ∧ r.lifecycle = .ready ∧ a.observation = none ∧
      r.stopsChild env.port) → w.NoReadback) :
    Described env (w.sampleRuntime env.port a) := by
  rw [sampleRuntime.eq_def]
  cases hruntime : w.runtime with
  | none => exact h
  | some r =>
    dsimp only
    split
    · exact h
    · next hready =>
      have hready : r.lifecycle = .ready := not_not.mp hready
      cases hobservation : a.observation with
      | some observation => exact h.record (by simp)
      | none =>
        have hread : ∀ r' : SidecarRuntime P Bytes, (r'.child = r.child ∨ r.stopsChild env.port) →
            (w.withRuntime r').ReadbacksCurrent := by
          intro r' hends
          cases hends with
          | inl hchild => exact h.readbacks.withChild hruntime hchild
          | inr hends => exact .of_none (hlost ⟨r, hruntime, hready, hobservation, hends⟩)
        dsimp only
        rw [SidecarRuntime.recoverActiveFailure]
        cases hstop : r.stop env.port with
        | mk result r' =>
          cases result with
          | ok =>
            obtain ⟨hchild, -, -, hends⟩ := SidecarRuntime.stop_ok hstop
            have hdown := mt observedLifecycle_ready.mp (SidecarRuntime.not_ready_of_child hchild)
            refine ⟨.of_none (applied_failure _ hdown _), hread r' ?_⟩
            cases hold : r.child with
            | none => exact .inl hchild
            | some child => exact .inr (hends (by rw [hold]; rfl))
          | error e =>
            refine ⟨.of_none (applied_failure _ (by simp) _), hread r' ?_⟩
            exact (SidecarRuntime.stop_error hstop).2.imp_right
              SidecarRuntime.stopsChild_of_losesToStop

/-! ## Activations -/

/-- A call of the runtime failed: with the child of before, stopped, or without readbacks. -/
theorem Described.failure (h : Described env w) (hw : w.runtime = some r)
    (hsame : r'.lifecycle = .ready → r.Same r')
    (hread : r'.child = r.child ∨ r'.lifecycle = .stopped ∨ w.NoReadback)
    (failure : ManagedRuntimeFailure) :
    Unsettled env ((w.withRuntime r').record
      (.managedFailure (some (observedLifecycle r'.lifecycle)) failure)) := by
  refine ⟨h.indexed.failure hw hsame failure, ?_⟩
  rcases hread with hchild | hstopped | hnone
  · exact .inr (h.readbacks.withChild hw hchild)
  · exact .inl (decide_eq_true hstopped)
  · exact .inr (.of_none hnone)

/-- A failed commit: what was prepared is not ready any more, and its child is the one of before
unless it was stopped or lost. -/
theorem Described.failedCommit (h : Described env w) (hw : w.runtime = some r)
    (hcandidate : r.candidate.isSome) {e : SidecarError}
    (hcommit : r.commitPrepared env.port = (.error e, r'))
    (hlost : r.losesToCommit env.port = true → w.NoReadback) (failure : ManagedRuntimeFailure) :
    Unsettled env ((w.withRuntime r').record
      (.managedFailure (some (observedLifecycle r'.lifecycle)) failure)) := by
  refine h.failure hw (fun hready => absurd hready ?_) ?_ failure
  · cases hrecovery : r'.recoveryRequired with
    | true => exact SidecarRuntime.not_ready_of_recovery hrecovery
    | false =>
      have hend := (SidecarRuntime.commitPrepared_error hcommit hcandidate).2 hrecovery
      exact SidecarRuntime.not_ready_of_child hend.1
  · obtain hchild | hstopped | hloses | hnone :=
      SidecarRuntime.commitPrepared_error_child hcommit hcandidate
    · exact .inl hchild
    · exact .inr (.inl hstopped)
    · exact .inr (.inr (hlost hloses))
    · exact .inr (.inr (h.readbacks.noReadback (by rw [instance?, hw]; exact hnone)))

/-- A cancelled preparation leaves the instance as it was, or in recovery. -/
theorem Described.cancel (h : Described env w) (hw : w.runtime = some r) (op : String)
    {next : ManagedRuntime P Bytes → ActivationResult × ManagedRuntime P Bytes}
    (hnext : ∀ w, Described env w → Described env (settleActivation p (next w)).2) :
    Described env (settleActivation p (w.cancelThen env.port r op next)).2 := by
  rw [cancelThen]
  cases hcancel : r.cancelPrepared env.port with
  | mk result r' =>
    cases result with
    | ok =>
      obtain ⟨-, hchild, hactive, hrecovery⟩ := SidecarRuntime.cancelPrepared_ok hcancel
      exact hnext _ (h.withSame hw ⟨hchild, hactive, hrecovery⟩)
    | error e =>
      obtain ⟨-, hchild, hrecovery, -⟩ := SidecarRuntime.cancelPrepared_error hcancel
      have hfailure := h.failure hw
        (fun hready => absurd hready (SidecarRuntime.not_ready_of_recovery hrecovery))
        (.inl hchild) (activationFailure r'.lifecycle e).2.2
      exact (hfailure.switchPhase _ _ _).settle

/-- The part of an activation after the state was persisted. -/
theorem Described.replaceInstance {state : AppState} {secret : Option String}
    {request : ActivationRequest Bytes} {before : SidecarRuntime P Bytes} (h : Described env w)
    (hw : w.runtime = some r)
    (hprojected : projectSelectedRuntime state = .ok request.plan.projection)
    (hcompiled : compileProjection env request.plan.projection secret = some request.config)
    (hprepared : before.prepareReplacement env.port request.config = (.ok (), r))
    (hlost : r.losesToCommit env.port = true → w.NoReadback) :
    Described env
      (settleActivation request.plan.projection (w.replaceInstance env.port r request)).2 := by
  rw [ManagedRuntime.replaceInstance]
  cases hcommit : r.commitPrepared env.port with
  | mk result r' =>
    cases result with
    | ok =>
      have hruns := runs_of_commit hprojected hcompiled hprepared hcommit
      dsimp only
      split <;> exact Described.ready hruns _
    | error e =>
      have hcandidate := (SidecarRuntime.prepareReplacement_ok hprepared).1
      have hphases := (h.switchPhase request.operationId .persisted none).switchPhase
        request.operationId .applying none
      have hfailure := hphases.failedCommit hw (by rw [hcandidate]; rfl) hcommit hlost
        (activationFailure r'.lifecycle e).2.2
      exact (hfailure.switchPhase _ _ _).settle

/-- `apply_activation` and what the worker does with its result, unless it loses the child of a
readback. -/
theorem Described.applyActivation {state : AppState} {secret : Option String}
    {request : ActivationRequest Bytes} (h : Described env w) (hw : w.runtime = some r)
    (hprojected : projectSelectedRuntime state = .ok request.plan.projection)
    (hcompiled : compileProjection env request.plan.projection secret = some request.config)
    (a : CommitAnswers) (disk : AppState)
    (hlost : ∀ r', r.prepareReplacement env.port request.config = (.ok (), r') →
      a.cancelled = false → (persistActivation request.plan a disk).1 = .ok true →
      r'.losesToCommit env.port = true → w.NoReadback) :
    Described env (settleActivation request.plan.projection
      (w.applyActivation env.port r request a disk).1).2 := by
  rw [ManagedRuntime.applyActivation]
  have hchecking := h.switchPhase request.operationId .checking none
  cases hprepare : r.prepareReplacement env.port request.config with
  | mk result prepared =>
    cases result with
    | error e =>
      have hfailure := hchecking.failure hw (SidecarRuntime.prepareReplacement_same_of_ready hprepare)
        (.inl (SidecarRuntime.prepareReplacement_error hprepare).2.1)
        (activationFailure prepared.lifecycle e).2.2
      exact (hfailure.switchPhase _ _ _).settle
    | ok =>
      have hprepared := (hchecking.withSame hw (SidecarRuntime.prepareReplacement_same hprepare)).switchPhase
        request.operationId .prepared none
      dsimp only
      split
      · exact hprepared.cancel rfl _ fun w hw => ((hw.switchPhase _ _ _).unsettled).settle
      · next hcancelled =>
        have hcancelled : a.cancelled = false := by simpa using hcancelled
        cases hpersist : persistActivation request.plan a disk with
        | mk persisted after =>
          have hlost := hlost prepared hprepare hcancelled
          rw [hpersist] at hlost
          cases persisted with
          | error e =>
            exact hprepared.cancel rfl _ fun w hw =>
              (((hw.record (by simp)).switchPhase _ _ _).unsettled).settle
          | ok goesOn =>
            cases goesOn with
            | false =>
              exact hprepared.cancel rfl _ fun w hw => ((hw.switchPhase _ _ _).unsettled).settle
            | true =>
              exact hprepared.replaceInstance rfl hprojected hcompiled hprepare (hlost rfl)

/-- The runtime that a call works on: the one there is, or a new one. -/
theorem Described.withOwned (h : Described env w) {created : Option P}
    (hr : w.runtime.or (created.map .newObservationOnly) = some r) :
    Described env (w.withRuntime r) := by
  cases hw : w.runtime with
  | some active =>
    rw [hw] at hr
    cases hr
    exact h.withSame hw ⟨rfl, rfl, rfl⟩
  | none =>
    obtain ⟨happlied, hread⟩ := h.down (by rw [instance?, hw]; rfl)
    exact .of_down happlied hread

/-- An activation gets as far as its commit, with this runtime. -/
structure Commits (env : RuntimeEnv P Bytes Value) (w : ManagedRuntime P Bytes)
    (request : ActivationRequest Bytes) (created : Option P) (a : CommitAnswers) (disk : AppState)
    (prepared : SidecarRuntime P Bytes) : Prop where
  prepares : ∃ r, w.runtime.or (created.map .newObservationOnly) = some r ∧
    r.prepareReplacement env.port request.config = (.ok (), prepared)
  goesOn : a.cancelled = false
  persists : (persistActivation request.plan a disk).1 = .ok true

/-- The worker's `Activate`, unless it loses the child of a readback. -/
theorem Described.runActivation {state : AppState} {secret : Option String}
    {request : ActivationRequest Bytes} (h : Described env w)
    (hprojected : projectSelectedRuntime state = .ok request.plan.projection)
    (hcompiled : compileProjection env request.plan.projection secret = some request.config)
    (created : Option P) (a : CommitAnswers) (disk : AppState)
    (hlost : ∀ prepared, Commits env w request created a disk prepared →
      prepared.losesToCommit env.port = true → w.NoReadback) :
    Described env (w.runActivation env.port request created a disk).1.2 := by
  have hqueued := h.switchPhase request.operationId .queued none
  rw [ManagedRuntime.runActivation]
  dsimp only
  split
  · exact hqueued.switchPhase _ _ _
  · next r hr =>
    exact (hqueued.withOwned hr).applyActivation rfl hprojected hcompiled a disk
      fun prepared hprepared hgoes hpersists =>
        hlost prepared ⟨⟨r, hr, hprepared⟩, hgoes, hpersists⟩

/-! ## Saved documents -/

/-- A document save gets as far as its commit, with this projection and this runtime. -/
inductive Applies (env : RuntimeEnv P Bytes Value) (w : ManagedRuntime P Bytes) (id : String)
    (a : DocumentAnswers P) (disk : AppState) :
    SelectedRuntimeProjection → SidecarRuntime P Bytes → Prop
  | mk {prepared : PreparedDocumentSave} {p : SelectedRuntimeProjection} {config : Bytes}
      {r r' : SidecarRuntime P Bytes} (read : a.prepared = .ok prepared)
      (projected : projectSelectedRuntime prepared.next = .ok p)
      (compiled : compileProjection env p a.secret = some config)
      (owned : w.runtime.or (a.created.map .newObservationOnly) = some r)
      (prepares : r.prepareReplacement env.port config = (.ok (), r'))
      (commits : (commitDocument prepared a disk).1 = .ok ())
      (inTime : a.lateAfterPrepare = false ∧ a.lateAfterCheck = false ∧ a.shuttingDown = false ∧
        a.lateAfterCommit = false)
      (needed : prepared.requiresApply = true ∨
        prepared.next.activeSubscriptionId.any (·.val = id) = true ∧
          w.runsSelected id prepared.next.activeConfigurationGeneration = false) :
      Applies env w id a disk p r'

/-- Loading the state again, after a save that was applied, leaves no index and no readback of
another instance: what it loads has another generation or the same index; and if it fails, no
readback is held, and an index that is held has another generation or is the same. -/
def ReloadAgrees (w : ManagedRuntime P Bytes) (p : SelectedRuntimeProjection)
    (reloaded : Except LoadRuntimeIntentError AppState) : Prop :=
  match loadRuntimeIntent reloaded with
  | .ok loaded => loaded.selectedGeneration = p.selectedGeneration →
      AppliedRoutingIndex.fromProjection loaded = .fromProjection p
  | .error _ => w.NoReadback ∧ ∀ index, w.appliedRoutingIndex = some index →
      index.configurationGeneration = p.selectedGeneration → index = .fromProjection p

/-- A document save that is not applied: a stopped runtime loses its index. -/
theorem Unsettled.document (h : Unsettled env w) (reloaded : Except LoadRuntimeIntentError AppState)
    {result : DocumentSaveResult}
    (hresult : ∀ revision op generation, result ≠ .ok revision (.ready op generation)) :
    Described env (settleDocument reloaded (result, w)).2 := by
  cases result with
  | error op e => exact h.settle
  | ok revision apply =>
    cases apply with
    | notRequired => exact h.settle
    | failed op generation e => exact h.settle
    | ready op generation => exact absurd rfl (hresult revision op generation)

/-- A document save that was applied, once the state is loaded again. -/
theorem Described.applied (hr : r.RunsProjection env p) (op : Option String)
    {reloaded : Except LoadRuntimeIntentError AppState} (hreload : w.ReloadAgrees p reloaded)
    (revision id : String) (generation : UInt64) :
    Described env (settleDocument reloaded
      (.ok revision (.ready id generation), w.becomeReady r p op)).2 := by
  have happlied : (w.becomeReady r p op).observations.appliedConfigurationGeneration =
      some p.selectedGeneration := applied_record _ _
  rw [settleDocument]
  rw [ReloadAgrees] at hreload
  cases hload : loadRuntimeIntent reloaded with
  | ok loaded =>
    rw [hload] at hreload
    refine ⟨fun applied h => ⟨r, p, rfl, hr, Option.some.inj (happlied.symm.trans h), ?_⟩,
      .of_none fun _ => rfl⟩
    intro index hindex hgeneration
    cases hindex
    exact hreload (hgeneration.trans (Option.some.inj (h.symm.trans happlied)))
  | error e =>
    rw [hload] at hreload
    refine ⟨fun applied h => ⟨r, p, rfl, hr, Option.some.inj (happlied.symm.trans h), ?_⟩,
      .of_none hreload.1⟩
    intro index hindex hgeneration
    exact hreload.2 index hindex (hgeneration.trans (Option.some.inj (h.symm.trans happlied)))

/-- A save that is given up leaves the instance as it was, or in recovery. -/
theorem Described.cancelDocument (h : Described env w) (hw : w.runtime = some r) (op : String)
    (error : DocumentSaveError) (reloaded : Except LoadRuntimeIntentError AppState) :
    Described env (settleDocument reloaded (w.cancelDocument env.port r op error)).2 := by
  rw [ManagedRuntime.cancelDocument]
  cases hcancel : r.cancelPrepared env.port with
  | mk result r' =>
    cases result with
    | ok =>
      obtain ⟨-, hchild, hactive, hrecovery⟩ := SidecarRuntime.cancelPrepared_ok hcancel
      have hsame := h.withSame hw ⟨hchild, hactive, hrecovery⟩
      exact ((hsame.switchPhase _ _ _).unsettled).document reloaded (by simp)
    | error e =>
      obtain ⟨-, hchild, -, -⟩ := SidecarRuntime.cancelPrepared_error hcancel
      have hrecover : Unsettled env (w.withRuntime r').recoverDocument :=
        ⟨.of_none (applied_failure _ (by simp) _), .inr (h.readbacks.withChild hw hchild)⟩
      exact (hrecover.switchPhase _ _ _).document reloaded (by simp)

/-- A document that was committed too late. -/
theorem Described.timeOutDocument (h : Described env w) (hw : w.runtime = some r) (op : String)
    (generation : UInt64) :
    Unsettled env (w.timeOutDocument env.port r op generation).2 ∧
      ∀ id generation', (w.timeOutDocument env.port r op generation).1 ≠ .ready id generation' := by
  rw [ManagedRuntime.timeOutDocument]
  cases hcancel : r.cancelPrepared env.port with
  | mk result r' =>
    cases result with
    | ok =>
      obtain ⟨-, hchild, hactive, hrecovery⟩ := SidecarRuntime.cancelPrepared_ok hcancel
      have hsame := h.withSame hw ⟨hchild, hactive, hrecovery⟩
      exact ⟨(hsame.switchPhase _ _ _).unsettled, by simp⟩
    | error e =>
      obtain ⟨-, hchild, -, -⟩ := SidecarRuntime.cancelPrepared_error hcancel
      have hrecover : Unsettled env (w.withRuntime r').recoverDocument :=
        ⟨.of_none (applied_failure _ (by simp) _), .inr (h.readbacks.withChild hw hchild)⟩
      exact ⟨hrecover.switchPhase _ _ _, by simp⟩

/-- The part of a document save after the document was committed. -/
theorem Described.replaceDocument {state : AppState} {secret : Option String} {config : Bytes}
    {before : SidecarRuntime P Bytes} (h : Described env w) (hw : w.runtime = some r)
    (hprojected : projectSelectedRuntime state = .ok p)
    (hcompiled : compileProjection env p secret = some config)
    (hprepared : before.prepareReplacement env.port config = (.ok (), r)) (op : String)
    {late : Bool} {reloaded : Except LoadRuntimeIntentError AppState}
    (hlost : late = false → r.losesToCommit env.port = true → w.NoReadback)
    (hreload : late = false → (r.commitPrepared env.port).1 = .ok () → w.ReloadAgrees p reloaded)
    (revision : String) :
    Described env (settleDocument reloaded
      (.ok revision (w.replaceDocument env.port r op p state.activeConfigurationGeneration late).1,
        (w.replaceDocument env.port r op p state.activeConfigurationGeneration late).2)).2 := by
  have hpersisted := h.switchPhase op .persisted none
  rw [ManagedRuntime.replaceDocument]
  cases late with
  | true =>
    obtain ⟨hend, hresult⟩ :=
      hpersisted.timeOutDocument hw op state.activeConfigurationGeneration
    exact hend.document reloaded fun _ id generation heq =>
      hresult id generation (DocumentSaveResult.ok.inj heq).2
  | false =>
    have happlying := hpersisted.switchPhase op .applying none
    dsimp only
    rw [if_neg Bool.false_ne_true]
    cases hcommit : r.commitPrepared env.port with
    | mk result r' =>
      cases result with
      | ok =>
        have hruns := runs_of_commit hprojected hcompiled hprepared hcommit
        have hgeneration : { p with selectedGeneration := state.activeConfigurationGeneration } = p := by
          rw [← (projectSelectedRuntime_ok hprojected).2.2.1]
        have hreload : ((w.switchPhase op .persisted none).switchPhase op .applying none).ReloadAgrees
            p reloaded := hreload rfl (by rw [hcommit])
        dsimp only
        rw [hgeneration]
        exact Described.applied hruns _ hreload revision op _
      | error e =>
        have hcandidate := (SidecarRuntime.prepareReplacement_ok hprepared).1
        have hfailure := happlying.failedCommit hw (by rw [hcandidate]; rfl) hcommit (hlost rfl)
          (documentFailure r'.lifecycle e).2.2
        exact (hfailure.switchPhase _ _ _).document reloaded fun _ _ _ heq => by
          cases (DocumentSaveResult.ok.inj heq).2

/-- The part of a document save with a configuration and a runtime. -/
theorem Described.switchDocument {prepared : PreparedDocumentSave} {config : Bytes}
    {a : DocumentAnswers P} {disk : AppState} (h : Described env w) (hw : w.runtime = some r)
    (hprojected : projectSelectedRuntime prepared.next = .ok p)
    (hcompiled : compileProjection env p a.secret = some config) (op : String)
    (hcommits : ∀ r', r.prepareReplacement env.port config = (.ok (), r') →
      a.lateAfterCheck = false → a.shuttingDown = false →
      (commitDocument prepared a disk).1 = .ok () → a.lateAfterCommit = false →
      (r'.losesToCommit env.port = true → w.NoReadback) ∧
        ((r'.commitPrepared env.port).1 = .ok () → w.ReloadAgrees p a.reloaded)) :
    Described env (settleDocument a.reloaded
      (w.switchDocument env.port r op p config prepared a disk).1).2 := by
  rw [ManagedRuntime.switchDocument]
  cases hprepare : r.prepareReplacement env.port config with
  | mk result r' =>
    cases result with
    | error e =>
      have hchild := (SidecarRuntime.prepareReplacement_error hprepare).2.1
      dsimp only
      split
      · have hrecover : Unsettled env (w.withRuntime r').recoverDocument :=
          ⟨.of_none (applied_failure _ (by simp) _), .inr (h.readbacks.withChild hw hchild)⟩
        exact (hrecover.switchPhase _ _ _).document a.reloaded (by simp)
      · next hrecovery =>
        have hindexed : Indexed env (w.withRuntime r') := by
          by_cases hready : r'.lifecycle = .ready
          · exact h.indexed.withSame hw
              (SidecarRuntime.prepareReplacement_same_of_ready hprepare hready)
          · refine .of_none (h.indexed.applied_none fun r₀ hr₀ hready₀ => hready ?_)
            obtain rfl := Option.some.inj (hw.symm.trans hr₀)
            exact SidecarRuntime.ready_of_prepare_error hprepare hready₀ hrecovery
        have hkept : Unsettled env (w.withRuntime r') :=
          ⟨hindexed, .inr (h.readbacks.withChild hw hchild)⟩
        exact (hkept.switchPhase _ _ _).document a.reloaded (by simp)
    | ok =>
      have hprepared := (h.withSame hw (SidecarRuntime.prepareReplacement_same hprepare)).switchPhase
        op .prepared none
      dsimp only
      split
      · exact hprepared.cancelDocument rfl op _ a.reloaded
      · next hgoes =>
        obtain ⟨hlate, hdown⟩ : a.lateAfterCheck = false ∧ a.shuttingDown = false := by
          simpa using hgoes
        have hcommits := hcommits r' hprepare hlate hdown
        cases hcommit : commitDocument prepared a disk with
        | mk committed after =>
          rw [hcommit] at hcommits
          cases committed with
          | error e => exact hprepared.cancelDocument rfl op _ a.reloaded
          | ok =>
            exact hprepared.replaceDocument rfl hprojected hcompiled hprepare op
              (fun hlate => (hcommits rfl hlate).1) (fun hlate => (hcommits rfl hlate).2) _

/-- The worker's `SaveDocument`, unless it loses the child of a readback or loads the state of
another projection. -/
theorem Described.runDocumentSave (h : Described env w) (id op : String) (a : DocumentAnswers P)
    (disk : AppState)
    (hcommits : ∀ p r', Applies env w id a disk p r' →
      (r'.losesToCommit env.port = true → w.NoReadback) ∧
        ((r'.commitPrepared env.port).1 = .ok () → w.ReloadAgrees p a.reloaded)) :
    Described env (w.runDocumentSave env id op a disk).1.2 := by
  rw [ManagedRuntime.runDocumentSave, applyDocumentSave.eq_def]
  cases hread : a.prepared with
  | error e => exact h.unsettled.document a.reloaded (by simp)
  | ok prepared =>
    dsimp only
    split
    · exact h.unsettled.document a.reloaded (by simp)
    · next hlate =>
      split
      · cases commitDocument prepared a disk with
        | mk committed after =>
          cases committed <;> exact h.unsettled.document a.reloaded (by simp)
      · next hneeded =>
        have hphases := (h.switchPhase op .queued none).switchPhase op .checking none
        have hgivenUp : ∀ error, Described env (settleDocument a.reloaded
            ((w.switchPhases op [.queued, .checking]).failedDocumentSwitch op error)).2 :=
          fun error => ((hphases.switchPhase _ _ _).unsettled).document a.reloaded (by simp)
        cases hprojected : projectSelectedRuntime prepared.next with
        | error e => exact hgivenUp _
        | ok p =>
          dsimp only
          cases hcompiled : compileProjection env p a.secret with
          | none => exact hgivenUp _
          | some config =>
            dsimp only
            split
            · exact hgivenUp _
            · next r howned =>
              refine (hphases.withOwned howned).switchDocument rfl hprojected hcompiled op ?_
              intro r' hprepares hcheck hdown hcommit hcommitted
              refine hcommits p r' (.mk hread hprojected hcompiled howned hprepares hcommit
                ⟨by simpa using hlate, hcheck, hdown, hcommitted⟩ ?_)
              cases hrequires : prepared.requiresApply with
              | true => exact .inl rfl
              | false =>
                rw [hrequires] at hneeded
                refine .inr ?_
                cases hselected : prepared.next.activeSubscriptionId.any (·.val = id) <;>
                  simp_all

/-! ## Selectors -/

/-- A selector is forgotten, or read back from the owned child. -/
theorem Described.reconcileManualSelection (h : Described env w) (pool : PoolId) (node : NodeId)
    (a : SelectorAnswers) : Described env (w.reconcileManualSelection pool node a).2 := by
  have hindexed : ∀ nodes readFrom, Indexed env
      { w with selectorRuntimeNodes := nodes, readFrom := readFrom } := by
    intro nodes readFrom generation happlied
    obtain ⟨r, p, hp⟩ := h.indexed generation happlied
    exact ⟨r, p, hp.runtime, hp.runs, hp.generation, hp.index⟩
  have hforget : Described env (w.forgetSelector pool) := by
    refine ⟨hindexed _ _, fun p node hnode => ?_⟩
    rw [forgetSelector] at hnode
    dsimp only at hnode
    split at hnode
    · cases hnode
    · exact h.readbacks p node hnode
  rw [ManagedRuntime.reconcileManualSelection.eq_def]
  cases hruntime : w.runtime with
  | none => exact h
  | some r =>
    dsimp only
    cases hlifecycle : r.lifecycle with
    | stopped => exact h
    | recoveryRequired => exact h
    | ready =>
      obtain ⟨child, hchild⟩ := SidecarRuntime.child_of_ready hlifecycle
      have hinstance : w.instance? = some child := by rw [instance?, hruntime]; exact hchild
      have hread : ∀ node, Described env (w.readBack pool node) := by
        intro node
        refine ⟨hindexed _ _, fun p node hnode => ?_⟩
        rw [readBack] at hnode ⊢
        dsimp only at hnode ⊢
        split at hnode
        · next heq => exact ⟨child, hinstance, by rw [if_pos heq, hinstance]⟩
        · next hne =>
          obtain ⟨owned, howned, hfrom⟩ := h.readbacks p node hnode
          exact ⟨owned, howned, by rw [if_neg hne, hfrom]⟩
      dsimp only
      split
      · exact h
      · cases w.currentIndex with
        | none => exact h
        | some index =>
          dsimp only
          repeat' split
          all_goals first
            | exact h
            | exact hforget
            | skip
          rw [classifySelectorReadBack]
          split
          · exact hforget
          · exact hread _

end Calls

/-! ## Runs -/

/-- The branches that leave something of an instance that is gone, and when they do no harm.  A
failed sample stops the instance; a stop, an activation or a document save can stop it and then
fail on a clean-up: none of them clears the readbacks.  A save that was applied relies on loading
the state again. -/
def Careful (env : RuntimeEnv P Bytes Value) (w : ManagedRuntime P Bytes) :
    RuntimeEvent P → Prop
  | .stop => (∃ r, w.runtime = some r ∧ r.losesToStop env.port) → w.NoReadback
  | .sample a => (∃ r, w.runtime = some r ∧ r.lifecycle = .ready ∧ a.observation = none ∧
      r.stopsChild env.port) → w.NoReadback
  | .activate attempt created a disk => ∀ request, w.sends env attempt = some request →
      ∀ prepared, Commits env w request created a disk prepared →
        prepared.losesToCommit env.port = true → w.NoReadback
  | .saveDocument id _ a disk => ∀ p prepared, Applies env w id a disk p prepared →
      (prepared.losesToCommit env.port = true → w.NoReadback) ∧
        ((prepared.commitPrepared env.port).1 = .ok () → w.ReloadAgrees p a.reloaded)
  | .start .. | .queue _ | .refuse _ | .selectManually .. | .unanswered | .tick _ => True

section Runs

variable {env : RuntimeEnv P Bytes Value} {w w' : ManagedRuntime P Bytes}

/-- At the start there is no index. -/
theorem Described.new : Described env (.new : ManagedRuntime P Bytes) :=
  .of_down rfl fun _ => rfl

/-- What is not the runtime, the index, a readback or an applied generation does not matter. -/
theorem Described.withTerminal (h : Described env w) (terminal : Option RoutingApplyTerminal) :
    Described env { w with routingApplyTerminal := terminal } := by
  refine ⟨fun generation happlied => ?_, h.readbacks⟩
  obtain ⟨r, p, hp⟩ := h.indexed generation happlied
  exact ⟨r, p, hp.runtime, hp.runs, hp.generation, hp.index⟩

/-- Time does not count. -/
theorem Described.withNow (h : Described env w) (now : UInt64) :
    Described env { w with now } := by
  refine ⟨fun generation happlied => ?_, h.readbacks⟩
  obtain ⟨r, p, hp⟩ := h.indexed generation happlied
  exact ⟨r, p, hp.runtime, hp.runs, hp.generation, hp.index⟩

/-- The calling thread's `start`, with the worker's part. -/
theorem Described.start (h : Described env w)
    (loaded : Except LoadRuntimeIntentError AppState) (shuttingDown : Bool) (created : Option P)
    (secret : Option String) : Described env (w.start env loaded shuttingDown created secret).2 := by
  rw [ManagedRuntime.start]
  cases hload : loadRuntimeIntent loaded with
  | error e =>
    cases e with
    | busy => exact h
    | unavailable => exact h.record (by simp)
    | selectionRequired => exact h
    | configuration => exact h
  | ok intent =>
    obtain ⟨state, -, hload⟩ := ok_bind.mp hload
    obtain ⟨-, hload⟩ := ok_seq.mp hload
    exact h.runStart (mapError_eq_ok.mp hload) shuttingDown created secret

/-- What the calling thread of a refused activation records. -/
theorem Described.refuse (h : Described env w) (call : ActivationCall) (error : ActivationError)
    (observed : Option AppState) : Described env (w.refuse call error observed).2 := by
  rw [ManagedRuntime.refuse, recordRefusal]
  split
  · exact ((h.withTerminal _).switchPhase _ _ _).switchPhase _ _ _
  · exact h

/-- **Step lemma.**  Every event keeps the index and the readbacks those of the owned instance. -/
theorem Described.step {e : RuntimeEvent P} (h : Described env w) (hcareful : Careful env w e)
    (hstep : ManagedRuntime.step env w e = some w') : Described env w' := by
  cases e with
  | start loaded shuttingDown created secret =>
    cases hstep
    exact h.start loaded shuttingDown created secret
  | stop =>
    cases hstep
    exact h.runStop hcareful
  | queue attempt =>
    obtain ⟨expected, -, rfl⟩ := Option.map_eq_some_iff.mp hstep
    rw [queueRouting]
    split
    · exact (h.withTerminal _).switchPhase _ _ _
    · exact h
  | refuse attempt =>
    obtain ⟨failure, -, rfl⟩ := Option.map_eq_some_iff.mp hstep
    exact h.refuse _ _ _
  | activate attempt created a disk =>
    obtain ⟨request, hsends, rfl⟩ := Option.map_eq_some_iff.mp hstep
    obtain ⟨expected, -, hsent⟩ := sends_eq_some hsends
    obtain ⟨hplan, -, hcompiled, -⟩ := preflight_send hsent
    exact h.runActivation (planActivation_ok hplan).2.2.1 hcompiled created a disk
      (hcareful request hsends)
  | selectManually pool node a =>
    cases hstep
    exact h.reconcileManualSelection pool node a
  | saveDocument id op a disk =>
    cases hstep
    exact h.runDocumentSave id op a disk hcareful
  | sample a =>
    cases hstep
    exact h.sampleRuntime a hcareful
  | unanswered =>
    cases hstep
    exact h.record (by simp)
  | tick now =>
    cases hstep
    exact h.withNow now

end Runs

/-- What the selector index is for: an index of the generation that is observed as applied is that
of the projection of the state whose configuration the owned instance runs, and names groups and
members of that configuration; and every readback was read from the owned instance. -/
structure DescribesInstance (env : RuntimeEnv P Bytes Value) (w : ManagedRuntime P Bytes) :
    Prop where
  index : ∀ index, w.currentIndex = some index →
    ∃ r state p plan config, w.runtime = some r ∧ r.lifecycle = .ready ∧ r.active = some config ∧
      CompiledFrom env config state p plan ∧ index = .fromProjection p ∧ index.NamesGroups plan
  readbacks : w.ReadbacksCurrent

/-- An index that is right describes the instance. -/
theorem Described.describesInstance {env : RuntimeEnv P Bytes Value} {w : ManagedRuntime P Bytes}
    (h : Described env w) : w.DescribesInstance env := by
  refine ⟨fun index hindex => ?_, h.readbacks⟩
  obtain ⟨hheld, happlied⟩ := Option.filter_eq_some_iff.mp hindex
  obtain ⟨r, p, hp⟩ := h.indexed _ (of_decide_eq_true happlied)
  obtain ⟨hready, state, plan, config, hcompiled, hactive⟩ := hp.runs
  have hsame := hp.index index hheld rfl
  refine ⟨r, state, p, plan, config, hp.runtime, hready, hactive, hcompiled, hsame, ?_⟩
  rw [hsame]
  exact AppliedRoutingIndex.fromProjection_namesGroups hcompiled.compiled

/-- **The selector index describes the running instance.**  After every run whose steps are all
careful, an index of the applied generation is that of the configuration that the owned instance
runs, and every readback was read from that instance. -/
theorem selector_index_describes (env : RuntimeEnv P Bytes Value) (events : List (RuntimeEvent P))
    (w : ManagedRuntime P Bytes) (run : Runs (step env) (Careful env) .new events w) :
    w.DescribesInstance env :=
  Described.describesInstance
    (run.invariant (Described env) .new fun _ _ _ h hcareful hstep => h.step hcareful hstep)

/-! ## A readback that outlives its instance -/

/-- `socksBody` with a line break at its end. -/
def editedBody : String := socksBody ++ "\n"

/-- Readers for both bodies, and a revision for each. -/
def editEnv : SubscriptionEnv :=
  let read := fun content => if content = socksBody ∨ content = editedBody then some socksTree else none
  { socksEnv with
    readers := ⟨read, read, read⟩
    revisionFor := fun _ content =>
      String.ofList (List.replicate 64 (if content = socksBody then 'a' else 'b')) }

def officeNode : ProxyNode := .ofDraft editEnv.text ⟨"provider"⟩ socksDraft

/-- One subscription with one node, and a pool in which that node is chosen by hand. -/
def pooledState : AppState :=
  { AppState.empty with
    activeSubscriptionId := some ⟨"sub"⟩
    activeConfigurationGeneration := 1
    subscriptions := [{ id := ⟨"sub"⟩, name := "sub", description := "", source := .manual
                        lastSuccessAtMs := none, lastAttemptAtMs := none, httpMetadata := none
                        remoteRequest := none, updatePolicy := .manual
                        skippedUnsupportedNodes := 0
                        document := some ⟨.json, socksBody, false⟩ }]
    providers := [⟨⟨"provider"⟩, ⟨"sub"⟩, "provider"⟩]
    nodes := [officeNode]
    pools := [{ id := ⟨"pool"⟩, name := "pool", kind := .custom
                sources := [⟨⟨"provider"⟩, .default⟩], selection := .manual (some officeNode.id)
                enabled := true }] }

/-- The save of `editedBody`, which the worker applies; then the gate is busy. -/
def editAnswers : DocumentAnswers UInt64 where
  prepared := prepareDocumentSave editEnv none
    ⟨"sub", .json, editedBody, String.ofList (List.replicate 64 'a')⟩ pooledState
  lateAfterPrepare := false
  secret := some apiSecret
  created := none
  lateAfterCheck := false
  shuttingDown := false
  gate := .ok ()
  closing := false
  saves := true
  lateAfterCommit := false
  reloaded := .error .busy

/-- The identity of the node. -/
theorem officeNode_eq : officeNode = socksNodeOf "provider" "node-c248cf902cced1e0" := by
  decide +kernel

theorem pooledState_eq : pooledState = { pooledState with
    nodes := [socksNodeOf "provider" "node-c248cf902cced1e0"]
    pools := [{ id := ⟨"pool"⟩, name := "pool", kind := .custom
                sources := [⟨⟨"provider"⟩, .default⟩]
                selection := .manual (some ⟨"node-c248cf902cced1e0"⟩), enabled := true }] } := by
  have hpools : pooledState.pools = [{ id := ⟨"pool"⟩, name := "pool", kind := .custom
                                       sources := [⟨⟨"provider"⟩, .default⟩]
                                       selection := .manual (some officeNode.id)
                                       enabled := true }] := rfl
  have hnodes : pooledState.nodes = [officeNode] := rfl
  rw [officeNode_eq] at hpools hnodes
  rw [← hnodes]
  exact congrArg (fun pools => { pooledState with pools }) hpools

/-- The state with `editedBody` in place. -/
def editedState : AppState :=
  { pooledState with
    activeConfigurationGeneration := 2
    subscriptions := [{ id := ⟨"sub"⟩, name := "sub", description := "", source := .manual
                        lastSuccessAtMs := none, lastAttemptAtMs := none, httpMetadata := none
                        remoteRequest := none, updatePolicy := .manual
                        skippedUnsupportedNodes := 0
                        document := some ⟨.json, editedBody, false⟩ }] }

/-- What the save prepares. -/
theorem editAnswers_prepared : editAnswers.prepared =
    .ok ⟨pooledState, editedState, "sub", String.ofList (List.replicate 64 'b'), true, true⟩ := by
  have hparsed : parseDocumentInput editEnv none
      ⟨"sub", .json, editedBody, String.ofList (List.replicate 64 'a')⟩ =
      .ok { format := .json, nodes := [socksDraft], skipped := [] } := by decide +kernel
  have hsaved : (documentSaveOn editEnv
      ⟨"sub", .json, editedBody, String.ofList (List.replicate 64 'a')⟩
      { format := .json, nodes := [socksDraft], skipped := [] } pooledState).map
      (fun p => (p.before, p.next, p.subscriptionId, p.documentRevision, p.requiresApply,
        p.stateChanged)) = .ok (pooledState, editedState, "sub",
          String.ofList (List.replicate 64 'b'), true, true) := by
    rw [editedState, pooledState_eq]
    decide +kernel
  obtain ⟨prepared, hprepared, hfacts⟩ := map_eq_ok.mp hsaved
  cases prepared
  simp only [Prod.mk.injEq] at hfacts
  obtain ⟨rfl, rfl, rfl, rfl, rfl, rfl⟩ := hfacts
  exact ok_bind.mpr ⟨_, hparsed, hprepared⟩

theorem editAnswers_eq : editAnswers = { editAnswers with
    prepared := .ok
      ⟨pooledState, editedState, "sub", String.ofList (List.replicate 64 'b'), true, true⟩ } := by
  rw [← editAnswers_prepared]

/-- The runtime is started, the selector of the pool is read back, and a document is saved. -/
def selectorRun : List (RuntimeEvent UInt64) :=
  [.start (.ok pooledState) false (some 0) (some apiSecret),
   .selectManually ⟨"pool"⟩ officeNode.id ⟨true, true, false, some (nodeTag officeNode.id.val)⟩,
   .saveDocument "sub" "save" editAnswers pooledState]

/-- A document save replaces the instance; loading the state again fails, and the readback of the
first instance is still held beside the second. -/
theorem readback_outlives_instance :
    ∃ w, Runs (step plainEnv) Free .new selectorRun w ∧ ¬ w.DescribesInstance plainEnv := by
  have hrun : (evaluate (step plainEnv) (fun _ _ => true) .new selectorRun).map
      (fun w => (w.selectorRuntimeNodes ⟨"pool"⟩, w.instance?, w.readFrom ⟨"pool"⟩)) =
      some (some officeNode.id, some ⟨2⟩, some ⟨1⟩) := by
    rw [selectorRun, editAnswers_eq, editedState, pooledState_eq, officeNode_eq]
    decide +kernel
  obtain ⟨w, hw, hfacts⟩ := Option.map_eq_some_iff.mp hrun
  simp only [Prod.mk.injEq] at hfacts
  obtain ⟨hnode, hinstance, hread⟩ := hfacts
  refine ⟨w, .of_free hw, fun h => ?_⟩
  obtain ⟨child, hchild, hfrom⟩ := h.readbacks _ _ hnode
  rw [hinstance, Option.some.injEq] at hchild
  rw [hread, Option.some.injEq, ← hchild] at hfrom
  cases hfrom

/-- Starting and reading back are careful in any state. -/
def isCareful : RuntimeEvent P → Bool
  | .start .. | .selectManually .. => true
  | _ => false

/-- The test for the condition of a step. -/
theorem careful_of_isCareful {env : RuntimeEnv P Bytes Value} (w : ManagedRuntime P Bytes)
    (e : RuntimeEvent P) (h : isCareful e = true) : Careful env w e := by
  cases e <;> trivial

/-- The same run without the save. -/
theorem selector_index_describes_started :
    ∃ w, Runs (step plainEnv) (Careful plainEnv) .new (selectorRun.take 2) w ∧
      w.DescribesInstance plainEnv := by
  have hrun : (evaluate (step plainEnv) (fun _ e => isCareful e) .new
      (selectorRun.take 2)).isSome := by decide +kernel
  obtain ⟨w, hw⟩ := Option.isSome_iff_exists.mp hrun
  have run : Runs (step plainEnv) (Careful plainEnv) .new (selectorRun.take 2) w :=
    .of_evaluate careful_of_isCareful hw
  exact ⟨w, run, selector_index_describes plainEnv (selectorRun.take 2) w run⟩

end ManagedRuntime

end Veyra
