import Veyra.Application.CommitEffect
import Veyra.Application.ProxyRouting
import Veyra.Lib.Transition
import Mathlib.Data.List.InsertIdx

/-!
# Veyra.Application.RoutingManager

`ProxyRoutingManager` with its process-local revision: each call takes the
gate, looks at the state on disk and, if the revision is the expected one,
edits it and saves the result.

`mutate` goes as far as the gate is held; `MutateNext` is what the call still
does afterwards.  The state on disk is passed in and comes back as the call
leaves it, and a `RoutingSystem` interleaves such calls with queries and with
the saves of the other managers.

* `MutateEnd` — what one call does to the disk and to the revision;
* `RevisionState.Follows` — what a run does to the revision.
-/

namespace Veyra.ProxyRouting

open Check Transition

/-! ## The manager -/

inductive StateAccessError
  | busy
  | unavailable
deriving DecidableEq, Repr

inductive QueryError
  | busy
  | stateUnavailable
  | runtimeUnavailable
deriving DecidableEq, Repr

/-- The error of `mutation_access_error`. -/
def StateAccessError.toMutationError : StateAccessError → MutationError
  | .busy => .busy
  | .unavailable => .stateUnavailable

/-- `map_query_access`. -/
def StateAccessError.toQueryError : StateAccessError → QueryError
  | .busy => .busy
  | .unavailable => .stateUnavailable

/-- What a call finds: the gate, whether it can look for a snapshot, whether the snapshot loads,
and how a save goes. -/
structure StoreAnswers where
  access : Except StateAccessError Unit
  looks : Bool
  loads : Bool
  saves : Bool

/-- What `ProxyRoutingManager` keeps in memory. -/
structure RoutingManager where
  revisions : RevisionState
  applyTuple : Option (Option String × UInt64)

/-- What `mutate` still has to do when it lets go of the gate. -/
inductive MutateNext
  | error (error : MutationError) (revision : Option UInt64)
  | applyConfiguration (activeId : SubscriptionId) (desiredGeneration revision : UInt64)
  | finishManualSelection (poolId nodeId : String) (state : AppState) (revision : UInt64)
  | buildSnapshot (outcome : MutationOutcome) (state : AppState) (revision : UInt64)

/-- `load_state`: without a snapshot or a backup the state is empty. -/
def loadState (a : StoreAnswers) (disk : Option AppState) : Except MutationError AppState :=
  if !a.looks then .error .stateUnavailable
  else
    match disk with
    | none => .ok .empty
    | some s => if a.loads then .ok s else .error .stateUnavailable

/-- How a mutation that was accepted goes on. -/
def MutationOutcome.next (outcome : MutationOutcome) (state : AppState) (revision : UInt64) :
    MutateNext :=
  match outcome with
  | .selectorSavedOnly poolId nodeId => .finishManualSelection poolId nodeId state revision
  | .saved => .buildSnapshot .saved state revision

namespace RoutingManager

/-- `ProxyRoutingManager::new`. -/
def new : RoutingManager := ⟨⟨0, none⟩, none⟩

/-- `known_revision`. -/
def knownRevision (m : RoutingManager) : Option UInt64 :=
  if 0 < m.revisions.revision then some m.revisions.revision else none

/-- `load_observed`. -/
def loadObserved (m : RoutingManager) (a : StoreAnswers) (disk : Option AppState) :
    Except QueryError (AppState × UInt64) × RoutingManager :=
  match a.access with
  | .error e => (.error e.toQueryError, m)
  | .ok () =>
    match loadState a disk with
    | .error _ => (.error .stateUnavailable, m)
    | .ok s =>
      match m.revisions.observe (.of s) with
      | .error _ => (.error .stateUnavailable, m)
      | .ok observed => (.ok (s, observed.revision), { m with revisions := observed })

/-- The part of `mutate` after the state was saved: the revision of the new material. -/
def commit (m : RoutingManager) (mutation : Mutation) (outcome : MutationOutcome)
    (state : AppState) : MutateNext × RoutingManager :=
  match m.revisions.observe (.of state) with
  | .error e => (.error e (some m.revisions.revision), m)
  | .ok committed =>
    (outcome.next state committed.revision,
      { revisions := committed
        applyTuple := if mutation.isManual then m.applyTuple else none })

/-- `mutate`, while the gate is held.  A mutation that changes nothing goes on with the state that
was loaded. -/
def mutate (env : Env) (m : RoutingManager) (request : MutateRequest) (a : StoreAnswers)
    (disk : Option AppState) : (MutateNext × RoutingManager) × Option AppState :=
  if !(1 ≤ request.expectedRevision && request.expectedRevision ≤ maxSafeInteger) then
    ((.error .invalidInput m.knownRevision, m), disk)
  else
    match a.access with
    | .error e => ((.error e.toMutationError m.knownRevision, m), disk)
    | .ok () =>
      match loadState a disk with
      | .error e => ((.error e m.knownRevision, m), disk)
      | .ok s =>
        match m.revisions.observe (.of s) with
        | .error e => ((.error e m.knownRevision, m), disk)
        | .ok observed =>
          let m := { m with revisions := observed }
          match mutateOn env observed request s with
          | .error e => ((.error e (some observed.revision), m), disk)
          | .ok (.apply activeId generation) =>
            ((.applyConfiguration activeId generation observed.revision, m), disk)
          | .ok (.unchanged outcome) => ((outcome.next s observed.revision, m), disk)
          | .ok (.save next outcome) =>
            if a.saves then (m.commit request.mutation outcome next, some next)
            else ((.error .saveFailed (some observed.revision), m), disk)

/-- The part of `apply_configuration` before the runtime is asked. -/
def trackApply (m : RoutingManager) (activeId : SubscriptionId) (desiredGeneration : UInt64) :
    RoutingManager :=
  { m with applyTuple := some (some activeId.val, desiredGeneration) }

end RoutingManager

/-! ## The system -/

/-- One thing that happens in the process; `commit` is the save of another manager. -/
inductive RoutingEvent
  | mutate (env : Env) (request : MutateRequest) (a : StoreAnswers)
  | query (a : StoreAnswers)
  | trackApply (activeId : SubscriptionId) (desiredGeneration : UInt64)
  | commit (next : AppState)

structure RoutingSystem where
  manager : RoutingManager
  disk : Option AppState

namespace RoutingSystem

/-- The state on disk, as `load_state` reads it. -/
def state (u : RoutingSystem) : AppState := u.disk.getD .empty

def step (u : RoutingSystem) : RoutingEvent → Option RoutingSystem
  | .mutate env request a =>
    let ((_, manager), disk) := u.manager.mutate env request a u.disk
    some { manager, disk }
  | .query a => some { u with manager := (u.manager.loadObserved a u.disk).2 }
  | .trackApply activeId generation =>
    some { u with manager := u.manager.trackApply activeId generation }
  | .commit next => some { u with disk := some next }

end RoutingSystem

/-! ## The revision -/

namespace RevisionState

/-- The revisions after a material was observed: it has a new revision exactly when it is not the
last one that was observed. -/
structure Observed (r : RevisionState) (material : CasMaterial) (r' : RevisionState) : Prop where
  seen : r'.material = some material
  revision : r'.revision.toNat =
    r.revision.toNat + if r.material = some material then 0 else 1

/-- The revisions later in the same process: none is taken back, and none is given to another
material. -/
structure Follows (r r' : RevisionState) : Prop where
  le : r.revision ≤ r'.revision
  names : r'.revision = r.revision → r' = r

/-- **Spec.**  Observing a material. -/
theorem observe_ok {r r' : RevisionState} {material : CasMaterial}
    (h : r.observe material = .ok r') : r.Observed material r' := by
  rw [observe] at h
  split at h
  · next hsame =>
    cases h
    exact ⟨hsame, by rw [if_pos hsame]; rfl⟩
  · next hnew =>
    split at h
    · next hbound =>
      cases h
      refine ⟨rfl, ?_⟩
      have hmax : maxSafeInteger.toNat = 9007199254740991 := rfl
      have hone : (1 : UInt64).toNat = 1 := rfl
      rw [if_neg hnew, UInt64.toNat_add]
      omega
    · cases h

/-- An observed revision follows the one before. -/
theorem Observed.follows {r r' : RevisionState} {material : CasMaterial}
    (h : r.Observed material r') : r.Follows r' := by
  have hrevision := h.revision
  split at hrevision
  · next hsame =>
    have heq : r' = r := by
      have hsame' := h.seen.trans hsame.symm
      have hrevision := UInt64.toNat_inj.mp hrevision
      cases r
      cases r'
      simp_all
    rw [heq]
    exact ⟨UInt64.le_refl _, fun _ => rfl⟩
  · refine ⟨UInt64.le_iff_toNat_le.mpr (by omega), fun heq => ?_⟩
    rw [heq] at hrevision
    omega

theorem Follows.refl (r : RevisionState) : r.Follows r := ⟨UInt64.le_refl _, fun _ => rfl⟩

/-- Revisions follow each other. -/
theorem Follows.trans {r r' r'' : RevisionState} (h : r.Follows r') (h' : r'.Follows r'') :
    r.Follows r'' := by
  refine ⟨UInt64.le_trans h.le h'.le, fun heq => ?_⟩
  have hle := h'.le
  rw [heq] at hle
  have hfirst := h.names (UInt64.le_antisymm hle h.le)
  rw [h'.names (by rw [heq, hfirst]), hfirst]

end RevisionState

/-! ## Ids -/

/-- The ids after a mutation: the one that it creates is new, and no other is. -/
def Mutation.KeepsIds (s t : AppState) : Mutation → Prop
  | .createCustomPool .. =>
    t.routes = s.routes ∧ ∃ id, id ∉ s.pools.map (·.id) ∧
      t.pools.map (·.id) = s.pools.map (·.id) ++ [id]
  | .createRoute _ _ _ _ insertAt =>
    t.pools = s.pools ∧ ∃ id, id ∉ s.routes.map (·.id) ∧
      t.routes.map (·.id) = (s.routes.map (·.id)).insertIdx insertAt id
  | _ => (∀ id ∈ t.pools.map (·.id), id ∈ s.pools.map (·.id)) ∧
      ∀ id ∈ t.routes.map (·.id), id ∈ s.routes.map (·.id)

/-- Priorities are no ids. -/
theorem normalizeFrom_ids {index : Nat} {routes routes' : List RoutePolicy}
    (h : normalizeFrom index routes = .ok routes') :
    routes'.map (·.id) = routes.map (·.id) := by
  induction routes generalizing index routes' with
  | nil =>
    cases h
    rfl
  | cons route routes ih =>
    obtain ⟨-, h⟩ := ok_seq.mp h
    obtain ⟨rest, hrest, h⟩ := ok_bind.mp h
    cases h
    rw [List.map_cons, List.map_cons, ih hrest]

/-- New routes keep the pools, and have the ids that were given. -/
theorem withRoutes_ids {s t : AppState} {routes : List RoutePolicy}
    (h : withRoutes s routes = .ok t) :
    t.pools = s.pools ∧ t.routes.map (·.id) = routes.map (·.id) := by
  obtain ⟨normalized, hnormalized, h⟩ := ok_bind.mp h
  cases h
  exact ⟨rfl, normalizeFrom_ids hnormalized⟩

/-- A route that is taken out is one of the routes. -/
theorem mem_of_takeRoute {id : String} {routes rest : List RoutePolicy} {found : RoutePolicy}
    (h : takeRoute id routes = some (found, rest)) :
    found ∈ routes ∧ ∀ route ∈ rest, route ∈ routes := by
  induction routes generalizing rest with
  | nil => cases h
  | cons first routes ih =>
    rw [takeRoute] at h
    split at h
    · cases h
      exact ⟨List.mem_cons_self, fun route hroute => List.mem_cons_of_mem _ hroute⟩
    · obtain ⟨⟨found', rest'⟩, htake, heq⟩ := Option.map_eq_some_iff.mp h
      cases heq
      obtain ⟨hfound, hrest⟩ := ih htake
      refine ⟨List.mem_cons_of_mem _ hfound, fun route hroute => ?_⟩
      cases List.mem_cons.mp hroute with
      | inl hfirst => rw [hfirst]; exact List.mem_cons_self
      | inr hlater => exact List.mem_cons_of_mem _ (hrest route hlater)

/-- Ordered routes are the routes. -/
theorem mem_of_orderRoutes {ids : List String} {routes ordered : List RoutePolicy}
    (h : orderRoutes ids routes = some ordered) : ∀ route ∈ ordered, route ∈ routes := by
  induction ids generalizing routes ordered with
  | nil =>
    cases h
    exact fun route hroute => absurd hroute List.not_mem_nil
  | cons id ids ih =>
    obtain ⟨⟨found, rest⟩, htake, h⟩ := Option.bind_eq_some_iff.mp h
    obtain ⟨ordered', hordered, h⟩ := Option.bind_eq_some_iff.mp h
    cases h
    obtain ⟨hfound, hrest⟩ := mem_of_takeRoute htake
    intro route hroute
    cases List.mem_cons.mp hroute with
    | inl hfirst => rw [hfirst]; exact hfound
    | inr hlater => exact hrest route (ih hordered route hlater)

/-- A modification keeps what it does not change. -/
theorem mem_map_modifyFirst {α β : Type} {p : α → Bool} {f : α → α} {g : α → β} {xs : List α}
    {b : β} (hb : b ∈ (modifyFirst p f xs).map g) (hf : ∀ a, g (f a) = g a) : b ∈ xs.map g := by
  rwa [map_modifyFirst fun a _ _ => hf a] at hb

/-- **Spec.**  A created pool or route has a new id; every other mutation keeps to the ids there
are. -/
theorem applyMutation_ids {env : Env} {s t : AppState} {mutation : Mutation}
    {outcome : MutationOutcome} (h : applyMutation env s mutation = .ok (t, outcome)) :
    mutation.KeepsIds s t := by
  cases applyMutation_cases h with
  | @createCustomPool _ _ _ _ id _ _ _ _ _ fresh =>
    refine ⟨rfl, ⟨id⟩, fun hmem => ?_, List.map_append⟩
    obtain ⟨pool, hpool, hid⟩ := List.mem_map.mp hmem
    exact fresh pool hpool (by rw [hid])
  | updateCustomPool _ _ _ _ =>
    exact ⟨fun _ hid => mem_map_modifyFirst hid fun _ => rfl, fun _ hid => hid⟩
  | deleteCustomPool _ _ =>
    refine ⟨fun id hid => ?_, fun id hid => hid⟩
    exact (List.Sublist.map _ List.eraseP_sublist).subset hid
  | setManualSelection _ _ _ _ =>
    exact ⟨fun _ hid => mem_map_modifyFirst hid fun _ => rfl, fun _ hid => hid⟩
  | setDefaultTarget _ => exact ⟨fun id hid => hid, fun id hid => hid⟩
  | @createRoute _ _ _ _ _ id _ _ _ _ _ _ _ fresh renumbered =>
    obtain ⟨hpools, hroutes⟩ := withRoutes_ids renumbered
    refine ⟨hpools, ⟨id⟩, fun hmem => ?_, ?_⟩
    · obtain ⟨route, hroute, hid⟩ := List.mem_map.mp hmem
      exact fresh route hroute (by rw [hid])
    · rw [hroutes, List.map_insertIdx]
  | updateRoute _ _ _ _ =>
    exact ⟨fun _ hid => hid, fun _ hid => mem_map_modifyFirst hid fun _ => rfl⟩
  | deleteRoute taken renumbered =>
    obtain ⟨hpools, hroutes⟩ := withRoutes_ids renumbered
    refine ⟨fun id hid => hpools ▸ hid, fun id hid => ?_⟩
    rw [hroutes] at hid
    obtain ⟨kept, hkept, rfl⟩ := List.mem_map.mp hid
    exact List.mem_map_of_mem ((mem_of_takeRoute taken).2 kept hkept)
  | reorderRoutes _ arranged renumbered =>
    obtain ⟨hpools, hroutes⟩ := withRoutes_ids renumbered
    refine ⟨fun id hid => hpools ▸ hid, fun id hid => ?_⟩
    rw [hroutes] at hid
    obtain ⟨kept, hkept, rfl⟩ := List.mem_map.mp hid
    exact List.mem_map_of_mem (mem_of_orderRoutes arranged kept hkept)

/-! ## One call -/

/-- A call that saves replaces `s` by `t`, under the revision that it expected `s` to have. -/
structure Saves (m : RoutingManager) (request : MutateRequest) (s t : AppState)
    (next : MutateNext) (m' : RoutingManager) : Prop where
  valid : t.Valid
  framed : t = { s with
    pools := t.pools, routes := t.routes, defaultTarget := t.defaultTarget
    activeConfigurationGeneration := t.activeConfigurationGeneration }
  ids : request.mutation.KeepsIds s t
  changed : CasMaterial.of t ≠ CasMaterial.of s
  generation : t.activeConfigurationGeneration.toNat =
    s.activeConfigurationGeneration.toNat + if request.mutation.isManual then 0 else 1
  expected : m.revisions.Observed (.of s) ⟨request.expectedRevision, some (.of s)⟩
  committed : m'.revisions.material = some (.of t) ∧
    m'.revisions.revision.toNat = request.expectedRevision.toNat + 1
  accepted : ∃ outcome : MutationOutcome, next = outcome.next t m'.revisions.revision

/-- How a call ends: it left the disk alone, after it observed the state there or before, or it
saved over that state. -/
inductive MutateEnd (m : RoutingManager) (request : MutateRequest) (disk : Option AppState) :
    (MutateNext × RoutingManager) × Option AppState → Prop
  | unsaved {next : MutateNext} {m' : RoutingManager}
      (seen : m' = m ∨ m.revisions.Observed (.of (disk.getD .empty)) m'.revisions) :
      MutateEnd m request disk ((next, m'), disk)
  | saved {next : MutateNext} {m' : RoutingManager} {t : AppState}
      (h : Saves m request (disk.getD .empty) t next m') :
      MutateEnd m request disk ((next, m'), some t)

/-- What is loaded is on disk, or empty. -/
theorem loadState_ok {a : StoreAnswers} {disk : Option AppState} {s : AppState}
    (h : loadState a disk = .ok s) : s = disk.getD .empty := by
  rw [loadState.eq_def] at h
  split at h
  · cases h
  · cases disk with
    | none =>
      cases h
      rfl
    | some stored =>
      dsimp only at h
      split at h
      · cases h
        rfl
      · cases h

/-- A mutation raises the generation, unless it selects by hand. -/
theorem mutatedGeneration_ok {manual : Bool} {current next : UInt64}
    (h : mutatedGeneration manual current = .ok next) :
    next.toNat = current.toNat + if manual then 0 else 1 := by
  rw [mutatedGeneration] at h
  cases manual with
  | true =>
    cases h
    rfl
  | false =>
    rw [if_neg Bool.false_ne_true] at h
    split at h
    · next hbound =>
      cases h
      have hmax : maxSafeInteger.toNat = 9007199254740991 := rfl
      have hone : (1 : UInt64).toNat = 1 := rfl
      rw [UInt64.toNat_add, if_neg Bool.false_ne_true]
      omega
    · cases h

/-- A generation that was raised is another material. -/
theorem CasMaterial.of_ne {s t : AppState}
    (h : t.activeConfigurationGeneration ≠ s.activeConfigurationGeneration) :
    CasMaterial.of t ≠ CasMaterial.of s :=
  fun heq => h (congrArg CasMaterial.desiredGeneration heq)

/-- **Spec.**  What a mutation decides to save over an observed state. -/
theorem mutateState_save {env : Env} {observed : RevisionState} {mutation : Mutation}
    {s t : AppState} {outcome : MutationOutcome}
    (hobserved : observed.material = some (.of s))
    (h : mutateState env observed mutation s = .ok (.save t outcome)) :
    t.Valid ∧ EditsRouting { s with
        activeConfigurationGeneration := t.activeConfigurationGeneration } t ∧
      mutation.KeepsIds s t ∧ CasMaterial.of t ≠ .of s ∧
      t.activeConfigurationGeneration.toNat =
        s.activeConfigurationGeneration.toNat + (if mutation.isManual then 0 else 1) ∧
      observed.revision ≠ maxSafeInteger := by
  obtain ⟨⟨edited, reported⟩, hedited, h⟩ := ok_bind.mp h
  have hids := applyMutation_ids hedited
  have hedits := applyMutation_edits hedited
  have hkeeps := hedits.keepsContent
  simp only at h
  split at h
  · cases h
  · next hchanged =>
    obtain ⟨generation, hgeneration, h⟩ := ok_bind.mp h
    obtain ⟨hroom, h⟩ := ok_seq.mp h
    obtain ⟨hvalid, h⟩ := ok_seq.mp h
    cases h
    have hraised := mutatedGeneration_ok hgeneration
    rw [hkeeps.generation] at hraised
    refine ⟨AppState.validate_eq_ok.mp (mapError_eq_ok.mp hvalid), ?_, hids, ?_, hraised, ?_⟩
    · rw [EditsRouting] at hedits ⊢
      rw [hedits]
    · cases hmanual : mutation.isManual with
      | true =>
        rw [hmanual] at hgeneration
        cases hgeneration
        exact fun heq => hchanged (by rw [hobserved, ← heq])
      | false =>
        refine CasMaterial.of_ne fun heq => ?_
        have hsame : generation.toNat = s.activeConfigurationGeneration.toNat :=
          congrArg UInt64.toNat heq
        rw [hmanual, if_neg Bool.false_ne_true] at hraised
        omega
    · simpa using hroom

/-- What `mutateOn` saves was asked for at the revision that was observed. -/
theorem mutateOn_save {env : Env} {observed : RevisionState} {request : MutateRequest}
    {s t : AppState} {outcome : MutationOutcome}
    (h : mutateOn env observed request s = .ok (.save t outcome)) :
    observed.revision = request.expectedRevision ∧
      mutateState env observed request.mutation s = .ok (.save t outcome) := by
  obtain ⟨hrevision, h⟩ := ok_seq.mp h
  refine ⟨by simpa using hrevision, ?_⟩
  split at h
  · obtain ⟨id, -, hid⟩ := map_eq_ok.mp h
    cases hid
  · exact h

/-- The commit of a saved state gives it the next revision. -/
theorem RoutingManager.commit_ok (m : RoutingManager) {s t : AppState}
    (hobserved : m.revisions.material = some (.of s)) (hroom : m.revisions.revision < maxSafeInteger)
    (hchanged : CasMaterial.of t ≠ .of s) (mutation : Mutation) (outcome : MutationOutcome) :
    (m.commit mutation outcome t).1 =
        outcome.next t (m.commit mutation outcome t).2.revisions.revision ∧
      (m.commit mutation outcome t).2.revisions.material = some (.of t) ∧
      (m.commit mutation outcome t).2.revisions.revision.toNat =
        m.revisions.revision.toNat + 1 := by
  have hnew : m.revisions.material ≠ some (.of t) := by
    rw [hobserved]
    exact fun heq => hchanged (Option.some.inj heq).symm
  have hbound : m.revisions.revision.toNat + 1 ≤ maxSafeInteger.toNat :=
    UInt64.lt_iff_toNat_lt.mp hroom
  cases hobserve : m.revisions.observe (.of t) with
  | error e => simp [RevisionState.observe, hnew, hbound] at hobserve
  | ok committed =>
    obtain ⟨hseen, hrevision⟩ := RevisionState.observe_ok hobserve
    rw [if_neg hnew] at hrevision
    rw [commit, hobserve]
    exact ⟨rfl, hseen, hrevision⟩

/-- **Call lemma.**  Every call leaves the disk alone or saves over the state that it expected. -/
theorem RoutingManager.mutate_end (env : Env) (m : RoutingManager) (request : MutateRequest)
    (a : StoreAnswers) (disk : Option AppState) :
    MutateEnd m request disk (m.mutate env request a disk) := by
  rw [mutate.eq_def]
  split
  · exact .unsaved (.inl rfl)
  · next hrange =>
    split
    · exact .unsaved (.inl rfl)
    · split
      · exact .unsaved (.inl rfl)
      · next s hload =>
        split
        · exact .unsaved (.inl rfl)
        · next observed hobserve =>
          have hs := loadState_ok hload
          have hobserved := RevisionState.observe_ok hobserve
          have hseen : m.revisions.Observed (.of (disk.getD .empty)) observed := hs ▸ hobserved
          dsimp only
          split
          · exact .unsaved (.inr hseen)
          · exact .unsaved (.inr hseen)
          · exact .unsaved (.inr hseen)
          · next t outcome hdecision =>
            split
            · obtain ⟨hrevision, hstate⟩ := mutateOn_save hdecision
              obtain ⟨hvalid, hedits, hids, hchanged, hgeneration, hroom⟩ :=
                mutateState_save hobserved.seen hstate
              have hbound : observed.revision < maxSafeInteger := by
                have hle : request.expectedRevision ≤ maxSafeInteger := by simp_all
                rw [hrevision] at hroom ⊢
                exact UInt64.lt_of_le_of_ne hle hroom
              obtain ⟨hnext, hmaterial, hcommitted⟩ := RoutingManager.commit_ok
                { m with revisions := observed } hobserved.seen hbound hchanged
                request.mutation outcome
              refine .saved ⟨hvalid, ?_, ?_, ?_, ?_, ?_, ⟨hmaterial, ?_⟩, outcome, hnext⟩
              · rw [← hs]
                exact hedits
              · rw [← hs]
                exact hids
              · rw [← hs]
                exact hchanged
              · rw [← hs]
                exact hgeneration
              · rw [← hs, ← hrevision, ← hobserved.seen]
                exact hobserved
              · exact hcommitted.trans (by rw [hrevision])
            · exact .unsaved (.inr hseen)

/-- A call at a revision that is not that of the state on disk is refused. -/
theorem RoutingManager.mutate_stale {env : Env} {m : RoutingManager} {request : MutateRequest}
    {a : StoreAnswers} {disk : Option AppState} {s : AppState} {observed : RevisionState}
    (hrange : 1 ≤ request.expectedRevision ∧ request.expectedRevision ≤ maxSafeInteger)
    (haccess : a.access = .ok ()) (hload : loadState a disk = .ok s)
    (hobserve : m.revisions.observe (.of s) = .ok observed)
    (hstale : observed.revision ≠ request.expectedRevision) :
    m.mutate env request a disk =
      ((.error .conflict (some observed.revision), { m with revisions := observed }), disk) := by
  have hrefused : mutateOn env observed request s = .error .conflict := by
    rw [mutateOn, reject, if_pos (by simpa using hstale)]
    rfl
  rw [mutate, if_neg (by simp [hrange]), haccess]
  dsimp only
  rw [hload]
  dsimp only
  rw [hobserve]
  dsimp only
  rw [hrefused]

/-! ## Runs -/

/-- However a mutation ends, its revision follows. -/
theorem MutateEnd.follows {m m' : RoutingManager} {request : MutateRequest}
    {disk disk' : Option AppState} {next : MutateNext}
    (h : MutateEnd m request disk ((next, m'), disk')) : m.revisions.Follows m'.revisions := by
  cases h with
  | unsaved seen =>
    cases seen with
    | inl hsame => rw [hsame]; exact .refl _
    | inr hseen => exact hseen.follows
  | saved h =>
    refine h.expected.follows.trans ⟨UInt64.le_iff_toNat_le.mpr ?_, fun heq => ?_⟩
    · rw [h.committed.2]
      exact Nat.le_succ _
    · have hrevision := h.committed.2
      rw [heq] at hrevision
      exact absurd hrevision (Nat.succ_ne_self _).symm

/-- How a query ends: it could not look, or it observed the state on disk and tells its revision. -/
inductive QueryEnd (m : RoutingManager) (state : AppState) :
    Except QueryError (AppState × UInt64) × RoutingManager → Prop
  | failed {e : QueryError} : QueryEnd m state (.error e, m)
  | answered {revision : UInt64} {m' : RoutingManager}
      (seen : m.revisions.Observed (.of state) m'.revisions)
      (told : m'.revisions.revision = revision) : QueryEnd m state (.ok (state, revision), m')

/-- How a query ends. -/
theorem RoutingManager.loadObserved_end (m : RoutingManager) (a : StoreAnswers)
    (disk : Option AppState) : QueryEnd m (disk.getD .empty) (m.loadObserved a disk) := by
  rw [loadObserved.eq_def]
  split
  · exact .failed
  · split
    · exact .failed
    · next s hload =>
      rw [← loadState_ok hload]
      split
      · exact .failed
      · next observed hobserve => exact .answered (RevisionState.observe_ok hobserve) rfl

/-- However a query ends, its revision follows. -/
theorem QueryEnd.follows {m m' : RoutingManager} {state : AppState}
    {answer : Except QueryError (AppState × UInt64)} (h : QueryEnd m state (answer, m')) :
    m.revisions.Follows m'.revisions := by
  cases h with
  | failed => exact .refl _
  | answered seen told => exact seen.follows

/-- **Step lemma.**  Every step keeps to the revisions that were given. -/
theorem RoutingSystem.step_follows {u v : RoutingSystem} {e : RoutingEvent}
    (h : u.step e = some v) : u.manager.revisions.Follows v.manager.revisions := by
  cases e with
  | mutate env request a =>
    cases h
    exact (RoutingManager.mutate_end env u.manager request a u.disk).follows
  | query a =>
    cases h
    exact (u.manager.loadObserved_end a u.disk).follows
  | trackApply activeId generation =>
    cases h
    exact .refl _
  | commit next =>
    cases h
    exact .refl _

/-- **Run lemma.**  Over a run the revision never goes back, and names one material. -/
theorem RoutingSystem.run_follows {events : List RoutingEvent} {u v : RoutingSystem}
    (run : Runs RoutingSystem.step Free u events v) :
    u.manager.revisions.Follows v.manager.revisions :=
  run.invariant (fun v => u.manager.revisions.Follows v.manager.revisions) (.refl _)
    fun _ _ _ h _ hstep => h.trans (step_follows hstep)

/-- What mutations promise after a run from `u` to `v`, to a caller that was told a revision in
`u`. -/
structure MutationsCompareAndSet (u v : RoutingSystem) : Prop where
  call : ∀ env request a, MutateEnd v.manager request v.disk
    (v.manager.mutate env request a v.disk)
  query : ∀ a, QueryEnd v.manager v.state (v.manager.loadObserved a v.disk)
  failed : ∀ env request a error revision,
    (v.manager.mutate env request a v.disk).1.1 = .error error revision →
    (v.manager.mutate env request a v.disk).2 = v.disk
  stale : ∀ env request a observed,
    1 ≤ request.expectedRevision → request.expectedRevision ≤ maxSafeInteger →
    a.access = .ok () → loadState a v.disk = .ok v.state →
    v.manager.revisions.observe (.of v.state) = .ok observed →
    observed.revision ≠ request.expectedRevision →
    v.manager.mutate env request a v.disk = ((.error .conflict (some observed.revision),
      { v.manager with revisions := observed }), v.disk)
  revisions : u.manager.revisions.Follows v.manager.revisions
  replaced : ∀ env request a material,
    u.manager.revisions = ⟨request.expectedRevision, some material⟩ →
    (v.manager.mutate env request a v.disk).2 ≠ v.disk → .of v.state = material

/-- **Routing mutations compare and set.**  After every run, a call that fails leaves the disk
alone; a call that saves edits pools, routes, the default target and the generation of the state
it replaces, and that state has exactly the material of the revision that the caller names,
whenever in the run it was told that revision. -/
theorem routing_mutations_compare_and_set (events : List RoutingEvent) (u v : RoutingSystem)
    (run : Runs RoutingSystem.step Free u events v) : MutationsCompareAndSet u v where
  call env request a := RoutingManager.mutate_end env v.manager request a v.disk
  query a := v.manager.loadObserved_end a v.disk
  failed env request a error revision herror := by
    have hend := RoutingManager.mutate_end env v.manager request a v.disk
    generalize v.manager.mutate env request a v.disk = result at herror hend ⊢
    cases hend with
    | unsaved seen => rfl
    | saved h =>
      obtain ⟨outcome, hnext⟩ := h.accepted
      have hnext := hnext.symm.trans herror
      cases outcome <;> cases hnext
  stale env request a observed hlow hhigh haccess hload hobserve hstale :=
    RoutingManager.mutate_stale ⟨hlow, hhigh⟩ haccess hload hobserve hstale
  revisions := RoutingSystem.run_follows run
  replaced env request a material htold hsaves := by
    have hend := RoutingManager.mutate_end env v.manager request a v.disk
    generalize v.manager.mutate env request a v.disk = result at hend hsaves
    cases hend with
    | unsaved seen => exact absurd rfl hsaves
    | saved h =>
      have hfollows := (RoutingSystem.run_follows run).trans h.expected.follows
      have hsame := hfollows.names (by rw [htold])
      rw [htold] at hsame
      exact Option.some.inj (congrArg RevisionState.material hsame)

/-- A query, then a mutation at the revision that it was told. -/
def directRun : List RoutingEvent :=
  [.query ⟨.ok (), true, true, true⟩,
   .mutate ⟨fun _ => none, none⟩ ⟨1, .setDefaultTarget .direct⟩ ⟨.ok (), true, true, true⟩]

theorem routing_mutations_compare_and_set_direct :
    ∃ v, Runs RoutingSystem.step Free ⟨.new, none⟩ directRun v ∧
      MutationsCompareAndSet ⟨.new, none⟩ v := by
  have hrun : (evaluate RoutingSystem.step (fun _ _ => true) ⟨.new, none⟩ directRun).isSome := by
    decide +kernel
  obtain ⟨v, hv⟩ := Option.isSome_iff_exists.mp hrun
  exact ⟨v, .of_free hv, routing_mutations_compare_and_set directRun ⟨.new, none⟩ v (.of_free hv)⟩

/-- The second revision is that of the saved state, at the first generation. -/
example : (evaluate RoutingSystem.step (fun _ _ => true) ⟨.new, none⟩ directRun).map
    (fun v => (v.manager.revisions.revision, v.state.activeConfigurationGeneration)) =
    some (2, 1) := by decide +kernel

end Veyra.ProxyRouting
