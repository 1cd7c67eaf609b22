import Veyra.Application.ManagedRuntime
import Veyra.Lib.Transition

/-!
# Veyra.Application.SwitchProgress

The switch record, written by several threads: the calling thread of an
activation queues it and reports its early failure, the worker reports the
rest.  The order rests on the runtime guard: whoever holds it acquired it
last.  But the guard of a call that fails its checks is released before the
failure is recorded, and a queued phase is accepted from anyone.

`SwitchSystem` interleaves these threads record by record.  Operations are
numbered in the order in which they acquire the guard, and `history` lists the
phases that were accepted, with the number of the operation that wrote them.
-/

namespace Veyra

open Check ProxyRouting Transition

/-! ## Phases -/

/-- The phase that a record reports. -/
def Record.phase : Record → Option SubscriptionSwitch
  | .subscriptionSwitch change => some change
  | .subscriptionReady _ _ operationId _ =>
    operationId.map fun operationId => { operationId, status := .ready, errorCode := none }
  | _ => none

/-- The phase that a record leaves in the switch record: none if it is refused. -/
def Record.written (current : Option SubscriptionSwitch) (record : Record) :
    Option SubscriptionSwitch :=
  match record with
  | .subscriptionSwitch change => if acceptsSwitch current change then some change else none
  | record => record.phase

/-- A record leaves its phase, or what was there, or nothing. -/
theorem switch_change (s : RuntimeObservationSnapshot) (record : Record) :
    (record.change s).subscriptionSwitch = record.written s.subscriptionSwitch ∨
      record.written s.subscriptionSwitch = none ∧
        (record.change s).subscriptionSwitch = s.subscriptionSwitch := by
  cases record with
  | managedObservation o =>
    refine .inr ⟨rfl, ?_⟩
    rw [Record.change, RuntimeObservationSnapshot.applyManagedObservation]
    cases o.traffic <;> cases o.latestLog <;> rfl
  | managedSample o memory =>
    refine .inr ⟨rfl, ?_⟩
    rw [Record.change, RuntimeObservationSnapshot.applyManagedObservation]
    cases o.traffic <;> cases o.latestLog <;> rfl
  | managedReady => exact .inl rfl
  | managedStopped => exact .inl rfl
  | managedRecovery =>
    have hdrop : s.dropReadySwitch = none ∨ s.dropReadySwitch = s.subscriptionSwitch := by
      rw [RuntimeObservationSnapshot.dropReadySwitch]
      split <;> simp
    exact hdrop.imp id fun hkept => ⟨rfl, hkept⟩
  | managedFailure lifecycle failure =>
    cases lifecycle with
    | none => exact .inr ⟨rfl, rfl⟩
    | some lifecycle =>
      rw [Record.change, RuntimeObservationSnapshot.withLifecycle]
      dsimp only
      split
      · have hdrop : s.dropReadySwitch = none ∨ s.dropReadySwitch = s.subscriptionSwitch := by
          rw [RuntimeObservationSnapshot.dropReadySwitch]
          split <;> simp
        exact hdrop.imp id fun hkept => ⟨rfl, hkept⟩
      · exact .inr ⟨rfl, rfl⟩
  | subscriptionSwitch change =>
    rw [Record.change, Record.written]
    split
    · exact .inl rfl
    · exact .inr ⟨rfl, rfl⟩
  | subscriptionReady id generation op proxy => exact .inl rfl

/-- What is left in the switch record is a phase that the record reports. -/
theorem phase_of_written {current : Option SubscriptionSwitch} {record : Record}
    {change : SubscriptionSwitch} (h : record.written current = some change) :
    record.phase = some change := by
  cases record with
  | subscriptionSwitch c =>
    rw [Record.written] at h
    split at h
    · exact h
    · cases h
  | managedObservation => cases h
  | managedSample => cases h
  | managedReady => cases h
  | managedStopped => cases h
  | managedRecovery => cases h
  | managedFailure => cases h
  | subscriptionReady => exact h

/-- The records of one operation: every phase is its own, and none follows a terminal one. -/
def isScript (operationId : String) : List Record → Bool
  | [] => true
  | record :: rest =>
    (record.phase.all fun change => change.operationId = operationId &&
      (!change.status.isTerminal || rest.all (·.phase.isNone))) && isScript operationId rest

/-! ## The threads -/

/-- What the holder of the guard does: its calling thread checks, and may have queued it, or the
worker has these records to write. -/
inductive HolderStage
  | checking (queued : Bool)
  | working (script : List Record)
deriving DecidableEq, Repr

structure GuardHolder where
  number : Nat
  operationId : String
  stage : HolderStage
deriving DecidableEq, Repr

/-- The calling thread of an operation that failed its checks, with the phases it has still to
record. -/
structure FailedCaller where
  number : Nat
  operationId : String
  left : List SubscriptionSwitch
deriving DecidableEq, Repr

/-- A phase that was accepted. -/
structure SwitchWrite where
  number : Nat
  change : SubscriptionSwitch
deriving DecidableEq, Repr

/-- Two accepted phases in order: no older operation after a newer one, and none of an operation
that has ended unless it is terminal too. -/
def SwitchWrite.InOrder (earlier later : SwitchWrite) : Prop :=
  earlier.number ≤ later.number ∧
    (earlier.number = later.number → earlier.change.status.isTerminal = true →
      later.change.status.isTerminal = true)

/-- `acquired` counts the operations that acquired the guard. -/
structure SwitchSystem where
  observations : RuntimeObservationSnapshot
  now : UInt64
  acquired : Nat
  holder : Option GuardHolder
  failed : List FailedCaller
  history : List SwitchWrite

/-- The phases that the calling thread records for a call that was refused. -/
def refusalChanges (operationId : String) (error : ActivationError) (observationStarted : Bool) :
    List SubscriptionSwitch :=
  match routingApplyTerminalFailure error observationStarted with
  | none => []
  | some failure =>
    [{ operationId, status := .queued, errorCode := none },
     { operationId, status := failure.phase.1, errorCode := some failure.phase.2 }]

/-- `reject` is a call that fails before it has the guard, which records nothing; `other` is a
record that is about no operation. -/
inductive SwitchEvent
  | acquire (operationId : String)
  | reject
  | queue
  | fail (error : ActivationError) (routing : Bool)
  | dispatch (script : List Record)
  | emit
  | release
  | report (caller : Nat)
  | other (record : Record)
  | tick (now : UInt64)
deriving DecidableEq, Repr

namespace SwitchSystem

/-- Before the first call. -/
def start : SwitchSystem where
  observations := .mock
  now := 0
  acquired := 0
  holder := none
  failed := []
  history := []

/-- A record of the operation with this number. -/
def write (s : SwitchSystem) (number : Nat) (record : Record) : SwitchSystem :=
  { s with
    observations := s.observations.update s.now fun observations => record.change observations
    history := s.history ++
      (record.written s.observations.subscriptionSwitch).toList.map fun change => ⟨number, change⟩ }

/-- The guard is released. -/
def release (s : SwitchSystem) : SwitchSystem := { s with holder := none }

def step (s : SwitchSystem) : SwitchEvent → Option SwitchSystem
  | .acquire operationId =>
    match s.holder with
    | some _ => none
    | none => some { s with
        acquired := s.acquired + 1
        holder := some ⟨s.acquired + 1, operationId, .checking false⟩ }
  | .reject => some s
  | .queue =>
    match s.holder with
    | some ⟨number, operationId, .checking _⟩ =>
      some ({ s with holder := some ⟨number, operationId, .checking true⟩ }.write number
        (.subscriptionSwitch { operationId, status := .queued, errorCode := none }))
    | _ => none
  | .fail error routing =>
    match s.holder with
    | some ⟨number, operationId, .checking queued⟩ =>
      -- the guard goes out of scope before the failure is recorded
      some { s.release with
        failed := s.failed ++
          [⟨number, operationId, if routing then refusalChanges operationId error queued else []⟩] }
    | _ => none
  | .dispatch script =>
    match s.holder with
    | some ⟨number, operationId, .checking _⟩ =>
      if isScript operationId script then
        some { s with holder := some ⟨number, operationId, .working script⟩ }
      else none
    | _ => none
  | .emit =>
    match s.holder with
    | some ⟨number, operationId, .working (record :: rest)⟩ =>
      some ({ s with holder := some ⟨number, operationId, .working rest⟩ }.write number record)
    | _ => none
  | .release =>
    match s.holder with
    | some ⟨_, _, .checking _⟩ | some ⟨_, _, .working []⟩ => some s.release
    | _ => none
  | .report caller =>
    match s.failed[caller]? with
    | some ⟨number, operationId, change :: rest⟩ =>
      some ({ s with failed := s.failed.set caller ⟨number, operationId, rest⟩ }.write number
        (.subscriptionSwitch change))
    | _ => none
  | .other record =>
    if record.phase = none then
      some { s with
        observations := s.observations.update s.now fun observations => record.change observations }
    else none
  | .tick now => some { s with now }

/-- The operation that is about to record a phase. -/
def writer? (s : SwitchSystem) : SwitchEvent → Option (Nat × String)
  | .queue => s.holder.map fun holder => (holder.number, holder.operationId)
  | .emit =>
    match s.holder with
    | some ⟨number, operationId, .working (record :: _)⟩ =>
      record.phase.map fun _ => (number, operationId)
    | _ => none
  | .report caller => s.failed[caller]?.map fun failed => (failed.number, failed.operationId)
  | _ => none

/-- An operation records a phase only when whatever an older call that failed has still to record
would be refused beside it. -/
def Orderly (s : SwitchSystem) (e : SwitchEvent) : Prop :=
  ∀ number operationId, s.writer? e = some (number, operationId) →
    ∀ caller ∈ s.failed, caller.number < number → ∀ change ∈ caller.left,
      change.status ≠ .queued ∧ change.operationId ≠ operationId

/-! ## The invariant -/

/-- What the numbers, the scripts and the switch record say of each other. -/
structure Ordered (s : SwitchSystem) : Prop where
  inOrder : s.history.Pairwise SwitchWrite.InOrder
  acquired : ∀ write ∈ s.history, write.number ≤ s.acquired
  /-- The holder acquired the guard last. -/
  holder : ∀ holder, s.holder = some holder → holder.number = s.acquired ∧
    ∀ caller ∈ s.failed, caller.number < holder.number
  callers : ∀ caller ∈ s.failed, caller.number ≤ s.acquired
  distinct : (s.failed.map (·.number)).Nodup
  script : ∀ number operationId script, s.holder = some ⟨number, operationId, .working script⟩ →
    isScript operationId script = true
  /-- A failed caller has its own phases to record, of which only the last is terminal. -/
  left : ∀ caller ∈ s.failed, (∀ change ∈ caller.left, change.operationId = caller.operationId) ∧
    caller.left.Pairwise fun earlier _ => earlier.status.isTerminal = false
  /-- The switch record is about the operation that wrote last. -/
  current : ∀ change, s.observations.subscriptionSwitch = some change →
    ∃ write, s.history.getLast? = some write ∧ write.change.operationId = change.operationId
  /-- What an older caller has left is refused beside the last write. -/
  refused : ∀ write, s.history.getLast? = some write → ∀ caller ∈ s.failed,
    caller.number < write.number → ∀ change ∈ caller.left,
      change.status ≠ .queued ∧ change.operationId ≠ write.change.operationId
  /-- An operation that has ended records no more phases. -/
  ended : ∀ write ∈ s.history, write.change.status.isTerminal = true →
    (∀ holder, s.holder = some holder → holder.number = write.number →
      ∃ script, holder.stage = .working script ∧ script.all (·.phase.isNone) = true) ∧
    ∀ caller ∈ s.failed, caller.number = write.number → caller.left = []

theorem ordered_start : start.Ordered where
  inOrder := .nil
  acquired := by simp [start]
  holder := by simp [start]
  callers := by simp [start]
  distinct := .nil
  script := by simp [start]
  left := by simp [start]
  current := by simp [start, RuntimeObservationSnapshot.mock]
  refused := by simp [start]
  ended := by simp [start]

/-- The switch record after a write. -/
theorem write_switch (s : SwitchSystem) (number : Nat) (record : Record) :
    (s.write number record).observations.subscriptionSwitch =
        record.written s.observations.subscriptionSwitch ∨
      record.written s.observations.subscriptionSwitch = none ∧
        (s.write number record).observations.subscriptionSwitch =
          s.observations.subscriptionSwitch := by
  have hsame : (s.write number record).observations.subscriptionSwitch =
      (record.change (s.observations.refreshObservedTime s.now)).subscriptionSwitch :=
    (RuntimeObservationSnapshot.sameRuntime_update s.observations s.now _).subscriptionSwitch
  rw [hsame]
  exact switch_change (s.observations.refreshObservedTime s.now) record

/-- **Write lemma.**  A write keeps the order when what it leaves is not older than what is there,
does not go back from a terminal phase, and is not overtaken by an older caller. -/
theorem Ordered.write {s : SwitchSystem} (h : s.Ordered) {number : Nat} {record : Record}
    (hnumber : number ≤ s.acquired)
    (hwritten : ∀ change, record.written s.observations.subscriptionSwitch = some change →
      ∀ earlier ∈ s.history, SwitchWrite.InOrder earlier ⟨number, change⟩)
    (hrefused : ∀ change, record.phase = some change → ∀ caller ∈ s.failed,
      caller.number < number → ∀ left ∈ caller.left,
        left.status ≠ .queued ∧ left.operationId ≠ change.operationId)
    (hended : ∀ change, record.phase = some change → change.status.isTerminal = true →
      (∀ holder, s.holder = some holder → holder.number = number →
        ∃ script, holder.stage = .working script ∧ script.all (·.phase.isNone) = true) ∧
      ∀ caller ∈ s.failed, caller.number = number → caller.left = []) :
    (s.write number record).Ordered := by
  have hswitch := write_switch s number record
  cases hrecord : record.written s.observations.subscriptionSwitch with
  | none =>
    have hhistory : (s.write number record).history = s.history := by
      rw [SwitchSystem.write, hrecord]
      exact List.append_nil _
    rw [hrecord] at hswitch
    refine { h with inOrder := ?_, acquired := ?_, current := ?_, refused := ?_, ended := ?_ }
    · rw [hhistory]
      exact h.inOrder
    · rw [hhistory]
      exact h.acquired
    · intro change hchange
      rw [hhistory]
      cases hswitch with
      | inl hnone =>
        rw [hnone] at hchange
        cases hchange
      | inr hkept =>
        rw [hkept.2] at hchange
        exact h.current change hchange
    · rw [hhistory]
      exact h.refused
    · rw [hhistory]
      exact h.ended
  | some change =>
    have hphase := phase_of_written hrecord
    have hhistory : (s.write number record).history = s.history ++ [⟨number, change⟩] := by
      rw [SwitchSystem.write, hrecord]
      rfl
    rw [hrecord] at hswitch
    have hswitch : (s.write number record).observations.subscriptionSwitch = some change := by
      cases hswitch with
      | inl hsome => exact hsome
      | inr hkept => cases hkept.1
    refine { h with inOrder := ?_, acquired := ?_, current := ?_, refused := ?_, ended := ?_ }
    · rw [hhistory, List.pairwise_append]
      refine ⟨h.inOrder, List.pairwise_singleton _ _, fun earlier hearlier later hlater => ?_⟩
      rw [List.mem_singleton.mp hlater]
      exact hwritten change hrecord earlier hearlier
    · intro write hwrite
      rw [hhistory, List.mem_append, List.mem_singleton] at hwrite
      cases hwrite with
      | inl hold => exact h.acquired write hold
      | inr hnew => rw [hnew]; exact hnumber
    · intro current hcurrent
      rw [hswitch] at hcurrent
      cases hcurrent
      exact ⟨⟨number, change⟩, by rw [hhistory]; simp, rfl⟩
    · intro write hwrite caller hcaller hless left hleft
      rw [hhistory, List.getLast?_concat] at hwrite
      cases hwrite
      exact hrefused change hphase caller hcaller hless left hleft
    · intro write hwrite hterminal
      rw [hhistory, List.mem_append, List.mem_singleton] at hwrite
      cases hwrite with
      | inl hold => exact h.ended write hold hterminal
      | inr hnew =>
        rw [hnew] at hterminal ⊢
        exact hended change hphase hterminal

/-- Nothing in the history is newer than its last write. -/
theorem Ordered.le_last {s : SwitchSystem} (h : s.Ordered) {last : SwitchWrite}
    (hlast : s.history.getLast? = some last) {write : SwitchWrite} (hwrite : write ∈ s.history) :
    write.number ≤ last.number := by
  obtain ⟨before, hhistory⟩ := List.getLast?_eq_some_iff.mp hlast
  have horder := h.inOrder
  rw [hhistory] at hwrite horder
  rw [List.mem_append, List.mem_singleton] at hwrite
  cases hwrite with
  | inl hbefore =>
    exact ((List.pairwise_append.mp horder).2.2 write hbefore last (List.mem_singleton.mpr rfl)).1
  | inr heq => rw [heq]

/-- No phase follows a terminal one in a script. -/
theorem isScript_cons {operationId : String} {record : Record} {rest : List Record}
    (h : isScript operationId (record :: rest) = true) :
    isScript operationId rest = true ∧ ∀ change, record.phase = some change →
      change.operationId = operationId ∧
      (change.status.isTerminal = true → rest.all (·.phase.isNone) = true) := by
  rw [isScript, Bool.and_eq_true] at h
  refine ⟨h.2, fun change hchange => ?_⟩
  have hphase := h.1
  rw [hchange, Option.all_some, Bool.and_eq_true, Bool.or_eq_true] at hphase
  exact ⟨of_decide_eq_true hphase.1, fun hterminal => hphase.2.resolve_left (by simp [hterminal])⟩

theorem refusalChanges_left (operationId : String) (error : ActivationError) (queued : Bool) :
    (∀ change ∈ refusalChanges operationId error queued, change.operationId = operationId) ∧
      (refusalChanges operationId error queued).Pairwise fun earlier _ =>
        earlier.status.isTerminal = false := by
  rw [refusalChanges]
  cases routingApplyTerminalFailure error queued <;> simp [SubscriptionSwitchStatus.isTerminal]

/-- The holder goes from its checks to something else. -/
theorem Ordered.notEnded {s : SwitchSystem} (h : s.Ordered) {number : Nat} {operationId : String}
    {queued : Bool} (hholder : s.holder = some ⟨number, operationId, .checking queued⟩)
    {write : SwitchWrite} (hwrite : write ∈ s.history)
    (hterminal : write.change.status.isTerminal = true) : write.number ≠ number := by
  intro heq
  obtain ⟨script, hstage, -⟩ := (h.ended write hwrite hterminal).1 _ hholder heq.symm
  cases hstage

/-- Another stage of the holder, when the operation that has ended has no more phases. -/
theorem Ordered.withStage {s : SwitchSystem} (h : s.Ordered) {number : Nat} {operationId : String}
    {stage : HolderStage} (hholder : s.holder = some ⟨number, operationId, stage⟩)
    (stage' : HolderStage)
    (hscript : ∀ script, stage' = .working script → isScript operationId script = true)
    (hended : ∀ write ∈ s.history, write.change.status.isTerminal = true → write.number = number →
      ∃ script, stage' = .working script ∧ script.all (·.phase.isNone) = true) :
    { s with holder := some ⟨number, operationId, stage'⟩ : SwitchSystem }.Ordered := by
  have hnumber := h.holder _ hholder
  refine { h with holder := ?_, script := ?_, ended := ?_ }
  · intro holder heq
    cases heq
    exact hnumber
  · intro n op script heq
    cases heq
    exact hscript script rfl
  · intro write hwrite hterminal
    refine ⟨fun holder heq hsame => ?_, (h.ended write hwrite hterminal).2⟩
    cases heq
    exact hended write hwrite hterminal hsame.symm

/-- The guard is released. -/
theorem Ordered.release {s : SwitchSystem} (h : s.Ordered) : s.release.Ordered :=
  { h with
    holder := fun _ heq => by cases heq
    script := fun _ _ _ heq => by cases heq
    ended := fun write hwrite hterminal =>
      ⟨fun _ heq => (by cases heq), (h.ended write hwrite hterminal).2⟩ }

/-- A record of the holder is in order. -/
theorem Ordered.inOrder_holder {s : SwitchSystem} (h : s.Ordered) {holder : GuardHolder}
    (hholder : s.holder = some holder) {change : SubscriptionSwitch}
    (hnot : ∀ write ∈ s.history, write.change.status.isTerminal = true →
      write.number ≠ holder.number) :
    ∀ earlier ∈ s.history, SwitchWrite.InOrder earlier ⟨holder.number, change⟩ := by
  intro earlier hearlier
  refine ⟨(h.acquired earlier hearlier).trans (h.holder _ hholder).1.ge, fun hsame hterminal => ?_⟩
  exact absurd hsame (hnot earlier hearlier hterminal)

/-- A call acquires the guard: it is newer than everything so far. -/
theorem Ordered.acquire {s : SwitchSystem} (h : s.Ordered) (operationId : String) :
    { s with acquired := s.acquired + 1,
             holder := some ⟨s.acquired + 1, operationId, .checking false⟩ : SwitchSystem }.Ordered := by
  refine { h with acquired := ?_, holder := ?_, callers := ?_, script := ?_, ended := ?_ }
  · exact fun write hwrite => (h.acquired write hwrite).trans (Nat.le_succ _)
  · intro holder heq
    cases heq
    exact ⟨rfl, fun caller hcaller => Nat.lt_succ_of_le (h.callers caller hcaller)⟩
  · exact fun caller hcaller => (h.callers caller hcaller).trans (Nat.le_succ _)
  · intro n op script heq
    cases heq
  · intro write hwrite hterminal
    refine ⟨fun holder heq hsame => ?_, (h.ended write hwrite hterminal).2⟩
    cases heq
    have hold := h.acquired write hwrite
    rw [← hsame] at hold
    exact absurd hold (Nat.not_succ_le_self _)

/-- The calling thread of the holder queues its operation. -/
theorem Ordered.queue {s s' : SwitchSystem} (h : s.Ordered) (horderly : Orderly s .queue)
    (hstep : s.step .queue = some s') : s'.Ordered := by
  rw [SwitchSystem.step] at hstep
  split at hstep
  · next number operationId queued hholder =>
    cases hstep
    have hnot : ∀ write ∈ s.history, write.change.status.isTerminal = true →
        write.number ≠ number := fun write hwrite hterminal =>
      h.notEnded hholder hwrite hterminal
    have hchecking := h.withStage hholder (.checking true) (by simp)
      fun write hwrite hterminal hsame => absurd hsame (hnot write hwrite hterminal)
    refine hchecking.write (h.holder _ hholder).1.le ?_ ?_ ?_
    · exact fun change _ => h.inOrder_holder hholder hnot
    · intro change hchange
      cases hchange
      exact horderly number operationId (by rw [writer?, hholder]; rfl)
    · intro change hchange hterminal
      cases hchange
      cases hterminal
  · cases hstep

/-- The checks of the holder fail: the guard is gone, and the failure is still to be recorded. -/
theorem Ordered.fail {s : SwitchSystem} (h : s.Ordered) {number : Nat} {operationId : String}
    {queued : Bool} (hholder : s.holder = some ⟨number, operationId, .checking queued⟩)
    (left : List SubscriptionSwitch)
    (hleft : (∀ change ∈ left, change.operationId = operationId) ∧
      left.Pairwise fun earlier _ => earlier.status.isTerminal = false) :
    { s.release with failed := s.failed ++ [⟨number, operationId, left⟩] : SwitchSystem }.Ordered := by
  have hreleased := h.release
  obtain ⟨hlast, holder⟩ := h.holder _ hholder
  have hmem : ∀ {caller : FailedCaller}, caller ∈ s.failed ++ [⟨number, operationId, left⟩] →
      caller ∈ s.failed ∨ caller = ⟨number, operationId, left⟩ := by
    intro caller hcaller
    rwa [List.mem_append, List.mem_singleton] at hcaller
  refine { hreleased with
    holder := fun _ heq => (by cases heq), callers := ?_, distinct := ?_, left := ?_
    refused := ?_, ended := ?_ }
  · intro caller hcaller
    cases hmem hcaller with
    | inl hold => exact h.callers caller hold
    | inr hnew => rw [hnew]; exact hlast.le
  · rw [List.map_append, List.nodup_append]
    refine ⟨h.distinct, List.nodup_singleton _, fun a ha b hb => ?_⟩
    obtain ⟨caller, hcaller, rfl⟩ := List.mem_map.mp ha
    rw [List.mem_singleton.mp hb]
    exact (holder caller hcaller).ne
  · intro caller hcaller
    cases hmem hcaller with
    | inl hold => exact h.left caller hold
    | inr hnew => rw [hnew]; exact hleft
  · intro write hwrite caller hcaller hless
    cases hmem hcaller with
    | inl hold => exact h.refused write hwrite caller hold hless
    | inr hnew =>
      rw [hnew] at hless
      have hold := h.acquired write (List.mem_of_getLast? hwrite)
      rw [← hlast] at hold
      exact absurd hless (Nat.not_lt.mpr hold)
  · intro write hwrite hterminal
    refine ⟨fun _ heq => (by cases heq), fun caller hcaller hsame => ?_⟩
    cases hmem hcaller with
    | inl hold => exact (h.ended write hwrite hterminal).2 caller hold hsame
    | inr hnew =>
      rw [hnew] at hsame
      exact absurd hsame.symm (h.notEnded hholder hwrite hterminal)

/-- The worker writes the next record of the holder. -/
theorem Ordered.emit {s s' : SwitchSystem} (h : s.Ordered) (horderly : Orderly s .emit)
    (hstep : s.step .emit = some s') : s'.Ordered := by
  rw [SwitchSystem.step] at hstep
  split at hstep
  · next number operationId record rest hholder =>
    cases hstep
    obtain ⟨hrest, hphase⟩ := isScript_cons (h.script _ _ _ hholder)
    -- an operation that has ended has no phase among the records of its worker
    have hquiet : ∀ write ∈ s.history, write.change.status.isTerminal = true →
        write.number = number → (record :: rest).all (·.phase.isNone) = true := by
      intro write hwrite hterminal hsame
      obtain ⟨script, hstage, hquiet⟩ := (h.ended write hwrite hterminal).1 _ hholder hsame.symm
      cases hstage
      exact hquiet
    have hadvanced := h.withStage hholder (.working rest)
      (fun script heq => by cases heq; exact hrest)
      fun write hwrite hterminal hsame =>
        ⟨rest, rfl, (Bool.and_eq_true_iff.mp (hquiet write hwrite hterminal hsame)).2⟩
    refine hadvanced.write (h.holder _ hholder).1.le ?_ ?_ ?_
    · intro change hwritten
      refine h.inOrder_holder hholder fun write hwrite hterminal hsame => ?_
      have hnone : record.phase.isNone = true :=
        (Bool.and_eq_true_iff.mp (hquiet write hwrite hterminal hsame)).1
      rw [phase_of_written hwritten] at hnone
      cases hnone
    · intro change hchange
      rw [(hphase change hchange).1]
      exact horderly number operationId (by rw [writer?, hholder]; simp [hchange])
    · intro change hchange hterminal
      refine ⟨fun holder heq _ => ?_, fun caller hcaller hsame => ?_⟩
      · cases heq
        exact ⟨rest, rfl, (hphase change hchange).2 hterminal⟩
      · exact absurd hsame ((h.holder _ hholder).2 caller hcaller).ne
  · cases hstep

/-- Moving a failed caller on, with fewer phases left. -/
theorem Ordered.advance {s : SwitchSystem} (h : s.Ordered) {i number : Nat} {operationId : String}
    {change : SubscriptionSwitch} {rest : List SubscriptionSwitch}
    (hcaller : s.failed[i]? = some ⟨number, operationId, change :: rest⟩) :
    { s with failed := s.failed.set i ⟨number, operationId, rest⟩ : SwitchSystem }.Ordered := by
  have hold : (⟨number, operationId, change :: rest⟩ : FailedCaller) ∈ s.failed :=
    List.mem_of_getElem? hcaller
  have hmem : ∀ {caller : FailedCaller}, caller ∈ s.failed.set i ⟨number, operationId, rest⟩ →
      caller ∈ s.failed ∨ caller = ⟨number, operationId, rest⟩ :=
    fun hcaller => List.mem_or_eq_of_mem_set hcaller
  have hleft := h.left _ hold
  refine { h with holder := ?_, callers := ?_, distinct := ?_, left := ?_, refused := ?_, ended := ?_ }
  · intro holder hholder
    have hless := (h.holder _ hholder).2 _ hold
    refine ⟨(h.holder _ hholder).1, fun caller hset => ?_⟩
    cases hmem hset with
    | inl hmem => exact (h.holder _ hholder).2 caller hmem
    | inr hnew => rw [hnew]; exact hless
  · have hbound := h.callers _ hold
    intro caller hset
    cases hmem hset with
    | inl hmem => exact h.callers caller hmem
    | inr hnew => rw [hnew]; exact hbound
  · have hnumbers : (s.failed.set i ⟨number, operationId, rest⟩).map (·.number) =
        s.failed.map (·.number) := by
      obtain ⟨hi, hget⟩ := List.getElem?_eq_some_iff.mp hcaller
      have hi : i < (s.failed.map (·.number)).length := by rwa [List.length_map]
      rw [List.map_set]
      calc (s.failed.map (·.number)).set i number
          = (s.failed.map (·.number)).set i (s.failed.map (·.number))[i] := by
            rw [List.getElem_map, hget]
        _ = s.failed.map (·.number) := List.set_getElem_self _
    rw [hnumbers]
    exact h.distinct
  · intro caller hset
    cases hmem hset with
    | inl hmem => exact h.left caller hmem
    | inr hnew =>
      rw [hnew]
      exact ⟨fun later hlater => hleft.1 later (List.mem_cons_of_mem _ hlater),
        (List.pairwise_cons.mp hleft.2).2⟩
  · intro write hwrite caller hset hless later hlater
    cases hmem hset with
    | inl hmem => exact h.refused write hwrite caller hmem hless later hlater
    | inr hnew =>
      rw [hnew] at hless hlater
      exact h.refused write hwrite _ hold hless later (List.mem_cons_of_mem _ hlater)
  · intro write hwrite hterminal
    refine ⟨(h.ended write hwrite hterminal).1, fun caller hset hsame => ?_⟩
    cases hmem hset with
    | inl hmem => exact (h.ended write hwrite hterminal).2 caller hmem hsame
    | inr hnew =>
      rw [hnew] at hsame
      cases (h.ended write hwrite hterminal).2 _ hold hsame

/-- A failed caller that gets a phase accepted is not older than the last write. -/
theorem Ordered.not_overtaken {s : SwitchSystem} (h : s.Ordered) {caller : FailedCaller}
    (hcaller : caller ∈ s.failed) {change : SubscriptionSwitch} (hchange : change ∈ caller.left)
    (haccepted : acceptsSwitch s.observations.subscriptionSwitch change = true) :
    ∀ write ∈ s.history, write.number ≤ caller.number := by
  intro write hwrite
  obtain ⟨last, hlast⟩ : ∃ last, s.history.getLast? = some last :=
    ⟨_, List.getLast?_eq_some_getLast (List.ne_nil_of_mem hwrite)⟩
  refine (h.le_last hlast hwrite).trans ?_
  by_contra hless
  obtain ⟨hqueued, hother⟩ :=
    h.refused last hlast caller hcaller (Nat.lt_of_not_le hless) change hchange
  rw [acceptsSwitch, Bool.or_eq_true] at haccepted
  cases haccepted with
  | inl heq => exact hqueued (of_decide_eq_true heq)
  | inr hsame =>
    obtain ⟨current, hcurrent, hsame⟩ := (Option.any_eq_true _ _).mp hsame
    obtain ⟨write, hwrite, heq⟩ := h.current current hcurrent
    cases hlast.symm.trans hwrite
    exact hother ((of_decide_eq_true hsame).symm.trans heq.symm)

/-- A failed caller records its next phase. -/
theorem Ordered.report {s s' : SwitchSystem} (h : s.Ordered) {i : Nat}
    (horderly : Orderly s (.report i)) (hstep : s.step (.report i) = some s') : s'.Ordered := by
  rw [SwitchSystem.step] at hstep
  split at hstep
  · next number operationId change rest hcaller =>
    cases hstep
    have hold : (⟨number, operationId, change :: rest⟩ : FailedCaller) ∈ s.failed :=
      List.mem_of_getElem? hcaller
    have hleft := h.left _ hold
    have hown : change.operationId = operationId := hleft.1 change List.mem_cons_self
    refine (h.advance hcaller).write (h.callers _ hold) ?_ ?_ ?_
    · intro written hwritten earlier hearlier
      have haccepted : acceptsSwitch s.observations.subscriptionSwitch change = true := by
        by_contra hrefused
        rw [Record.written, if_neg hrefused] at hwritten
        cases hwritten
      refine ⟨h.not_overtaken hold List.mem_cons_self haccepted earlier hearlier,
        fun hsame hterminal => ?_⟩
      cases (h.ended earlier hearlier hterminal).2 _ hold hsame.symm
    · intro written hwritten caller hset hless
      cases hwritten
      rw [hown]
      cases List.mem_or_eq_of_mem_set hset with
      | inl hmem =>
        exact horderly number operationId (by rw [writer?, hcaller]; rfl) caller hmem hless
      | inr hnew =>
        rw [hnew] at hless
        exact absurd hless (Nat.lt_irrefl _)
    · intro written hwritten hterminal
      cases hwritten
      -- the terminal phase is the last that the caller has left
      have hlast : rest = [] := by
        cases rest with
        | nil => rfl
        | cons later _ =>
          have hnot := (List.pairwise_cons.mp hleft.2).1 later List.mem_cons_self
          rw [hterminal] at hnot
          cases hnot
      refine ⟨fun holder hholder hsame => ?_, fun caller hset hsame => ?_⟩
      · have hless := (h.holder _ hholder).2 _ hold
        rw [hsame] at hless
        exact absurd hless (Nat.lt_irrefl _)
      · have hnew : (⟨number, operationId, rest⟩ : FailedCaller) ∈
            s.failed.set i ⟨number, operationId, rest⟩ :=
          List.mem_set (List.getElem?_eq_some_iff.mp hcaller).1 _
        have heq := List.inj_on_of_nodup_map (h.advance hcaller).distinct hset hnew hsame
        rw [heq]
        exact hlast
  · cases hstep

/-- A record about no operation leaves the switch record alone or empties it. -/
theorem Ordered.other {s : SwitchSystem} (h : s.Ordered) {record : Record}
    (hphase : record.phase = none) :
    { s with observations := s.observations.update s.now fun observations =>
        record.change observations : SwitchSystem }.Ordered := by
  have hnone : record.written s.observations.subscriptionSwitch = none := by
    cases hwritten : record.written s.observations.subscriptionSwitch with
    | none => rfl
    | some change =>
      rw [phase_of_written hwritten] at hphase
      cases hphase
  refine { h with current := fun change hchange => ?_ }
  have hswitch := write_switch s 0 record
  rw [hnone] at hswitch
  have hchange : (s.write 0 record).observations.subscriptionSwitch = some change := hchange
  cases hswitch with
  | inl hempty =>
    rw [hempty] at hchange
    cases hchange
  | inr hkept =>
    rw [hkept.2] at hchange
    exact h.current change hchange

/-- **Step lemma.** -/
theorem Ordered.step {s s' : SwitchSystem} {e : SwitchEvent} (h : s.Ordered) (horderly : Orderly s e)
    (hstep : s.step e = some s') : s'.Ordered := by
  cases e with
  | acquire operationId =>
    rw [SwitchSystem.step] at hstep
    split at hstep
    · cases hstep
    · cases hstep
      exact h.acquire operationId
  | reject =>
    cases hstep
    exact h
  | queue => exact h.queue horderly hstep
  | fail error routing =>
    rw [SwitchSystem.step] at hstep
    split at hstep
    · next number operationId queued hholder =>
      cases hstep
      refine h.fail hholder _ ?_
      cases routing
      · exact ⟨fun change hchange => (by cases hchange), .nil⟩
      · exact refusalChanges_left operationId error queued
    · cases hstep
  | dispatch script =>
    rw [SwitchSystem.step] at hstep
    split at hstep
    · next number operationId queued hholder =>
      split at hstep
      · next hscript =>
        cases hstep
        refine h.withStage hholder (.working script) (fun script heq => ?_)
          fun write hwrite hterminal hsame =>
            absurd hsame (h.notEnded hholder hwrite hterminal)
        cases heq
        exact hscript
      · cases hstep
    · cases hstep
  | emit => exact h.emit horderly hstep
  | release =>
    rw [SwitchSystem.step] at hstep
    split at hstep
    · cases hstep
      exact h.release
    · cases hstep
      exact h.release
    · cases hstep
  | report i => exact h.report horderly hstep
  | other record =>
    rw [SwitchSystem.step] at hstep
    split at hstep
    · next hphase =>
      cases hstep
      exact h.other hphase
    · cases hstep
  | tick now =>
    cases hstep
    exact { h with }

/-- **Newer progress is kept.**  In every run whose steps are all orderly, no phase of an operation
is accepted after one of an operation that acquired the guard later, and no phase that is not
terminal after a terminal one of the same operation. -/
theorem newer_progress_kept (events : List SwitchEvent) (s : SwitchSystem)
    (run : Runs SwitchSystem.step Orderly start events s) :
    s.history.Pairwise SwitchWrite.InOrder :=
  (run.invariant Ordered ordered_start fun _ _ _ h horderly hstep =>
    h.step horderly hstep).inOrder

instance (s : SwitchSystem) (e : SwitchEvent) : Decidable (s.Orderly e) :=
  decidable_of_iff (∀ writer ∈ s.writer? e, ∀ caller ∈ s.failed, caller.number < writer.1 →
      ∀ change ∈ caller.left, change.status ≠ .queued ∧ change.operationId ≠ writer.2)
    ⟨fun h number operationId hwriter => h (number, operationId) hwriter,
      fun h writer hwriter => h writer.1 writer.2 hwriter⟩

/-! ## A failure that is recorded too late -/

/-- What the worker records of an activation that succeeds. -/
def readyScript (operationId : String) : List Record :=
  [.subscriptionSwitch ⟨operationId, .queued, none⟩, .subscriptionSwitch ⟨operationId, .checking, none⟩,
   .subscriptionSwitch ⟨operationId, .prepared, none⟩,
   .subscriptionSwitch ⟨operationId, .persisted, none⟩,
   .subscriptionSwitch ⟨operationId, .applying, none⟩,
   .subscriptionReady "sub" 2 (some operationId) false]

/-- A routing apply fails on a changed state and lets the guard go; the next operation acquires it
and is queued by the worker; then the failure is recorded. -/
def overtakenRun : List SwitchEvent :=
  [.acquire "first", .fail .stateChanged true, .acquire "second", .dispatch (readyScript "second"),
   .emit, .report 0]

/-- The failed caller replaces the record of the newer operation. -/
theorem older_failure_replaces :
    ∃ s, Runs SwitchSystem.step Free start overtakenRun s ∧
      s.observations.subscriptionSwitch = some ⟨"first", .queued, none⟩ ∧
      ¬ s.history.Pairwise SwitchWrite.InOrder := by
  have hrun : (evaluate SwitchSystem.step (fun _ _ => true) start overtakenRun).map
      (fun s => (s.history, s.observations.subscriptionSwitch)) =
      some ([⟨2, ⟨"second", .queued, none⟩⟩, ⟨1, ⟨"first", .queued, none⟩⟩],
        some ⟨"first", .queued, none⟩) := by decide +kernel
  obtain ⟨s, hs, hfacts⟩ := Option.map_eq_some_iff.mp hrun
  obtain ⟨hhistory, hswitch⟩ := Prod.mk.inj hfacts
  refine ⟨s, .of_free hs, hswitch, fun horder => ?_⟩
  rw [hhistory] at horder
  have hfalls := ((List.pairwise_cons.mp horder).1 _ (List.mem_singleton.mpr rfl)).1
  exact absurd hfalls (by decide)

/-- The same failure, recorded before the next operation is queued. -/
def promptRun : List SwitchEvent :=
  [.acquire "first", .fail .stateChanged true, .acquire "second", .report 0, .report 0,
   .dispatch (readyScript "second"), .emit, .emit]

theorem newer_progress_kept_prompt :
    ∃ s, Runs SwitchSystem.step Orderly start promptRun s ∧
      s.history.Pairwise SwitchWrite.InOrder := by
  have hrun : (evaluate SwitchSystem.step (fun s e => decide (s.Orderly e)) start
      promptRun).isSome := by decide +kernel
  obtain ⟨s, hs⟩ := Option.isSome_iff_exists.mp hrun
  have run : Runs SwitchSystem.step Orderly start promptRun s :=
    .of_evaluate (fun _ _ h => of_decide_eq_true h) hs
  exact ⟨s, run, newer_progress_kept promptRun s run⟩

end SwitchSystem

/-! ## What the worker records -/

namespace ManagedRuntime

variable {P Bytes Value : Type}

/-- A call records the script of an operation. -/
def Writes (operationId : String) (w w' : ManagedRuntime P Bytes) : Prop :=
  ∃ script, w'.recorded = w.recorded ++ script ∧ isScript operationId script = true

/-- So far, a call recorded no terminal phase, and phases of its operation only. -/
def Progresses (operationId : String) (w w' : ManagedRuntime P Bytes) : Prop :=
  ∃ script, w'.recorded = w.recorded ++ script ∧ ∀ record ∈ script, ∀ change,
    record.phase = some change → change.operationId = operationId ∧ change.status.isTerminal = false

variable {op : String} {w w' : ManagedRuntime P Bytes}

theorem Progresses.refl (op : String) (w : ManagedRuntime P Bytes) : Progresses op w w :=
  ⟨[], (List.append_nil _).symm, by simp⟩

/-- A record of another kind, or of a phase that is not terminal. -/
theorem Progresses.record (h : Progresses op w w') {record : Record}
    (hrecord : ∀ change, record.phase = some change →
      change.operationId = op ∧ change.status.isTerminal = false) :
    Progresses op w (w'.record record) := by
  obtain ⟨script, hscript, hphases⟩ := h
  refine ⟨script ++ [record], ?_, ?_⟩
  · rw [ManagedRuntime.record, hscript, List.append_assoc]
  · intro r hr
    rw [List.mem_append, List.mem_singleton] at hr
    cases hr with
    | inl hold => exact hphases r hold
    | inr hnew => rw [hnew]; exact hrecord

theorem Progresses.switchPhase (h : Progresses op w w') (status : SubscriptionSwitchStatus)
    (hstatus : status.isTerminal = false) : Progresses op w (w'.switchPhase op status none) :=
  h.record fun change hchange => by
    cases hchange
    exact ⟨rfl, hstatus⟩

theorem Progresses.failure (h : Progresses op w w')
    (lifecycle : Option ObservedSidecarLifecycle) (failure : ManagedRuntimeFailure) :
    Progresses op w (w'.record (.managedFailure lifecycle failure)) :=
  h.record fun change hchange => by cases hchange

/-- Phases that are not terminal may be followed by any phase. -/
theorem isScript_snoc {script : List Record} {record : Record}
    (hscript : ∀ r ∈ script, ∀ change, r.phase = some change →
      change.operationId = op ∧ change.status.isTerminal = false)
    (hrecord : ∀ change, record.phase = some change → change.operationId = op) :
    isScript op (script ++ [record]) = true := by
  induction script with
  | nil =>
    rw [List.nil_append, isScript, isScript, Bool.and_true, Option.all_eq_true]
    intro change hchange
    simp [hrecord change hchange]
  | cons r rest ih =>
    rw [List.cons_append, isScript, Bool.and_eq_true, Option.all_eq_true]
    refine ⟨fun change hchange => ?_, ih fun r' hr' => hscript r' (List.mem_cons_of_mem _ hr')⟩
    obtain ⟨hop, hterminal⟩ := hscript r List.mem_cons_self change hchange
    simp [hop, hterminal]

theorem Progresses.ends (h : Progresses op w w') {record : Record}
    (hrecord : ∀ change, record.phase = some change → change.operationId = op) :
    Writes op w (w'.record record) := by
  obtain ⟨script, hscript, hphases⟩ := h
  refine ⟨script ++ [record], ?_, isScript_snoc hphases hrecord⟩
  rw [ManagedRuntime.record, hscript, List.append_assoc]

theorem Progresses.endsWith (h : Progresses op w w') (status : SubscriptionSwitchStatus)
    (code : Option SubscriptionSwitchErrorCode) : Writes op w (w'.switchPhase op status code) :=
  h.ends fun change hchange => by
    cases hchange
    rfl

/-- A failed call of the runtime ends the script. -/
theorem Progresses.runtimeFailure (h : Progresses op w w') (r : SidecarRuntime P Bytes)
    (error : SidecarError) : Writes op w (w'.activationRuntimeFailure r op error).2 := by
  have hrecovered : Progresses op w (w'.withRuntime r) := h
  exact (hrecovered.failure _ _).endsWith _ _

theorem Progresses.cancelThen (h : Progresses op w w') (io : SidecarPort P Bytes)
    (r : SidecarRuntime P Bytes)
    {next : ManagedRuntime P Bytes → ActivationResult × ManagedRuntime P Bytes}
    (hnext : ∀ w', Progresses op w w' → Writes op w (next w').2) :
    Writes op w (w'.cancelThen io r op next).2 := by
  rw [ManagedRuntime.cancelThen]
  cases r.cancelPrepared io with
  | mk result r' =>
    cases result with
    | ok => exact hnext _ h
    | error e => exact h.runtimeFailure r' e

/-- `apply_activation` goes on with the script that the worker began. -/
theorem Progresses.applyActivation {request : ActivationRequest Bytes}
    (h : Progresses request.operationId w w') (io : SidecarPort P Bytes)
    (r : SidecarRuntime P Bytes) (a : CommitAnswers) (disk : AppState) :
    Writes request.operationId w (w'.applyActivation io r request a disk).1.2 := by
  rw [ManagedRuntime.applyActivation]
  have hchecking := h.switchPhase .checking rfl
  cases r.prepareReplacement io request.config with
  | mk result prepared =>
    cases result with
    | error e => exact hchecking.runtimeFailure prepared e
    | ok =>
      have hwith : Progresses request.operationId w
        ((w'.switchPhase request.operationId .checking none).withRuntime prepared) := hchecking
      have hprepared := hwith.switchPhase .prepared rfl
      dsimp only
      split
      · exact hprepared.cancelThen io prepared fun _ hw => hw.endsWith _ _
      · cases persistActivation request.plan a disk with
        | mk persisted after =>
          cases persisted with
          | error e => exact hprepared.cancelThen io prepared fun _ hw => (hw.failure _ _).endsWith _ _
          | ok goesOn =>
            cases goesOn with
            | false => exact hprepared.cancelThen io prepared fun _ hw => hw.endsWith _ _
            | true =>
              have happlying := (hprepared.switchPhase .persisted rfl).switchPhase .applying rfl
              dsimp only
              rw [ManagedRuntime.replaceInstance]
              cases prepared.commitPrepared io with
              | mk result r' =>
                cases result with
                | error e => exact happlying.runtimeFailure r' e
                | ok =>
                  have hready : Progresses request.operationId w
                    (((((w'.switchPhase request.operationId .checking none).withRuntime
                      prepared).switchPhase request.operationId .prepared none).switchPhases
                        request.operationId [.persisted, .applying]).withRuntime r') := happlying
                  dsimp only
                  split <;>
                    exact hready.ends fun change hchange => by
                      cases hchange
                      rfl

/-- **Scripts.**  Whatever it finds, the worker's `Activate` records the script of its operation. -/
theorem runActivation_writes (io : SidecarPort P Bytes) (w : ManagedRuntime P Bytes)
    (request : ActivationRequest Bytes) (created : Option P) (a : CommitAnswers)
    (disk : AppState) :
    Writes request.operationId w (w.runActivation io request created a disk).1.2 := by
  have hqueued := (Progresses.refl request.operationId w).switchPhase .queued rfl
  have hsettled : ∀ {result : ActivationResult × ManagedRuntime P Bytes} {p},
      Writes request.operationId w result.2 →
        Writes request.operationId w (settleActivation p result).2 := by
    intro result p hwrites
    rw [settleActivation.eq_def]
    split
    · exact hwrites
    · exact hwrites
    · dsimp only
      split <;> exact hwrites
  rw [ManagedRuntime.runActivation]
  dsimp only
  split
  · exact hqueued.endsWith _ _
  · next r _ =>
    have hwith : Progresses request.operationId w
      ((w.switchPhase request.operationId .queued none).withRuntime r) := hqueued
    exact hsettled (hwith.applyActivation io r a disk)

/-- A refused call records the phases of a failed caller. -/
theorem recordRefusal_recorded (w : ManagedRuntime P Bytes) (call : ActivationCall)
    (error : ActivationError) (observed : Option AppState) :
    (w.recordRefusal call error observed).recorded = w.recorded ++
      (if call.expectedDesiredGeneration.isSome then
        refusalChanges call.operationId error (observed.any call.startsObservation)
      else []).map .subscriptionSwitch := by
  rw [recordRefusal.eq_def, refusalChanges]
  cases call.expectedDesiredGeneration with
  | none => simp
  | some generation =>
    cases routingApplyTerminalFailure error (observed.any call.startsObservation) with
    | none => simp
    | some failure => simp [switchPhase, ManagedRuntime.record]

theorem Progresses.failedDocumentSwitch (h : Progresses op w w') (error : DocumentSaveError) :
    Writes op w (w'.failedDocumentSwitch op error).2 :=
  h.endsWith _ _

theorem Progresses.cancelDocument (h : Progresses op w w') (io : SidecarPort P Bytes)
    (r : SidecarRuntime P Bytes) (error : DocumentSaveError) :
    Writes op w (w'.cancelDocument io r op error).2 := by
  rw [ManagedRuntime.cancelDocument]
  cases r.cancelPrepared io with
  | mk result r' =>
    have hwith : Progresses op w (w'.withRuntime r') := h
    cases result with
    | ok => exact hwith.failedDocumentSwitch error
    | error e => exact (hwith.failure _ _).failedDocumentSwitch .recoveryRequired

theorem Progresses.replaceDocument (h : Progresses op w w') (io : SidecarPort P Bytes)
    (r : SidecarRuntime P Bytes) (p : SelectedRuntimeProjection) (generation : UInt64)
    (late : Bool) : Writes op w (w'.replaceDocument io r op p generation late).2 := by
  have hpersisted := h.switchPhase .persisted rfl
  rw [ManagedRuntime.replaceDocument]
  cases late with
  | true =>
    rw [if_pos rfl, timeOutDocument]
    cases r.cancelPrepared io with
    | mk result r' =>
      have hwith : Progresses op w ((w'.switchPhase op .persisted none).withRuntime r') := hpersisted
      cases result with
      | ok => exact hwith.endsWith _ _
      | error e => exact (hwith.failure _ _).endsWith _ _
  | false =>
    have happlying := hpersisted.switchPhase .applying rfl
    dsimp only
    rw [if_neg Bool.false_ne_true]
    cases r.commitPrepared io with
    | mk result r' =>
      have hwith : Progresses op w
        (((w'.switchPhase op .persisted none).switchPhase op .applying none).withRuntime r') :=
        happlying
      cases result with
      | error e => exact (hwith.failure _ _).endsWith _ _
      | ok =>
        exact hwith.ends fun change hchange => by
          cases hchange
          rfl

theorem Progresses.switchDocument (h : Progresses op w w') (io : SidecarPort P Bytes)
    (r : SidecarRuntime P Bytes) (p : SelectedRuntimeProjection) (config : Bytes)
    (prepared : PreparedDocumentSave) (a : DocumentAnswers P) (disk : AppState) :
    Writes op w (w'.switchDocument io r op p config prepared a disk).1.2 := by
  rw [ManagedRuntime.switchDocument]
  cases r.prepareReplacement io config with
  | mk result r' =>
    have hwith : Progresses op w (w'.withRuntime r') := h
    cases result with
    | error e =>
      dsimp only
      split
      · exact (hwith.failure _ _).failedDocumentSwitch .recoveryRequired
      · exact hwith.failedDocumentSwitch .configurationFailed
    | ok =>
      have hprepared := hwith.switchPhase .prepared rfl
      dsimp only
      split
      · exact hprepared.cancelDocument io r' _
      · cases commitDocument prepared a disk with
        | mk committed after =>
          cases committed with
          | error e => exact hprepared.cancelDocument io r' _
          | ok => exact hprepared.replaceDocument io r' p _ _

/-- `apply_document_save` records the script of its operation. -/
theorem applyDocumentSave_writes [DecidableEq Value] (env : RuntimeEnv P Bytes Value)
    (w : ManagedRuntime P Bytes) (id op : String) (a : DocumentAnswers P) (disk : AppState) :
    Writes op w (w.applyDocumentSave env id op a disk).1.2 := by
  have hnothing : Writes op w w := ⟨[], (List.append_nil _).symm, rfl⟩
  have hphases := ((Progresses.refl op w).switchPhase .queued rfl).switchPhase .checking rfl
  rw [applyDocumentSave.eq_def]
  cases a.prepared with
  | error e => exact hnothing
  | ok prepared =>
    dsimp only
    split
    · exact hnothing
    · split
      · cases commitDocument prepared a disk with
        | mk committed after => cases committed <;> exact hnothing
      · cases projectSelectedRuntime prepared.next with
        | error e => exact hphases.failedDocumentSwitch _
        | ok p =>
          dsimp only
          cases compileProjection env p a.secret with
          | none => exact hphases.failedDocumentSwitch _
          | some config =>
            dsimp only
            split
            · exact hphases.failedDocumentSwitch _
            · next r _ =>
              have hwith : Progresses op w
                ((w.switchPhases op [.queued, .checking]).withRuntime r) := hphases
              exact hwith.switchDocument env.port r p config prepared a disk

/-- Whatever it finds, the worker's `SaveDocument` records the script of its operation. -/
theorem runDocumentSave_writes [DecidableEq Value] (env : RuntimeEnv P Bytes Value)
    (w : ManagedRuntime P Bytes) (id op : String) (a : DocumentAnswers P) (disk : AppState) :
    Writes op w (w.runDocumentSave env id op a disk).1.2 := by
  have hsettled : ∀ result : DocumentSaveResult × ManagedRuntime P Bytes,
      Writes op w result.2 → Writes op w (settleDocument a.reloaded result).2 := by
    intro result hwrites
    rw [settleDocument.eq_def]
    split
    · dsimp only
      split <;> exact hwrites
    · dsimp only
      split <;> exact hwrites
  exact hsettled _ (applyDocumentSave_writes env w id op a disk)

end ManagedRuntime

end Veyra
