import Veyra.Platform.SystemProxy

/-!
# Veyra.Platform.ProxyOutcomes

What one call of the system-proxy controller says with its result, whatever
the two ports answer and whatever the user changes in between.

A statement about a call is one about its log: the calls that it made, in
order, with their answers.
-/

namespace Veyra

open Effect ProxyPort

/-! ## Guarded writes -/

/-- A call of the port of the settings. -/
def ProxyEvent.isPort : ProxyEvent → Bool
  | .read _ | .write _ _ | .notify _ => true
  | .load _ | .save _ _ | .clear _ => false

def ProxyEvent.isWrite : ProxyEvent → Bool
  | .write _ _ => true
  | _ => false

/-- The last call of the port of the settings. -/
def lastPort (log : List ProxyEvent) : Option ProxyEvent := (log.filter (·.isPort)).getLast?

/-- The last call of the port read a setting that agrees with the managed state. -/
def SawManaged (managed : ManagedProxyState) (log : List ProxyEvent) : Prop :=
  ∃ seen, lastPort log = some (.read (some seen)) ∧ managed.agrees seen = true

/-- Every write of the snapshot comes right after a read that agrees with the managed state. -/
def GuardedWrites (managed : ManagedProxyState) (snapshot : ProxySnapshot)
    (log : List ProxyEvent) : Prop :=
  ∀ before state succeeds after, log = before ++ .write state succeeds :: after →
    state = snapshot → SawManaged managed before

theorem lastPort_snoc {log : List ProxyEvent} {event : ProxyEvent} (h : event.isPort = true) :
    lastPort (log ++ [event]) = some event := by
  simp [lastPort, h]

section Guarded

variable {managed : ManagedProxyState} {snapshot : ProxySnapshot} {log : List ProxyEvent}

/-- A log of guarded writes goes on with an event that is no write, or a guarded one. -/
theorem GuardedWrites.snoc {event : ProxyEvent} (h : GuardedWrites managed snapshot log)
    (guarded : ∀ succeeds, event = .write snapshot succeeds → SawManaged managed log) :
    GuardedWrites managed snapshot (log ++ [event]) := by
  intro before state succeeds after hsplit hstate
  rcases List.eq_nil_or_concat after with rfl | ⟨after', last, rfl⟩
  · obtain ⟨rfl, hevent⟩ := List.append_inj' hsplit rfl
    exact guarded succeeds (by rw [List.singleton_inj.mp hevent, hstate])
  · rw [List.concat_eq_append, ← List.cons_append, ← List.append_assoc] at hsplit
    exact h before state succeeds after' (List.append_inj' hsplit rfl).1 hstate

theorem GuardedWrites.other {event : ProxyEvent} (h : GuardedWrites managed snapshot log)
    (hevent : event.isWrite = false) : GuardedWrites managed snapshot (log ++ [event]) :=
  h.snoc fun _ hwrite => by simp [hwrite, ProxyEvent.isWrite] at hevent

theorem GuardedWrites.others {events : List ProxyEvent} (h : GuardedWrites managed snapshot log)
    (hevents : ∀ e ∈ events, e.isWrite = false) : GuardedWrites managed snapshot (log ++ events) := by
  induction events generalizing log with
  | nil => rwa [List.append_nil]
  | cons e events ih =>
    rw [List.append_cons]
    exact ih (h.other (hevents e List.mem_cons_self)) fun e he =>
      hevents e (List.mem_cons_of_mem _ he)

theorem GuardedWrites.nil : GuardedWrites managed snapshot [] := by
  intro before state succeeds after h
  simp at h

end Guarded

/-! ## The parts of a call -/

namespace WindowsSystemProxy

variable {w : ProxyWorld} {record : ProxyRecoveryRecord}

/-- What writing a record back adds to a log: reads, guarded writes of the snapshot, and a clear;
with `restored`, a read of the snapshot and a clear that succeeded are the end. -/
structure WroteBack (record : ProxyRecoveryRecord) (w : ProxyWorld) (restored : Bool)
    (w' : ProxyWorld) : Prop where
  log : ∃ events, w'.log = w.log ++ events ∧
    (∀ e ∈ events, (∀ state b, e = .write state b → state = record.snapshot) ∧
      ∀ kept b, e ≠ .save kept b) ∧
    (restored → ∃ before last, events = before ++ [.read (some last), .clear true] ∧
      last.semanticallyEquals record.snapshot = true)
  guarded : GuardedWrites record.managed record.snapshot w'.log
  store : if restored then w'.store = none
    else w'.store = w.store ∨ .clear false ∈ w'.log ∧ w'.store = none

/-- **Spec.**  One write, and then notifications; the store stays. -/
theorem writeAndNotify_ends (state : ProxySnapshot) (placed : Placed) :
    Ends ProxyWorld.handle (writeAndNotify state placed) w fun _ w' =>
      w'.store = w.store ∧ ∃ succeeds told,
        w'.log = w.log ++ .write state succeeds :: told ∧ ∀ e ∈ told, ∃ b, e = .notify b := by
  rw [writeAndNotify, ends_write]
  intro x
  cases x.succeeds
  · simp
  · rw [ends_notifySettingsChanged]
    intro y
    cases y.succeeds
    · simp
    · rw [ends_refreshSettings]
      intro z
      cases z.succeeds
      · simp
      · rw [ends_notifyProxySettingsChanged]
        intro u
        cases u.succeeds <;> simp

/-- The first read of a record to write back. -/
theorem WroteBack.start (hguarded : GuardedWrites record.managed record.snapshot w.log)
    (change : Option ProxySnapshot) (seen : Option ProxySnapshot) :
    WroteBack record w false ((w.userChanges change).note (.read seen)) where
  log := ⟨[.read seen], by simp, by simp, by simp⟩
  guarded := by simpa using hguarded.other rfl
  store := by simp

/-- **Spec.**  Once a read agreed with the managed state: the snapshot is written, read back and
the record cleared, or the call fails. -/
theorem WroteBack.write {w₁ w₂ : ProxyWorld} {seen : ProxySnapshot} {told : List ProxyEvent}
    {succeeds : Bool} (hguarded : GuardedWrites record.managed record.snapshot w.log)
    (hlog₁ : w₁.log = w.log ++ [.read (some seen)]) (hstore₁ : w₁.store = w.store)
    (hseen : record.managed.agrees seen = true) (hstore : w₂.store = w₁.store)
    (hlog : w₂.log = w₁.log ++ .write record.snapshot succeeds :: told)
    (htold : ∀ e ∈ told, ∃ b, e = .notify b) : WroteBack record w false w₂ where
  log := by
    refine ⟨.read (some seen) :: .write record.snapshot succeeds :: told, by simp [hlog, hlog₁],
      fun e he => ?_, by simp⟩
    rcases List.mem_cons.mp he with rfl | he
    · simp
    rcases List.mem_cons.mp he with rfl | he
    · simp
    obtain ⟨b, rfl⟩ := htold e he
    simp
  guarded := by
    have hread : GuardedWrites record.managed record.snapshot w₁.log := hlog₁ ▸ hguarded.other rfl
    have hsaw : SawManaged record.managed w₁.log := ⟨seen, by rw [hlog₁, lastPort_snoc rfl], hseen⟩
    have hwrite : GuardedWrites record.managed record.snapshot
        (w₁.log ++ [.write record.snapshot succeeds]) := hread.snoc fun _ _ => hsaw
    rw [hlog, List.append_cons]
    refine hwrite.others fun e he => ?_
    obtain ⟨b, rfl⟩ := htold e he
    rfl
  store := by simp [hstore, hstore₁]

/-- A further read. -/
theorem WroteBack.read {w₁ : ProxyWorld} (h : WroteBack record w false w₁)
    (change : Option ProxySnapshot) (seen : Option ProxySnapshot) :
    WroteBack record w false ((w₁.userChanges change).note (.read seen)) := by
  obtain ⟨events, hlog, hevents, -⟩ := h.log
  refine ⟨⟨events ++ [.read seen], by simp [hlog], ?_, by simp⟩, ?_, ?_⟩
  · simpa [or_imp, forall_and] using hevents
  · simpa using h.guarded.other rfl
  · have := h.store
    simp_all

/-- **Spec.**  The clear after a read of the snapshot. -/
theorem WroteBack.clear {w₁ : ProxyWorld} (before : ProxyWorld) {last : ProxySnapshot}
    (h : WroteBack record w false w₁) (hlog : w₁.log = before.log ++ [.read (some last)])
    (hafter : ∃ events, before.log = w.log ++ events)
    (hlast : last.semanticallyEquals record.snapshot = true) (x : ProxyOutcome) :
    WroteBack record w x.succeeds ((w₁.userChanges x.change).keep none (.clear x.succeeds) x) := by
  obtain ⟨events, hevents, hall, -⟩ := h.log
  obtain ⟨earlier, hearlier⟩ := hafter
  have hend : events = earlier ++ [.read (some last)] := by
    rw [hlog, hearlier, List.append_assoc] at hevents
    exact (List.append_cancel_left hevents).symm
  refine ⟨⟨events ++ [.clear x.succeeds], by simp [hevents], ?_, fun hx => ?_⟩, ?_, ?_⟩
  · simpa [or_imp, forall_and] using hall
  · exact ⟨earlier, last, by simp [hend, hx], hlast⟩
  · simpa using h.guarded.other rfl
  · have hstore : w₁.store = w.store ∨ .clear false ∈ w₁.log ∧ w₁.store = none := by
      simpa using h.store
    cases hx : x.succeeds with
    | true => simp [ProxyOutcome.takesEffect, hx]
    | false =>
      cases ha : x.applied with
      | true => simp [ProxyOutcome.takesEffect, hx, ha]
      | false =>
        rcases hstore with hstore | ⟨hclear, hnone⟩
        · exact .inl (by simp [ProxyOutcome.takesEffect, hx, ha, hstore])
        · exact .inr (by simp [ProxyOutcome.takesEffect, hx, ha, hnone])

/-- **Spec.**  What both `rollback_if_still_managed` and `prove_enable_unapplied` do once a read
agreed with the managed state. -/
theorem writeBack_ends {β : Type} [DecidableEq β] (success : β) {w₁ : ProxyWorld}
    {seen : ProxySnapshot} (hguarded : GuardedWrites record.managed record.snapshot w.log)
    (hlog : w₁.log = w.log ++ [.read (some seen)]) (hstore : w₁.store = w.store)
    (hseen : record.managed.agrees seen = true) :
    Ends ProxyWorld.handle (do
      match ← writeAndNotify record.snapshot .snapshot with
      | .error e => return .error e
      | .ok () =>
        let some verified ← read | return .error .read
        if !verified.semanticallyEquals record.snapshot then return .error .verification
        else
          let .true ← clear | return .error .recoveryStore
          return .ok success : ProxyProgram (Except SystemProxyError β)) w₁ fun result =>
      WroteBack record w (result = .ok success) := by
  refine (writeAndNotify_ends record.snapshot .snapshot).andThen ?_
  rintro result w₂ - ⟨hstore₂, succeeds, told, hlog₂, htold⟩
  have hwrote := WroteBack.write hguarded hlog hstore hseen hstore₂ hlog₂ htold
  cases result with
  | error e => simpa using hwrote
  | ok _ =>
    refine ends_read.mpr fun x => ?_
    dsimp only
    have hread := hwrote.read x.change
      (if x.succeeds then some (w₂.userChanges x.change).setting else none)
    cases hx : x.succeeds with
    | false => simpa [hx] using hread
    | true =>
      rw [hx, if_pos rfl] at hread
      rw [if_pos rfl]
      dsimp only
      cases hequal : (w₂.userChanges x.change).setting.semanticallyEquals record.snapshot with
      | false => simpa using hread
      | true =>
        refine ends_clear.mpr fun y => ?_
        have hclear := hread.clear w₂ (by simp) ⟨_, hlog₂.trans (by rw [hlog, List.append_assoc])⟩
          hequal y
        cases hy : y.succeeds <;> simpa [hy] using hclear

/-- **Spec.**  `rollback_if_still_managed`. -/
theorem rollbackIfStillManaged_ends
    (hguarded : GuardedWrites record.managed record.snapshot w.log) :
    Ends ProxyWorld.handle (rollbackIfStillManaged record) w fun result =>
      WroteBack record w (result = .ok .restored) := by
  rw [rollbackIfStillManaged, ends_read]
  intro x
  dsimp only
  have hstart := WroteBack.start hguarded x.change
    (if x.succeeds then some (w.userChanges x.change).setting else none)
  cases hx : x.succeeds with
  | false => simpa [hx] using hstart
  | true =>
    rw [hx, if_pos rfl] at hstart
    rw [if_pos rfl]
    dsimp only
    cases hagrees : record.managed.agrees (w.userChanges x.change).setting with
    | false => simpa using hstart
    | true => exact writeBack_ends SystemProxyRestoreOutcome.restored hguarded (by simp) (by simp) hagrees

/-- **Spec.**  `prove_enable_unapplied`. -/
theorem proveEnableUnapplied_ends
    (hguarded : GuardedWrites record.managed record.snapshot w.log) :
    Ends ProxyWorld.handle (proveEnableUnapplied record) w fun result =>
      WroteBack record w (result = .ok ()) := by
  rw [proveEnableUnapplied, ends_read]
  intro x
  dsimp only
  have hstart := WroteBack.start hguarded x.change
    (if x.succeeds then some (w.userChanges x.change).setting else none)
  cases hx : x.succeeds with
  | false => simpa [hx] using hstart
  | true =>
    rw [hx, if_pos rfl] at hstart
    rw [if_pos rfl]
    dsimp only
    cases hequal : (w.userChanges x.change).setting.semanticallyEquals record.snapshot with
    | true =>
      rw [if_pos rfl, ends_clear]
      intro y
      have hclear := hstart.clear w (by simp) ⟨[], by simp⟩ hequal y
      cases hy : y.succeeds <;> simpa [hy] using hclear
    | false =>
      cases hagrees : record.managed.agrees (w.userChanges x.change).setting with
      | false => simpa [hequal] using hstart
      | true => exact writeBack_ends () hguarded (by simp) (by simp) hagrees

end WindowsSystemProxy

/-! ## What the results say -/

/-- What a call of `enable_loopback_proxy` tells with its result and its log. -/
structure EnableTells (managed : ManagedProxyState)
    (result : Except SystemProxyEnableError Unit) (w : ProxyWorld) : Prop where
  /-- No write was attempted, or the last read found the setting that the first one found, and the
  record was cleared after it. -/
  safelyUnapplied : ∀ e, result = .error (.safelyUnapplied e) →
    (∀ event ∈ w.log, event.isWrite = false) ∨
      ∃ first before last, w.log = .read (some first) :: before ++ [.read (some last), .clear true] ∧
        last.semanticallyEquals first = true ∧ w.store = none
  /-- The managed state was read back, nothing was written since, and a stable record was saved. -/
  enabled : result = .ok () → ∃ first before seen,
    w.log = .read (some first) :: before ++
      [.read (some seen), .save ⟨.stable, first, managed⟩ true] ∧
    managed.agrees seen = true ∧ w.store = some ⟨.stable, first, managed⟩
  /-- Only the managed state and the setting that was found are written, and the latter only right
  after a read that agrees with the managed state. -/
  writes : ∀ state succeeds, .write state succeeds ∈ w.log → state = managed.snapshot ∨
    ∃ first rest, w.log = .read (some first) :: rest ∧ state = first
  guarded : ∀ first rest, w.log = .read (some first) :: rest → GuardedWrites managed first w.log
  /-- The record that was saved is kept, but for a clear that was reported as failed. -/
  stateUncertain : ∀ e, result = .error (.stateUncertain e) →
    ∀ record, .save record true ∈ w.log →
      (∃ kept, w.store = some kept ∧ kept.snapshot = record.snapshot ∧
        kept.managed = record.managed) ∨
      .clear false ∈ w.log ∧ w.store = none

/-- What a call of `restore_proxy` tells with its result and its log. -/
structure RestoreTells (result : Except SystemProxyError SystemProxyRestoreOutcome)
    (w : ProxyWorld) : Prop where
  /-- The snapshot of the record was read back, and the record cleared after it. -/
  restored : result = .ok .restored → ∃ record before seen,
    w.log = .load (some (some record)) :: before ++ [.read (some seen), .clear true] ∧
      seen.semanticallyEquals record.snapshot = true ∧ w.store = none
  /-- Only the snapshot is written, and only right after a read that agrees with the managed
  state. -/
  guarded : ∀ state succeeds, .write state succeeds ∈ w.log →
    ∃ record rest, w.log = .load (some (some record)) :: rest ∧ state = record.snapshot ∧
      GuardedWrites record.managed record.snapshot w.log

namespace WindowsSystemProxy

variable {w : ProxyWorld} {managed : ManagedProxyState} {first : ProxySnapshot}

/-- The record is saved, and what was written since was guarded: the log of an enabling call
before it is decided. -/
structure Applying (managed : ManagedProxyState) (first : ProxySnapshot) (w : ProxyWorld) :
    Prop where
  log : ∃ events,
    w.log = .read (some first) :: .save (.transitioning first managed) true :: events ∧
      ∀ e ∈ events, (∀ state b, e = .write state b → state = managed.snapshot) ∧
        ∀ kept b, e ≠ .save kept b
  guarded : GuardedWrites managed first w.log
  store : w.store = some (.transitioning first managed)

/-- The managed state is written once the record is saved. -/
theorem Applying.start {w₁ w₂ : ProxyWorld} {told : List ProxyEvent} {succeeds : Bool}
    (hlog : w₁.log = [.read (some first), .save (.transitioning first managed) true])
    (hstore : w₁.store = some (.transitioning first managed)) (hstore₂ : w₂.store = w₁.store)
    (hlog₂ : w₂.log = w₁.log ++ .write managed.snapshot succeeds :: told)
    (htold : ∀ e ∈ told, ∃ b, e = .notify b) : Applying managed first w₂ where
  log := by
    refine ⟨.write managed.snapshot succeeds :: told, by simp [hlog₂, hlog], fun e he => ?_⟩
    rcases List.mem_cons.mp he with rfl | he
    · simp
    obtain ⟨b, rfl⟩ := htold e he
    simp
  guarded := by
    have hread : GuardedWrites managed first w₁.log := by
      have h : GuardedWrites managed first [.read (some first)] := GuardedWrites.nil.other rfl
      exact hlog ▸ h.other rfl
    have hwrite : GuardedWrites managed first (w₁.log ++ [.write managed.snapshot succeeds]) := by
      refine hread.snoc fun b hwrite => ⟨first, by rw [hlog]; rfl, ?_⟩
      -- a managed state that is the very setting that was found agrees with it
      rw [ManagedProxyState.agrees, (ProxyEvent.write.inj hwrite).1]
      exact first.semanticallyEquals_refl
    rw [hlog₂, List.append_cons]
    refine hwrite.others fun e he => ?_
    obtain ⟨b, rfl⟩ := htold e he
    rfl
  store := hstore₂.trans hstore

/-- A further read. -/
theorem Applying.read (h : Applying managed first w) (change seen : Option ProxySnapshot) :
    Applying managed first ((w.userChanges change).note (.read seen)) := by
  obtain ⟨events, hlog, hevents⟩ := h.log
  refine ⟨⟨events ++ [.read seen], by simp [hlog], ?_⟩, ?_, by simpa using h.store⟩
  · simpa [or_imp, forall_and] using hevents
  · simpa using h.guarded.other rfl

/-- A call that ends there is uncertain and keeps the record. -/
theorem Applying.uncertain (h : Applying managed first w) (e : SystemProxyError) :
    EnableTells managed (.error (.stateUncertain e)) w := by
  obtain ⟨events, hlog, hevents⟩ := h.log
  refine ⟨by simp, by simp, fun state succeeds hwrite => ?_, fun f rest hf => ?_,
    fun _ _ record hsave => .inl ⟨_, h.store, ?_⟩⟩
  · simp only [hlog, List.mem_cons, reduceCtorEq, false_or] at hwrite
    exact .inl ((hevents _ hwrite).1 _ _ rfl)
  · rw [hlog] at hf
    cases hf
    exact h.guarded
  · simp only [hlog, List.mem_cons, reduceCtorEq, false_or] at hsave
    rcases hsave with hsave | hsave
    · cases hsave
      exact ⟨rfl, rfl⟩
    · exact absurd rfl ((hevents _ hsave).2 _ _)

/-- **Spec.**  A failed call is unapplied if that can be proved, and uncertain otherwise. -/
theorem compensate_ends (h : Applying managed first w) (error : SystemProxyError) :
    Ends ProxyWorld.handle (compensate (.transitioning first managed) error) w
      (EnableTells managed) := by
  refine (proveEnableUnapplied_ends h.guarded).andThen ?_
  rintro result w' - hback
  obtain ⟨events, hlog, hevents⟩ := h.log
  obtain ⟨more, hlog', hmore, hend⟩ := hback.log
  have hlog' : w'.log =
      .read (some first) :: .save (.transitioning first managed) true :: (events ++ more) := by
    rw [hlog', hlog]
    rfl
  have hwrites : ∀ state succeeds, .write state succeeds ∈ w'.log → state = managed.snapshot ∨
      ∃ found rest, w'.log = .read (some found) :: rest ∧ state = found := by
    intro state succeeds hwrite
    rw [hlog'] at hwrite
    simp only [List.mem_cons, List.mem_append, reduceCtorEq, false_or] at hwrite
    rcases hwrite with hwrite | hwrite
    · exact .inl ((hevents _ hwrite).1 _ _ rfl)
    · exact .inr ⟨first, _, hlog', (hmore _ hwrite).1 _ _ rfl⟩
  have hguarded : ∀ found rest, w'.log = .read (some found) :: rest →
      GuardedWrites managed found w'.log := by
    intro found rest hfound
    rw [hlog'] at hfound
    cases hfound
    exact hback.guarded
  cases result with
  | ok u =>
    obtain ⟨before, last, hmore', hlast⟩ := hend (by simp)
    refine ends_done.mpr ⟨fun _ _ => .inr ⟨first,
      .save (.transitioning first managed) true :: (events ++ before), last, ?_, hlast, ?_⟩,
      by simp, hwrites, hguarded, by simp⟩
    · simp [hlog', hmore']
    · simpa using hback.store
  | error e =>
    refine ends_done.mpr ⟨by simp, by simp, hwrites, hguarded, fun _ _ record hsave => ?_⟩
    have hrecord : record = .transitioning first managed := by
      rw [hlog'] at hsave
      simp only [List.mem_cons, List.mem_append, reduceCtorEq, false_or] at hsave
      rcases hsave with hsave | hsave | hsave
      · exact (ProxyEvent.save.inj hsave).1
      · exact absurd rfl ((hevents _ hsave).2 _ _)
      · exact absurd rfl ((hmore _ hsave).2 _ _)
    have hstore : w'.store = w.store ∨ .clear false ∈ w'.log ∧ w'.store = none := by
      simpa using hback.store
    exact hstore.imp_left fun hstore =>
      ⟨_, hstore.trans h.store, by rw [hrecord], by rw [hrecord]⟩

/-- The end of a call whose managed state was read back. -/
theorem Applying.stable {w₁ : ProxyWorld} {seen : ProxySnapshot} (h : Applying managed first w₁)
    (hlog : ∃ before : ProxyWorld, Applying managed first before ∧
      w₁.log = before.log ++ [.read (some seen)])
    (hseen : managed.agrees seen = true) (x : ProxyOutcome) :
    EnableTells managed (if x.succeeds then .ok () else .error (.stateUncertain .recoveryStore))
      ((w₁.userChanges x.change).keep (some ⟨.stable, first, managed⟩)
        (.save ⟨.stable, first, managed⟩ x.succeeds) x) := by
  obtain ⟨before, hbefore, hlog⟩ := hlog
  obtain ⟨events, hevents, hall⟩ := hbefore.log
  rw [hevents] at hlog
  refine ⟨?_, fun hok => ?_, fun state succeeds hwrite => ?_, fun found rest hfound => ?_,
    fun e he record hsave => ?_⟩
  · split <;> simp
  · have hx : x.succeeds = true := by
      cases hx : x.succeeds with
      | true => rfl
      | false => simp [hx] at hok
    exact ⟨first, .save (.transitioning first managed) true :: events, seen,
      by simp [hlog, hx], hseen, by simp [ProxyOutcome.takesEffect, hx]⟩
  · simp only [ProxyWorld.keep_log, ProxyWorld.userChanges_log, hlog, List.mem_append,
      List.mem_cons, reduceCtorEq, false_or, List.not_mem_nil, or_false] at hwrite
    exact .inl ((hall _ hwrite).1 _ _ rfl)
  · simp only [ProxyWorld.keep_log, ProxyWorld.userChanges_log] at hfound ⊢
    have hfirst : found = first := by
      rw [hlog] at hfound
      cases hfound
      rfl
    rw [hfirst]
    exact h.guarded.other rfl
  · have hx : x.succeeds = false := by
      cases hx : x.succeeds with
      | false => rfl
      | true => simp [hx] at he
    have hrecord : record = .transitioning first managed := by
      simp only [ProxyWorld.keep_log, ProxyWorld.userChanges_log, hlog, List.mem_append,
        List.mem_cons, reduceCtorEq, false_or, List.not_mem_nil, or_false, ProxyEvent.save.injEq,
        hx, Bool.true_eq_false, and_false] at hsave
      rcases hsave with hsave | hsave
      · exact hsave.1
      · exact absurd rfl ((hall _ hsave).2 _ _)
    refine .inl ?_
    rw [ProxyWorld.keep_store, ProxyWorld.userChanges_store, h.store, hrecord]
    split
    · exact ⟨_, rfl, rfl, rfl⟩
    · exact ⟨_, rfl, rfl, rfl⟩

/-- A call that wrote nothing is unapplied. -/
theorem tells_unwritten (h : ∀ event ∈ w.log, event.isWrite = false) (e : SystemProxyError) :
    EnableTells managed (.error (.safelyUnapplied e)) w := by
  refine ⟨fun _ _ => .inl h, by simp, fun state succeeds hwrite => ?_, fun found rest _ => ?_,
    by simp⟩
  · exact absurd (h _ hwrite) (by simp [ProxyEvent.isWrite])
  · exact GuardedWrites.nil.others h

/-- **Spec.**  `enable`. -/
theorem enable_ends (managed : ManagedProxyState) (hlog : w.log = []) :
    Ends ProxyWorld.handle (enable managed) w (EnableTells managed) := by
  rw [enable, ends_read]
  intro x
  dsimp only
  cases hx : x.succeeds with
  | false => exact ends_done.mpr (tells_unwritten (by simp [hlog, ProxyEvent.isWrite]) _)
  | true =>
    rw [if_pos rfl]
    dsimp only
    refine ends_save.mpr fun y => ?_
    cases hy : y.succeeds with
    | false => exact ends_done.mpr (tells_unwritten (by simp [hlog, ProxyEvent.isWrite]) _)
    | true =>
      dsimp only
      refine (writeAndNotify_ends managed.snapshot .managed).andThen ?_
      rintro result w₂ - ⟨hstore, succeeds, told, hlog₂, htold⟩
      have happlying : Applying managed (w.userChanges x.change).setting w₂ :=
        Applying.start (by simp [hlog]) (by simp [ProxyOutcome.takesEffect, hy]) hstore hlog₂
          htold
      cases result with
      | error e => exact compensate_ends happlying e
      | ok u =>
        refine ends_read.mpr fun z => ?_
        dsimp only
        have hread := happlying.read z.change
        cases hz : z.succeeds with
        | false => exact ends_done.mpr ((hread none).uncertain _)
        | true =>
          rw [if_pos rfl]
          dsimp only
          cases hagrees : managed.agrees (w₂.userChanges z.change).setting with
          | false =>
            rw [if_pos (by simpa using hagrees)]
            exact compensate_ends (hread _) _
          | true =>
            rw [if_neg (by simpa using hagrees)]
            refine ends_save.mpr fun u => ?_
            have hstable := (hread (some (w₂.userChanges z.change).setting)).stable
              ⟨w₂, happlying, by simp⟩ hagrees u
            cases hu : u.succeeds with
            | false => simpa [hu] using hstable
            | true => simpa [hu] using hstable

/-- **Spec.**  `restore`. -/
theorem restore_ends (hlog : w.log = []) :
    Ends ProxyWorld.handle restore w RestoreTells := by
  rw [restore, ends_load]
  intro x
  dsimp only
  cases hx : x.succeeds with
  | false => exact ends_done.mpr ⟨by simp, by simp [hlog]⟩
  | true =>
    rw [if_pos rfl]
    rw [ProxyWorld.userChanges_store]
    cases hstore : w.store with
    | none => exact ends_done.mpr ⟨by simp, by simp [hlog]⟩
    | some record =>
      refine (rollbackIfStillManaged_ends ?_).mono ?_
      · simpa [hlog] using GuardedWrites.nil.other rfl
      · rintro result w' - hback
        obtain ⟨events, hlog', hevents, hend⟩ := hback.log
        have hlog' : w'.log = .load (some (some record)) :: events := by simp [hlog', hlog]
        refine ⟨fun hresult => ?_, fun state succeeds hwrite => ?_⟩
        · obtain ⟨before, seen, hbefore, hseen⟩ := hend (by simp [hresult])
          exact ⟨record, before, seen, by simp [hlog', hbefore], hseen,
            by simpa [hresult] using hback.store⟩
        · simp only [hlog', List.mem_cons, reduceCtorEq, false_or] at hwrite
          exact ⟨record, events, hlog', (hevents _ hwrite).1 _ _ rfl, hback.guarded⟩

end WindowsSystemProxy

/-! ## The results -/

open WindowsSystemProxy

/-- **The results prove what they say.**  Whatever the ports answer and whatever the user changes
between two calls: a call of `enable_loopback_proxy` over an empty recovery store, and every call
of `restore_proxy`, tell the truth with their results, and never write a recorded snapshot except
right after a read that found the managed state. -/
theorem system_proxy_tells (setting : ProxySnapshot) (tape : Tape ProxyOutcome) :
    (∀ mixedPort : NonZeroPort,
      let (result, w) := (ProxyWorld.start setting none).runs (enableLoopbackProxy mixedPort) tape
      EnableTells (.loopback mixedPort) result w) ∧
    ∀ store : Option ProxyRecoveryRecord,
      let (result, w) := (ProxyWorld.start setting store).runs restoreProxy tape
      RestoreTells result w := by
  refine ⟨fun mixedPort => ?_, fun store => ?_⟩
  · have h : Ends ProxyWorld.handle (enableLoopbackProxy mixedPort)
        (ProxyWorld.start setting none) (EnableTells (.loopback mixedPort)) := by
      refine ends_lock.mpr fun x => ?_
      cases x.succeeds with
      | false =>
        exact ends_done.mpr ⟨by simp, by simp, by simp [ProxyWorld.start],
          by simp [ProxyWorld.start], by simp [ProxyWorld.start]⟩
      | true => exact enable_ends _ (by simp [ProxyWorld.start])
    exact h.run tape
  · have h : Ends ProxyWorld.handle restoreProxy (ProxyWorld.start setting store) RestoreTells := by
      refine ends_lock.mpr fun x => ?_
      cases x.succeeds with
      | false => exact ends_done.mpr ⟨by simp, by simp [ProxyWorld.start]⟩
      | true => exact restore_ends (by simp [ProxyWorld.start])
    exact h.run tape

end Veyra
