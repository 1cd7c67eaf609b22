import Veyra.Application.ObservationResponses
import Veyra.Application.Publication

/-!
# Veyra.Application.WindowFeed

The observations that go to the main window.  The sink of the process sends a delta as an event
while the window is visible; a window that is shown again is sent a snapshot; the page can ask for
one at any time.  An event that comes before the page listens is lost.

Threads hand their deltas over in any order, so an event may be older than the one before it.
What holds of every observation on its way is `Past`: it is one that the process had, and if no
update came since, a read turns it into the one that the process has.
-/

namespace Veyra

open Transition

/-! ## Earlier observations -/

namespace RuntimeObservationSnapshot

variable {s t : RuntimeObservationSnapshot} {now later : UInt64} {record : Record}

/-- The oldest time that is kept. -/
def oldest (now : UInt64) : UInt64 :=
  if trafficHistoryWindowMs ≤ now then now - trafficHistoryWindowMs else 0

/-- Samples get too old with time. -/
theorem oldest_mono (h : now ≤ later) : oldest now ≤ oldest later := by
  rw [UInt64.le_iff_toNat_le] at h
  rw [oldest, oldest]
  split
  · next hnow =>
    have hlater : trafficHistoryWindowMs ≤ later := by
      rw [UInt64.le_iff_toNat_le] at hnow ⊢
      omega
    rw [if_pos hlater, UInt64.le_iff_toNat_le, UInt64.toNat_sub_of_le _ _ hnow,
      UInt64.toNat_sub_of_le _ _ hlater]
    omega
  · rw [UInt64.le_iff_toNat_le]
    exact Nat.zero_le _

/-- A history that fits is only filtered by a read. -/
theorem read_eq (h : s.trafficHistory.length ≤ trafficHistoryCapacity) (now : UInt64) :
    s.read now = { s with
      observedAtMs := now
      trafficHistory := s.trafficHistory.filter (oldest now ≤ ·.sampledAtMs) } := by
  have hlength := List.length_filter_le (fun point : TrafficHistoryPoint =>
    decide (oldest now ≤ point.sampledAtMs)) s.trafficHistory
  have hexcess : (s.trafficHistory.filter fun point : TrafficHistoryPoint =>
      decide (oldest now ≤ point.sampledAtMs)).length - trafficHistoryCapacity = 0 := by omega
  have hprune : s.read now = { s with
      observedAtMs := now
      trafficHistory := (s.trafficHistory.filter (oldest now ≤ ·.sampledAtMs)).drop
        ((s.trafficHistory.filter (oldest now ≤ ·.sampledAtMs)).length -
          trafficHistoryCapacity) } := rfl
  rw [hprune, hexcess, List.drop_zero]

/-- Of two reads the later one counts. -/
theorem read_read (h : s.Consistent) (hlater : now ≤ later) :
    (s.read now).read later = s.read later := by
  have hlength := List.length_filter_le (fun point : TrafficHistoryPoint =>
    decide (oldest now ≤ point.sampledAtMs)) s.trafficHistory
  have hfilter : ∀ point : TrafficHistoryPoint,
      (decide (oldest now ≤ point.sampledAtMs) && decide (oldest later ≤ point.sampledAtMs)) =
        decide (oldest later ≤ point.sampledAtMs) := by
    intro point
    rw [Bool.and_eq_right_iff_imp, decide_eq_true_eq, decide_eq_true_eq]
    exact UInt64.le_trans (oldest_mono hlater)
  rw [read_eq h.pruned.length, read_eq (hlength.trans h.pruned.length), read_eq h.pruned.length]
  simp only [List.filter_filter, Bool.and_comm, hfilter]

/-- A read at its own time keeps a consistent observation. -/
theorem read_self (h : s.Consistent) : s.read s.observedAtMs = s := by
  have hkept : s.trafficHistory.filter (oldest s.observedAtMs ≤ ·.sampledAtMs) =
      s.trafficHistory := by
    rw [List.filter_eq_self]
    intro point hpoint
    have hrecent := h.pruned.recent point hpoint
    rw [decide_eq_true_eq, oldest]
    split
    · next hle =>
      rw [UInt64.le_iff_toNat_le, UInt64.toNat_sub_of_le _ _ hle]
      omega
    · rw [UInt64.le_iff_toNat_le]
      exact Nat.zero_le _
  rw [read_eq h.pruned.length, hkept]

/-- What is known of an observation that was taken earlier, when the current one is `current`. -/
structure Past (current s : RuntimeObservationSnapshot) : Prop where
  consistent : s.Consistent
  revision : s.revision ≤ current.revision
  observedAtMs : s.observedAtMs ≤ current.observedAtMs
  /-- nothing was recorded since -/
  same : s.revision = current.revision → s.read current.observedAtMs = current

/-- The present is past. -/
theorem Past.self (h : s.Consistent) : Past s s where
  consistent := h
  revision := UInt64.le_refl _
  observedAtMs := UInt64.le_refl _
  same _ := read_self h

/-- What was past stays so when the time is read. -/
theorem Past.read (h : Past s t) (hnow : s.observedAtMs ≤ now) : Past (s.read now) t where
  consistent := h.consistent
  revision := h.revision
  observedAtMs := UInt64.le_trans h.observedAtMs hnow
  same hrevision := by
    have hsame := h.same hrevision
    calc t.read now = (t.read s.observedAtMs).read now := (read_read h.consistent hnow).symm
      _ = s.read now := by rw [hsame]

/-- A record that finds a revision left is newer than all before. -/
theorem lt_update (now : UInt64) (record : Record) (hrevision : s.revision < Veyra.maxSafeInteger) :
    s.revision < (s.update now fun s => record.change s).revision := by
  have hmax : Veyra.maxSafeInteger.toNat = 9007199254740991 := rfl
  rw [UInt64.lt_iff_toNat_lt] at hrevision ⊢
  rw [revision_update, Observations.nextRevision_toNat (by omega)]
  omega

/-- And when a record is made. -/
theorem Past.update (h : Past s t) (hnow : s.observedAtMs ≤ now)
    (hrevision : s.revision < Veyra.maxSafeInteger) :
    Past (s.update now fun s => record.change s) t where
  consistent := h.consistent
  revision := UInt64.le_of_lt (UInt64.lt_of_le_of_lt h.revision (lt_update now record hrevision))
  observedAtMs := by
    rw [observedAtMs_update]
    exact UInt64.le_trans h.observedAtMs hnow
  same heq := by
    have hlt := UInt64.lt_of_le_of_lt h.revision (lt_update now record hrevision)
    rw [heq] at hlt
    exact absurd hlt (UInt64.lt_irrefl _)

end RuntimeObservationSnapshot

/-! ## Deltas for the sink -/

namespace Observations

variable {s t : Observations} {e : ObservationEvent}

/-- What the publishing threads have for the sink. -/
def owed (s : Observations) : List RuntimeObservationSnapshot :=
  (s.publications.filter (·.sink.isSome)).map (·.delta.toRuntimeObservationSnapshot)

/-- What a step hands to the sink. -/
def toSink (s : Observations) : ObservationEvent → List RuntimeObservationSnapshot
  | .call thread =>
    match s.publications[thread]? with
    | some ⟨delta, some _, .calling⟩ => [delta.toRuntimeObservationSnapshot]
    | _ => []
  | _ => []

/-- `snapshot`. -/
def readAt (s : Observations) (now : UInt64) : Observations :=
  { s with snapshot := s.snapshot.read now }

/-- What is owed does not depend on the stage of a thread. -/
theorem Threads.owed {thread : Nat} {before after : List Publication} {p : Publication}
    (h : s.Threads thread before p after) (stage : PublicationStage) :
    ((before ++ { p with stage } :: after).filter (·.sink.isSome)).map
      (·.delta.toRuntimeObservationSnapshot) = s.owed := by
  rw [Observations.owed, h.1]
  simp only [List.filter_append, List.filter_cons, List.map_append]
  split <;> rfl

/-- An update gives the sink that is installed its delta. -/
theorem owed_recordUpdate (h : s.sink.isSome = true) (now : UInt64) (record : Record) :
    (s.recordUpdate now record).owed = s.owed ++ [(s.recordUpdate now record).snapshot] := by
  rw [owed, recordUpdate, List.filter_append, List.map_append]
  simp only [List.filter_cons, h, if_true, List.filter_nil, List.map_cons, List.map_nil]
  rfl

/-- Without a sink an update is not handed on. -/
theorem owed_recordUpdate_none (h : s.sink.isSome = false) (now : UInt64) (record : Record) :
    (s.recordUpdate now record).owed = s.owed := by
  rw [owed, recordUpdate, List.filter_append, List.map_append]
  simp only [List.filter_cons, h, Bool.false_eq_true, if_false, List.filter_nil, List.map_nil,
    List.append_nil]
  rfl

/-- What a step does that neither records nor reads: the snapshot stays, and a delta for the sink
stays or is handed over. -/
structure Moves (s : Observations) (e : ObservationEvent) (t : Observations) : Prop where
  snapshot : t.snapshot = s.snapshot
  sink : s.sink.isSome = true → t.sink.isSome = true
  owed : ∀ o, o ∈ s.owed ↔ o ∈ t.owed ∨ o ∈ s.toSink e

/-- A step that changes none of this. -/
theorem Moves.of_eq (hsnapshot : t.snapshot = s.snapshot)
    (hsink : s.sink.isSome = true → t.sink.isSome = true) (howed : t.owed = s.owed)
    (he : s.toSink e = []) : s.Moves e t :=
  ⟨hsnapshot, hsink, fun o => by rw [howed, he]; simp⟩

/-- A thread that calls the window hands its delta over. -/
theorem moves_call {thread : Nat} (h : s.step (.call thread) = some t) :
    s.Moves (.call thread) t := by
  obtain ⟨before, p, after, ⟨hsplit, hlength⟩, hstage, rfl⟩ := call_ok h
  refine ⟨rfl, id, ?_⟩
  have hp : s.publications[thread]? = some p := by
    rw [hsplit, ← hlength]
    simp
  intro o
  obtain ⟨delta, sink, stage⟩ := p
  cases hstage
  rw [toSink, hp, owed, owed, hsplit]
  cases sink with
  | none => simp
  | some number =>
    simp only [List.filter_append, List.filter_cons, List.map_append, List.mem_append,
      List.map_cons, List.mem_cons, Option.isSome_some, if_true, List.not_mem_nil, or_false]
    tauto

/-- **Inversion.**  A step records, reads, or moves on. -/
theorem step_cases (h : s.step e = some t) :
    (∃ now record, e = .update now record ∧ t = s.recordUpdate now record) ∨
      (∃ now, e = .read now ∧ t = s.readAt now) ∨ s.Moves e t := by
  cases e with
  | update now record => exact .inl ⟨now, record, rfl, (Option.some.inj h).symm⟩
  | read now => exact .inr (.inl ⟨now, rfl, (Option.some.inj h).symm⟩)
  | lock thread =>
    obtain ⟨before, p, after, threads, -, -, rfl⟩ := lock_ok h
    exact .inr (.inr (.of_eq rfl id (threads.owed _) rfl))
  | fill thread slot =>
    obtain ⟨before, p, after, left, threads, -, -, rfl⟩ := fill_ok h
    exact .inr (.inr (.of_eq rfl id (threads.owed _) rfl))
  | unlock thread =>
    obtain ⟨before, p, after, threads, -, rfl⟩ := unlock_ok h
    exact .inr (.inr (.of_eq rfl id (threads.owed _) rfl))
  | call thread => exact .inr (.inr (moves_call h))
  | install =>
    cases h
    exact .inr (.inr (.of_eq rfl (fun _ => rfl) rfl rfl))
  | subscribe =>
    rw [step] at h
    split at h
    · cases h
      exact .inr (.inr (.of_eq rfl id rfl rfl))
    · cases h
  | unsubscribe id =>
    rw [step] at h
    split at h
    · cases h
      exact .inr (.inr (.of_eq rfl (fun hs => hs) rfl rfl))
    · cases h
  | take slot =>
    cases h
    exact .inr (.inr (.of_eq rfl id rfl rfl))

end Observations

/-! ## The window -/

/-- The observations of the process, and what reaches the page of the main window. -/
structure WindowFeed where
  observations : Observations
  /-- `MainWindowVisibility` -/
  visible : Bool
  /-- calls of `restore_main_window` that have marked the window and not sent the snapshot -/
  restoring : Nat
  listening : Bool
  /-- the events since the page listens -/
  emitted : List RuntimeObservationSnapshot
  /-- the snapshots that were read for the page since it listens -/
  answers : List RuntimeObservationSnapshot

inductive WindowEvent
  | observe (e : ObservationEvent)
  /-- the window is hidden instead of closed -/
  | markHidden
  /-- `restore_main_window`, up to the snapshot -/
  | markVisible
  | announce (now : UInt64)
  | listen
  /-- `runtime_observation_snapshot` -/
  | answer (now : UInt64)
deriving DecidableEq, Repr

namespace WindowFeed

def new : WindowFeed where
  observations := .new
  visible := true
  restoring := 0
  listening := false
  emitted := []
  answers := []

/-- Events of the main window. -/
def emit (s : WindowFeed) (payloads : List RuntimeObservationSnapshot) : WindowFeed :=
  { s with emitted := s.emitted ++ payloads }

/-- One step of the process. -/
def step (s : WindowFeed) : WindowEvent → Option WindowFeed
  | .observe e =>
    (s.observations.step e).map fun observations =>
      { s with observations }.emit (if s.visible then s.observations.toSink e else [])
  | .markHidden => some { s with visible := false }
  | .markVisible => some { s with visible := true, restoring := s.restoring + 1 }
  | .announce now =>
    match s.restoring with
    | 0 => none
    | restoring + 1 =>
      let observations := s.observations.readAt now
      some ({ s with observations, restoring }.emit [observations.snapshot])
  | .listen =>
    -- nobody heard the events so far
    if s.listening then none else some { s with listening := true, emitted := [], answers := [] }
  | .answer now =>
    let observations := s.observations.readAt now
    some { s with observations, answers := s.answers ++ [observations.snapshot] }

/-- The clock of the process does not go back, and a script can hold it. -/
def Ticks (s : WindowFeed) (now : UInt64) : Prop :=
  s.observations.snapshot.observedAtMs ≤ now ∧ now ≤ maxSafeInteger

/-- The records are given ones and a script can count them; the sink is there before the page
listens. -/
def Follows (performed : Record → Prop) (s : WindowFeed) : WindowEvent → Prop
  | .observe (.update now record) =>
    s.Ticks now ∧ s.observations.snapshot.revision < maxSafeInteger ∧ performed record
  | .observe (.read now) | .announce now | .answer now => s.Ticks now
  | .listen => s.observations.sink.isSome = true
  | _ => True

instance decidableFollows {performed : Record → Prop} [DecidablePred performed] :
    ∀ s e, Decidable (Follows performed s e)
  | _, .observe (.update _ record) =>
    inferInstanceAs (Decidable ((_ ∧ _) ∧ _ ∧ performed record))
  | _, .observe (.read _) | _, .announce _ | _, .answer _ => inferInstanceAs (Decidable (_ ∧ _))
  | _, .listen => inferInstanceAs (Decidable (_ = _))
  | _, .observe (.lock _) | _, .observe (.fill ..) | _, .observe (.unlock _)
  | _, .observe (.call _) | _, .observe .install | _, .observe .subscribe
  | _, .observe (.unsubscribe _) | _, .observe (.take _) | _, .markHidden | _, .markVisible =>
    .isTrue trivial

theorem Follows.mono {performed performed' : Record → Prop} {s : WindowFeed}
    (h : ∀ record, performed record → performed' record) {e : WindowEvent}
    (ok : s.Follows performed e) : s.Follows performed' e := by
  cases e with
  | observe e =>
    cases e with
    | update now record => exact ⟨ok.1, ok.2.1, h record ok.2.2⟩
    | _ => exact ok
  | _ => exact ok

/-! ## What is on its way -/

/-- All that can still reach the page. -/
def sent (s : WindowFeed) : List RuntimeObservationSnapshot :=
  s.observations.owed ++ s.emitted ++ s.answers

structure Sound (s : WindowFeed) : Prop where
  current : s.observations.snapshot.Consistent
  revision : s.observations.snapshot.revision ≤ maxSafeInteger
  observedAtMs : s.observations.snapshot.observedAtMs ≤ maxSafeInteger
  past : ∀ o ∈ s.sent, s.observations.snapshot.Past o
  sink : s.listening = true → s.observations.sink.isSome = true

variable {s t : WindowFeed} {performed : Record → Prop}

/-- At the start nothing was sent. -/
theorem Sound.new : WindowFeed.new.Sound where
  current := .mock
  revision := by decide
  observedAtMs := by decide
  past o ho := by cases ho
  sink h := by cases h

/-- What was sent is on its way, was handed over, or was an answer. -/
theorem mem_sent {o : RuntimeObservationSnapshot} :
    o ∈ s.sent ↔ o ∈ s.observations.owed ∨ o ∈ s.emitted ∨ o ∈ s.answers := by
  rw [sent, List.mem_append, List.mem_append, or_assoc]

/-! ### Everything sent was current -/

/-- A read brings everything up to date and changes nothing else. -/
theorem Sound.readAt (h : s.Sound) {now : UInt64} (ok : s.Ticks now) :
    ({ s with observations := s.observations.readAt now } : WindowFeed).Sound where
  current := h.current.read ok.1
  revision := h.revision
  observedAtMs := ok.2
  past o ho := (h.past o ho).read ok.1
  sink := h.sink

/-- What is handed over is past. -/
theorem Sound.emit (h : s.Sound) {payloads : List RuntimeObservationSnapshot}
    (hpast : ∀ o ∈ payloads, s.observations.snapshot.Past o) : (s.emit payloads).Sound := by
  refine ⟨h.current, h.revision, h.observedAtMs, ?_, h.sink⟩
  intro o ho
  obtain ho | ho | ho := mem_sent.mp ho
  · exact h.past o (mem_sent.mpr (.inl ho))
  · obtain ho | ho := List.mem_append.mp ho
    · exact h.past o (mem_sent.mpr (.inr (.inl ho)))
    · exact hpast o ho
  · exact h.past o (mem_sent.mpr (.inr (.inr ho)))

/-- What the threads owe after an update is what they owed, or the update. -/
theorem mem_owed_recordUpdate {observations : Observations} {now : UInt64} {record : Record}
    {o : RuntimeObservationSnapshot} (ho : o ∈ (observations.recordUpdate now record).owed) :
    o ∈ observations.owed ∨ o = (observations.recordUpdate now record).snapshot := by
  cases hsink : observations.sink.isSome with
  | true =>
    rw [Observations.owed_recordUpdate hsink, List.mem_append, List.mem_singleton] at ho
    exact ho
  | false =>
    rw [Observations.owed_recordUpdate_none hsink] at ho
    exact .inl ho

/-- A record is on its way to the window, and past from then on. -/
theorem Sound.recordUpdate (h : s.Sound) {now : UInt64} {record : Record}
    (ok : s.Ticks now) (hrevision : s.observations.snapshot.revision < maxSafeInteger)
    (hrecord : record.Sound maxSafeInteger) :
    ({ s with observations := s.observations.recordUpdate now record } : WindowFeed).Sound := by
  have hnext : (s.observations.recordUpdate now record).snapshot =
      s.observations.snapshot.update now fun s => record.change s := rfl
  have hpast : ∀ o ∈ s.sent, (s.observations.recordUpdate now record).snapshot.Past o :=
    fun o ho => (h.past o ho).update ok.1 hrevision
  have hcurrent := h.current.update ok.1 hrecord
  refine ⟨hcurrent, ?_, ?_, ?_, h.sink⟩
  · rw [hnext, RuntimeObservationSnapshot.revision_update, UInt64.le_iff_toNat_le]
    have hle := ObservationLog.nextRevision_le s.observations.snapshot.revision
    have hlt := UInt64.lt_iff_toNat_lt.mp hrevision
    omega
  · rw [hnext, RuntimeObservationSnapshot.observedAtMs_update]
    exact ok.2
  · intro o ho
    obtain ho | ho | ho := mem_sent.mp ho
    · obtain ho | rfl := mem_owed_recordUpdate ho
      · exact hpast o (mem_sent.mpr (.inl ho))
      · exact .self hcurrent
    · exact hpast o (mem_sent.mpr (.inr (.inl ho)))
    · exact hpast o (mem_sent.mpr (.inr (.inr ho)))

/-- What a thread hands to the sink was owed. -/
theorem Sound.moves (h : s.Sound) {e : ObservationEvent} {observations : Observations}
    (hmoves : s.observations.Moves e observations) :
    (({ s with observations } : WindowFeed).emit
      (if s.visible then s.observations.toSink e else [])).Sound := by
  have hsnapshot := hmoves.snapshot
  have howed : ∀ o ∈ s.observations.owed, observations.snapshot.Past o := fun o ho =>
    hsnapshot ▸ h.past o (mem_sent.mpr (.inl ho))
  have hmoved : ({ s with observations } : WindowFeed).Sound := by
    refine ⟨hsnapshot ▸ h.current, hsnapshot ▸ h.revision, hsnapshot ▸ h.observedAtMs, ?_,
      fun hlistens => hmoves.sink (h.sink hlistens)⟩
    intro o ho
    obtain ho | ho := mem_sent.mp ho
    · exact howed o ((hmoves.owed o).mpr (.inl ho))
    · exact hsnapshot ▸ h.past o (mem_sent.mpr (.inr ho))
  refine hmoved.emit fun o ho => ?_
  split at ho
  · exact howed o ((hmoves.owed o).mpr (.inr ho))
  · cases ho

/-- **Step lemma.**  All that can reach the page was once what the process had. -/
theorem Sound.step (hperformed : ∀ record, performed record → record.Sound maxSafeInteger)
    (h : s.Sound) {e : WindowEvent} (ok : s.Follows performed e) (hs : s.step e = some t) :
    t.Sound := by
  cases e with
  | observe e =>
    obtain ⟨observations, hstep, rfl⟩ := Option.map_eq_some_iff.mp hs
    obtain ⟨now, record, rfl, rfl⟩ | ⟨now, rfl, rfl⟩ | hmoves := Observations.step_cases hstep
    · obtain ⟨hticks, hrevision, hrecord⟩ := ok
      refine (h.recordUpdate hticks hrevision (hperformed record hrecord)).emit fun o ho => ?_
      simp [Observations.toSink] at ho
    · refine (h.readAt ok).emit fun o ho => ?_
      simp [Observations.toSink] at ho
    · exact h.moves hmoves
  | markHidden =>
    cases hs
    exact ⟨h.current, h.revision, h.observedAtMs, h.past, h.sink⟩
  | markVisible =>
    cases hs
    exact ⟨h.current, h.revision, h.observedAtMs, h.past, h.sink⟩
  | announce now =>
    rw [WindowFeed.step] at hs
    split at hs
    · cases hs
    · next restoring _ =>
      cases hs
      have hread := h.readAt ok
      have hrestored : ({ s with observations := s.observations.readAt now, restoring } :
          WindowFeed).Sound := ⟨hread.current, hread.revision, hread.observedAtMs, hread.past,
        hread.sink⟩
      refine hrestored.emit fun o ho => ?_
      rw [List.mem_singleton.mp ho]
      exact .self hread.current
  | listen =>
    rw [WindowFeed.step] at hs
    split at hs
    · cases hs
    · cases hs
      refine ⟨h.current, h.revision, h.observedAtMs, fun o ho => ?_, fun _ => ok⟩
      simp only [mem_sent, List.not_mem_nil, or_false] at ho
      exact h.past o (mem_sent.mpr (.inl ho))
  | answer now =>
    cases hs
    have hread := h.readAt ok
    refine ⟨hread.current, hread.revision, hread.observedAtMs, ?_, hread.sink⟩
    intro o ho
    obtain ho | ho | ho := mem_sent.mp ho
    · exact hread.past o (mem_sent.mpr (.inl ho))
    · exact hread.past o (mem_sent.mpr (.inr (.inl ho)))
    · rw [List.mem_append, List.mem_singleton] at ho
      obtain ho | rfl := ho
      · exact hread.past o (mem_sent.mpr (.inr (.inr ho)))
      · exact .self hread.current

/-- What was current stays so of the past. -/
theorem past_step {o : RuntimeObservationSnapshot} (h : s.observations.snapshot.Past o)
    {e : WindowEvent} (ok : s.Follows performed e) (hs : s.step e = some t) :
    t.observations.snapshot.Past o := by
  cases e with
  | observe e =>
    obtain ⟨observations, hstep, rfl⟩ := Option.map_eq_some_iff.mp hs
    obtain ⟨now, record, rfl, rfl⟩ | ⟨now, rfl, rfl⟩ | hmoves := Observations.step_cases hstep
    · exact h.update ok.1.1 ok.2.1
    · exact h.read ok.1
    · rw [← hmoves.snapshot] at h
      exact h
  | markHidden | markVisible =>
    cases hs
    exact h
  | announce now =>
    rw [WindowFeed.step] at hs
    split at hs
    · cases hs
    · cases hs
      exact h.read ok.1
  | listen =>
    rw [WindowFeed.step] at hs
    split at hs
    · cases hs
    · cases hs
      exact h
  | answer now =>
    cases hs
    exact h.read ok.1

/-- Nothing gets on its way to the page but what was on it, and what the process has now. -/
theorem sent_step {e : WindowEvent} (hs : s.step e = some t) {o : RuntimeObservationSnapshot}
    (ho : o ∈ t.sent) : o ∈ s.sent ∨ t.observations.snapshot = o := by
  cases e with
  | observe e =>
    obtain ⟨observations, hstep, rfl⟩ := Option.map_eq_some_iff.mp hs
    obtain ⟨now, record, rfl, rfl⟩ | ⟨now, rfl, rfl⟩ | hmoves := Observations.step_cases hstep
    · have hnone : (if s.visible then s.observations.toSink (.update now record) else []) = [] :=
        ite_self _
      rw [hnone, emit, List.append_nil] at ho
      obtain ho | ho := mem_sent.mp ho
      · obtain ho | rfl := mem_owed_recordUpdate ho
        · exact .inl (mem_sent.mpr (.inl ho))
        · exact .inr rfl
      · exact .inl (mem_sent.mpr (.inr ho))
    · have hnone : (if s.visible then s.observations.toSink (.read now) else []) = [] := ite_self _
      rw [hnone, emit, List.append_nil] at ho
      exact .inl ho
    · left
      obtain ho | ho | ho := mem_sent.mp ho
      · exact mem_sent.mpr (.inl ((hmoves.owed o).mpr (.inl ho)))
      · obtain ho | ho := List.mem_append.mp ho
        · exact mem_sent.mpr (.inr (.inl ho))
        · split at ho
          · exact mem_sent.mpr (.inl ((hmoves.owed o).mpr (.inr ho)))
          · cases ho
      · exact mem_sent.mpr (.inr (.inr ho))
  | markHidden | markVisible =>
    cases hs
    exact .inl ho
  | announce now =>
    rw [WindowFeed.step] at hs
    split at hs
    · cases hs
    · cases hs
      obtain ho | ho | ho := mem_sent.mp ho
      · exact .inl (mem_sent.mpr (.inl ho))
      · obtain ho | ho := List.mem_append.mp ho
        · exact .inl (mem_sent.mpr (.inr (.inl ho)))
        · exact .inr (List.mem_singleton.mp ho).symm
      · exact .inl (mem_sent.mpr (.inr (.inr ho)))
  | listen =>
    rw [WindowFeed.step] at hs
    split at hs
    · cases hs
    · cases hs
      obtain ho | ho | ho := mem_sent.mp ho
      · exact .inl (mem_sent.mpr (.inl ho))
      · cases ho
      · cases ho
  | answer now =>
    cases hs
    obtain ho | ho | ho := mem_sent.mp ho
    · exact .inl (mem_sent.mpr (.inl ho))
    · exact .inl (mem_sent.mpr (.inr (.inl ho)))
    · obtain ho | ho := List.mem_append.mp ho
      · exact .inl (mem_sent.mpr (.inr (.inr ho)))
      · exact .inr (List.mem_singleton.mp ho).symm

/-! ### The latest update arrives -/

/-- The page gets to see the latest update: unless all that it has read is of the latest update,
that is on its way, or the window is hidden or about to be sent a snapshot. -/
def Reaches (s : WindowFeed) : Prop :=
  s.listening = true →
    (∀ o ∈ s.answers, o.revision = s.observations.snapshot.revision) ∨
      (∃ o ∈ s.observations.owed ++ s.emitted,
        o.revision = s.observations.snapshot.revision) ∨
      s.visible = false ∨ 0 < s.restoring

/-- What is owed to a visible window reaches it. -/
theorem Reaches.moves (h : s.Reaches) {e : ObservationEvent} {observations : Observations}
    (hmoves : s.observations.Moves e observations) :
    (({ s with observations } : WindowFeed).emit
      (if s.visible then s.observations.toSink e else [])).Reaches := by
  intro hlistens
  rw [emit]
  dsimp only
  rw [hmoves.snapshot]
  obtain hfresh | ⟨o, ho, hrevision⟩ | hhidden | hrestore := h hlistens
  · exact .inl hfresh
  · cases hv : s.visible with
    | false => exact .inr (.inr (.inl rfl))
    | true =>
      -- the delta is still owed, or it is emitted by this step
      refine .inr (.inl ⟨o, ?_, hrevision⟩)
      rw [List.mem_append, hmoves.owed o] at ho
      simp only [if_true, List.mem_append]
      tauto
  · exact .inr (.inr (.inl hhidden))
  · exact .inr (.inr (.inr hrestore))

/-- **Step lemma.**  No update is lost on its way to a page that listens. -/
theorem Reaches.step (h : s.Reaches) (hsound : s.Sound) {e : WindowEvent}
    (hs : s.step e = some t) : t.Reaches := by
  cases e with
  | observe e =>
    obtain ⟨observations, hstep, rfl⟩ := Option.map_eq_some_iff.mp hs
    obtain ⟨now, record, rfl, rfl⟩ | ⟨now, rfl, rfl⟩ | hmoves := Observations.step_cases hstep
    · intro hlistens
      have howed := Observations.owed_recordUpdate (hsound.sink hlistens) now record
      refine .inr (.inl ⟨(s.observations.recordUpdate now record).snapshot, ?_, rfl⟩)
      refine List.mem_append_left _ ?_
      rw [emit, howed]
      exact List.mem_append_right _ (List.mem_singleton_self _)
    · have hnone : (if s.visible then s.observations.toSink (.read now) else []) = [] := ite_self _
      rw [hnone, emit, List.append_nil]
      exact h
    · exact h.moves hmoves
  | markHidden =>
    cases hs
    exact fun _ => .inr (.inr (.inl rfl))
  | markVisible =>
    cases hs
    exact fun _ => .inr (.inr (.inr (Nat.succ_pos _)))
  | announce now =>
    rw [WindowFeed.step] at hs
    split at hs
    · cases hs
    · cases hs
      exact fun _ => .inr (.inl ⟨_, List.mem_append_right _ (List.mem_append_right _
        (List.mem_singleton_self _)), rfl⟩)
  | listen =>
    rw [WindowFeed.step] at hs
    split at hs
    · cases hs
    · cases hs
      exact fun _ => .inl fun o ho => by cases ho
  | answer now =>
    cases hs
    intro hlistens
    refine (h hlistens).imp_left ?_
    intro hfresh o ho
    rw [List.mem_append, List.mem_singleton] at ho
    obtain ho | rfl := ho
    · exact hfresh o ho
    · rfl

end WindowFeed

end Veyra
