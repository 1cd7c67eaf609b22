import Veyra.Application.Observability
import Veyra.Lib.Transition

/-!
# Veyra.Application.Publication

How an observation update reaches its receivers.  `update` changes the
snapshot and takes its delta under the lock of the state, and gives that lock
back before it hands the delta over: first it fills the slot of every
subscriber under the lock of the subscribers, then it calls the sink that it
saw.  Threads that update at the same time are between these steps in any
order, so a `Publication` is a thread that still has a delta to hand over.

`Observations.step` is one step of one thread.  `deltas_in_order` says what
the receivers see when deltas are handed over in the order of their updates,
and `delta_moved_back` that nothing makes the threads do so.
-/

namespace Veyra

open Transition

/-! ## The threads and what they share -/

/-- Who deltas are handed to: the slot of a subscriber, or a sink, by the number of its
installation. -/
inductive Receiver
  | slot (number : Nat)
  | sink (number : Nat)
deriving DecidableEq, Repr

inductive PublicationStage
  /-- before the lock of the subscribers -/
  | waiting
  /-- holding that lock, with these slots left to fill -/
  | filling (left : List Nat)
  /-- past the subscribers; the sink comes next -/
  | calling
deriving DecidableEq, Repr

/-- A thread inside `update` that has computed its delta. -/
structure Publication where
  delta : RuntimeObservationDelta
  sink : Option Nat
  stage : PublicationStage
deriving DecidableEq, Repr

/-- The shared observations, the threads that are publishing, in the order of their updates,
and what has been handed over so far. -/
structure Observations where
  snapshot : RuntimeObservationSnapshot
  sink : Option Nat
  installed : Nat
  nextId : UInt64
  /-- the subscribers by id, each with the number of its slot -/
  entries : List (UInt64 × Nat)
  created : Nat
  slots : Nat → Option RuntimeObservationDelta
  publications : List Publication
  handedOver : List (Receiver × RuntimeObservationDelta)

def Observations.new : Observations where
  snapshot := .mock
  sink := none
  installed := 0
  nextId := 0
  entries := []
  created := 0
  slots := fun _ => none
  publications := []
  handedOver := []

inductive ObservationEvent
  | update (now : UInt64) (record : Record)
  | lock (thread : Nat)
  | fill (thread slot : Nat)
  | unlock (thread : Nat)
  | call (thread : Nat)
  | install
  | subscribe
  | unsubscribe (id : UInt64)
  | take (slot : Nat)
  | read (now : UInt64)
deriving DecidableEq, Repr

def PublicationStage.isFilling : PublicationStage → Bool
  | .filling _ => true
  | _ => false

namespace Observations

/-- The lock of the subscribers is free. -/
def subscribersFree (s : Observations) : Bool := !s.publications.any (·.stage.isFilling)

/-- Move a publishing thread on. -/
def withStage (s : Observations) (thread : Nat) (p : Publication) (stage : PublicationStage) :
    Observations :=
  { s with publications := s.publications.set thread { p with stage } }

/-- Hand a delta over to a receiver. -/
def handOver (s : Observations) (receiver : Receiver) (delta : RuntimeObservationDelta) :
    Observations :=
  { s with handedOver := s.handedOver ++ [(receiver, delta)] }

/-- The thread that publishes fills one slot. -/
def fillSlot (s : Observations) (thread slot : Nat) (p : Publication) (left : List Nat) :
    Observations :=
  let s := s.withStage thread p (.filling (left.erase slot))
  { s with slots := Function.update s.slots slot (some p.delta) }.handOver (.slot slot) p.delta

/-- The thread that publishes calls the sink it saw, if there was one, and is done. -/
def callSink (s : Observations) (thread : Nat) (p : Publication) : Observations :=
  let s := { s with publications := s.publications.eraseIdx thread }
  match p.sink with
  | none => s
  | some number => s.handOver (.sink number) p.delta

/-- The part of `update` under the lock of the state. -/
def recordUpdate (s : Observations) (now : UInt64) (record : Record) : Observations :=
  let snapshot := s.snapshot.update now fun snapshot => record.change snapshot
  { s with
    snapshot
    publications := s.publications ++ [⟨⟨snapshot⟩, s.sink, .waiting⟩] }

/-- `subscribe`: a new slot under the next id. -/
def subscribe (s : Observations) : Observations :=
  let id := RuntimeObservationSnapshot.nextRevision s.nextId
  { s with
    nextId := id
    entries := s.entries.filter (·.1 ≠ id) ++ [(id, s.created)]
    created := s.created + 1 }

/-- One step of one thread. -/
def step (s : Observations) : ObservationEvent → Option Observations
  | .update now record => some (s.recordUpdate now record)
  | .lock thread =>
    match s.publications[thread]? with
    | some p =>
      if p.stage = .waiting ∧ s.subscribersFree then
        some (s.withStage thread p (.filling (s.entries.map (·.2))))
      else none
    | none => none
  | .fill thread slot =>
    match s.publications[thread]? with
    | some ⟨delta, sink, .filling left⟩ =>
      if slot ∈ left then some (s.fillSlot thread slot ⟨delta, sink, .filling left⟩ left) else none
    | _ => none
  | .unlock thread =>
    match s.publications[thread]? with
    | some ⟨delta, sink, .filling []⟩ => some (s.withStage thread ⟨delta, sink, .filling []⟩ .calling)
    | _ => none
  | .call thread =>
    match s.publications[thread]? with
    | some ⟨delta, sink, .calling⟩ => some (s.callSink thread ⟨delta, sink, .calling⟩)
    | _ => none
  | .install => some { s with sink := some s.installed, installed := s.installed + 1 }
  | .subscribe => if s.subscribersFree then some s.subscribe else none
  | .unsubscribe id =>
    if s.subscribersFree then some { s with entries := s.entries.filter (·.1 ≠ id) } else none
  | .take slot => some { s with slots := Function.update s.slots slot none }
  | .read now => some { s with snapshot := s.snapshot.read now }

/-! ## What the receivers see -/

/-- The deltas handed over to one receiver, in order. -/
def received (s : Observations) (r : Receiver) : List RuntimeObservationDelta :=
  (s.handedOver.filter (·.1 = r)).map (·.2)

/-- Every receiver sees strictly increasing revisions. -/
def InOrder (s : Observations) : Prop :=
  ∀ r, ((s.received r).map (·.revision)).Pairwise (· < ·)

/-- The receivers that later updates reach. -/
def Attached (s : Observations) : Receiver → Prop
  | .slot number => number ∈ s.entries.map (·.2)
  | .sink number => s.sink = some number

/-- A delta shows a snapshot: they differ at most in the time and in what has left the
traffic history since. -/
def Shows (delta : RuntimeObservationDelta) (snapshot : RuntimeObservationSnapshot) : Prop :=
  { delta.toRuntimeObservationSnapshot with
    observedAtMs := snapshot.observedAtMs, trafficHistory := snapshot.trafficHistory } = snapshot

/-- Deltas are handed over in the order of their updates: a thread takes the subscribers only
when every earlier one is past them, and calls its sink only when every earlier one is done; and
there is a revision left for the next update. -/
def HandsOverInOrder (s : Observations) : ObservationEvent → Prop
  | .update .. => s.snapshot.revision.toNat + 1 < 2 ^ 64
  | .lock thread => ∀ p ∈ s.publications.take thread, p.stage = .calling
  | .call thread => thread = 0
  | _ => True

instance : ∀ s e, Decidable (HandsOverInOrder s e)
  | s, .update .. => inferInstanceAs (Decidable (s.snapshot.revision.toNat + 1 < 2 ^ 64))
  | s, .lock thread => inferInstanceAs (Decidable (∀ p ∈ s.publications.take thread, _))
  | _, .call thread => inferInstanceAs (Decidable (thread = 0))
  | _, .fill .. | _, .unlock _ | _, .install | _, .subscribe | _, .unsubscribe _ | _, .take _
  | _, .read _ => .isTrue trivial

/-- What the receivers are promised. -/
structure SeenInOrder (s : Observations) : Prop where
  /-- nobody is moved back to a lower revision -/
  inOrder : s.InOrder
  /-- a slot that was not taken holds the last delta handed to it -/
  slots : ∀ n d, s.slots n = some d → (s.received (.slot n)).getLast? = some d
  /-- once no thread publishes, the last delta of a receiver shows the latest state -/
  latest : s.publications = [] → ∀ r, s.Attached r → ∀ d, (s.received r).getLast? = some d →
    d.revision = s.snapshot.revision ∧ Shows d s.snapshot

end Observations

/-- A thread that publishes still has its delta to hand over to a receiver. -/
def Publication.Owes (p : Publication) : Receiver → Prop
  | .slot number =>
    match p.stage with
    | .waiting => True
    | .filling left => number ∈ left
    | .calling => False
  | .sink number => p.sink = some number

namespace Observations

variable {s t : Observations}

/-! ## What a step does -/

private theorem exists_split {α : Type} {xs : List α} {i : Nat} {a : α} (h : xs[i]? = some a) :
    ∃ before after, xs = before ++ a :: after ∧ before.length = i := by
  obtain ⟨hi, rfl⟩ := List.getElem?_eq_some_iff.mp h
  refine ⟨xs.take i, xs.drop (i + 1), ?_, by simp; omega⟩
  rw [List.getElem_cons_drop, List.take_append_drop]

/-- The threads before and after the one that moves, and that one. -/
def Threads (s : Observations) (thread : Nat) (before : List Publication) (p : Publication)
    (after : List Publication) : Prop :=
  s.publications = before ++ p :: after ∧ before.length = thread

/-- A thread goes on to another stage at its place in the list. -/
theorem Threads.withStage {thread : Nat} {before after : List Publication} {p : Publication}
    (h : s.Threads thread before p after) (stage : PublicationStage) :
    s.withStage thread p stage =
      { s with publications := before ++ { p with stage } :: after } := by
  obtain ⟨h, rfl⟩ := h
  simp [Observations.withStage, h]

/-- **Inversion.**  A thread that takes the lock has all the slots to fill. -/
theorem lock_ok {thread : Nat} (h : s.step (.lock thread) = some t) :
    ∃ before p after, s.Threads thread before p after ∧ p.stage = .waiting ∧ s.subscribersFree ∧
      t = { s with
        publications := before ++ { p with stage := .filling (s.entries.map (·.2)) } :: after } := by
  simp only [step] at h
  split at h
  · next p hp =>
    split at h
    · next hc =>
      obtain ⟨before, after, hsplit⟩ := exists_split hp
      have threads : s.Threads thread before p after := hsplit
      rw [threads.withStage] at h
      exact ⟨before, p, after, threads, hc.1, hc.2, (Option.some.inj h).symm⟩
    · cases h
  · cases h

/-- **Inversion.**  A slot is filled by the thread that has the lock. -/
theorem fill_ok {thread slot : Nat} (h : s.step (.fill thread slot) = some t) :
    ∃ before p after left, s.Threads thread before p after ∧ p.stage = .filling left ∧
      slot ∈ left ∧
      t = { s with
        publications := before ++ { p with stage := .filling (left.erase slot) } :: after
        slots := Function.update s.slots slot (some p.delta)
        handedOver := s.handedOver ++ [(.slot slot, p.delta)] } := by
  simp only [step] at h
  split at h
  · next delta sink left hp =>
    split at h
    · next hmem =>
      obtain ⟨before, after, hsplit⟩ := exists_split hp
      have threads : s.Threads thread before ⟨delta, sink, .filling left⟩ after := hsplit
      rw [fillSlot, threads.withStage] at h
      exact ⟨before, _, after, left, threads, rfl, hmem, (Option.some.inj h).symm⟩
    · cases h
  · cases h

/-- **Inversion.**  The lock is given back once every slot is filled. -/
theorem unlock_ok {thread : Nat} (h : s.step (.unlock thread) = some t) :
    ∃ before p after, s.Threads thread before p after ∧ p.stage = .filling [] ∧
      t = { s with publications := before ++ { p with stage := .calling } :: after } := by
  simp only [step] at h
  split at h
  · next delta sink hp =>
    obtain ⟨before, after, hsplit⟩ := exists_split hp
    have threads : s.Threads thread before ⟨delta, sink, .filling []⟩ after := hsplit
    rw [threads.withStage] at h
    exact ⟨before, _, after, threads, rfl, (Option.some.inj h).symm⟩
  · cases h

/-- **Inversion.**  A thread that has called its receivers is done. -/
theorem call_ok {thread : Nat} (h : s.step (.call thread) = some t) :
    ∃ before p after, s.Threads thread before p after ∧ p.stage = .calling ∧
      t = { s with
        publications := before ++ after
        handedOver := s.handedOver ++ (p.sink.map fun n => (Receiver.sink n, p.delta)).toList } := by
  simp only [step] at h
  split at h
  · next delta sink hp =>
    obtain ⟨before, after, hsplit, hlength⟩ := exists_split hp
    refine ⟨before, _, after, ⟨hsplit, hlength⟩, rfl, ?_⟩
    rw [← Option.some.inj h, callSink, hsplit, ← hlength]
    cases sink <;> simp [handOver, List.eraseIdx_append_of_length_le]
  · cases h

/-! ## The order of what is handed over -/

/-- What a receiver gets is added at its end. -/
theorem received_append {log : List (Receiver × RuntimeObservationDelta)}
    {r r' : Receiver} {d : RuntimeObservationDelta} (h : s.handedOver = log ++ [(r, d)])
    (hlog : t.handedOver = log) :
    s.received r' = if r = r' then t.received r' ++ [d] else t.received r' := by
  simp only [received, h, hlog, List.filter_append, List.map_append]
  by_cases hr : r = r' <;> simp [hr]

/-- What holds of the deltas on their way and of those handed over, as long as deltas are
handed over in order. -/
structure Ordered (s : Observations) : Prop where
  /-- the threads stand in the order of their revisions, and none is past the start before the
  earlier ones are past the subscribers -/
  chain : s.publications.Pairwise fun p q =>
    p.delta.revision.toNat < q.delta.revision.toNat ∧ (q.stage ≠ .waiting → p.stage = .calling)
  bounded : ∀ p ∈ s.publications, p.delta.revision.toNat ≤ s.snapshot.revision.toNat
  seen : ∀ r d, (r, d) ∈ s.handedOver → d.revision.toNat ≤ s.snapshot.revision.toNat
  /-- what a thread still owes is newer than what the receiver has -/
  ahead : ∀ r d, (r, d) ∈ s.handedOver → ∀ p ∈ s.publications, p.Owes r →
    d.revision.toNat < p.delta.revision.toNat
  fills : ∀ p ∈ s.publications, ∀ left, p.stage = .filling left → left.Nodup
  entries : (s.entries.map (·.2)).Nodup
  created : ∀ n ∈ s.entries.map (·.2), n < s.created
  inOrder : s.InOrder

/-- At the start nothing was handed over. -/
theorem Ordered.init : Observations.new.Ordered where
  chain := .nil
  bounded := by simp [Observations.new]
  seen := by simp [Observations.new]
  ahead := by simp [Observations.new]
  fills := by simp [Observations.new]
  entries := .nil
  created := by simp [Observations.new]
  inOrder := fun r => by simp [Observations.new, received]

/-- Handing over a delta newer than what the receiver has keeps the order. -/
theorem InOrder.handOver {r : Receiver} {d : RuntimeObservationDelta} (h : s.InOrder) (hlog : t.handedOver = s.handedOver ++ [(r, d)])
    (newer : ∀ d', (r, d') ∈ s.handedOver → d'.revision.toNat < d.revision.toNat) :
    t.InOrder := by
  intro r'
  rw [received_append hlog rfl]
  split
  · next hr =>
    subst hr
    rw [List.map_append, List.pairwise_append]
    refine ⟨h r, by simp, ?_⟩
    simp only [received, List.mem_map, List.mem_filter]
    rintro _ ⟨_, ⟨⟨r', d'⟩, ⟨hmem, hr⟩, rfl⟩, rfl⟩ b hb
    obtain rfl : r' = r := by simpa using hr
    obtain rfl : d.revision = b := by simpa [eq_comm] using hb
    exact UInt64.lt_iff_toNat_lt.mpr (newer d' hmem)
  · exact h r'

/-- A thread that moves on without handing anything over. -/
theorem Ordered.restage (h : s.Ordered) {thread : Nat} {before after : List Publication}
    {p : Publication} {stage : PublicationStage} (threads : s.Threads thread before p after)
    (moving : p.stage ≠ .calling) (past : ∀ q ∈ before, q.stage = .calling)
    (owes : ∀ r, { p with stage }.Owes r → p.Owes r)
    (fills : ∀ left, stage = .filling left → left.Nodup) :
    ({ s with publications := before ++ { p with stage } :: after } : Observations).Ordered := by
  have hp : p ∈ s.publications := by rw [threads.1]; simp
  have hold : ∀ q ∈ before ++ { p with stage } :: after, q = { p with stage } ∨
      q ∈ s.publications := by
    rw [threads.1]
    simp only [List.mem_append, List.mem_cons]
    tauto
  have hchain := h.chain
  rw [threads.1, List.pairwise_append, List.pairwise_cons] at hchain
  obtain ⟨hbefore, ⟨hafter, hrest⟩, hcross⟩ := hchain
  refine { h with chain := ?_, bounded := ?_, ahead := ?_, fills := ?_ }
  · rw [List.pairwise_append, List.pairwise_cons]
    refine ⟨hbefore, ⟨fun q hq => ⟨(hafter q hq).1, fun hstage => ?_⟩, hrest⟩, fun q hq q' hq' => ?_⟩
    · exact absurd ((hafter q hq).2 hstage) moving
    · rcases List.mem_cons.mp hq' with rfl | hq'
      · exact ⟨(hcross q hq p List.mem_cons_self).1, fun _ => past q hq⟩
      · exact hcross q hq q' (List.mem_cons_of_mem _ hq')
  · intro q hq
    rcases hold q hq with rfl | hq
    · exact h.bounded p hp
    · exact h.bounded q hq
  · intro r d hmem q hq hqr
    rcases hold q hq with rfl | hq
    · exact h.ahead r d hmem p hp (owes r hqr)
    · exact h.ahead r d hmem q hq hqr
  · intro q hq left hleft
    rcases hold q hq with rfl | hq
    · exact fills left hleft
    · exact h.fills q hq left hleft

/-- A delta that is handed over: newer than what the receiver has, older than what it is
still owed. -/
theorem Ordered.handOver (h : s.Ordered) {r : Receiver} {d : RuntimeObservationDelta}
    (known : d.revision.toNat ≤ s.snapshot.revision.toNat)
    (newer : ∀ d', (r, d') ∈ s.handedOver → d'.revision.toNat < d.revision.toNat)
    (older : ∀ p ∈ s.publications, p.Owes r → d.revision.toNat < p.delta.revision.toNat)
    (slots : Nat → Option RuntimeObservationDelta) :
    ({ s with slots, handedOver := s.handedOver ++ [(r, d)] } : Observations).Ordered := by
  refine { h with seen := ?_, ahead := ?_, inOrder := h.inOrder.handOver rfl newer }
  · intro r' d' hmem
    rcases List.mem_append.mp hmem with hmem | hmem
    · exact h.seen r' d' hmem
    · cases List.mem_singleton.mp hmem
      exact known
  · intro r' d' hmem p hp howes
    rcases List.mem_append.mp hmem with hmem | hmem
    · exact h.ahead r' d' hmem p hp howes
    · cases List.mem_singleton.mp hmem
      exact older p hp howes

/-- **Step.**  Taking the lock keeps the order: the delta is the next one in the chain. -/
theorem Ordered.lock (h : s.Ordered) {thread : Nat} (ok : s.HandsOverInOrder (.lock thread))
    (hs : s.step (.lock thread) = some t) : t.Ordered := by
  obtain ⟨before, p, after, threads, hstage, -, rfl⟩ := lock_ok hs
  refine h.restage threads (by simp [hstage]) (fun q hq => ok q ?_) (fun r hr => ?_) ?_
  · rw [threads.1, ← threads.2, List.take_left]
    exact hq
  · cases r with
    | slot n => simp [Publication.Owes, hstage]
    | sink n => exact hr
  · rintro _ ⟨⟩
    exact h.entries

/-- **Step.**  So does giving it back. -/
theorem Ordered.unlock (h : s.Ordered) {thread : Nat} (hs : s.step (.unlock thread) = some t) :
    t.Ordered := by
  obtain ⟨before, p, after, threads, hstage, rfl⟩ := unlock_ok hs
  have hchain := h.chain
  rw [threads.1, List.pairwise_append] at hchain
  refine h.restage threads (by simp [hstage]) (fun q hq => ?_) (fun r hr => ?_) (by simp)
  · exact (hchain.2.2 q hq p List.mem_cons_self).2 (by simp [hstage])
  · cases r with
    | slot n => simp [Publication.Owes] at hr
    | sink n => exact hr

/-- **Step.**  A slot gets the delta of the thread that has the lock. -/
theorem Ordered.fill (h : s.Ordered) {thread slot : Nat}
    (hs : s.step (.fill thread slot) = some t) : t.Ordered := by
  obtain ⟨before, p, after, left, threads, hstage, hslot, rfl⟩ := fill_ok hs
  have hp : p ∈ s.publications := by rw [threads.1]; simp
  have hchain := h.chain
  rw [threads.1, List.pairwise_append, List.pairwise_cons] at hchain
  have hpast : ∀ q ∈ before, q.stage = .calling := fun q hq =>
    (hchain.2.2 q hq p List.mem_cons_self).2 (by simp [hstage])
  have hnodup : left.Nodup := h.fills p hp left hstage
  have howes : ∀ r, { p with stage := .filling (left.erase slot) }.Owes r → p.Owes r := by
    intro r hr
    cases r with
    | slot n => simpa [Publication.Owes, hstage] using List.mem_of_mem_erase hr
    | sink n => exact hr
  have hmoved := h.restage threads (by simp [hstage]) hpast howes
    (by rintro _ ⟨⟩; exact hnodup.erase slot)
  refine hmoved.handOver (h.bounded p hp) (fun d' hd' => ?_) (fun q hq hqr => ?_) _
  · exact h.ahead _ d' hd' p hp (by simpa [Publication.Owes, hstage] using hslot)
  · rcases List.mem_append.mp hq with hq | hq
    · simp [Publication.Owes, hpast q hq] at hqr
    · rcases List.mem_cons.mp hq with rfl | hq
      · simp [Publication.Owes, hnodup.mem_erase_iff] at hqr
      · exact (hchain.2.1.1 q hq).1

/-- **Step.**  Receivers are called in the order of the condition. -/
theorem Ordered.call (h : s.Ordered) {thread : Nat} (ok : s.HandsOverInOrder (.call thread))
    (hs : s.step (.call thread) = some t) : t.Ordered := by
  obtain ⟨before, p, after, threads, hstage, rfl⟩ := call_ok hs
  obtain rfl : before = [] := List.length_eq_zero_iff.mp (threads.2.trans ok)
  have hp : p ∈ s.publications := by rw [threads.1]; simp
  have hchain := h.chain
  rw [threads.1, List.nil_append, List.pairwise_cons] at hchain
  have hsub : ∀ q ∈ after, q ∈ s.publications := fun q hq => by rw [threads.1]; simp [hq]
  have hdone : ({ s with publications := [] ++ after } : Observations).Ordered :=
    { h with
      chain := hchain.2
      bounded := fun q hq => h.bounded q (hsub q hq)
      ahead := fun r d hmem q hq => h.ahead r d hmem q (hsub q hq)
      fills := fun q hq => h.fills q (hsub q hq) }
  cases hsink : p.sink with
  | none => simpa using hdone
  | some n =>
    have howes : p.Owes (.sink n) := hsink
    exact hdone.handOver (h.bounded p hp) (fun d' hd' => h.ahead _ d' hd' p hp howes)
      (fun q hq _ => (hchain.1 q hq).1) s.slots

/-- Below the last one, the next revision is one more. -/
theorem nextRevision_toNat {revision : UInt64} (h : revision.toNat + 1 < 2 ^ 64) :
    (RuntimeObservationSnapshot.nextRevision revision).toNat = revision.toNat + 1 := by
  have hmax : revision ≠ 18446744073709551615 := by
    rintro rfl
    simp at h
  rw [RuntimeObservationSnapshot.nextRevision, if_neg hmax, UInt64.toNat_add]
  exact Nat.mod_eq_of_lt h

/-- The revision after a record is the next one. -/
theorem update_revision (snapshot : RuntimeObservationSnapshot) (now : UInt64) (record : Record) :
    (snapshot.update now fun s => record.change s).revision =
      RuntimeObservationSnapshot.nextRevision snapshot.revision := by
  have hrecord : ∀ s : RuntimeObservationSnapshot, (record.change s).revision = s.revision := by
    intro s
    cases record with
    | subscriptionSwitch change => simp only [Record.change]; split <;> rfl
    | managedObservation o => rcases o with ⟨c, _ | t, _ | l⟩ <;> rfl
    | managedSample o m => rcases o with ⟨c, _ | t, _ | l⟩ <;> rfl
    | managedFailure lifecycle failure => cases lifecycle with
      | none => rfl
      | some lifecycle => cases lifecycle <;> rfl
    | _ => rfl
  simp only [RuntimeObservationSnapshot.update, RuntimeObservationSnapshot.pruneTrafficHistory,
    hrecord, RuntimeObservationSnapshot.refreshObservedTime]

/-- **Step.**  An update goes on with the next revision. -/
theorem Ordered.recordUpdate (h : s.Ordered) {now : UInt64} {record : Record}
    (ok : s.HandsOverInOrder (.update now record)) : (s.recordUpdate now record).Ordered := by
  have hrevision : (s.recordUpdate now record).snapshot.revision.toNat =
      s.snapshot.revision.toNat + 1 := by
    rw [Observations.recordUpdate, update_revision, nextRevision_toNat ok]
  have hle : ∀ d ≤ s.snapshot.revision.toNat,
      d < (s.recordUpdate now record).snapshot.revision.toNat := fun d hd => by omega
  refine { h with chain := ?_, bounded := ?_, seen := ?_, ahead := ?_, fills := ?_ }
  · rw [Observations.recordUpdate, List.pairwise_append]
    refine ⟨h.chain, List.pairwise_singleton .., fun p hp q hq => ?_⟩
    cases List.mem_singleton.mp hq
    exact ⟨hle _ (h.bounded p hp), by simp⟩
  · intro p hp
    rcases List.mem_append.mp hp with hp | hp
    · exact (hle _ (h.bounded p hp)).le
    · cases List.mem_singleton.mp hp
      exact Nat.le_refl _
  · intro r d hmem
    exact (hle _ (h.seen r d hmem)).le
  · intro r d hmem p hp hr
    rcases List.mem_append.mp hp with hp | hp
    · exact h.ahead r d hmem p hp hr
    · cases List.mem_singleton.mp hp
      exact hle _ (h.seen r d hmem)
  · intro p hp left hleft
    rcases List.mem_append.mp hp with hp | hp
    · exact h.fills p hp left hleft
    · cases List.mem_singleton.mp hp
      cases hleft

/-- **Step.**  A new subscriber has received nothing. -/
theorem Ordered.subscribe (h : s.Ordered) : s.subscribe.Ordered := by
  have hmem : ∀ (id : UInt64) n, n ∈ (s.entries.filter (·.1 ≠ id)).map (·.2) →
      n ∈ s.entries.map (·.2) := fun id n hn =>
    (List.filter_sublist.map _).subset hn
  refine { h with entries := ?_, created := ?_ }
  · rw [Observations.subscribe, List.map_append]
    refine List.nodup_append.mpr
      ⟨h.entries.sublist (List.filter_sublist.map _), by simp, ?_⟩
    intro n hn m hm
    cases List.mem_singleton.mp hm
    exact (h.created n (hmem _ n hn)).ne
  · intro n hn
    rw [Observations.subscribe, List.map_append] at hn
    rcases List.mem_append.mp hn with hn | hn
    · exact Nat.lt_succ_of_lt (h.created n (hmem _ n hn))
    · cases List.mem_singleton.mp hn
      exact Nat.lt_succ_self _

/-- Every step that keeps to the order preserves it. -/
theorem Ordered.step (h : s.Ordered) {e : ObservationEvent} (ok : s.HandsOverInOrder e)
    (hs : s.step e = some t) : t.Ordered := by
  cases e with
  | lock thread => exact h.lock ok hs
  | fill thread slot => exact h.fill hs
  | unlock thread => exact h.unlock hs
  | call thread => exact h.call ok hs
  | update now record =>
    cases hs
    exact h.recordUpdate ok
  | install =>
    cases hs
    exact { h with }
  | subscribe =>
    simp only [Observations.step] at hs
    split at hs
    · cases hs
      exact h.subscribe
    · cases hs
  | unsubscribe id =>
    simp only [Observations.step] at hs
    split at hs
    · cases hs
      exact { h with
        entries := h.entries.sublist (List.filter_sublist.map _)
        created := fun n hn => h.created n ((List.filter_sublist.map _).subset hn) }
    · cases hs
  | take slot =>
    cases hs
    exact { h with }
  | read now =>
    cases hs
    exact { h with }

/-! ## The latest state arrives -/

/-- What a receiver got was handed over to it. -/
theorem mem_received {r : Receiver} {d : RuntimeObservationDelta} :
    d ∈ s.received r ↔ (r, d) ∈ s.handedOver := by
  simp only [received, List.mem_map, List.mem_filter, decide_eq_true_eq]
  constructor
  · rintro ⟨⟨r', d'⟩, ⟨hmem, rfl⟩, rfl⟩
    exact hmem
  · exact fun hmem => ⟨(r, d), ⟨hmem, rfl⟩, rfl⟩

/-- A thread still owes a receiver the latest update. -/
def Owed (s : Observations) (r : Receiver) : Prop :=
  ∃ p ∈ s.publications, p.Owes r ∧ p.delta.revision = s.snapshot.revision

/-- A receiver has seen the latest update. -/
def Seen (s : Observations) (r : Receiver) : Prop :=
  ∃ d, (r, d) ∈ s.handedOver ∧ d.revision = s.snapshot.revision

/-- The deltas on their way, and the sinks that their threads saw. -/
def deltas (s : Observations) : List RuntimeObservationDelta := s.publications.map (·.delta)

def sinks (s : Observations) : List (Option Nat) := s.publications.map (·.sink)

/-- What holds of the latest update. -/
structure Current (s : Observations) : Prop where
  newest : ∀ d, s.deltas.getLast? = some d → d.revision = s.snapshot.revision
  owedShows : ∀ d ∈ s.deltas, d.revision = s.snapshot.revision → Shows d s.snapshot
  seenShows : ∀ r d, (r, d) ∈ s.handedOver → d.revision = s.snapshot.revision →
    Shows d s.snapshot
  /-- an attached receiver that has seen something gets to see the latest update -/
  reached : ∀ r, s.Attached r → s.received r ≠ [] → s.Owed r ∨ s.Seen r
  /-- slots and sinks that are not there yet have received nothing -/
  oldSlots : ∀ n d, (.slot n, d) ∈ s.handedOver → n < s.created
  oldLeft : ∀ p ∈ s.publications, ∀ left, p.stage = .filling left → ∀ n ∈ left, n < s.created
  oldSink : ∀ n, s.sink = some n → n < s.installed
  oldSinks : ∀ n d, (.sink n, d) ∈ s.handedOver → n < s.installed
  owedSinks : ∀ n, some n ∈ s.sinks → n < s.installed
  /-- a sink that is still installed is the one of every later update -/
  sameSink : s.sinks.Pairwise fun a b => ∀ n, a = some n → s.sink = some n → b = some n
  slots : ∀ n d, s.slots n = some d → (s.received (.slot n)).getLast? = some d

theorem Current.init : Observations.new.Current where
  newest := by simp [Observations.new, deltas]
  owedShows := by simp [Observations.new, deltas]
  seenShows := by simp [Observations.new]
  reached := fun r _ h => absurd rfl h
  oldSlots := by simp [Observations.new]
  oldLeft := by simp [Observations.new]
  oldSink := by simp [Observations.new]
  oldSinks := by simp [Observations.new]
  owedSinks := by simp [Observations.new, sinks]
  sameSink := .nil
  slots := by simp [Observations.new]

/-- The deltas on their way do not depend on the stages. -/
theorem Threads.deltas {thread : Nat} {before after : List Publication} {p : Publication}
    (h : s.Threads thread before p after) (stage : PublicationStage) :
    (before ++ { p with stage } :: after).map (·.delta) = s.deltas := by
  simp [Observations.deltas, h.1]

/-- Neither do their receivers. -/
theorem Threads.sinks {thread : Nat} {before after : List Publication} {p : Publication}
    (h : s.Threads thread before p after) (stage : PublicationStage) :
    (before ++ { p with stage } :: after).map (·.sink) = s.sinks := by
  simp [Observations.sinks, h.1]

/-- A thread is one of those on their way. -/
theorem Threads.mem {thread : Nat} {before after : List Publication} {p : Publication}
    (h : s.Threads thread before p after) : p ∈ s.publications := by
  rw [h.1]
  simp

/-- A thread that moves on and, of the latest update, owes the attached receivers what they
have not seen. -/
theorem Current.restage (h : s.Current) {thread : Nat} {before after : List Publication}
    {p : Publication} {stage : PublicationStage} (threads : s.Threads thread before p after)
    (owes : ∀ r, s.Attached r → p.Owes r → { p with stage }.Owes r ∨
      (p.delta.revision = s.snapshot.revision → s.Seen r))
    (old : ∀ left, stage = .filling left → ∀ n ∈ left, n < s.created) :
    ({ s with publications := before ++ { p with stage } :: after } : Observations).Current := by
  have hdeltas := threads.deltas stage
  have hsinks := threads.sinks stage
  refine
    { h with
      newest := ?_, owedShows := ?_, reached := ?_, oldLeft := ?_, owedSinks := ?_
      sameSink := ?_ }
  · intro d hd
    exact h.newest d (hdeltas ▸ hd)
  · intro d hd
    exact h.owedShows d (hdeltas ▸ hd)
  · intro r attached hr
    rcases h.reached r attached hr with ⟨q, hq, howes, hrev⟩ | hseen
    · rw [threads.1] at hq
      rcases List.mem_append.mp hq with hq | hq
      · exact .inl ⟨q, List.mem_append_left _ hq, howes, hrev⟩
      · rcases List.mem_cons.mp hq with rfl | hq
        · rcases owes r attached howes with howes | hseen
          · exact .inl ⟨_, List.mem_append_right _ List.mem_cons_self, howes, hrev⟩
          · exact .inr (hseen hrev)
        · exact .inl ⟨q, List.mem_append_right _ (List.mem_cons_of_mem _ hq), howes, hrev⟩
    · exact .inr hseen
  · intro q hq left hleft
    have hold : q = { p with stage } ∨ q ∈ s.publications := by
      rw [threads.1]
      simp only [List.mem_append, List.mem_cons] at hq ⊢
      tauto
    rcases hold with rfl | hq
    · exact old left hleft
    · exact h.oldLeft q hq left hleft
  · intro n hn
    exact h.owedSinks n (hsinks ▸ hn)
  · have := h.sameSink
    rw [← hsinks] at this
    exact this

/-- A delta that is handed over to a receiver which is still owed the latest one, if this is
not it. -/
theorem Current.handOver (h : s.Current) {p : Publication} (hp : p ∈ s.publications)
    {r : Receiver} (due : s.Attached r → p.delta.revision ≠ s.snapshot.revision → s.Owed r)
    (oldSlot : ∀ n, r = .slot n → n < s.created) (oldSink : ∀ n, r = .sink n → n < s.installed)
    {slots : Nat → Option RuntimeObservationDelta} (hslots : ∀ n d, slots n = some d →
      (if r = .slot n then s.received (.slot n) ++ [p.delta]
        else s.received (.slot n)).getLast? = some d) :
    ({ s with slots, handedOver := s.handedOver ++ [(r, p.delta)] } : Observations).Current := by
  refine
    { h with
      seenShows := ?_, reached := ?_, oldSlots := ?_, oldSinks := ?_, slots := ?_ }
  · intro r' d hmem hrev
    rcases List.mem_append.mp hmem with hmem | hmem
    · exact h.seenShows r' d hmem hrev
    · cases List.mem_singleton.mp hmem
      exact h.owedShows _ (List.mem_map_of_mem hp) hrev
  · intro r' attached hr
    by_cases heq : r = r'
    · subst heq
      by_cases hrev : p.delta.revision = s.snapshot.revision
      · exact .inr ⟨p.delta, by simp, hrev⟩
      · exact .inl (due attached hrev)
    · rw [@received_append _ s _ _ _ _ rfl rfl, if_neg heq] at hr
      rcases h.reached r' attached hr with howed | ⟨d, hd, hrev⟩
      · exact .inl howed
      · exact .inr ⟨d, List.mem_append_left _ hd, hrev⟩
  · intro n d hmem
    rcases List.mem_append.mp hmem with hmem | hmem
    · exact h.oldSlots n d hmem
    · cases List.mem_singleton.mp hmem
      exact oldSlot n rfl
  · intro n d hmem
    rcases List.mem_append.mp hmem with hmem | hmem
    · exact h.oldSinks n d hmem
    · cases List.mem_singleton.mp hmem
      exact oldSink n rfl
  · intro n d hd
    rw [@received_append _ s _ _ _ _ rfl rfl]
    exact hslots n d hd

/-- The thread with the latest update, if it is not the given one, comes after it. -/
theorem Current.later (h : s.Current) {thread : Nat} {before after : List Publication}
    {p : Publication} (threads : s.Threads thread before p after)
    (older : p.delta.revision ≠ s.snapshot.revision) :
    ∃ q ∈ after, q.delta.revision = s.snapshot.revision := by
  have hnewest := h.newest
  rw [deltas, threads.1] at hnewest
  rcases List.eq_nil_or_concat after with rfl | ⟨rest, q, rfl⟩
  · exact absurd (hnewest p.delta (by simp)) older
  · refine ⟨q, by simp, hnewest q.delta ?_⟩
    rw [List.concat_eq_append, ← List.cons_append, ← List.append_assoc, List.map_append]
    exact List.getLast?_concat

/-- **Step.**  Taking the lock hands nothing over. -/
theorem Current.lock (h : s.Current) (ho : s.Ordered) {thread : Nat}
    (hs : s.step (.lock thread) = some t) : t.Current := by
  obtain ⟨before, p, after, threads, -, -, rfl⟩ := lock_ok hs
  refine h.restage threads (fun r attached howes => .inl ?_) ?_
  · cases r with
    | slot n => exact attached
    | sink n => exact howes
  · rintro _ ⟨⟩
    exact ho.created

/-- **Step.**  Neither does giving it back. -/
theorem Current.unlock (h : s.Current) {thread : Nat} (hs : s.step (.unlock thread) = some t) :
    t.Current := by
  obtain ⟨before, p, after, threads, hstage, rfl⟩ := unlock_ok hs
  refine h.restage threads (fun r _ howes => .inl ?_) (by simp)
  cases r with
  | slot n => simp [Publication.Owes, hstage] at howes
  | sink n => exact howes

/-- **Step.**  A slot is filled with the newest delta that is on its way to it. -/
theorem Current.fill (h : s.Current) (ho : s.Ordered) {thread slot : Nat}
    (hs : s.step (.fill thread slot) = some t) : t.Current := by
  obtain ⟨before, p, after, left, threads, hstage, hslot, rfl⟩ := fill_ok hs
  have hchain := ho.chain
  rw [threads.1, List.pairwise_append, List.pairwise_cons] at hchain
  have hgiven : ({ s with
      slots := Function.update s.slots slot (some p.delta)
      handedOver := s.handedOver ++ [(.slot slot, p.delta)] } : Observations).Current := by
    refine h.handOver threads.mem (fun _ hrev => ?_) ?_ (by simp) (fun n d hd => ?_)
    · -- the latest update comes later, and its thread is not at the subscribers yet
      obtain ⟨q, hq, hqrev⟩ := h.later threads hrev
      have hwaiting : q.stage = .waiting := by
        by_contra hne
        have := (hchain.2.1.1 q hq).2 hne
        rw [hstage] at this
        cases this
      exact ⟨q, by simp [threads.1, hq], by simp [Publication.Owes, hwaiting], hqrev⟩
    · rintro _ ⟨⟩
      exact h.oldLeft p threads.mem left hstage slot hslot
    · by_cases hn : n = slot
      · subst hn
        rw [Function.update_self] at hd
        simp [Option.some.inj hd]
      · rw [Function.update_of_ne hn] at hd
        rw [if_neg (by simpa using Ne.symm hn)]
        exact h.slots n d hd
  refine hgiven.restage threads (fun r _ howes => ?_) ?_
  · cases r with
    | sink n => exact .inl howes
    | slot n =>
      by_cases hn : n = slot
      · subst hn
        exact .inr fun hrev => ⟨p.delta, by simp, hrev⟩
      · simp only [Publication.Owes, hstage] at howes
        exact .inl ((List.mem_erase_of_ne hn).mpr howes)
  · rintro _ ⟨⟩ n hn
    exact h.oldLeft p threads.mem left hstage n (List.mem_of_mem_erase hn)

/-- The first thread is done once the attached receivers have seen what it owed of the latest
update. -/
theorem Current.finish (h : s.Current) {p : Publication} {after : List Publication}
    (first : s.publications = p :: after)
    (done : ∀ r, s.Attached r → p.Owes r → p.delta.revision = s.snapshot.revision → s.Seen r) :
    ({ s with publications := after } : Observations).Current := by
  have hdeltas : s.deltas = p.delta :: after.map (·.delta) := by rw [deltas, first]; rfl
  have hsinks : s.sinks = p.sink :: after.map (·.sink) := by rw [sinks, first]; rfl
  have hsame := h.sameSink
  rw [hsinks, List.pairwise_cons] at hsame
  refine
    { h with
      newest := fun d hd => ?_
      owedShows := fun d hd => h.owedShows d (hdeltas ▸ List.mem_cons_of_mem _ hd)
      reached := fun r attached hr => ?_
      oldLeft := fun q hq => h.oldLeft q (first ▸ List.mem_cons_of_mem _ hq)
      owedSinks := fun n hn => h.owedSinks n (hsinks ▸ List.mem_cons_of_mem _ hn)
      sameSink := hsame.2 }
  · have hlast : (after.map (·.delta)).getLast? = some d := hd
    apply h.newest d
    rw [hdeltas, List.getLast?_cons, hlast]
    rfl
  · rcases h.reached r attached hr with ⟨q, hq, howes, hrev⟩ | hseen
    · rw [first] at hq
      rcases List.mem_cons.mp hq with rfl | hq
      · exact .inr (done r attached howes hrev)
      · exact .inl ⟨q, hq, howes, hrev⟩
    · exact .inr hseen

/-- **Step.**  A receiver that is called has the newest delta of its thread. -/
theorem Current.call (h : s.Current) {thread : Nat} (ok : s.HandsOverInOrder (.call thread))
    (hs : s.step (.call thread) = some t) : t.Current := by
  obtain ⟨before, p, after, threads, hstage, rfl⟩ := call_ok hs
  obtain rfl : before = [] := List.length_eq_zero_iff.mp (threads.2.trans ok)
  have first : s.publications = p :: after := threads.1
  have hsinks : s.sinks = p.sink :: after.map (·.sink) := by rw [sinks, first]; rfl
  have hslot : ∀ n, ¬ p.Owes (.slot n) := fun n => by simp [Publication.Owes, hstage]
  cases hsink : p.sink with
  | none =>
    have hdone := h.finish first fun r _ howes _ => by
      cases r with
      | slot n => exact absurd howes (hslot n)
      | sink n => simp [Publication.Owes, hsink] at howes
    simpa using hdone
  | some k =>
    have hgiven : ({ s with
        slots := s.slots
        handedOver := s.handedOver ++ [(.sink k, p.delta)] } : Observations).Current := by
      refine h.handOver threads.mem (fun attached hrev => ?_) (by simp) ?_ (fun n d hd => ?_)
      · -- this sink is still the installed one, so the latest update saw it too
        obtain ⟨q, hq, hqrev⟩ := h.later threads hrev
        have hsame := h.sameSink
        rw [hsinks, List.pairwise_cons] at hsame
        exact ⟨q, by simp [first, hq], hsame.1 _ (List.mem_map_of_mem hq) k hsink attached, hqrev⟩
      · rintro _ ⟨⟩
        exact h.owedSinks k (by rw [hsinks, hsink]; exact List.mem_cons_self)
      · rw [if_neg (by simp)]
        exact h.slots n d hd
    refine hgiven.finish first fun r _ howes hrev => ?_
    cases r with
    | slot n => exact absurd howes (hslot n)
    | sink n =>
      obtain rfl : k = n := Option.some.inj (hsink.symm.trans howes)
      exact ⟨p.delta, by simp, hrev⟩

/-- The delta of a snapshot shows it. -/
theorem Shows.self (snapshot : RuntimeObservationSnapshot) : Shows ⟨snapshot⟩ snapshot := rfl

/-- Reading changes the time and the traffic history alone. -/
theorem Shows.read {d : RuntimeObservationDelta} {snapshot : RuntimeObservationSnapshot}
    (h : Shows d snapshot) (now : UInt64) : Shows d (snapshot.read now) := by
  obtain ⟨history, hread⟩ : ∃ history, snapshot.read now =
      { snapshot with observedAtMs := now, trafficHistory := history } :=
    ⟨_, by rw [RuntimeObservationSnapshot.read, RuntimeObservationSnapshot.pruneTrafficHistory,
      RuntimeObservationSnapshot.refreshObservedTime]⟩
  rw [hread]
  have h' : { d.toRuntimeObservationSnapshot with
      observedAtMs := snapshot.observedAtMs
      trafficHistory := snapshot.trafficHistory } = snapshot := h
  exact congrArg (fun s : RuntimeObservationSnapshot =>
    { s with observedAtMs := now, trafficHistory := history }) h'

/-- **Step.**  An update puts its delta on the way to everyone. -/
theorem Current.recordUpdate (h : s.Current) (ho : s.Ordered) {now : UInt64} {record : Record}
    (ok : s.HandsOverInOrder (.update now record)) : (s.recordUpdate now record).Current := by
  have hrevision : (s.recordUpdate now record).snapshot.revision.toNat =
      s.snapshot.revision.toNat + 1 := by
    rw [Observations.recordUpdate, update_revision, nextRevision_toNat ok]
  have hne : ∀ d : RuntimeObservationDelta, d.revision.toNat ≤ s.snapshot.revision.toNat →
      d.revision ≠ (s.recordUpdate now record).snapshot.revision := fun d hd heq => by
    rw [heq] at hd
    omega
  have hdeltas : (s.recordUpdate now record).deltas =
      s.deltas ++ [⟨(s.recordUpdate now record).snapshot⟩] := by
    simp [deltas, Observations.recordUpdate]
  have hsinks : (s.recordUpdate now record).sinks = s.sinks ++ [s.sink] := by
    simp [sinks, Observations.recordUpdate]
  refine
    { h with
      newest := fun d hd => ?_, owedShows := fun d hd hrev => ?_
      seenShows := fun r d hmem hrev => absurd hrev (hne d (ho.seen r d hmem))
      reached := fun r attached _ => .inl ?_
      oldLeft := fun p hp left hleft => ?_, owedSinks := fun n hn => ?_, sameSink := ?_ }
  · rw [hdeltas, List.getLast?_concat] at hd
    rw [← Option.some.inj hd]
  · rw [hdeltas] at hd
    rcases List.mem_append.mp hd with hd | hd
    · obtain ⟨p, hp, rfl⟩ := List.mem_map.mp hd
      exact absurd hrev (hne _ (ho.bounded p hp))
    · rw [List.mem_singleton.mp hd]
      exact Shows.self _
  · -- the new thread owes everyone its delta
    refine ⟨_, List.mem_append_right _ (List.mem_singleton_self _), ?_, rfl⟩
    cases r with
    | slot n => trivial
    | sink n => exact attached
  · rcases List.mem_append.mp hp with hp | hp
    · exact h.oldLeft p hp left hleft
    · cases List.mem_singleton.mp hp
      cases hleft
  · rw [hsinks] at hn
    rcases List.mem_append.mp hn with hn | hn
    · exact h.owedSinks n hn
    · exact h.oldSink n (List.mem_singleton.mp hn).symm
  · rw [hsinks, List.pairwise_append]
    refine ⟨h.sameSink, List.pairwise_singleton .., fun a ha b hb n _ hn => ?_⟩
    rw [List.mem_singleton.mp hb]
    exact hn

/-- A new sink has received nothing yet, and no thread has seen it. -/
theorem Current.install (h : s.Current) :
    ({ s with sink := some s.installed, installed := s.installed + 1 } :
      Observations).Current := by
  refine
    { h with
      reached := fun r attached hr => ?_
      oldSink := fun n hn => by cases hn; exact Nat.lt_succ_self _
      oldSinks := fun n d hmem => Nat.lt_succ_of_lt (h.oldSinks n d hmem)
      owedSinks := fun n hn => Nat.lt_succ_of_lt (h.owedSinks n hn)
      sameSink := h.sameSink.imp_of_mem fun ha _ _ n hn hs => ?_ }
  · cases r with
    | slot n => exact h.reached (.slot n) attached hr
    | sink n =>
      obtain ⟨d, hd⟩ := List.exists_mem_of_ne_nil _ hr
      obtain rfl : s.installed = n := Option.some.inj attached
      exact absurd (h.oldSinks _ d (mem_received.mp hd)) (Nat.lt_irrefl _)
  · obtain rfl : s.installed = n := Option.some.inj hs
    exact absurd (h.owedSinks _ (hn ▸ ha)) (Nat.lt_irrefl _)

/-- A new subscriber has received nothing yet. -/
theorem Current.subscribe (h : s.Current) : s.subscribe.Current := by
  refine
    { h with
      reached := fun r attached hr => ?_
      oldSlots := fun n d hmem => Nat.lt_succ_of_lt (h.oldSlots n d hmem)
      oldLeft := fun p hp left hleft n hn => Nat.lt_succ_of_lt (h.oldLeft p hp left hleft n hn) }
  cases r with
  | sink n => exact h.reached (.sink n) attached hr
  | slot n =>
    simp only [Attached, Observations.subscribe, List.map_append, List.mem_append,
      List.map_cons, List.map_nil, List.mem_singleton] at attached
    rcases attached with attached | rfl
    · exact h.reached (.slot n) ((List.filter_sublist.map _).subset attached) hr
    · obtain ⟨d, hd⟩ := List.exists_mem_of_ne_nil _ hr
      exact absurd (h.oldSlots _ d (mem_received.mp hd)) (Nat.lt_irrefl _)

/-- Every step that keeps to the order preserves what holds of the latest update. -/
theorem Current.step (h : s.Current) (ho : s.Ordered) {e : ObservationEvent}
    (ok : s.HandsOverInOrder e) (hs : s.step e = some t) : t.Current := by
  cases e with
  | lock thread => exact h.lock ho hs
  | fill thread slot => exact h.fill ho hs
  | unlock thread => exact h.unlock hs
  | call thread => exact h.call ok hs
  | update now record =>
    cases hs
    exact h.recordUpdate ho ok
  | install =>
    cases hs
    exact h.install
  | subscribe =>
    simp only [Observations.step] at hs
    split at hs
    · cases hs
      exact h.subscribe
    · cases hs
  | unsubscribe id =>
    simp only [Observations.step] at hs
    split at hs
    · cases hs
      refine { h with reached := fun r attached hr => ?_ }
      cases r with
      | sink n => exact h.reached (.sink n) attached hr
      | slot n => exact h.reached (.slot n) ((List.filter_sublist.map _).subset attached) hr
    · cases hs
  | take slot =>
    cases hs
    refine { h with slots := fun n d hd => ?_ }
    by_cases hn : n = slot
    · subst hn
      simp at hd
    · exact h.slots n d (by simpa [Function.update_of_ne hn] using hd)
  | read now =>
    cases hs
    exact { h with
      owedShows := fun d hd hrev => (h.owedShows d hd hrev).read now
      seenShows := fun r d hmem hrev => (h.seenShows r d hmem hrev).read now }

/-- The last of the revisions a receiver sees is the greatest. -/
theorem InOrder.last (h : s.InOrder) {r : Receiver} {d e : RuntimeObservationDelta}
    (hd : (s.received r).getLast? = some d) (he : (r, e) ∈ s.handedOver) :
    e.revision.toNat ≤ d.revision.toNat := by
  obtain ⟨older, hreceived⟩ := List.getLast?_eq_some_iff.mp hd
  have hmem : e ∈ older ++ [d] := hreceived ▸ mem_received.mpr he
  have horder := h r
  rw [hreceived, List.map_append, List.pairwise_append] at horder
  rcases List.mem_append.mp hmem with hmem | hmem
  · have := horder.2.2 _ (List.mem_map_of_mem hmem) d.revision (by simp)
    exact (UInt64.lt_iff_toNat_lt.mp this).le
  · rw [List.mem_singleton.mp hmem]

/-- Once nothing is on its way, everyone has the newest delta. -/
theorem Current.latest (h : s.Current) (ho : s.Ordered) (quiet : s.publications = [])
    {r : Receiver} (attached : s.Attached r) {d : RuntimeObservationDelta}
    (hd : (s.received r).getLast? = some d) :
    d.revision = s.snapshot.revision ∧ Shows d s.snapshot := by
  have hmem : (r, d) ∈ s.handedOver := mem_received.mp (List.mem_of_getLast? hd)
  have hne : s.received r ≠ [] := List.ne_nil_of_mem (mem_received.mpr hmem)
  have hrev : d.revision = s.snapshot.revision := by
    rcases h.reached r attached hne with ⟨p, hp, -⟩ | ⟨e, he, hrev⟩
    · rw [quiet] at hp
      cases hp
    · have hle := ho.inOrder.last hd he
      have hge := ho.seen r d hmem
      rw [hrev] at hle
      exact UInt64.toNat_inj.mp (by omega)
  exact ⟨hrev, h.seenShows r d hmem hrev⟩

end Observations

/-- **Deltas are seen in order** in every run whose threads hand their deltas over in the order
of their updates, and in which there is a revision for every update. -/
theorem deltas_in_order (events : List ObservationEvent) (s : Observations)
    (run : Runs Observations.step Observations.HandsOverInOrder .new events s) :
    s.SeenInOrder := by
  have hinv : s.Ordered ∧ s.Current := by
    refine run.invariant (fun s => s.Ordered ∧ s.Current) ⟨.init, .init⟩ ?_
    rintro s e t ⟨ordered, current⟩ ok hs
    exact ⟨ordered.step ok hs, current.step ordered ok hs⟩
  obtain ⟨ordered, current⟩ := hinv
  exact ⟨ordered.inOrder, current.slots,
    fun quiet r attached d hd => current.latest ordered quiet attached hd⟩

/-- A caller reports that its worker did not answer, and the worker that the core is ready. -/
def twoUpdates : List ObservationEvent :=
  [.subscribe, .update 5 (.managedFailure none .worker),
    .update 6 (.subscriptionReady "sub" 1 none false)]

/-- The caller hands its delta over first. -/
theorem deltas_in_order_two : ∃ s, Runs Observations.step Observations.HandsOverInOrder .new
    (twoUpdates ++ [.lock 0, .fill 0 0, .unlock 0, .lock 1, .fill 1 0, .unlock 1, .call 0, .call 0])
    s ∧ s.SeenInOrder ∧ (s.received (.slot 0)).map (·.revision) = [1, 2] := by
  have hsome : ((evaluate Observations.step (fun s e => decide (s.HandsOverInOrder e)) .new
      (twoUpdates ++ [.lock 0, .fill 0 0, .unlock 0, .lock 1, .fill 1 0, .unlock 1, .call 0,
        .call 0])).map fun s => (s.received (.slot 0)).map (·.revision)) = some [1, 2] := by
    decide +kernel
  obtain ⟨s, hs, hreceived⟩ := Option.map_eq_some_iff.mp hsome
  have run := Runs.of_evaluate (fun s e h => of_decide_eq_true h) hs
  exact ⟨s, run, deltas_in_order _ s run, hreceived⟩

/-- The worker overtakes the caller, which then puts its older delta into the slot. -/
theorem delta_moved_back : ¬ ∀ events s, Runs Observations.step Free .new events s →
    s.SeenInOrder := by
  intro hordered
  have hsome : ((evaluate Observations.step (fun _ _ => true) .new
      (twoUpdates ++ [.lock 1, .fill 1 0, .unlock 1, .lock 0, .fill 0 0])).map fun s =>
        (s.received (.slot 0)).map (·.revision)) = some [2, 1] := by
    decide +kernel
  obtain ⟨s, hs, hreceived⟩ := Option.map_eq_some_iff.mp hsome
  have horder := (hordered _ s (Runs.of_free hs)).inOrder (.slot 0)
  rw [hreceived] at horder
  exact absurd horder (by decide)

end Veyra
