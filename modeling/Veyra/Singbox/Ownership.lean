import Veyra.Singbox.Runtime
import Mathlib.Logic.Relation

/-!
# Veyra.Singbox.Ownership

Who owns which instance.  The port is wrapped so that it logs its calls with
their results; ownership is then read off the log alone:

* `live` — the instances that ran and were not confirmed stopped, each with
  the configuration it was started with;
* `Armed c` — the last check and the last preparation both succeeded, in that
  order, for `c`;
* `blocked` — a clean-up is outstanding: a stop or a cancellation failed or
  the port said so, and no later `SidecarRuntime::stop` has succeeded.

The invariant `Owned` ties the runtime record to its log, one lemma per call
preserves it, and `owned_of_run` carries it over every run.
-/

namespace Veyra

/-! ## The log -/

/-- A port call with its result; `stopped` marks a `SidecarRuntime::stop` that returned
`Ok`.  Logs are newest first. -/
inductive PortEvent (C : Type)
  | check (candidate : C) (ok : Bool)
  | prepare (candidate : C) (ok : Bool)
  | run (instance? : Option ManagedSidecar)
  | ready (child : ManagedSidecar) (ok : Bool)
  | stop (child : ManagedSidecar) (ok : Bool)
  | cancelPending (ok : Bool)
  | pendingCleanup (pending : Bool)
  | stopped

abbrev PortLog (C : Type) := List (PortEvent C)

/-- A port that logs every call it passes on. -/
def SidecarPort.logged {P C : Type} (io : SidecarPort P C) : SidecarPort (P × PortLog C) C where
  check p c := let r := io.check p.1 c; (r.1, r.2, .check c r.1 :: p.2)
  prepare p c := let r := io.prepare p.1 c; (r.1, r.2, .prepare c r.1 :: p.2)
  run p := let r := io.run p.1; (r.1, r.2, .run r.1 :: p.2)
  ready p i := let r := io.ready p.1 i; (r.1, r.2, .ready i r.1 :: p.2)
  stop p i := let r := io.stop p.1 i; (r.1, r.2, .stop i r.1 :: p.2)
  cancelPending p := let r := io.cancelPending p.1; (r.1, r.2, .cancelPending r.1 :: p.2)
  hasPendingCleanup p :=
    let r := io.hasPendingCleanup p.1; (r.1, r.2, .pendingCleanup r.1 :: p.2)

namespace PortLog

variable {C : Type}

/-- The configuration of the last successful preparation. -/
def lastPrepared : PortLog C → Option C
  | [] => none
  | .prepare c true :: _ => some c
  | _ :: log => lastPrepared log

/-- The instances that ran successfully and were not confirmed stopped. -/
def live : PortLog C → List (ManagedSidecar × Option C)
  | [] => []
  | .run (some i) :: log => (i, lastPrepared log) :: live log
  | .stop i true :: log => (live log).eraseP (·.1 == i)
  | _ :: log => live log

/-- Check and preparation of `c` succeeded and only stops happened since. -/
def Armed (c : C) : PortLog C → Prop
  | .stop _ _ :: log => Armed c log
  | .prepare d true :: .check e true :: _ => d = c ∧ e = c
  | _ => False

/-- A clean-up is outstanding. -/
def blocked : PortLog C → Bool
  | [] => false
  | .stop _ ok :: log => !ok || blocked log
  | .cancelPending ok :: log => !ok || blocked log
  | .pendingCleanup pending :: log => pending || blocked log
  | .stopped :: _ => false
  | _ :: log => blocked log

/-- Every `run` happened for a candidate that was checked and prepared in the same
attempt, with no clean-up outstanding. -/
def RunsSound : PortLog C → Prop
  | [] => True
  | .run _ :: log => (∃ c, Armed c log) ∧ blocked log = false ∧ RunsSound log
  | _ :: log => RunsSound log

end PortLog

open PortLog

/-! ## The invariant -/

/-- The world the calls act on: the runtime over its logged port, and whether a prepared
candidate still waits for its commit or cancellation. -/
structure Session (P C : Type) where
  runtime : SidecarRuntime (P × PortLog C) C
  awaiting : Bool

def Session.log {P C : Type} (s : Session P C) : PortLog C := s.runtime.port.2

/-- A fresh runtime, with a mixed listener or without one. -/
def Session.fresh {P C : Type} (port : P) (mixedPort : Option { port : UInt16 // port ≠ 0 }) :
    Session P C :=
  match mixedPort with
  | some mixedPort => ⟨.new (port, []) mixedPort, false⟩
  | none => ⟨.newObservationOnly (port, []), false⟩

/-- The runtime record agrees with the log. -/
structure Owned {P C : Type} (s : Session P C) : Prop where
  /-- The live instances are the owned child; when no recovery is pending its
  configuration is the recorded one. -/
  live : match s.runtime.child with
    | none => live s.log = []
    | some i => ∃ c, live s.log = [(i, some c)] ∧
        (s.runtime.recoveryRequired = false → s.runtime.active = some c)
  blocked : blocked s.log = s.runtime.recoveryRequired
  runs : RunsSound s.log
  /-- A waiting candidate is armed; otherwise the slot is empty. -/
  candidate : if s.awaiting then ∃ c, s.runtime.candidate = some c ∧ Armed c s.log ∧
      lastPrepared s.log = some c ∧ s.runtime.recoveryRequired = false
    else s.runtime.candidate = none

namespace Owned

variable {P C : Type} {io : SidecarPort P C}

/-- A fresh runtime owns nothing. -/
theorem init (port : P) (mixedPort : Option { port : UInt16 // port ≠ 0 }) :
    Owned (Session.fresh port mixedPort : Session P C) := by
  cases mixedPort <;> exact ⟨rfl, rfl, trivial, rfl⟩

/-- `prepare_replacement` waits for its commit exactly when it succeeded. -/
theorem prepareReplacement {s : Session P C} (h : Owned s) (hidle : s.awaiting = false) (c : C) :
    Owned ⟨(s.runtime.prepareReplacement io.logged c).2,
      (s.runtime.prepareReplacement io.logged c).1.isOk⟩ := by
  obtain ⟨hlive, hblocked, hruns, hcand⟩ := h
  obtain ⟨⟨⟨p, log⟩, port, cand, active, child, recovery⟩, awaiting⟩ := s
  simp only at hidle
  subst hidle
  simp only [Session.log] at hlive hblocked hruns hcand
  simp only [Bool.false_eq_true, if_false] at hcand
  subst hcand
  cases recovery with
  | true =>
    simp only [SidecarRuntime.prepareReplacement, if_true]
    exact ⟨hlive, hblocked, hruns, rfl⟩
  | false =>
    simp only [SidecarRuntime.prepareReplacement, Bool.false_eq_true, if_false,
      SidecarPort.logged]
    -- the port's answers, in the order in which they are asked for
    rcases io.hasPendingCleanup p with ⟨pending, p₁⟩
    cases pending with
    | true =>
      dsimp only
      refine ⟨?_, by simp [Session.log, PortLog.blocked], hruns, rfl⟩
      cases child with
      | none => exact hlive
      | some i => obtain ⟨d, hd, -⟩ := hlive; exact ⟨d, hd, by simp⟩
    | false =>
      dsimp only
      rcases io.check p₁ c with ⟨checked, p₂⟩
      cases checked with
      | false =>
        dsimp only
        rcases io.hasPendingCleanup p₂ with ⟨pending, p₃⟩
        refine ⟨?_, by simp [Session.log, PortLog.blocked, hblocked], hruns, rfl⟩
        cases child with
        | none => exact hlive
        | some i => obtain ⟨d, hd, ha⟩ := hlive; exact ⟨d, hd, fun _ => ha rfl⟩
      | true =>
        dsimp only
        rcases io.prepare p₂ c with ⟨prepared, p₃⟩
        cases prepared with
        | false =>
          dsimp only
          rcases io.cancelPending p₃ with ⟨cancelled, p₄⟩
          refine ⟨?_, by simp [Session.log, PortLog.blocked, hblocked], hruns, rfl⟩
          cases child with
          | none => exact hlive
          | some i => obtain ⟨d, hd, ha⟩ := hlive; exact ⟨d, hd, fun _ => ha rfl⟩
        | true =>
          refine ⟨hlive, by simp [Session.log, PortLog.blocked, hblocked], hruns, ?_⟩
          exact ⟨c, rfl, ⟨rfl, rfl⟩, rfl, rfl⟩

/-- Running an armed candidate when nothing is live. -/
theorem runCandidate {r : SidecarRuntime (P × PortLog C) C} {c : C}
    (hchild : r.child = none) (hlive : PortLog.live r.port.2 = [])
    (hblocked : PortLog.blocked r.port.2 = false) (hrecovery : r.recoveryRequired = false)
    (hruns : RunsSound r.port.2) (hcand : r.candidate = some c) (harmed : Armed c r.port.2)
    (hlast : lastPrepared r.port.2 = some c) :
    Owned ⟨(r.runCandidate io.logged).2, false⟩ := by
  obtain ⟨⟨p, log⟩, port, cand, active, child, recovery⟩ := r
  simp only at hchild hlive hblocked hrecovery hruns hcand harmed hlast
  subst hchild hcand hrecovery
  have hsound : ∀ o, RunsSound (.run o :: log) := fun o => ⟨⟨c, harmed⟩, hblocked, hruns⟩
  simp only [SidecarRuntime.runCandidate, SidecarPort.logged]
  rcases io.run p with ⟨ran, p₁⟩
  cases ran with
  | none =>
    rcases io.hasPendingCleanup p₁ with ⟨pending, p₂⟩
    refine ⟨?_, by simp [Session.log, PortLog.blocked, hblocked], hsound none, rfl⟩
    simpa [Session.log, PortLog.live] using hlive
  | some i =>
    simp only
    rcases io.ready p₁ i with ⟨ready, p₂⟩
    cases ready with
    | true =>
      refine ⟨⟨c, ?_, fun _ => rfl⟩, by simp [Session.log, PortLog.blocked, hblocked],
        hsound (some i), rfl⟩
      simp [Session.log, PortLog.live, hlive, hlast]
    | false =>
      simp only
      rcases io.stop p₂ i with ⟨stopped, p₃⟩
      cases stopped with
      | true =>
        refine ⟨?_, by simp [Session.log, PortLog.blocked, hblocked], hsound (some i), rfl⟩
        simp [Session.log, PortLog.live, hlive]
      | false =>
        refine ⟨⟨c, ?_, by simp⟩, by simp [Session.log, PortLog.blocked], hsound (some i), rfl⟩
        simp [Session.log, PortLog.live, hlive, hlast]

/-- `commit_prepared` of the waiting candidate. -/
theorem commitPrepared {s : Session P C} (h : Owned s) :
    Owned ⟨(s.runtime.commitPrepared io.logged).2, false⟩ := by
  obtain ⟨hlive, hblocked, hruns, hcand⟩ := h
  obtain ⟨⟨⟨p, log⟩, port, cand, active, child, recovery⟩, awaiting⟩ := s
  simp only [Session.log] at hlive hblocked hruns hcand
  cases awaiting with
  | false =>
    simp only [Bool.false_eq_true, if_false] at hcand
    subst hcand
    exact ⟨hlive, hblocked, hruns, rfl⟩
  | true =>
    simp only [if_true] at hcand
    obtain ⟨c, rfl, harmed, hlast, rfl⟩ := hcand
    cases child with
    | none => exact runCandidate rfl hlive hblocked rfl hruns rfl harmed hlast
    | some i =>
      obtain ⟨d, hd, ha⟩ := hlive
      simp only [SidecarRuntime.commitPrepared, Option.isNone_some, Bool.false_eq_true, if_false,
        SidecarPort.logged]
      rcases io.stop p i with ⟨stopped, p₁⟩
      cases stopped with
      | false =>
        simp only
        rcases io.cancelPending p₁ with ⟨cancelled, p₂⟩
        exact ⟨⟨d, hd, by simp⟩, by simp [Session.log, PortLog.blocked], hruns, rfl⟩
      | true =>
        -- the old child is confirmed stopped before anything runs
        refine runCandidate rfl ?_ ?_ rfl hruns rfl harmed hlast
        · simp [PortLog.live, hd]
        · simp [PortLog.blocked, hblocked]

/-- `cancel_prepared`. -/
theorem cancelPrepared {s : Session P C} (h : Owned s) :
    Owned ⟨(s.runtime.cancelPrepared io.logged).2, false⟩ := by
  obtain ⟨hlive, hblocked, hruns, -⟩ := h
  obtain ⟨⟨⟨p, log⟩, port, cand, active, child, recovery⟩, awaiting⟩ := s
  simp only [Session.log] at hlive hblocked hruns
  simp only [SidecarRuntime.cancelPrepared, SidecarPort.logged]
  rcases io.cancelPending p with ⟨cancelled, p₁⟩
  cases cancelled with
  | true =>
    exact ⟨hlive, by simp [Session.log, PortLog.blocked, hblocked], hruns, rfl⟩
  | false =>
    refine ⟨?_, by simp [Session.log, PortLog.blocked], hruns, rfl⟩
    cases child with
    | none => exact hlive
    | some i => obtain ⟨d, hd, -⟩ := hlive; exact ⟨d, hd, by simp⟩

end Owned

/-- `SidecarRuntime::stop` with its success marked in the log. -/
def SidecarRuntime.stopLogged {P C : Type} (io : SidecarPort P C)
    (r : SidecarRuntime (P × PortLog C) C) : SidecarRuntime (P × PortLog C) C :=
  match r.stop io.logged with
  | (.ok (), r) => { r with port := (r.port.1, .stopped :: r.port.2) }
  | (.error _, r) => r

namespace Owned

variable {P C : Type} {io : SidecarPort P C}

/-- The clean-up half of `stop`, once no instance is live. -/
theorem clearPending {r : SidecarRuntime (P × PortLog C) C} (hchild : r.child = none)
    (hlive : PortLog.live r.port.2 = []) (hruns : RunsSound r.port.2) :
    Owned ⟨match r.clearPending io.logged with
      | (.ok (), r) => { r with port := (r.port.1, .stopped :: r.port.2) }
      | (.error _, r) => r, false⟩ := by
  obtain ⟨⟨p, log⟩, port, cand, active, child, recovery⟩ := r
  simp only at hchild hlive hruns
  subst hchild
  simp only [SidecarRuntime.clearPending, SidecarPort.logged]
  rcases io.cancelPending p with ⟨cancelled, p₁⟩
  cases cancelled with
  | true => exact ⟨by simpa [Session.log, PortLog.live] using hlive, rfl, hruns, rfl⟩
  | false =>
    exact ⟨by simpa [Session.log, PortLog.live] using hlive, by simp [Session.log, PortLog.blocked],
      hruns, rfl⟩

/-- `stop` and `recover_active_failure`. -/
theorem stop {s : Session P C} (h : Owned s) (hidle : s.awaiting = false) :
    Owned ⟨s.runtime.stopLogged io, false⟩ := by
  obtain ⟨hlive, hblocked, hruns, hcand⟩ := h
  obtain ⟨⟨⟨p, log⟩, port, cand, active, child, recovery⟩, awaiting⟩ := s
  simp only at hidle
  subst hidle
  simp only [Session.log] at hlive hblocked hruns hcand
  simp only [Bool.false_eq_true, if_false] at hcand
  subst hcand
  cases child with
  | none => exact clearPending rfl hlive hruns
  | some i =>
    obtain ⟨d, hd, ha⟩ := hlive
    simp only [SidecarRuntime.stopLogged, SidecarRuntime.stop, SidecarPort.logged]
    rcases io.stop p i with ⟨stopped, p₁⟩
    cases stopped with
    | false => exact ⟨⟨d, hd, by simp⟩, by simp [Session.log, PortLog.blocked], hruns, rfl⟩
    | true =>
      refine clearPending (r := ⟨(p₁, .stop i true :: log), _, _, _, none, _⟩) rfl ?_ hruns
      simp [PortLog.live, hd]

end Owned

/-! ## Runs -/

/-- One call: a prepared candidate is followed by exactly one commit or cancellation, any
other call happens between such pairs. -/
inductive SessionStep {P C : Type} (io : SidecarPort P C) : Session P C → Session P C → Prop
  | startOrReplace (s : Session P C) (c : C) (idle : s.awaiting = false) :
      SessionStep io s ⟨(s.runtime.startOrReplace io.logged c).2, false⟩
  | prepareReplacement (s : Session P C) (c : C) (idle : s.awaiting = false) :
      SessionStep io s ⟨(s.runtime.prepareReplacement io.logged c).2,
        (s.runtime.prepareReplacement io.logged c).1.isOk⟩
  | commitPrepared (s : Session P C) :
      SessionStep io s ⟨(s.runtime.commitPrepared io.logged).2, false⟩
  | cancelPrepared (s : Session P C) :
      SessionStep io s ⟨(s.runtime.cancelPrepared io.logged).2, false⟩
  | stop (s : Session P C) (idle : s.awaiting = false) :
      SessionStep io s ⟨s.runtime.stopLogged io, false⟩
  | recoverActiveFailure (s : Session P C) (idle : s.awaiting = false) :
      SessionStep io s ⟨s.runtime.stopLogged io, false⟩

/-- The sessions a run of calls reaches from a fresh runtime. -/
def SessionReachable {P C : Type} (io : SidecarPort P C) (port : P) (s : Session P C) : Prop :=
  ∃ mixedPort, Relation.ReflTransGen (SessionStep io) (.fresh port mixedPort) s

variable {P C : Type} {io : SidecarPort P C}

/-- `start_or_replace` is a preparation and, if that succeeded, a commit. -/
theorem Owned.startOrReplace {s : Session P C} (h : Owned s) (hidle : s.awaiting = false) (c : C) :
    Owned ⟨(s.runtime.startOrReplace io.logged c).2, false⟩ := by
  have hp := @Owned.prepareReplacement P C io s h hidle c
  rw [SidecarRuntime.startOrReplace]
  split
  · next e r heq => rw [heq] at hp; exact hp
  · next r heq => rw [heq] at hp; exact hp.commitPrepared

/-- Every call preserves the invariant. -/
theorem Owned.step {s s' : Session P C} (h : Owned s) (hs : SessionStep io s s') : Owned s' := by
  cases hs with
  | startOrReplace c idle => exact h.startOrReplace idle c
  | prepareReplacement c idle => exact h.prepareReplacement idle c
  | commitPrepared => exact h.commitPrepared
  | cancelPrepared => exact h.cancelPrepared
  | stop idle => exact h.stop idle
  | recoverActiveFailure idle => exact h.stop idle

/-- The invariant holds at every call boundary. -/
theorem owned_of_reachable {port : P} {s : Session P C} (h : SessionReachable io port s) :
    Owned s := by
  obtain ⟨mixedPort, run⟩ := h
  induction run with
  | refl => exact Owned.init port mixedPort
  | tail _ hs ih => exact ih.step hs

/-- A log all of whose runs are sound has a sound run at each position. -/
theorem PortLog.RunsSound.at {log pre post : PortLog C} {o : Option ManagedSidecar}
    (h : RunsSound log) (heq : log = post ++ .run o :: pre) :
    (∃ c, Armed c pre) ∧ PortLog.blocked pre = false := by
  induction post generalizing log with
  | nil =>
    subst heq
    exact ⟨h.1, h.2.1⟩
  | cons e post ih =>
    subst heq
    have htail : RunsSound (post ++ .run o :: pre) := by
      cases e <;> first | exact h | exact h.2.2
    exact ih htail rfl

/-- **Ownership.**  At every call boundary of every run against every port: the instances
that ran and were not confirmed stopped are exactly the owned child; every run was of a
candidate checked and prepared in the same attempt, with no recovery pending and no
clean-up outstanding; and `Ready` means an owned child without pending recovery, whose
configuration is the recorded active one. -/
theorem sidecar_ownership {P C : Type} (io : SidecarPort P C) (port : P) (s : Session P C)
    (h : SessionReachable io port s) :
    (PortLog.live s.log).map Prod.fst = s.runtime.child.toList ∧
    (∀ pre post o, s.log = post ++ .run o :: pre →
      (∃ c, Armed c pre) ∧ PortLog.blocked pre = false) ∧
    PortLog.blocked s.log = s.runtime.recoveryRequired ∧
    (s.runtime.lifecycle = .ready ↔
      s.runtime.child.isSome ∧ s.runtime.recoveryRequired = false) ∧
    (s.runtime.lifecycle = .ready →
      ∃ i c, PortLog.live s.log = [(i, some c)] ∧ s.runtime.child = some i ∧
        s.runtime.active = some c) := by
  obtain ⟨hlive, hblocked, hruns, -⟩ := owned_of_reachable h
  have hready : s.runtime.lifecycle = .ready ↔
      s.runtime.child.isSome ∧ s.runtime.recoveryRequired = false := by
    unfold SidecarRuntime.lifecycle
    cases s.runtime.recoveryRequired <;> cases s.runtime.child <;> simp
  refine ⟨?_, fun pre post o heq => hruns.at heq, hblocked, hready, fun hr => ?_⟩
  · cases hc : s.runtime.child with
    | none => rw [hc] at hlive; simp [hlive]
    | some i =>
      rw [hc] at hlive
      obtain ⟨c, hl, -⟩ := hlive
      simp [hl]
  · obtain ⟨hsome, hrec⟩ := hready.mp hr
    obtain ⟨i, hi⟩ := Option.isSome_iff_exists.mp hsome
    rw [hi] at hlive
    obtain ⟨c, hl, ha⟩ := hlive
    exact ⟨i, c, hl, hi, ha hrec⟩

/-- A port whose operations all succeed; it hands out consecutive identities. -/
def obligingPort : SidecarPort UInt64 Nat where
  check p _ := (true, p)
  prepare p _ := (true, p)
  run p := (some ⟨p⟩, p + 1)
  ready p _ := (true, p)
  stop p _ := (true, p)
  cancelPending p := (true, p)
  hasPendingCleanup p := (false, p)

theorem loopback_port_ne_zero : (2080 : UInt16) ≠ 0 := by decide

/-- The session after configuration 7 was started and then replaced by configuration 8. -/
def replacedSession : Session UInt64 Nat :=
  let s₀ : SidecarRuntime (UInt64 × PortLog Nat) Nat := .new (0, []) ⟨2080, loopback_port_ne_zero⟩
  ⟨((s₀.startOrReplace obligingPort.logged 7).2.startOrReplace obligingPort.logged 8).2, false⟩

theorem sidecar_ownership_replaced :
    ∃ i c, PortLog.live replacedSession.log = [(i, some c)] ∧
      replacedSession.runtime.child = some i ∧ replacedSession.runtime.active = some c :=
  (sidecar_ownership obligingPort 0 replacedSession
    ⟨some ⟨2080, loopback_port_ne_zero⟩, (Relation.ReflTransGen.single (.startOrReplace _ 7 rfl)).tail
      (.startOrReplace _ 8 rfl)⟩).2.2.2.2 rfl

end Veyra
