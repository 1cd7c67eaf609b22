import Veyra.Platform.PortOwnership

/-!
# Veyra.Platform.PortRuns

Any sequence of operations of `WindowsManagedSidecarPort`: the account of its
resources is kept by each of them, a child is only started from an approved
candidate, and a clean-up that failed stays visible until one succeeds.
-/

namespace Veyra

open Effect Program PortWorld

/-! ## The invariant -/

/-- A check that was passed stays passed. -/
theorem Passed.mono {events events' : List ChildEvent} {r : PrivateRuntime} {candidate : List UInt8}
    (h : Passed events r candidate) (hsuffix : events <:+ events') :
    Passed events' r candidate := by
  obtain ⟨child, hchild⟩ := h
  exact ⟨child, hchild.trans hsuffix.isInfix⟩

/-- The candidate itself has been read. -/
theorem Passed.read {events : List ChildEvent} {r : PrivateRuntime} {candidate : List UInt8}
    (h : Passed events r candidate) : .read r.configPath candidate ∈ events := by
  obtain ⟨child, hchild⟩ := h
  exact hchild.subset List.mem_cons_self

/-- The secret of a running child is that of a candidate, with the digest of the file that the
child was started with. -/
def Trusted (F : PortFunctions) (events : List ChildEvent) (entry : RunningChild) : Prop :=
  ∃ candidate bytes, F.apiSecretFromConfig candidate = some entry.secret ∧
    F.digest bytes = F.digest candidate ∧ (∃ path, .read path candidate ∈ events) ∧
    StartedWith events entry bytes

/-- A child that is trusted stays so. -/
theorem Trusted.mono {F : PortFunctions} {events events' : List ChildEvent} {entry : RunningChild}
    (h : Trusted F events entry) (hsuffix : events <:+ events') : Trusted F events' entry := by
  obtain ⟨candidate, bytes, hsecret, hdigest, ⟨path, hread⟩, hstarted⟩ := h
  exact ⟨candidate, bytes, hsecret, hdigest, ⟨path, hsuffix.subset hread⟩,
    hstarted.trans hsuffix.isInfix⟩

namespace WindowsManagedSidecarPort

open ProcessPort

variable {F : PortFunctions} {p : WindowsManagedSidecarPort F} {w w' : PortWorld}
  {approved : Option (List UInt8)} {pending : PendingRuntime F}

/-- The directory and the process of every running entry. -/
def entries (p : WindowsManagedSidecarPort F) : List (List String × ChildHandle) :=
  p.running.map fun entry => (entry.2.runtime.instanceDir, entry.2.child)

/-- The directory of the pending slot. -/
def pendingDir (p : WindowsManagedSidecarPort F) : Option (List String) :=
  p.pending.map fun pending => pending.runtime.instanceDir

/-- The check process of the pending slot. -/
def pendingChild (p : WindowsManagedSidecarPort F) : Option ChildHandle :=
  p.pending.bind fun pending => pending.checkChild

/-- Every directory that the port knows of, with its repetitions. -/
def directories (p : WindowsManagedSidecarPort F) : List (List String) :=
  p.pendingDir.toList ++ p.entries.map Prod.fst

/-- Every process that the port knows of, with its repetitions. -/
def children (p : WindowsManagedSidecarPort F) : List ChildHandle :=
  p.pendingChild.toList ++ p.entries.map Prod.snd

/-- The invariant: the account is in order, a checked slot holds the approved candidate, and every
running child is trusted. -/
structure Inv (p : WindowsManagedSidecarPort F) (approved : Option (List UInt8)) (w : PortWorld) :
    Prop where
  account : Account p.pendingDir p.pendingChild p.entries w
  pending : ∀ pending, p.pending = some pending → pending.checked = true →
    pending.checkChild = none ∧ pending.runtime.instanceDir ∈ w.live ∧
      ∃ candidate, approved = some candidate ∧
        F.apiSecretFromConfig candidate = some pending.secret ∧
        F.digest candidate = pending.digest ∧ Passed w.events pending.runtime candidate
  running : ∀ entry ∈ p.running, Trusted F w.events entry.2

/-- At the start there is no child. -/
theorem inv_new : (new : WindowsManagedSidecarPort F).Inv none ⟨∅, ∅, 0, []⟩ where
  account := ⟨by simp, by simp [pendingDir, entries, new], by simp [entries, new], by simp,
    by simp [pendingChild, entries, new], by simp [pendingChild, entries, new],
    by simp [entries, new]⟩
  pending := by simp [new]
  running := by simp [new]

/-- A quiet world keeps the invariant. -/
theorem Inv.later (h : p.Inv approved w) (hw : Later w w') : p.Inv approved w' where
  account := h.account.later hw
  pending pending hpending hchecked := by
    obtain ⟨hchild, hlive, candidate, happroved, hsecret, hdigest, hpassed⟩ :=
      h.pending pending hpending hchecked
    exact ⟨hchild, hw.live ▸ hlive, candidate, happroved, hsecret, hdigest,
      hpassed.mono hw.quiet.suffix⟩
  running entry hentry := (h.running entry hentry).mono hw.quiet.suffix

/-- Where nothing is approved nothing is checked. -/
theorem Inv.of_none (h : p.Inv none w) (approved : Option (List UInt8)) : p.Inv approved w where
  account := h.account
  pending pending hpending hchecked := by
    obtain ⟨-, -, candidate, hnone, -⟩ := h.pending pending hpending hchecked
    contradiction
  running := h.running

/-- An unchecked slot has no candidate to answer for. -/
theorem Inv.unchecked {p' : WindowsManagedSidecarPort F} {approved' : Option (List UInt8)}
    (h : p.Inv approved w) (hrunning : p'.running = p.running) (hevents : w.events <:+ w'.events)
    (haccount : Account p'.pendingDir p'.pendingChild p.entries w')
    (hpending : ∀ pending, p'.pending = some pending → pending.checked = false) :
    p'.Inv approved' w' where
  account := by
    have hentries : p'.entries = p.entries := by rw [entries, hrunning, ← entries]
    rwa [hentries]
  pending pending hsome hchecked := by simp [hpending pending hsome] at hchecked
  running entry hentry := (h.running entry (hrunning ▸ hentry)).mono hevents

/-! ## The operations -/

/-- What `discard_pending` leaves. -/
structure Emptied (p : WindowsManagedSidecarPort F) (w : PortWorld)
    (out : Bool × WindowsManagedSidecarPort F) (w' : PortWorld) : Prop where
  inv : out.2.Inv none w'
  quiet : Quiet w w'
  running : out.2.running = p.running
  nextIdentity : out.2.nextIdentity = p.nextIdentity
  unchecked : ∀ pending, out.2.pending = some pending → pending.checked = false
  emptied : out.1 = true ↔ out.2.pending = none

/-- **Spec.**  `discard_pending` with an occupied slot. -/
theorem Inv.discarded (h : p.Inv approved w) (hpending : p.pending = some pending)
    {out : Bool × WindowsManagedSidecarPort F} (hout : Discarded p pending w out w') :
    Emptied p w out w' := by
  have haccount := h.account
  have hdir : p.pendingDir = some pending.runtime.instanceDir := by simp [pendingDir, hpending]
  have hchild : p.pendingChild = pending.checkChild := by simp [pendingChild, hpending]
  rw [hdir, hchild] at haccount
  cases hout with
  | cleaned w₁ later reaped =>
    refine ⟨?_, later.quiet, rfl, rfl, by simp, by simp⟩
    have haccount₁ := (haccount.later later).removed.forget (Finset.notMem_erase _ _)
    refine h.unchecked rfl later.quiet.suffix ?_ (by simp)
    cases hcheck : pending.checkChild with
    | none => rwa [hcheck] at haccount₁
    | some child =>
      rw [hcheck] at haccount₁
      exact haccount₁.reaped (reaped child hcheck)
  | kept _ checkChild later reaped =>
    refine ⟨?_, later.quiet, rfl, rfl, by simp, by simp⟩
    have haccount₁ := haccount.later later
    refine h.unchecked rfl later.quiet.suffix ?_ (by simp)
    rcases reaped with rfl | ⟨rfl, reaped⟩
    · exact haccount₁
    · cases hcheck : pending.checkChild with
      | none => rwa [hcheck] at haccount₁
      | some child =>
        rw [hcheck] at haccount₁
        exact haccount₁.reaped (reaped child hcheck)

/-- **Spec.**  `cancel_pending`, and the clean-up of a failed `run`. -/
theorem ends_cancelPending (h : p.Inv approved w) :
    Ends handle p.cancelPending w (Emptied p w) := by
  cases hpending : p.pending with
  | none =>
    rw [cancelPending, discardPending, hpending]
    refine ends_done.mpr ⟨?_, .refl w, rfl, rfl, by simp [hpending], by simp [hpending]⟩
    exact h.unchecked rfl List.suffix_rfl h.account (by simp [hpending])
  | some pending =>
    exact (ends_discardPending hpending).mono fun out w' _ hout => h.discarded hpending hout

/-- What a check of a candidate with an empty slot leaves. -/
def CheckLeaves (p : WindowsManagedSidecarPort F) (candidate : List UInt8) (w : PortWorld)
    (out : Bool × WindowsManagedSidecarPort F) (w' : PortWorld) : Prop :=
  out.2.Inv (if out.1 then some candidate else none) w' ∧ Quiet w w' ∧
    out.2.running = p.running ∧ out.2.nextIdentity = p.nextIdentity ∧
    (out.1 = false → ∀ pending, out.2.pending = some pending → pending.checked = false)

/-- A check that fails before there is a candidate. -/
theorem Inv.checkLeaves (h : p.Inv approved w) (hpending : p.pending = none)
    (candidate : List UInt8) : p.CheckLeaves candidate w (false, p) w :=
  ⟨h.unchecked rfl List.suffix_rfl h.account (by simp [hpending]), .refl w, rfl, rfl,
    by simp [hpending]⟩

/-- The check of a candidate whose private runtime has just been created. -/
theorem ends_checkCandidate (h : p.Inv approved w) (hempty : p.pending = none)
    {r : PrivateRuntime} {secret : String} {candidate : List UInt8} (hdir : r.instanceDir ∉ w.live)
    (hsecret : F.apiSecretFromConfig candidate = some secret) :
    Ends handle
      (p.checkCandidate ⟨r, secret, F.digest candidate, none, false⟩ candidate)
      { w with live := insert r.instanceDir w.live } (p.CheckLeaves candidate w) := by
  have haccount := h.account
  rw [pendingDir, pendingChild, hempty] at haccount
  have hcreated : Account (some r.instanceDir) none p.entries
      { w with live := insert r.instanceDir w.live } := haccount.created hdir
  refine (ends_checkPending rfl candidate).andThen fun out w₁ _ hout => ?_
  cases hout with
  | passed _ live processes next events =>
    have hevents : w.events <:+ w₁.events := ⟨_, events.symm⟩
    refine ends_done.mpr ⟨⟨?_, ?_, ?_⟩, ⟨_, events, by simp [ChildEvent.isRun]⟩, rfl, rfl, by simp⟩
    · exact hcreated.mono live processes (by rw [next]; exact Nat.le_succ _)
    · rintro pending ⟨⟩ -
      refine ⟨rfl, ?_, candidate, rfl, hsecret, rfl, w.nextProcess, ?_⟩
      · rw [live]
        exact Finset.mem_insert_self _ _
      · rw [events]
        exact List.infix_append' [] _ _
    · exact fun entry hentry => (h.running entry hentry).mono hevents
  | failed _ live processes next quiet =>
    dsimp only
    rw [if_neg (by simp), if_neg (by simp)]
    set slot : PendingRuntime F := ⟨r, secret, F.digest candidate, none, false⟩ with hslot
    have haccount₁ : Account (some r.instanceDir) none p.entries w₁ := by
      rcases live with live | live
      · exact hcreated.mono live processes next
      · exact hcreated.removed.mono live processes next
    have hinv : ({ p with pending := some slot } : WindowsManagedSidecarPort F).Inv none w₁ :=
      h.unchecked rfl quiet.suffix haccount₁ (by rintro pending ⟨⟩; rfl)
    refine (ends_discardPending rfl).andThen fun out w₂ _ hdiscard => ?_
    have hemptied := hinv.discarded rfl hdiscard
    exact ends_done.mpr ⟨hemptied.inv, quiet.trans hemptied.quiet, hemptied.running,
      hemptied.nextIdentity, fun _ => hemptied.unchecked⟩
  | waiting _ live processes next quiet =>
    dsimp only
    rw [if_neg (by simp), if_pos (by simp)]
    have haccount₁ : Account (some r.instanceDir) (some w.nextProcess) p.entries w₁ :=
      hcreated.checking live processes next
    refine ends_done.mpr ⟨h.unchecked rfl quiet.suffix haccount₁ ?_, quiet, rfl, rfl, fun _ => ?_⟩
    · rintro pending ⟨⟩
      rfl
    · rintro pending ⟨⟩
      rfl

/-- **Spec.**  `check`: an occupied slot is left alone. -/
theorem ends_check (h : p.Inv approved w) (candidate : List UInt8) :
    Ends handle (p.check candidate) w fun out w' =>
      if p.pending.isSome then out = (false, p) ∧ w' = w else p.CheckLeaves candidate w out w' := by
  cases hpending : p.pending with
  | some pending =>
    rw [check, hpending]
    exact ends_done.mpr ⟨rfl, rfl⟩
  | none =>
    rw [check, hpending]
    have hleaves := h.checkLeaves hpending candidate
    refine idle_verifyResources.gate ?_ (ends_done.mpr hleaves)
    cases hsecret : F.apiSecretFromConfig candidate with
    | none => exact ends_done.mpr hleaves
    | some secret =>
      dsimp only
      refine (ends_left PrivateRuntime.ends_create).andThen fun made w₁ _ hmade => ?_
      cases made with
      | ok r =>
        obtain ⟨hdir, rfl⟩ : r.instanceDir ∉ w.live ∧ _ := hmade
        exact ends_checkCandidate h hpending hdir hsecret
      | error e =>
        cases e with
        | preparation =>
          have hsame : w₁ = w := hmade
          rw [hsame]
          exact ends_done.mpr hleaves
        | cleanupPending r =>
          obtain ⟨hdir, rfl⟩ : r.instanceDir ∉ w.live ∧ _ := hmade
          have haccount := h.account
          rw [pendingDir, pendingChild, hpending] at haccount
          have hcreated := haccount.created hdir
          refine ends_done.mpr ⟨h.unchecked rfl List.suffix_rfl hcreated ?_, ⟨[], rfl, by simp⟩, rfl,
            rfl, fun _ => ?_⟩
          · rintro pending ⟨⟩
            rfl
          · rintro pending ⟨⟩
            rfl

/-- **Spec.**  `prepare` only reads. -/
theorem ends_prepare (p : WindowsManagedSidecarPort F) (candidate : List UInt8) :
    Ends handle (p.prepare candidate) w fun out w' => out.2 = p ∧ Later w w' := by
  rw [prepare]
  cases p.pending with
  | none => exact ends_done.mpr ⟨rfl, .refl w⟩
  | some pending =>
    dsimp only
    split
    · exact (ends_matchesFinalBytes _ candidate).andThen fun found w₁ _ hfound =>
        ends_done.mpr ⟨rfl, hfound.1⟩
    · exact ends_done.mpr ⟨rfl, .refl w⟩

@[simp] theorem setReady_pending (identity : UInt64) (ready : Bool) :
    (p.setReady identity ready).pending = p.pending := rfl

@[simp] theorem setReady_nextIdentity (identity : UInt64) (ready : Bool) :
    (p.setReady identity ready).nextIdentity = p.nextIdentity := rfl

theorem setReady_entries (identity : UInt64) (ready : Bool) :
    (p.setReady identity ready).entries = p.entries := by
  rw [entries, entries, setReady, List.map_map]
  refine List.map_congr_left fun entry _ => ?_
  simp only [Function.comp_apply]
  split
  · rfl
  · rfl

/-- The `ready` flag is not part of the invariant. -/
theorem Inv.setReady (h : p.Inv approved w) (identity : UInt64) (ready : Bool) :
    (p.setReady identity ready).Inv approved w where
  account := by
    rw [setReady_entries]
    exact h.account
  pending := h.pending
  running entry hentry := by
    obtain ⟨entry', hentry', rfl⟩ := List.mem_map.mp hentry
    have htrusted := h.running entry' hentry'
    split
    · exact htrusted
    · exact htrusted

/-- **Spec.**  `ready` changes the flag only. -/
theorem ends_ready (h : p.Inv approved w) (identity : UInt64) :
    Ends handle (p.ready identity) w fun out w' =>
      out.2.Inv approved w' ∧ Quiet w w' ∧ out.2.pending = p.pending ∧
        out.2.nextIdentity = p.nextIdentity := by
  rw [ready]
  cases p.get identity with
  | none => exact ends_done.mpr ⟨h, .refl w, rfl, rfl⟩
  | some entry =>
    refine ChildProcess.ends_isRunning.andThen fun running w₁ _ hrunning => ?_
    have hlater : Later w w₁ := by
      rcases hrunning with ⟨-, rfl⟩ | ⟨-, rfl⟩
      · exact later_stopped
      · exact .refl _
    have hfail : Ends handle (pure (false, p) : PortProgram _) w₁ fun out w' =>
        out.2.Inv approved w' ∧ Quiet w w' ∧ out.2.pending = p.pending ∧
          out.2.nextIdentity = p.nextIdentity :=
      ends_done.mpr ⟨h.later hlater, hlater.quiet, rfl, rfl⟩
    cases running with
    | none => exact hfail
    | some running =>
      cases running with
      | false => exact hfail
      | true =>
        refine idle_createClient.gate (idle_readReady.gate ?_ hfail) hfail
        exact ends_done.mpr ⟨(h.later hlater).setReady identity true, hlater.quiet, rfl, rfl⟩

/-- An entry that is found is the only one. -/
theorem running_of_get (hone : p.entries.length ≤ 1) {identity : UInt64} {entry : RunningChild}
    (hget : p.get identity = some entry) : p.running = [(identity, entry)] := by
  have hlength : p.running.length ≤ 1 := by simpa [entries] using hone
  rw [get] at hget
  cases hrunning : p.running with
  | nil => simp [hrunning] at hget
  | cons first rest =>
    have hrest : rest = [] := by
      rw [hrunning, List.length_cons] at hlength
      exact List.eq_nil_of_length_eq_zero (by omega)
    obtain ⟨key, value⟩ := first
    subst hrest
    rw [hrunning, List.lookup_cons] at hget
    cases hkey : identity == key with
    | false => simp [hkey] at hget
    | true =>
      rw [hkey] at hget
      rw [eq_of_beq hkey, Option.some.inj hget]

/-- **Spec.**  `stop`: an entry is only given up with its process stopped and its directory
removed. -/
theorem ends_stop (h : p.Inv approved w) (identity : UInt64) :
    Ends handle (p.stop identity) w fun out w' =>
      out.2.Inv approved w' ∧ Quiet w w' ∧ out.2.pending = p.pending ∧
        out.2.nextIdentity = p.nextIdentity := by
  rw [stop]
  cases hget : p.get identity with
  | none => exact ends_done.mpr ⟨h, .refl w, rfl, rfl⟩
  | some entry =>
    have hrunning := running_of_get h.account.one hget
    have hentries : p.entries = [(entry.runtime.instanceDir, entry.child)] := by
      rw [entries, hrunning]
      rfl
    refine ChildProcess.ends_stop.andThen fun ok w₁ _ hstop => ?_
    obtain ⟨hlater, hstopped⟩ := hstop
    have hkept := (h.later hlater).setReady identity false
    cases ok with
    | false => exact ends_done.mpr ⟨hkept, hlater.quiet, rfl, rfl⟩
    | true =>
      refine (ends_left entry.runtime.ends_removeConfigAndDirectory).andThen
        fun result w₂ _ hresult => ?_
      cases result with
      | error e =>
        have hsame : w₂ = w₁ := hresult
        rw [hsame]
        exact ends_done.mpr ⟨hkept, hlater.quiet, rfl, rfl⟩
      | ok =>
        have hremoved : w₂ = w₁.removed entry.runtime.instanceDir := hresult
        subst hremoved
        have haccount := h.account.later hlater
        rw [hentries] at haccount
        have hempty : ((p.setReady identity false).removeRunning identity).running = [] := by
          simp [setReady, removeRunning, hrunning]
        refine ends_done.mpr ⟨⟨?_, fun pending hpending hchecked => ?_, ?_⟩, hlater.quiet, rfl, rfl⟩
        · have hgone := haccount.ended (hstopped rfl)
          rwa [entries, hempty]
        · obtain ⟨hchild, hlive, hcandidate⟩ := (h.later hlater).pending pending hpending hchecked
          refine ⟨hchild, Finset.mem_erase.mpr ⟨fun heq => ?_, hlive⟩, hcandidate⟩
          have hnodup := haccount.directories
          rw [pendingDir, show p.pending = some pending from hpending] at hnodup
          simp [heq] at hnodup
        · rw [hempty]
          simp

/-- What a `run` that started a child has done: the slot held the approved candidate, and the file
read right before the start has its digest. -/
structure Started (p : WindowsManagedSidecarPort F) (approved : Option (List UInt8)) (w : PortWorld)
    (identity : UInt64) (p' : WindowsManagedSidecarPort F) (w' : PortWorld) : Prop where
  slot : ∃ pending candidate bytes, p.pending = some pending ∧ pending.checked = true ∧
    approved = some candidate ∧ Passed w.events pending.runtime candidate ∧
    F.digest bytes = F.digest candidate ∧
    w'.events = [.startedRun w.nextProcess pending.runtime.configPath,
      .read pending.runtime.configPath bytes] ++ w.events
  identity_lt : p.nextIdentity < identity
  nextIdentity : p'.nextIdentity = identity
  emptied : p'.pending = none
  inv : p'.Inv none w'

/-- What a `run` that failed has done: it has discarded the slot, or tried to. -/
structure RunFailed (p : WindowsManagedSidecarPort F) (w : PortWorld)
    (p' : WindowsManagedSidecarPort F) (w' : PortWorld) : Prop where
  quiet : Quiet w w'
  nextIdentity : p'.nextIdentity = p.nextIdentity
  unchecked : ∀ pending, p'.pending = some pending → pending.checked = false
  inv : p'.Inv none w'

/-- **Spec.**  `run_pending`: a failure leaves the port as it was. -/
theorem ends_runPending (h : p.Inv approved w) :
    Ends handle p.runPending w fun out w' =>
      match out.1 with
      | some identity => Started p approved w identity out.2 w'
      | none => out.2 = p ∧ Later w w' := by
  rw [runPending]
  split
  · exact ends_done.mpr ⟨rfl, .refl w⟩
  · rename_i hempty
    have hrunning : p.running = [] := by simpa using hempty
    cases hpending : p.pending with
    | none => exact ends_done.mpr ⟨rfl, .refl w⟩
    | some pending =>
      dsimp only
      split
      · exact ends_done.mpr ⟨rfl, .refl w⟩
      · rename_i hchecked
        have hchecked : pending.checked = true := by simpa using hchecked
        obtain ⟨hchild, hlive, candidate, happroved, hsecret, hdigest, hpassed⟩ :=
          h.pending pending hpending hchecked
        refine (ends_matchesFinalDigest _ pending.digest).andThen fun found w₁ _ hfound => ?_
        obtain ⟨hlater, hfound⟩ := hfound
        cases found with
        | false => exact ends_done.mpr ⟨rfl, hlater⟩
        | true =>
          obtain ⟨bytes, hbytes, rfl⟩ := hfound rfl
          dsimp only
          split
          · rename_i hbound
            refine ends_spawnRun (ends_done.mpr ?_) (ends_done.mpr ⟨rfl, hlater⟩)
            have hsuffix : w.events <:+ ([ChildEvent.startedRun w.nextProcess
                pending.runtime.configPath, .read pending.runtime.configPath bytes] ++ w.events) :=
              List.suffix_append _ _
            have hread := hpassed.read
            refine ⟨⟨pending, candidate, bytes, hpending, hchecked, happroved, hpassed,
              hbytes.trans hdigest.symm, rfl⟩, ?_, rfl, rfl, ⟨?_, by simp [insertRunning], ?_⟩⟩
            · rw [UInt64.lt_iff_toNat_lt, UInt64.toNat_add, UInt64.toNat_one]
              rw [Nat.mod_eq_of_lt (by simpa [UInt64.size] using hbound)]
              exact Nat.lt_succ_self _
            · have haccount := h.account.later hlater
              rw [pendingDir, pendingChild, hpending, entries, hrunning] at haccount
              simp only [Option.map_some, Option.bind_some, hchild] at haccount
              have hmoved := haccount.moved hlive (.startedRun
                (w.note (.read pending.runtime.configPath bytes)).nextProcess
                pending.runtime.configPath)
              simpa [pendingDir, pendingChild, entries, insertRunning, hrunning] using hmoved
            · intro entry hentry
              simp only [insertRunning, hrunning, List.filter_nil, List.nil_append,
                List.mem_singleton] at hentry
              rw [hentry]
              exact ⟨candidate, bytes, hsecret, hbytes.trans hdigest.symm,
                ⟨_, hsuffix.subset hread⟩, List.prefix_append _ _ |>.isInfix⟩
          · exact ends_done.mpr ⟨rfl, hlater⟩

/-- **Spec.**  `run`. -/
theorem ends_run (h : p.Inv approved w) :
    Ends handle p.run w fun out w' =>
      match out.1 with
      | some identity => Started p approved w identity out.2 w'
      | none => RunFailed p w out.2 w' := by
  refine (ends_runPending h).andThen fun out w₁ _ hout => ?_
  obtain ⟨result, p'⟩ := out
  cases result with
  | some identity => exact ends_done.mpr hout
  | none =>
    obtain ⟨rfl, hlater⟩ : p' = p ∧ Later w w₁ := hout
    refine (ends_cancelPending (h.later hlater)).andThen fun out w₂ _ hdiscard => ?_
    exact ends_done.mpr ⟨hlater.quiet.trans hdiscard.quiet, hdiscard.nextIdentity,
      hdiscard.unchecked, hdiscard.inv⟩

end WindowsManagedSidecarPort

/-! ## Sessions -/

/-- An operation with everything that the outside chooses during it. -/
inductive PortOperation
  | check (candidate : List UInt8) (tape : Tape PortOutcome)
  | prepare (candidate : List UInt8) (tape : Tape PortOutcome)
  | run (tape : Tape PortOutcome)
  | ready (identity : UInt64) (tape : Tape PortOutcome)
  | stop (identity : UInt64) (tape : Tape PortOutcome)
  | cancelPending (tape : Tape PortOutcome)

/-- A port in its world, with the candidate whose check was the last to succeed and that was neither
cancelled nor run since, and the identities handed out, newest first. -/
structure PortSession (F : PortFunctions) where
  port : WindowsManagedSidecarPort F
  world : PortWorld
  approved : Option (List UInt8)
  handed : List UInt64

namespace PortSession

open WindowsManagedSidecarPort

variable {F : PortFunctions} {s : PortSession F}

/-- A new port. -/
def start (F : PortFunctions) : PortSession F := ⟨.new, ⟨∅, ∅, 0, []⟩, none, []⟩

/-- An operation: whether it returns `Ok`, and the session it leaves. -/
def perform (s : PortSession F) : PortOperation → Bool × PortSession F
  | .check candidate tape =>
    let ((ok, port), world) := (s.port.check candidate).run handle tape s.world
    (ok, { s with port, world, approved := if ok then some candidate else s.approved })
  | .prepare candidate tape =>
    let ((ok, port), world) := (s.port.prepare candidate).run handle tape s.world
    (ok, { s with port, world })
  | .run tape =>
    let ((identity?, port), world) := Program.run handle s.port.run tape s.world
    (identity?.isSome,
      { port, world, approved := none, handed := identity?.toList ++ s.handed })
  | .ready identity tape =>
    let ((ok, port), world) := (s.port.ready identity).run handle tape s.world
    (ok, { s with port, world })
  | .stop identity tape =>
    let ((ok, port), world) := (s.port.stop identity).run handle tape s.world
    (ok, { s with port, world })
  | .cancelPending tape =>
    let ((ok, port), world) := s.port.cancelPending.run handle tape s.world
    (ok, { s with port, world, approved := none })

def step (s : PortSession F) (op : PortOperation) : PortSession F := (s.perform op).2

/-- Something that the port made is neither confirmed gone nor part of a running entry. -/
def Leftover (s : PortSession F) : Prop :=
  (∃ dir ∈ s.world.live, dir ∉ s.port.entries.map Prod.fst) ∨
    ∃ child ∈ s.world.processes, child ∉ s.port.entries.map Prod.snd

instance : Decidable s.Leftover := inferInstanceAs (Decidable (_ ∨ _))

/-- The operation ends with a clean-up that failed, of an unchecked or a cancelled candidate. -/
def FailedCleanup (s : PortSession F) (op : PortOperation) : Prop :=
  match op with
  | .check _ _ => s.port.pending = none ∧ (s.perform op).1 = false ∧ (s.step op).Leftover
  | .run _ => (s.perform op).1 = false ∧ (s.step op).Leftover
  | .cancelPending _ => (s.perform op).1 = false
  | _ => False

/-- The operation is a cancellation that succeeds, or a `run` after whose clean-up nothing is
left over. -/
def CleanedUp (s : PortSession F) (op : PortOperation) : Prop :=
  match op with
  | .cancelPending _ => (s.perform op).1 = true
  | .run _ => ¬ (s.step op).Leftover
  | _ => False

/-- No two files that were read have the same digest with different bytes. -/
def NoCollision (s : PortSession F) : Prop :=
  ∀ path bytes path' bytes', .read path bytes ∈ s.world.events →
    .read path' bytes' ∈ s.world.events → F.digest bytes = F.digest bytes' → bytes = bytes'

/-- What holds between the operations. -/
structure Owned (s : PortSession F) : Prop where
  directories : ∀ dir ∈ s.world.live, s.port.directories.count dir = 1
  processes : ∀ child ∈ s.world.processes, s.port.children.count child = 1
  one : s.port.running.length ≤ 1
  identities : s.handed.Pairwise (· > ·)
  secrets : s.NoCollision → ∀ entry ∈ s.port.running, ∃ bytes,
    StartedWith s.world.events entry.2 bytes ∧
      F.apiSecretFromConfig bytes = some entry.2.secret

/-- What holds of an operation. -/
structure Lawful (s : PortSession F) (op : PortOperation) : Prop where
  occupied : ∀ candidate tape, op = .check candidate tape → s.port.pending.isSome = true →
    (s.perform op).1 = false ∧ (s.step op).port = s.port
  starts : ∀ new, (s.step op).world.events = new ++ s.world.events →
    ∀ child config, .startedRun child config ∈ new → (∃ tape, op = .run tape) ∧
      ∃ pending candidate bytes, s.port.pending = some pending ∧ pending.checked = true ∧
        s.approved = some candidate ∧ Passed s.world.events pending.runtime candidate ∧
        F.digest bytes = F.digest candidate ∧ config = pending.runtime.configPath ∧
        new = [.startedRun child config, .read config bytes]
  failed : s.FailedCleanup op → (s.step op).port.hasPendingCleanup = true
  persists : s.port.hasPendingCleanup = true → ¬ s.CleanedUp op →
    (s.step op).port.hasPendingCleanup = true

/-! ## The invariant of a session -/

structure Inv (s : PortSession F) : Prop where
  port : s.port.Inv s.approved s.world
  handed : s.handed.Pairwise (· > ·)
  handed_le : ∀ identity ∈ s.handed, identity ≤ s.port.nextIdentity

theorem inv_start : (start F).Inv := ⟨inv_new, .nil, by simp [start]⟩

/-- What an operation does, by the specification of the port's function. -/
inductive Stepped (s : PortSession F) : PortOperation → Bool → PortSession F → Prop
  | occupied (candidate tape) (some : s.port.pending.isSome = true) :
      Stepped s (.check candidate tape) false s
  | checked (candidate tape ok port world) (none : s.port.pending = none)
      (leaves : s.port.CheckLeaves candidate s.world (ok, port) world) :
      Stepped s (.check candidate tape) ok
        { s with port, world, approved := if ok then .some candidate else s.approved }
  | prepared (candidate tape ok world) (later : Later s.world world) :
      Stepped s (.prepare candidate tape) ok { s with world }
  | started (tape identity port world)
      (started : Started s.port s.approved s.world identity port world) :
      Stepped s (.run tape) true
        { port, world, approved := .none, handed := identity :: s.handed }
  | runFailed (tape port world) (failed : RunFailed s.port s.world port world) :
      Stepped s (.run tape) false { port, world, approved := .none, handed := s.handed }
  | readied (identity tape ok port world) (inv : port.Inv s.approved world)
      (quiet : Quiet s.world world) (pending : port.pending = s.port.pending)
      (nextIdentity : port.nextIdentity = s.port.nextIdentity) :
      Stepped s (.ready identity tape) ok { s with port, world }
  | stopped (identity tape ok port world) (inv : port.Inv s.approved world)
      (quiet : Quiet s.world world) (pending : port.pending = s.port.pending)
      (nextIdentity : port.nextIdentity = s.port.nextIdentity) :
      Stepped s (.stop identity tape) ok { s with port, world }
  | cancelled (tape ok port world) (emptied : Emptied s.port s.world (ok, port) world) :
      Stepped s (.cancelPending tape) ok { s with port, world, approved := .none }

/-- **Step.** -/
theorem stepped (h : s.Inv) (op : PortOperation) : Stepped s op (s.perform op).1 (s.step op) := by
  cases op with
  | check candidate tape =>
    have hspec := (ends_check h.port candidate).run tape
    have hperform : s.perform (.check candidate tape) =
        let out := (s.port.check candidate).run handle tape s.world
        (out.1.1, { s with
          port := out.1.2
          world := out.2
          approved := if out.1.1 then some candidate else s.approved }) := rfl
    rw [step, hperform]
    dsimp only at hspec ⊢
    cases hpending : s.port.pending with
    | none =>
      rw [hpending] at hspec
      exact .checked _ _ _ _ _ hpending hspec
    | some pending =>
      rw [hpending] at hspec
      obtain ⟨hout, hworld⟩ := hspec
      rw [hout, hworld]
      exact .occupied _ _ (by simp [hpending])
  | prepare candidate tape =>
    have hspec := (ends_prepare (w := s.world) s.port candidate).run tape
    have hperform : s.perform (.prepare candidate tape) =
        let out := (s.port.prepare candidate).run handle tape s.world
        (out.1.1, { s with port := out.1.2, world := out.2 }) := rfl
    rw [step, hperform]
    dsimp only
    rw [hspec.1]
    exact .prepared _ _ _ _ hspec.2
  | run tape =>
    have hspec := (ends_run h.port).run tape
    have hperform : s.perform (.run tape) =
        let out := Program.run handle s.port.run tape s.world
        (out.1.1.isSome,
          { port := out.1.2, world := out.2, approved := none,
            handed := out.1.1.toList ++ s.handed }) := rfl
    rw [step, hperform]
    dsimp only
    cases hresult : (Program.run handle s.port.run tape s.world).1.1 with
    | none =>
      rw [hresult] at hspec
      exact .runFailed _ _ _ hspec
    | some identity =>
      rw [hresult] at hspec
      exact .started _ _ _ _ hspec
  | ready identity tape =>
    obtain ⟨hinv, hquiet, hpending, hnext⟩ := (ends_ready h.port identity).run tape
    exact .readied _ _ _ _ _ hinv hquiet hpending hnext
  | stop identity tape =>
    obtain ⟨hinv, hquiet, hpending, hnext⟩ := (ends_stop h.port identity).run tape
    exact .stopped _ _ _ _ _ hinv hquiet hpending hnext
  | cancelPending tape =>
    exact .cancelled _ _ _ _ ((ends_cancelPending h.port).run tape)

/-- **Step.**  Every operation keeps the invariant. -/
theorem Inv.step (h : s.Inv) (op : PortOperation) : (s.step op).Inv := by
  have hstepped := stepped h op
  generalize (s.perform op).1 = ok at hstepped
  generalize s.step op = s' at hstepped ⊢
  cases hstepped with
  | occupied => exact h
  | checked candidate tape ok port world none leaves =>
    obtain ⟨hinv, -, -, hnext, -⟩ := leaves
    refine ⟨?_, h.handed, fun identity hidentity => hnext ▸ h.handed_le identity hidentity⟩
    cases ok with
    | true => exact hinv
    | false => exact hinv.of_none _
  | prepared candidate tape ok world later => exact ⟨h.port.later later, h.handed, h.handed_le⟩
  | started tape identity port world started =>
    have hle : ∀ other ∈ s.handed, other < identity := fun other hother =>
      UInt64.lt_of_le_of_lt (h.handed_le other hother) started.identity_lt
    refine ⟨started.inv, List.pairwise_cons.mpr ⟨hle, h.handed⟩, fun other hother => ?_⟩
    rw [started.nextIdentity]
    rcases List.mem_cons.mp hother with rfl | hother
    · exact UInt64.le_refl _
    · exact UInt64.le_of_lt (hle other hother)
  | runFailed tape port world failed =>
    exact ⟨failed.inv, h.handed, fun identity hidentity =>
      failed.nextIdentity ▸ h.handed_le identity hidentity⟩
  | readied identity tape ok port world inv quiet pending nextIdentity =>
    exact ⟨inv, h.handed, fun identity hidentity =>
      nextIdentity ▸ h.handed_le identity hidentity⟩
  | stopped identity tape ok port world inv quiet pending nextIdentity =>
    exact ⟨inv, h.handed, fun identity hidentity =>
      nextIdentity ▸ h.handed_le identity hidentity⟩
  | cancelled tape ok port world emptied =>
    exact ⟨emptied.inv, h.handed, fun identity hidentity =>
      emptied.nextIdentity ▸ h.handed_le identity hidentity⟩

/-! ## What holds after every run -/

/-- What is live is owned by the port. -/
theorem Inv.owned (h : s.Inv) : s.Owned where
  directories dir hdir :=
    List.count_eq_one_of_mem h.port.account.directories (h.port.account.live dir hdir)
  processes child hchild :=
    List.count_eq_one_of_mem h.port.account.children (h.port.account.processes child hchild)
  one := by simpa [entries] using h.port.account.one
  identities := h.handed
  secrets hcollision entry hentry := by
    obtain ⟨candidate, bytes, hsecret, hdigest, ⟨path, hread⟩, hstarted⟩ :=
      h.port.running entry hentry
    have hbytes : .read entry.2.runtime.configPath bytes ∈ s.world.events :=
      hstarted.subset (List.mem_cons_of_mem _ List.mem_cons_self)
    exact ⟨bytes, hstarted, (hcollision _ _ _ _ hbytes hread hdigest) ▸ hsecret⟩

/-- What is left over belongs to the pending slot. -/
theorem Inv.pending_of_leftover (h : s.Inv) (hleft : s.Leftover) :
    ∃ pending, s.port.pending = some pending := by
  cases hpending : s.port.pending with
  | some pending => exact ⟨pending, rfl⟩
  | none =>
    have haccount := h.port.account
    rw [pendingDir, pendingChild, hpending] at haccount
    rcases hleft with ⟨dir, hdir, hnot⟩ | ⟨child, hchild, hnot⟩
    · exact absurd (haccount.live dir hdir) hnot
    · exact absurd (haccount.processes child hchild) hnot

theorem hasPendingCleanup_of {p : WindowsManagedSidecarPort F} {pending : PendingRuntime F}
    (hpending : p.pending = some pending) (hchecked : pending.checked = false) :
    p.hasPendingCleanup = true := by
  simp [hasPendingCleanup, hpending, hchecked]

/-- Events that no run has added hold no start. -/
theorem not_started {w w' : PortWorld} {new : List ChildEvent} {child : ChildHandle}
    {config : List String} (hquiet : Quiet w w') (hnew : w'.events = new ++ w.events) :
    .startedRun child config ∉ new := by
  obtain ⟨others, hothers, hrun⟩ := hquiet
  have hsame : new = others := List.append_cancel_right (hnew.symm.trans hothers)
  intro hmem
  have hfalse := hrun _ (hsame ▸ hmem)
  simp [ChildEvent.isRun] at hfalse

/-- Every operation may be called. -/
theorem Inv.lawful (h : s.Inv) (op : PortOperation) : s.Lawful op := by
  have hinv := h.step op
  obtain ⟨ok, s', hok, hs', hstepped⟩ :
      ∃ ok s', (s.perform op).1 = ok ∧ s.step op = s' ∧ Stepped s op ok s' :=
    ⟨_, _, rfl, rfl, stepped h op⟩
  rw [hs'] at hinv
  constructor
  · rw [hok, hs']
    rintro candidate tape rfl hpending
    cases hstepped with
    | occupied => exact ⟨rfl, rfl⟩
    | checked _ _ _ _ _ none => simp [none] at hpending
  · rw [hs']
    intro new hnew child config hmem
    cases hstepped with
    | started tape identity port world started =>
      obtain ⟨pending, candidate, bytes, hpending, hchecked, happroved, hpassed, hdigest, hevents⟩ :=
        started.slot
      have hsame := List.append_cancel_right (hnew.symm.trans hevents)
      subst hsame
      simp only [List.mem_cons, ChildEvent.startedRun.injEq, reduceCtorEq, List.not_mem_nil,
        or_false] at hmem
      obtain ⟨rfl, rfl⟩ := hmem
      exact ⟨⟨tape, rfl⟩, pending, candidate, bytes, hpending, hchecked, happroved, hpassed,
        hdigest, rfl, rfl⟩
    | occupied => exact absurd hmem (not_started (.refl _) hnew)
    | checked _ _ _ _ _ _ leaves => exact absurd hmem (not_started leaves.2.1 hnew)
    | prepared _ _ _ _ later => exact absurd hmem (not_started later.quiet hnew)
    | runFailed _ _ _ failed => exact absurd hmem (not_started failed.quiet hnew)
    | readied _ _ _ _ _ _ quiet => exact absurd hmem (not_started quiet hnew)
    | stopped _ _ _ _ _ _ quiet => exact absurd hmem (not_started quiet hnew)
    | cancelled _ _ _ _ emptied => exact absurd hmem (not_started emptied.quiet hnew)
  · rw [hs']
    intro hfailed
    cases hstepped with
    | occupied _ _ hsome =>
      simp [FailedCleanup] at hfailed
      simp [hfailed.1] at hsome
    | checked _ _ ok port world none leaves =>
      rw [FailedCleanup, hok, hs'] at hfailed
      obtain ⟨-, rfl, hleft⟩ := hfailed
      obtain ⟨pending, hpending⟩ := hinv.pending_of_leftover hleft
      exact hasPendingCleanup_of hpending (leaves.2.2.2.2 rfl pending hpending)
    | started => simp [FailedCleanup, hok] at hfailed
    | runFailed _ _ _ failed =>
      rw [FailedCleanup, hs'] at hfailed
      obtain ⟨pending, hpending⟩ := hinv.pending_of_leftover hfailed.2
      exact hasPendingCleanup_of hpending (failed.unchecked pending hpending)
    | cancelled _ _ port _ emptied =>
      rw [FailedCleanup, hok] at hfailed
      cases hpending : port.pending with
      | none =>
        have htrue := emptied.emptied.mpr hpending
        simp [hfailed] at htrue
      | some pending => exact hasPendingCleanup_of hpending (emptied.unchecked pending hpending)
    | prepared => exact absurd hfailed id
    | readied => exact absurd hfailed id
    | stopped => exact absurd hfailed id
  · rw [hs']
    intro hcleanup hclean
    cases hstepped with
    | occupied => exact hcleanup
    | prepared => exact hcleanup
    | checked _ _ _ _ _ none => simp [hasPendingCleanup, none] at hcleanup
    | started _ _ _ _ started =>
      obtain ⟨pending, -, -, hpending, hchecked, -⟩ := started.slot
      simp [hasPendingCleanup, hpending, hchecked] at hcleanup
    | runFailed _ _ _ failed =>
      rw [CleanedUp, hs', not_not] at hclean
      obtain ⟨pending, hpending⟩ := hinv.pending_of_leftover hclean
      exact hasPendingCleanup_of hpending (failed.unchecked pending hpending)
    | readied _ _ _ _ _ _ _ pending => rwa [hasPendingCleanup, pending, ← hasPendingCleanup]
    | stopped _ _ _ _ _ _ _ pending => rwa [hasPendingCleanup, pending, ← hasPendingCleanup]
    | cancelled _ _ port _ emptied =>
      rw [CleanedUp, hok] at hclean
      cases hpending : port.pending with
      | none => exact absurd (emptied.emptied.mpr hpending) hclean
      | some pending => exact hasPendingCleanup_of hpending (emptied.unchecked pending hpending)

end PortSession

open PortSession Transition

/-- The transition function of a session. -/
def PortSession.next {F : PortFunctions} (s : PortSession F) (op : PortOperation) :
    Option (PortSession F) :=
  some (s.step op)

/-- **Resources of the port.**  After every sequence of operations with any outcome of their calls:
every directory and every process that is not confirmed gone has exactly one owner, every operation
is lawful, and an outstanding clean-up stays visible through every continuation in which no
cancellation succeeds and no `run` cleans up. -/
theorem port_resources_owned {F : PortFunctions} {ops : List PortOperation} {s : PortSession F}
    (run : Runs PortSession.next Free (PortSession.start F) ops s) :
    s.Owned ∧ (∀ op, s.Lawful op) ∧
      ∀ more s', Runs PortSession.next (fun s op => ¬ s.CleanedUp op) s more s' →
        s.port.hasPendingCleanup = true → s'.port.hasPendingCleanup = true := by
  have keeps : ∀ (s : PortSession F) op t, s.Inv → s.next op = some t → t.Inv := by
    rintro s op t hinv ⟨⟩
    exact hinv.step op
  have hinv : s.Inv := run.invariant _ inv_start fun s op t hinv _ hnext => keeps s op t hinv hnext
  refine ⟨hinv.owned, hinv.lawful, fun more s' rest hcleanup => ?_⟩
  have hboth : s'.Inv ∧ s'.port.hasPendingCleanup = true := by
    refine rest.invariant (fun s => s.Inv ∧ s.port.hasPendingCleanup = true) ⟨hinv, hcleanup⟩ ?_
    rintro s op t ⟨hinv, hcleanup⟩ hclean ⟨⟩
    exact ⟨hinv.step op, (hinv.lawful op).persists hcleanup hclean⟩
  exact hboth.2

/-- Functions without collisions, and a secret in every configuration that is not empty. -/
def exampleFunctions : PortFunctions where
  Digest := List UInt8
  decideDigest := inferInstance
  digest := id
  apiSecretFromConfig bytes :=
    if bytes.isEmpty then none else some (String.ofList (List.replicate 64 '0'))

/-- Every call works, and the file reads back as the candidate of the examples. -/
def workingCalls : Tape PortOutcome := fun _ =>
  ⟨true, some true, some [123, 125], .exited, some true, 0, 0, none⟩

/-- The file cannot be read back, and then nobody knows whether the directory is still there. -/
def brokenCalls : Tape PortOutcome := fun _ =>
  ⟨true, none, none, .exited, some true, 0, 0, none⟩

/-- A candidate is checked and run. -/
theorem port_resources_owned_running :
    let s := ((PortSession.start exampleFunctions).step (.check [123, 125] workingCalls)).step
      (.run workingCalls)
    s.port.running.length = 1 ∧ s.Owned ∧ (∀ op, s.Lawful op) ∧
      ∀ more s', Runs PortSession.next (fun s op => ¬ s.CleanedUp op) s more s' →
        s.port.hasPendingCleanup = true → s'.port.hasPendingCleanup = true :=
  ⟨by decide +kernel, port_resources_owned ((Runs.refl.tail trivial rfl).tail trivial rfl)⟩

/-- **An outstanding clean-up disappears without a cancellation.**  The check of the first candidate
fails, and so does its clean-up; the `run` that comes next fails as well, but cleans up. -/
theorem cleanup_forgotten :
    let first := PortOperation.check [123, 125] brokenCalls
    let s := (PortSession.start exampleFunctions).step first
    (PortSession.start exampleFunctions).FailedCleanup first ∧
      s.port.hasPendingCleanup = true ∧
      (s.perform (.run workingCalls)).1 = false ∧
      (s.step (.run workingCalls)).port.hasPendingCleanup = false :=
  ⟨⟨rfl, by decide +kernel, by decide +kernel⟩, by decide +kernel, by decide +kernel,
    by decide +kernel⟩

end Veyra
