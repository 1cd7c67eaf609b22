import Veyra.Application.HttpMetadata
import Veyra.Application.SubscriptionResponses
import Veyra.Lib.Sorted

/-!
# Veyra.Application.DueTimes

When a subscription is due for an update.  Two deadlines say so, and the later one counts: one is
computed from the stored attempts with the interval of now (`persisted_deadline`), the other is
kept by the process from its last attempt, with the interval of then (`process_deadlines`).

The stored attempts of a subscription count through `persistedBase` alone.  Each commit either
stamps one subscription (`Stamped`) or none (`Unstamped`).
-/

namespace Veyra

open Check

variable {env : SubscriptionEnv} {s t : AppState}

/-! ## The deadlines -/

/-- `process_deadlines`: the latest entry for an id counts. -/
abbrev ProcessDeadlines := List (String × UInt64)

/-- The deadline that the process keeps for a subscription. -/
def ProcessDeadlines.deadline (deadlines : ProcessDeadlines) (id : String) : UInt64 :=
  (deadlines.lookup id).getD 0

/-- An attempt and an interval in minutes later. -/
def afterInterval (time : UInt64) (minutes : UInt32) : UInt64 :=
  saturatingAdd time (saturatingMul minutes.toUInt64 60000)

/-- `remember_process_deadline`. -/
def rememberProcessDeadline (snapshot : UpdateSnapshot) (attemptedAt : UInt64)
    (deadlines : ProcessDeadlines) : ProcessDeadlines :=
  match snapshot.updatePolicy.intervalMinutes with
  | none => deadlines
  | some minutes => (snapshot.subscriptionId.val, afterInterval attemptedAt minutes) :: deadlines

/-- The filter of `due_subscription_ids`. -/
def Subscription.isDue (deadlines : ProcessDeadlines) (now : UInt64) (sub : Subscription) : Bool :=
  sub.source.isRemote && sub.updatePolicy.allowAutoUpdate &&
    sub.updatePolicy.intervalMinutes.any fun minutes =>
      max (deadlines.deadline sub.id.val) (sub.persistedDeadline minutes) ≤ now

/-- `due_subscription_ids`, on the state that the gate and the store let it load. -/
def dueSubscriptionIds (now : UInt64)
    (loaded : Except SubscriptionOperationError (Option AppState)) (deadlines : ProcessDeadlines) :
    Except SubscriptionOperationError (List String) := do
  reject (now > maxSafeInteger) .invalidInput
  let state ← loaded
  match state with
  | none => .ok []
  | some s =>
    .ok (Sorted.sortBy id ((s.subscriptions.filter (·.isDue deadlines now)).map (·.id.val)))

/-- An id is listed if its subscription is due. -/
theorem mem_dueSubscriptionIds {now : UInt64} {deadlines : ProcessDeadlines} {ids : List String}
    {id : String} (h : dueSubscriptionIds now (.ok (some s)) deadlines = .ok ids) :
    id ∈ ids ↔ ∃ sub ∈ s.subscriptions, sub.isDue deadlines now = true ∧ sub.id.val = id := by
  obtain ⟨-, h⟩ := ok_seq.mp h
  cases h
  simp only [Sorted.mem_sortBy, List.mem_map, List.mem_filter, and_assoc]

/-! ## Times that saturate -/

/-- A sum stops at the last time there is. -/
theorem saturatingAdd_toNat (a b : UInt64) :
    (saturatingAdd a b).toNat = min (a.toNat + b.toNat) (2 ^ 64 - 1) := by
  rw [saturatingAdd]
  by_cases h : a.toNat + b.toNat < 2 ^ 64
  · rw [if_pos h, UInt64.toNat_add]
    omega
  · rw [if_neg h]
    have htop : (UInt64.ofNat (2 ^ 64 - 1)).toNat = 2 ^ 64 - 1 := rfl
    omega

/-- An interval in milliseconds does not overflow. -/
theorem millis_toNat (minutes : UInt32) :
    (saturatingMul minutes.toUInt64 60000).toNat = minutes.toNat * 60000 := by
  have hminutes : minutes.toUInt64.toNat = minutes.toNat := UInt32.toNat_toUInt64 minutes
  have hmillis : (60000 : UInt64).toNat = 60000 := rfl
  have hlt : minutes.toNat < 2 ^ 32 := minutes.toNat_lt
  rw [saturatingMul, if_pos (by rw [hminutes, hmillis]; omega), UInt64.toNat_mul, hminutes, hmillis]
  omega

/-- The time after an interval, which stops at the last one. -/
theorem afterInterval_toNat (time : UInt64) (minutes : UInt32) :
    (afterInterval time minutes).toNat = min (time.toNat + minutes.toNat * 60000) (2 ^ 64 - 1) := by
  rw [afterInterval, saturatingAdd_toNat, millis_toNat]

/-- A later attempt or a longer interval never makes a deadline earlier. -/
theorem afterInterval_mono {time time' : UInt64} {minutes minutes' : UInt32} (ht : time ≤ time')
    (hm : minutes ≤ minutes') : afterInterval time minutes ≤ afterInterval time' minutes' := by
  rw [UInt64.le_iff_toNat_le, afterInterval_toNat, afterInterval_toNat]
  have ht := UInt64.le_iff_toNat_le.mp ht
  have hm := UInt32.le_iff_toNat_le.mp hm
  omega

/-! ## What the process remembers -/

theorem deadline_cons_self (deadlines : ProcessDeadlines) (id : String) (time : UInt64) :
    ProcessDeadlines.deadline ((id, time) :: deadlines) id = time := by
  simp [ProcessDeadlines.deadline]

/-- A deadline is one of its subscription alone. -/
theorem deadline_cons_of_ne {deadlines : ProcessDeadlines} {id other : String} {time : UInt64}
    (h : other ≠ id) :
    ProcessDeadlines.deadline ((id, time) :: deadlines) other = deadlines.deadline other := by
  rw [ProcessDeadlines.deadline, List.lookup_cons, beq_eq_false_iff_ne.mpr h]
  rfl

/-- Remembering a deadline leaves the others. -/
theorem deadline_remember_of_ne {snapshot : UpdateSnapshot} {attemptedAt : UInt64}
    {deadlines : ProcessDeadlines} {other : String} (h : other ≠ snapshot.subscriptionId.val) :
    (rememberProcessDeadline snapshot attemptedAt deadlines).deadline other =
      deadlines.deadline other := by
  rw [rememberProcessDeadline]
  split
  · rfl
  · exact deadline_cons_of_ne h

/-- The deadline is one interval after the attempt. -/
theorem deadline_remember_some {snapshot : UpdateSnapshot} {attemptedAt : UInt64}
    {deadlines : ProcessDeadlines} {minutes : UInt32}
    (h : snapshot.updatePolicy.intervalMinutes = some minutes) :
    (rememberProcessDeadline snapshot attemptedAt deadlines).deadline snapshot.subscriptionId.val =
      afterInterval attemptedAt minutes := by
  rw [rememberProcessDeadline, h]
  exact deadline_cons_self _ _ _

/-- Without an interval no deadline is remembered. -/
theorem remember_none {snapshot : UpdateSnapshot} {attemptedAt : UInt64}
    {deadlines : ProcessDeadlines} (h : snapshot.updatePolicy.intervalMinutes = none) :
    rememberProcessDeadline snapshot attemptedAt deadlines = deadlines := by
  rw [rememberProcessDeadline, h]

/-! ## What a commit does to the stored attempts -/

/-- The last stored attempt of the subscription with an id. -/
def AppState.base? (s : AppState) (id : String) : Option UInt64 :=
  (s.subscription? id).map (·.persistedBase)

/-- The stored attempt depends on the subscriptions alone. -/
theorem base?_congr (h : t.subscriptions = s.subscriptions) (id : String) :
    t.base? id = s.base? id := by
  rw [AppState.base?, AppState.base?, AppState.subscription?, AppState.subscription?, h]

/-- A modified subscription is found under its id, and the others as before. -/
theorem subscription?_modifySubscription {id : String} {f : Subscription → Subscription}
    (hf : ∀ sub : Subscription, sub.id.val = id → (f sub).id.val = id) (other : String) :
    (s.modifySubscription id f).subscription? other =
      if other = id then (s.subscription? id).map f else s.subscription? other := by
  rw [AppState.subscription?, AppState.subscription?, AppState.subscription?,
    AppState.modifySubscription]
  dsimp only
  induction s.subscriptions with
  | nil => simp [modifyFirst]
  | cons sub subs ih =>
    rw [modifyFirst]
    by_cases hsub : sub.id.val = id
    · have hchanged := hf sub hsub
      by_cases hother : other = id
      · simp [hsub, hother, hchanged]
      · simp [hsub, hother, hchanged, Ne.symm hother]
    · by_cases hother : sub.id.val = other
      · have hne : ¬other = id := hother ▸ hsub
        simp [hother, hne]
      · simp only [hsub, hother, decide_false, Bool.false_eq_true, if_false, List.find?_cons]
        exact ih

/-- A change of one subscription changes its last attempt alone. -/
theorem base?_modifySubscription {id : String} {f : Subscription → Subscription}
    (hf : ∀ sub : Subscription, sub.id.val = id → (f sub).id.val = id) (other : String) :
    (s.modifySubscription id f).base? other =
      if other = id then (s.subscription? id).map (fun sub => (f sub).persistedBase)
      else s.base? other := by
  rw [AppState.base?, subscription?_modifySubscription hf]
  by_cases hother : other = id
  · rw [if_pos hother, if_pos hother, Option.map_map]
    rfl
  · rw [if_neg hother, if_neg hother]
    rfl

/-- A replacement leaves the stored attempts. -/
theorem base?_replacement {text : JsonText} {p : ProviderId} {parsed : ParseResult}
    {changed : Bool} (h : applyProviderReplacement text s p parsed = .ok (t, changed))
    (id : String) : t.base? id = s.base? id := by
  obtain ⟨replacement, -, rfl, -, -⟩ := applyProviderReplacement_ok h
  exact base?_congr rfl id

/-- So does raising the generation. -/
theorem base?_raise {condition : Bool} (h : raiseGeneration condition s = .ok t) (id : String) :
    t.base? id = s.base? id := by
  obtain ⟨hkeeps, -, -⟩ := raiseGeneration_ok h
  exact base?_congr (by rw [hkeeps]) id

theorem max_toNat (a b : UInt64) : (max a b).toNat = max a.toNat b.toNat := by
  change (if a ≤ b then b else a : UInt64).toNat = _
  split
  · next h =>
    have h := UInt64.le_iff_toNat_le.mp h
    omega
  · next h =>
    have h := mt UInt64.le_iff_toNat_le.mpr h
    omega

/-- A success is the last attempt. -/
theorem persistedBase_succeededAt (now : UInt64) (sub : Subscription) :
    (sub.succeededAt now).persistedBase = now := by
  rw [← UInt64.toNat_inj]
  exact (max_toNat now now).trans (Nat.max_self _)

/-- Of two deadlines the later one counts. -/
theorem isDue_iff {sub : Subscription} {deadlines : ProcessDeadlines} {now : UInt64}
    {minutes : UInt32} (hminutes : sub.updatePolicy.intervalMinutes = some minutes) :
    sub.isDue deadlines now = true ↔
      sub.source.isRemote = true ∧ sub.updatePolicy.allowAutoUpdate = true ∧
        deadlines.deadline sub.id.val ≤ now ∧ sub.persistedDeadline minutes ≤ now := by
  rw [Subscription.isDue, hminutes, Option.any_some, Bool.and_eq_true, Bool.and_eq_true,
    decide_eq_true_eq, UInt64.le_iff_toNat_le, max_toNat, Nat.max_le, ← UInt64.le_iff_toNat_le,
    ← UInt64.le_iff_toNat_le, and_assoc]

/-- A change that keeps the last attempt. -/
theorem base?_modifySubscription_keeps {id : String} {f : Subscription → Subscription}
    (hf : ∀ sub : Subscription, (f sub).id = sub.id ∧ (f sub).persistedBase = sub.persistedBase)
    (other : String) : (s.modifySubscription id f).base? other = s.base? other := by
  rw [base?_modifySubscription fun sub hid => by rw [(hf sub).1, hid]]
  split
  · next hother => simp only [(hf _).2, hother, AppState.base?]
  · rfl

/-- One subscription was attempted at a time, and the others keep their last attempts. -/
structure Stamped (id : String) (now : UInt64) (s t : AppState) : Prop where
  valid : t.Valid
  others : ∀ other, other ≠ id → t.base? other = s.base? other
  own : ∀ after, t.base? id = some after → now ≤ after ∧
    (after ≤ now ∨ ∃ before, s.base? id = some before ∧ after ≤ before)

/-- No last attempt is new. -/
structure Unstamped (s t : AppState) : Prop where
  valid : t.Valid
  kept : ∀ id base, t.base? id = some base → s.base? id = some base

/-- Where the subscriptions stay, no attempt is stored. -/
theorem unstamped_of_eq (ht : t.Valid) (h : t.subscriptions = s.subscriptions) : Unstamped s t :=
  ⟨ht, fun id _ hbase => (base?_congr h id).symm.trans hbase⟩

/-- New content leaves the stored attempts. -/
theorem base?_updateContent {id : String} {snapshot : UpdateSnapshot} {fetched : FetchResult}
    {parsed : Option ParseResult} {changed : Bool}
    (h : updateContent env.text id snapshot fetched parsed s = .ok (t, changed))
    (other : String) : t.base? other = s.base? other := by
  cases updateContent_cases h with
  | replaced hreplace _ _ =>
    rw [← base?_replacement hreplace other]
    apply base?_modifySubscription_keeps
    exact fun _ => ⟨rfl, rfl⟩
  | kept =>
    apply base?_modifySubscription_keeps
    exact fun _ => ⟨rfl, rfl⟩

/-- The stamp of a success. -/
theorem base?_succeededAt {id : String} {now : UInt64} {f : Subscription → Subscription}
    (hf : ∀ sub : Subscription, (f sub).id = sub.id) (other : String) :
    (s.modifySubscription id fun sub => (f sub).succeededAt now).base? other =
      if other = id then (s.base? id).map fun _ => now else s.base? other := by
  rw [base?_modifySubscription fun sub hid => by rw [Subscription.succeededAt, hf, hid]]
  simp only [persistedBase_succeededAt, AppState.base?, Option.map_map, Function.comp_def]

/-- An attempt is stored for one subscription, and for no other one. -/
theorem stamped_of_eq {id : String} {now : UInt64} (ht : t.Valid)
    (h : ∀ other, t.base? other = if other = id then (s.base? id).map fun _ => now
      else s.base? other) : Stamped id now s t where
  valid := ht
  others other hother := by rw [h, if_neg hother]
  own after hafter := by
    rw [h, if_pos rfl] at hafter
    obtain ⟨before, -, rfl⟩ := Option.map_eq_some_iff.mp hafter
    exact ⟨UInt64.le_refl _, .inl (UInt64.le_refl _)⟩

/-- An update stores its attempt. -/
theorem stamped_commitUpdate {id : String} {snapshot : UpdateSnapshot} {fetched : FetchResult}
    {parsed : Option ParseResult} {now : UInt64} {changed : Bool}
    (h : commitUpdate env.text id snapshot fetched parsed now s = .ok (t, changed)) :
    Stamped id now s t := by
  obtain ⟨content, -, hcontent, hraised, hvalid⟩ := commitUpdate_cases h
  apply stamped_of_eq hvalid
  intro other
  rw [base?_raise hraised, ← base?_updateContent hcontent other, ← base?_updateContent hcontent id]
  exact base?_succeededAt (f := fun sub => sub) (fun _ => rfl) other

/-- So does one that failed. -/
theorem stamped_failedAttempt {snapshot : UpdateSnapshot} {attemptedAt : UInt64}
    (h : commitFailedAttempt snapshot attemptedAt s = .ok t) :
    Stamped snapshot.subscriptionId.val attemptedAt s t := by
  obtain ⟨rfl, hvalid⟩ := commitFailedAttempt_cases h
  have hbase := @base?_modifySubscription s snapshot.subscriptionId.val
    (Subscription.attemptedAt attemptedAt) fun _ hid => hid
  refine ⟨hvalid, fun other hother => by rw [hbase, if_neg hother], fun after hafter => ?_⟩
  rw [hbase, if_pos rfl] at hafter
  obtain ⟨sub, hsub, rfl⟩ := Option.map_eq_some_iff.mp hafter
  have hbefore : s.base? snapshot.subscriptionId.val = some sub.persistedBase := by
    rw [AppState.base?, hsub]
    rfl
  have hafter : (sub.attemptedAt attemptedAt).persistedBase.toNat =
      max attemptedAt.toNat (sub.lastSuccessAtMs.getD 0).toNat := max_toNat _ _
  have hold : sub.persistedBase.toNat =
      max (sub.lastAttemptAtMs.getD 0).toNat (sub.lastSuccessAtMs.getD 0).toNat := max_toNat _ _
  refine ⟨UInt64.le_iff_toNat_le.mpr (by omega), ?_⟩
  by_cases hle : (sub.lastSuccessAtMs.getD 0).toNat ≤ attemptedAt.toNat
  · exact .inl (UInt64.le_iff_toNat_le.mpr (by omega))
  · exact .inr ⟨_, hbefore, UInt64.le_iff_toNat_le.mpr (by omega)⟩

/-- An edited subscription keeps its id and its last attempt. -/
theorem prepareEdit_keeps {input : EditSubscription} {edited : Subscription} {urlChanged : Bool}
    (h : prepareEdit env input s = .ok (edited, urlChanged)) :
    ∃ old, s.subscription? input.id = some old ∧ edited.id = old.id ∧
      edited.persistedBase = old.persistedBase := by
  obtain ⟨old, hold, h⟩ := ok_bind.mp h
  obtain ⟨name, -, h⟩ := ok_bind.mp h
  obtain ⟨description, -, h⟩ := ok_bind.mp h
  refine ⟨old, okOr_eq_ok.mp hold, ?_⟩
  split at h
  · obtain ⟨-, h⟩ := ok_seq.mp h
    cases h
    exact ⟨rfl, rfl⟩
  · obtain ⟨-, h⟩ := ok_seq.mp h
    obtain ⟨remote, -, h⟩ := ok_bind.mp h
    obtain ⟨patched, -, h⟩ := ok_bind.mp h
    obtain ⟨policy, -, h⟩ := ok_bind.mp h
    cases h
    exact ⟨rfl, rfl⟩

/-- An edit on its own stores no attempt. -/
theorem base?_editCandidate {input : EditSubscription} {edited : Subscription} {urlChanged : Bool}
    {p : ProviderId} (h : prepareEdit env input s = .ok (edited, urlChanged)) (other : String) :
    (editCandidate input.id edited p s).base? other = s.base? other := by
  obtain ⟨old, hold, hid, hbase⟩ := prepareEdit_keeps h
  have hsubscriptions : (editCandidate input.id edited p s).subscriptions =
      (s.modifySubscription input.id fun _ => edited).subscriptions := rfl
  have hedited : ∀ sub : Subscription, sub.id.val = input.id → edited.id.val = input.id :=
    fun _ _ => by rw [hid, (subscription?_found hold).2]
  rw [base?_congr hsubscriptions, base?_modifySubscription hedited]
  split
  · next hother =>
    rw [hother, AppState.base?, hold]
    exact congrArg some hbase
  · rfl

/-- An edit without a new URL attempts nothing. -/
theorem unstamped_commitEdit {input : EditSubscription} {edited : Subscription}
    {urlChanged changed : Bool} {baseline : AppState}
    (hprepared : prepareEdit env input baseline = .ok (edited, urlChanged))
    (h : commitEdit env.text baseline input.id edited none s = .ok (t, changed)) :
    Unstamped s t := by
  obtain ⟨provider, rfl, -, hcontent, hvalid⟩ := commitEdit_cases h
  cases hcontent
  exact ⟨hvalid, fun id base hbase => (base?_editCandidate hprepared id).symm.trans hbase⟩

/-- An edit that fetched stores its attempt. -/
theorem stamped_commitEdit {input : EditSubscription} {edited : Subscription}
    {urlChanged changed : Bool} {baseline : AppState} {replacement : EditReplacement}
    (hprepared : prepareEdit env input baseline = .ok (edited, urlChanged))
    (h : commitEdit env.text baseline input.id edited (some replacement) s = .ok (t, changed)) :
    Stamped input.id replacement.now s t := by
  obtain ⟨provider, rfl, -, hcontent, hvalid⟩ := commitEdit_cases h
  obtain ⟨candidate, hreplace, hraised⟩ := editContent_cases hcontent
  have hcandidate : ∀ other, candidate.base? other = s.base? other := fun other => by
    rw [base?_replacement hreplace, base?_editCandidate hprepared]
  apply stamped_of_eq hvalid
  intro other
  rw [base?_raise hraised, ← hcandidate other, ← hcandidate input.id]
  apply base?_succeededAt
  exact fun _ => rfl

/-- An import stores its attempt. -/
theorem stamped_commitImport {input : ImportCommit} {identity : List UInt8} {now : UInt64}
    {current : Option AppState} (h : commitImport env.text input identity now current = .ok t) :
    Stamped (identityOf "sub" identity) now (current.getD .empty) t := by
  have hsubscriptions := commitImport_subscriptions h
  obtain ⟨_, -, hfresh, -, -, -, hvalid⟩ := commitImport_cases h
  have hbase : ∀ other, t.base? other =
      (((current.getD .empty).subscription? other).or
        (if identityOf "sub" identity = other then
          some (importedSubscription input identity now) else none)).map (·.persistedBase) := by
    intro other
    rw [AppState.base?, AppState.subscription?, AppState.subscription?, hsubscriptions,
      List.find?_append, List.find?_singleton]
    by_cases hother : identityOf "sub" identity = other
    · simp [importedSubscription, hother]
    · simp [importedSubscription, hother]
  refine ⟨hvalid, fun other hother => ?_, fun after hafter => ?_⟩
  · rw [hbase, if_neg (Ne.symm hother), Option.or_none]
    rfl
  · have hnew : (current.getD .empty).subscription? (identityOf "sub" identity) = none := by
      exact List.find?_eq_none.mpr (by simpa using hfresh)
    rw [hbase, hnew, if_pos rfl] at hafter
    have hstamp : (importedSubscription input identity now).persistedBase = after :=
      Option.some.inj hafter
    have himported := persistedBase_succeededAt now (importedSubscription input identity now)
    have hnow : now = after := himported.symm.trans hstamp
    exact hnow ▸ ⟨UInt64.le_refl _, .inl (UInt64.le_refl _)⟩

/-- A document save keeps every last attempt. -/
theorem unstamped_document {worker : Option DocumentErrorCode} {input : DocumentSaveInput}
    {prepared : PreparedDocumentSave} (h : prepareDocumentSave env worker input s = .ok prepared) :
    Unstamped s prepared.next := by
  obtain ⟨_, _, existing, _, _, _, _, -, -, -, -, -, hreplace, hraised, hvalid, rfl⟩ :=
    prepareDocumentSave_cases h
  refine ⟨hvalid, fun id base hbase => ?_⟩
  rw [base?_raise hraised, base?_replacement hreplace] at hbase
  rw [← hbase]
  symm
  apply base?_modifySubscription_keeps
  exact fun _ => ⟨rfl, rfl⟩

/-- A deletion stores no attempt. -/
theorem unstamped_delete {id : String} {stopped : Bool} (h : commitDelete id stopped s = .ok t) :
    Unstamped s t := by
  obtain ⟨sub, raised, -, -, hraised, ht, hvalid⟩ := commitDelete_cases h
  have hsame : t.subscriptions = raised.subscriptions := by
    rw [ht]
    split <;> rfl
  refine ⟨hvalid, fun other base hbase => ?_⟩
  rw [base?_congr hsame, base?_raise hraised, AppState.base?, AppState.subscription?,
    AppState.without, List.find?_filter] at hbase
  obtain ⟨found, hfound, hbase⟩ := Option.map_eq_some_iff.mp hbase
  obtain ⟨hid, hother⟩ : found.id ≠ sub.id ∧ found.id.val = other := by
    simpa using List.find?_some hfound
  have hpred : (fun a : Subscription => decide (decide (a.id ≠ sub.id) = true ∧
      decide (a.id.val = other) = true)) = fun a => decide (a.id.val = other) := by
    funext a
    have hne : a.id.val = other → a.id ≠ sub.id := by
      intro ha heq
      exact hid (SubscriptionId.ext_val ((hother.trans ha.symm).trans (congrArg _ heq)))
    by_cases ha : a.id.val = other
    · simp [ha, hne ha]
    · simp [ha]
  rw [hpred] at hfound
  rw [AppState.base?, AppState.subscription?, hfound]
  exact congrArg some hbase

end Veyra
