import Veyra.Application.NoLostUpdate

/-!
# Veyra.Application.StoredSelection

What a commit leaves of the selection that is stored: every saved state is
valid and no saved generation is lower than the one before (`Grows`), and only
an activation and the deletion of the active subscription change which
subscription is selected (`Onward`).

What is selected at a generation stays so, at that generation or a later one,
as long as every save is onward (`Onward.stillSelects`).
-/

namespace Veyra

open Check

/-- The generation that is stored. -/
def storedGeneration (stored : Option AppState) : UInt64 :=
  (stored.getD .empty).activeConfigurationGeneration

/-- The saved state is valid, and its generation is not lower. -/
structure Grows (before : Option AppState) (next : AppState) : Prop where
  valid : next.Valid
  generation : storedGeneration before ≤ next.activeConfigurationGeneration

/-- And it selects the same subscription. -/
structure Onward (before : Option AppState) (next : AppState) : Prop extends Grows before next where
  active : next.activeSubscriptionId = (before.getD .empty).activeSubscriptionId

/-- The state file goes on: what is stored stays valid, and no generation is taken back. -/
structure Advances (before after : Option AppState) : Prop where
  valid : (∀ s, before = some s → s.Valid) → ∀ s, after = some s → s.Valid
  generation : storedGeneration before ≤ storedGeneration after

theorem Advances.refl (stored : Option AppState) : Advances stored stored :=
  ⟨id, UInt64.le_refl _⟩

/-- And on. -/
theorem Advances.trans {a b c : Option AppState} (h : Advances a b) (h' : Advances b c) :
    Advances a c :=
  ⟨fun hvalid => h'.valid (h.valid hvalid), UInt64.le_trans h.generation h'.generation⟩

/-- So does a save that grows. -/
theorem Grows.advances {before : Option AppState} {next : AppState} (h : Grows before next) :
    Advances before (some next) := by
  refine ⟨fun _ s hs => ?_, h.generation⟩
  cases hs
  exact h.valid

/-- What is stored selects this subscription, at this generation or a later one. -/
def StillSelects (stored : Option AppState) (id : SubscriptionId) (generation : UInt64) : Prop :=
  ∃ s, stored = some s ∧ s.activeSubscriptionId = some id ∧
    generation ≤ s.activeConfigurationGeneration

/-- What a state selects, and at which generation. -/
def AppState.selection (s : AppState) : Option (SubscriptionId × UInt64) :=
  s.activeSubscriptionId.map (·, s.activeConfigurationGeneration)

/-- A state selects what it names, at its own generation. -/
theorem StillSelects.self {s : AppState} {id : SubscriptionId} {generation : UInt64}
    (h : s.selection = some (id, generation)) : StillSelects (some s) id generation := by
  obtain ⟨active, hactive, hpair⟩ := Option.map_eq_some_iff.mp h
  cases hpair
  exact ⟨s, rfl, hactive, UInt64.le_refl _⟩

/-- What runs is what its state selects. -/
theorem selection_of_project {s : AppState} {p : SelectedRuntimeProjection}
    (h : projectSelectedRuntime s = .ok p) :
    s.selection = some (p.selectedSubscriptionId, p.selectedGeneration) := by
  obtain ⟨-, hactive, hgeneration, -⟩ := projectSelectedRuntime_ok h
  rw [AppState.selection, hactive, hgeneration]
  rfl

/-- **The rule of selections.**  A save that is onward keeps what is selected. -/
theorem Onward.stillSelects {before : Option AppState} {next : AppState} (h : Onward before next)
    {id : SubscriptionId} {generation : UInt64} (hselects : StillSelects before id generation) :
    StillSelects (some next) id generation := by
  obtain ⟨s, rfl, hactive, hgeneration⟩ := hselects
  exact ⟨next, rfl, h.active.trans hactive, UInt64.le_trans hgeneration h.generation⟩

/-! ## The commits -/

section Commits

variable {env : SubscriptionEnv} {s t : AppState}

/-- A state in the same frame, whose generation was raised. -/
theorem onward_of_raise {content : AppState} {condition : Bool} (hvalid : t.Valid)
    (hraised : raiseGeneration condition content = .ok t)
    (hactive : content.activeSubscriptionId = s.activeSubscriptionId)
    (hgeneration : content.activeConfigurationGeneration = s.activeConfigurationGeneration) :
    Onward (some s) t := by
  obtain ⟨hkeeps, hbump, hidle⟩ := raiseGeneration_ok hraised
  refine ⟨⟨hvalid, ?_⟩, ?_⟩
  · change s.activeConfigurationGeneration ≤ _
    rw [← hgeneration]
    cases condition with
    | true => exact UInt64.le_of_lt (hbump rfl)
    | false => exact UInt64.le_of_eq (hidle rfl).symm
  · rw [hkeeps]
    exact hactive

/-- An import selects nothing. -/
theorem onward_commitImport {text : JsonText} {input : ImportCommit} {identity : List UInt8}
    {now : UInt64} {current : Option AppState}
    (h : commitImport text input identity now current = .ok t) :
    Onward current t := by
  obtain ⟨_, -, -, -, -, hreplace, hvalid⟩ := commitImport_cases h
  obtain ⟨replacement, -, rfl, -, -⟩ := applyProviderReplacement_ok hreplace
  exact ⟨⟨hvalid, UInt64.le_refl _⟩, rfl⟩

/-- Nor does an update. -/
theorem onward_commitUpdate {id : String} {snapshot : UpdateSnapshot} {fetched : FetchResult}
    {parsed : Option ParseResult} {now : UInt64} {changed : Bool}
    (h : commitUpdate env.text id snapshot fetched parsed now s = .ok (t, changed)) :
    Onward (some s) t := by
  obtain ⟨content, -, hcontent, hraised, hvalid⟩ := commitUpdate_cases h
  cases updateContent_cases hcontent with
  | kept => exact onward_of_raise hvalid hraised rfl rfl
  | replaced hreplace =>
    obtain ⟨replacement, -, rfl, -, -⟩ := applyProviderReplacement_ok hreplace
    exact onward_of_raise hvalid hraised rfl rfl

/-- Nor does an attempt that failed. -/
theorem onward_commitFailedAttempt {snapshot : UpdateSnapshot} {attemptedAt : UInt64}
    (h : commitFailedAttempt snapshot attemptedAt s = .ok t) : Onward (some s) t := by
  obtain ⟨rfl, hvalid⟩ := commitFailedAttempt_cases h
  exact ⟨⟨hvalid, UInt64.le_refl _⟩, rfl⟩

/-- Nor does an edit. -/
theorem onward_commitEdit {baseline : AppState} {id : String} {edited : Subscription}
    {replaced : Option EditReplacement} {changed : Bool}
    (h : commitEdit env.text baseline id edited replaced s = .ok (t, changed)) :
    Onward (some s) t := by
  obtain ⟨provider, -, -, hcontent, hvalid⟩ := commitEdit_cases h
  cases replaced with
  | none =>
    cases hcontent
    exact ⟨⟨hvalid, UInt64.le_refl _⟩, rfl⟩
  | some replaced =>
    obtain ⟨candidate, hreplace, hraised⟩ := editContent_cases hcontent
    obtain ⟨replacement, -, rfl, -, -⟩ := applyProviderReplacement_ok hreplace
    exact onward_of_raise hvalid hraised rfl rfl

/-- What a prepared document saves over the state that it was prepared for. -/
structure PreparedDocumentSave.Sound (p : PreparedDocumentSave) : Prop where
  onward : Onward (some p.before) p.next
  unchanged : p.stateChanged = false → p.next = p.before

/-- Nor does a saved document. -/
theorem sound_documentSaveOn {input : DocumentSaveInput} {parsed : ParseResult}
    {prepared : PreparedDocumentSave} (h : documentSaveOn env input parsed s = .ok prepared) :
    prepared.Sound := by
  obtain ⟨sub, -, h⟩ := ok_bind.mp h
  obtain ⟨existing, -, h⟩ := ok_bind.mp h
  obtain ⟨-, h⟩ := ok_seq.mp h
  obtain ⟨p, -, h⟩ := ok_bind.mp h
  obtain ⟨⟨candidate, nodesChanged⟩, hreplace, h⟩ := ok_bind.mp h
  obtain ⟨raised, hraised, h⟩ := ok_bind.mp h
  obtain ⟨valid, hvalidated, h⟩ := ok_bind.mp h
  cases h
  obtain ⟨hvalid, rfl⟩ := validated_eq_ok.mp (mapError_eq_ok.mp hvalidated)
  obtain ⟨replacement, -, rfl, -, -⟩ := applyProviderReplacement_ok (mapError_eq_ok.mp hreplace)
  refine ⟨onward_of_raise hvalid (mapError_eq_ok.mp hraised) rfl rfl, fun hsame => ?_⟩
  exact (not_not.mp (of_decide_eq_false hsame)).symm

/-- The selected subscription is only deleted if nothing runs. -/
theorem stopped_of_commitDelete {id : String} {stopped : Bool} {sub : Subscription}
    (h : commitDelete id stopped s = .ok t) (hsub : s.subscription? id = some sub)
    (hactive : s.activeSubscriptionId = some sub.id) : stopped = true := by
  obtain ⟨-, h⟩ := ok_seq.mp h
  obtain ⟨found, hfound, h⟩ := ok_bind.mp h
  obtain ⟨hstopped, -⟩ := ok_seq.mp h
  rw [okOr_eq_ok, hsub] at hfound
  cases hfound
  simpa [hactive] using hstopped

/-- A deletion does, but only if nothing runs. -/
theorem grows_commitDelete {id : String} {stopped : Bool} (h : commitDelete id stopped s = .ok t) :
    Grows (some s) t ∧ (stopped = false → Onward (some s) t) := by
  obtain ⟨sub, raised, hsub, -, hraised, ht, hvalid⟩ := commitDelete_cases h
  obtain ⟨hkeeps, hbump, hidle⟩ := raiseGeneration_ok hraised
  have hgeneration : s.activeConfigurationGeneration ≤ raised.activeConfigurationGeneration := by
    by_cases hactive : s.activeSubscriptionId = some sub.id
    · exact UInt64.le_of_lt (hbump (decide_eq_true hactive))
    · exact UInt64.le_of_eq (hidle (decide_eq_false hactive)).symm
  by_cases hactive : s.activeSubscriptionId = some sub.id
  · rw [if_pos hactive] at ht
    refine ⟨⟨hvalid, ?_⟩, fun hrunning => ?_⟩
    · rw [ht]
      exact hgeneration
    · rw [stopped_of_commitDelete h hsub hactive] at hrunning
      cases hrunning
  · rw [if_neg hactive] at ht
    have hgrows : Grows (some s) t := by
      refine ⟨hvalid, ?_⟩
      rw [ht]
      exact hgeneration
    refine ⟨hgrows, fun _ => ⟨hgrows, ?_⟩⟩
    rw [ht, hkeeps]
    rfl

/-- Nor does a mutation of the routing. -/
theorem onward_mutateOn {env : ProxyRouting.Env} {revisions observed : ProxyRouting.RevisionState}
    {request : ProxyRouting.MutateRequest} {current : Option AppState} {next : AppState}
    {outcome : ProxyRouting.MutationOutcome}
    (hobserved : revisions.observe (.of (current.getD .empty)) = .ok observed)
    (h : ProxyRouting.mutateOn env observed request (current.getD .empty) =
      .ok (.save next outcome)) : Onward current next := by
  obtain ⟨hvalid, hedits, -, -, hgeneration, -⟩ := ProxyRouting.mutateState_save
    (ProxyRouting.RevisionState.observe_ok hobserved).1 (ProxyRouting.mutateOn_save h).2
  refine ⟨⟨hvalid, UInt64.le_iff_toNat_le.mpr ?_⟩, hedits.keepsContent.active⟩
  rw [storedGeneration, hgeneration]
  omega

/-- An activation selects the subscription of its candidate. -/
theorem grows_planActivation {id : String} {force : Bool} {generation : Option UInt64}
    {plan : ActivationPlan} (h : planActivation id force generation s = .ok plan) :
    Grows (some s) plan.candidate := by
  obtain ⟨-, hcandidate, hprojection, -⟩ := planActivation_ok h
  refine ⟨(projectSelectedRuntime_ok hprojection).1, ?_⟩
  rw [activationCandidate] at hcandidate
  split at hcandidate
  · cases hcandidate
    exact UInt64.le_refl _
  · split at hcandidate
    · next hroom =>
      rw [← Except.ok.inj hcandidate]
      refine UInt64.le_iff_toNat_le.mpr ?_
      have hmax : maxSafeInteger.toNat = 9007199254740991 := rfl
      change s.activeConfigurationGeneration.toNat ≤ _
      rw [UInt64.toNat_add]
      change _ ≤ (s.activeConfigurationGeneration.toNat + 1) % 2 ^ 64
      omega
    · cases hcandidate

end Commits

/-! ## What is decided under the gate -/

namespace SubscriptionManager

variable {env : SubscriptionEnv} {w : Answers} {current : Option AppState} {next : AppState}

theorem onward_decideImport {input : ImportCommit} {sub : Option Subscription}
    (h : decideImport env input w current = .ok (some next, sub)) : Onward current next := by
  obtain ⟨candidate, identity, now, heq, hcommit⟩ := decideImport_ok h
  cases heq
  exact onward_commitImport hcommit

theorem onward_decideUpdate {id : String} {snapshot : UpdateSnapshot} {fetched : FetchResult}
    {parsed : Option ParseResult} {attemptedAt : Option UInt64} {x : Option Subscription × Bool}
    (h : decideUpdate env id snapshot fetched parsed attemptedAt w current = .ok (some next, x)) :
    Onward current next := by
  obtain ⟨cur, candidate, now, changed, rfl, heq, hcommit⟩ := decideUpdate_ok h
  cases heq
  exact onward_commitUpdate hcommit

theorem onward_decideFailedAttempt {snapshot : UpdateSnapshot} {attemptedAt : UInt64} {x : Unit}
    (h : decideFailedAttempt snapshot attemptedAt w current = .ok (some next, x)) :
    Onward current next := by
  obtain ⟨cur, candidate, rfl, heq, hcommit⟩ := decideFailedAttempt_ok h
  cases heq
  exact onward_commitFailedAttempt hcommit

theorem onward_decideEdit {baseline : AppState} {id : String} {edited : Subscription}
    {replacement : Option EditReplacement} {x : Option Subscription × Bool}
    (h : decideEdit env baseline id edited replacement w current = .ok (some next, x)) :
    Onward current next := by
  obtain ⟨cur, candidate, changed, rfl, heq, hcommit⟩ := decideEdit_ok h
  cases heq
  exact onward_commitEdit hcommit

theorem grows_decideDelete {id x : String} {stopped : Bool}
    (h : decideDelete id stopped w current = .ok (some next, x)) :
    Grows current next ∧ (stopped = false → Onward current next) := by
  obtain ⟨cur, candidate, rfl, heq, hcommit⟩ := decideDelete_ok h
  cases heq
  exact grows_commitDelete hcommit

/-- A document is saved over the state that it was prepared for. -/
theorem decideDocument_cases {prepared : PreparedDocumentSave} {save : Option AppState}
    {x : Option Subscription × String} (h : decideDocument prepared w current = .ok (save, x)) :
    current = some prepared.before ∧ (∀ next, save = some next → next = prepared.next) ∧
      (save = none → prepared.stateChanged = false) := by
  obtain ⟨cur, rfl, hcommit⟩ := decideDocument_ok h
  obtain ⟨hsame, hsave⟩ := ok_seq.mp hcommit
  have hsame : cur = prepared.before := by simpa using hsame
  subst hsame
  cases hchanged : prepared.stateChanged <;> rw [hchanged] at hsave <;> cases hsave
  · exact ⟨rfl, nofun, fun _ => rfl⟩
  · exact ⟨rfl, fun next hnext => (Option.some.inj hnext).symm, nofun⟩

end SubscriptionManager

/-- An activation goes on once its candidate is stored. -/
theorem decideActivation_cases {plan : ActivationPlan} {w : Answers}
    {current save : Option AppState} {goesOn : Bool}
    (h : decideActivation plan w current = .ok (save, goesOn)) :
    current = some plan.expected ∧
      (∀ next, save = some next → next = plan.candidate ∧ goesOn = true) ∧
      (save = none → goesOn = true → plan.candidate = plan.expected) := by
  obtain ⟨cur, hcur, h⟩ := ok_bind.mp h
  obtain ⟨committed, hcommitted, hpair⟩ := ok_bind.mp h
  obtain ⟨hsame, hsave⟩ := ok_seq.mp hcommitted
  have hsame : cur = plan.expected := by simpa using hsame
  subst hsame
  refine ⟨okOr_eq_ok.mp hcur, ?_⟩
  by_cases hclosing : w.closing
  · rw [if_pos hclosing] at hpair
    cases hpair
    exact ⟨nofun, nofun⟩
  · rw [if_neg hclosing] at hpair
    cases hpair
    by_cases hchanged : plan.candidate ≠ plan.expected
    · rw [if_pos hchanged] at hsave
      cases hsave
      exact ⟨fun next hnext => ⟨(Option.some.inj hnext).symm, rfl⟩, nofun⟩
    · rw [if_neg hchanged] at hsave
      cases hsave
      exact ⟨nofun, fun _ _ => not_not.mp hchanged⟩

end Veyra
