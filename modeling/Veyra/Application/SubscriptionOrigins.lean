import Veyra.Application.Generation

/-!
# Veyra.Application.SubscriptionOrigins

Where the subscriptions of a saved state come from: each was imported, put in
place by an edit, or was there before and at most received new content.
-/

namespace Veyra

open Check

variable {env : SubscriptionEnv} {s t u : AppState}

/-! ## New content -/

/-- What new content and new time stamps keep of a subscription.  An interval is adopted
only while automatic updates are on. -/
structure Subscription.Refreshed (old new : Subscription) : Prop where
  id : new.id = old.id
  name : new.name = old.name
  source : new.source = old.source
  allowAutoUpdate : new.updatePolicy.allowAutoUpdate = old.updatePolicy.allowAutoUpdate
  intervalMinutes : old.updatePolicy.allowAutoUpdate = false →
    new.updatePolicy.intervalMinutes = old.updatePolicy.intervalMinutes

theorem Subscription.Refreshed.refl (sub : Subscription) : sub.Refreshed sub :=
  ⟨rfl, rfl, rfl, rfl, fun _ => rfl⟩

/-- Refreshing twice is refreshing. -/
theorem Subscription.Refreshed.trans {a b c : Subscription} (h : a.Refreshed b)
    (h' : b.Refreshed c) : a.Refreshed c where
  id := h'.id.trans h.id
  name := h'.name.trans h.name
  source := h'.source.trans h.source
  allowAutoUpdate := h'.allowAutoUpdate.trans h.allowAutoUpdate
  intervalMinutes := fun hoff =>
    (h'.intervalMinutes (h.allowAutoUpdate.trans hoff)).trans (h.intervalMinutes hoff)

/-- Adopting the interval of a profile. -/
theorem adoptProfileInterval_keeps (policy : SubscriptionUpdatePolicy) (profile : Option UInt32) :
    (adoptProfileInterval policy profile).allowAutoUpdate = policy.allowAutoUpdate ∧
    (policy.allowAutoUpdate = false →
      (adoptProfileInterval policy profile).intervalMinutes = policy.intervalMinutes) := by
  rw [adoptProfileInterval]
  split
  · next h =>
    refine ⟨rfl, fun hoff => ?_⟩
    rw [hoff] at h
    simp at h
  · exact ⟨rfl, fun _ => rfl⟩

/-- New content refreshes a subscription. -/
theorem refreshed_withContent (skipped : Nat) (metadata : Option SubscriptionHttpMetadata)
    (document : Option SubscriptionDocument) (profile : Option UInt32) (sub : Subscription) :
    sub.Refreshed (sub.withContent skipped metadata document profile) :=
  have ⟨hallow, hinterval⟩ := adoptProfileInterval_keeps sub.updatePolicy profile
  ⟨rfl, rfl, rfl, hallow, hinterval⟩

/-- Every subscription was there before, with other content at most. -/
def AppState.RefreshedFrom (s t : AppState) : Prop :=
  ∀ sub ∈ t.subscriptions, ∃ old ∈ s.subscriptions, old.Refreshed sub

/-- Where the subscriptions stay, each is itself. -/
theorem refreshedFrom_of_eq (h : t.subscriptions = s.subscriptions) : s.RefreshedFrom t :=
  fun sub hsub => ⟨sub, h ▸ hsub, .refl sub⟩

/-- Origins compose. -/
theorem AppState.RefreshedFrom.trans (h : s.RefreshedFrom t) (h' : t.RefreshedFrom u) :
    s.RefreshedFrom u := by
  intro sub hsub
  obtain ⟨middle, hmiddle, hnew⟩ := h' sub hsub
  obtain ⟨old, hold, hmore⟩ := h middle hmiddle
  exact ⟨old, hold, hmore.trans hnew⟩

/-- An element is an old one or the modified one. -/
theorem mem_of_mem_modifyFirst {α : Type} {p : α → Bool} {f : α → α} {x : α} {xs : List α}
    (h : x ∈ modifyFirst p f xs) : x ∈ xs ∨ ∃ y ∈ xs, p y = true ∧ x = f y := by
  induction xs with
  | nil => exact .inl h
  | cons y ys ih =>
    rw [modifyFirst] at h
    split at h
    · next hp =>
      cases List.mem_cons.mp h with
      | inl heq => exact .inr ⟨y, List.mem_cons_self, hp, heq⟩
      | inr hmem => exact .inl (List.mem_cons_of_mem y hmem)
    · cases List.mem_cons.mp h with
      | inl heq => exact .inl (heq ▸ List.mem_cons_self)
      | inr hmem =>
        cases ih hmem with
        | inl hmem => exact .inl (List.mem_cons_of_mem y hmem)
        | inr hchanged =>
          obtain ⟨z, hz, hp, heq⟩ := hchanged
          exact .inr ⟨z, List.mem_cons_of_mem y hz, hp, heq⟩

/-- A modification that refreshes its subscription. -/
theorem refreshedFrom_modifySubscription {id : String} {f : Subscription → Subscription}
    (hf : ∀ sub : Subscription, sub.Refreshed (f sub)) : s.RefreshedFrom (s.modifySubscription id f) := by
  intro sub hsub
  cases mem_of_mem_modifyFirst hsub with
  | inl hmem => exact ⟨sub, hmem, .refl sub⟩
  | inr hchanged =>
    obtain ⟨old, hold, -, heq⟩ := hchanged
    exact ⟨old, hold, heq ▸ hf old⟩

/-- A replacement leaves the subscriptions. -/
theorem refreshedFrom_replacement {text : JsonText} {p : ProviderId} {parsed : ParseResult}
    {changed : Bool} (h : applyProviderReplacement text s p parsed = .ok (t, changed)) :
    s.RefreshedFrom t := by
  obtain ⟨replacement, -, rfl, -, -⟩ := applyProviderReplacement_ok h
  exact refreshedFrom_of_eq rfl

/-- So does raising the generation. -/
theorem refreshedFrom_raise {condition : Bool} (h : raiseGeneration condition s = .ok t) :
    s.RefreshedFrom t := by
  obtain ⟨hkeeps, -, -⟩ := raiseGeneration_ok h
  exact refreshedFrom_of_eq (by rw [hkeeps])

/-! ## Updates, document saves, deletions -/

/-- New content refreshes one subscription. -/
theorem refreshedFrom_updateContent {id : String} {snapshot : UpdateSnapshot}
    {fetched : FetchResult} {parsed : Option ParseResult} {changed : Bool}
    (h : updateContent env.text id snapshot fetched parsed s = .ok (t, changed)) :
    s.RefreshedFrom t := by
  cases updateContent_cases h with
  | replaced hreplace _ _ =>
    exact (refreshedFrom_replacement hreplace).trans
      (refreshedFrom_modifySubscription fun sub => refreshed_withContent _ _ _ _ sub)
  | @kept metadata profile same =>
    apply refreshedFrom_modifySubscription
    intro sub
    have ⟨hallow, hinterval⟩ := adoptProfileInterval_keeps sub.updatePolicy profile
    exact ⟨rfl, rfl, rfl, hallow, hinterval⟩

/-- So does an update. -/
theorem refreshedFrom_update {id : String} {snapshot : UpdateSnapshot} {fetched : FetchResult}
    {parsed : Option ParseResult} {now : UInt64} {changed : Bool}
    (h : commitUpdate env.text id snapshot fetched parsed now s = .ok (t, changed)) :
    s.RefreshedFrom t := by
  obtain ⟨content, -, hcontent, hraised, -⟩ := commitUpdate_cases h
  have hstamp : ∀ sub : Subscription, sub.Refreshed (sub.succeededAt now) := fun _ =>
    ⟨rfl, rfl, rfl, rfl, fun _ => rfl⟩
  exact ((refreshedFrom_updateContent hcontent).trans
    (refreshedFrom_modifySubscription hstamp)).trans (refreshedFrom_raise hraised)

/-- So does a failed attempt. -/
theorem refreshedFrom_failedAttempt {snapshot : UpdateSnapshot} {attemptedAt : UInt64}
    (h : commitFailedAttempt snapshot attemptedAt s = .ok t) : s.RefreshedFrom t := by
  obtain ⟨rfl, -⟩ := commitFailedAttempt_cases h
  exact refreshedFrom_modifySubscription fun _ => ⟨rfl, rfl, rfl, rfl, fun _ => rfl⟩

/-- So does a document save. -/
theorem refreshedFrom_document {worker : Option DocumentErrorCode} {input : DocumentSaveInput}
    {prepared : PreparedDocumentSave} (h : prepareDocumentSave env worker input s = .ok prepared) :
    s.RefreshedFrom prepared.next := by
  obtain ⟨_, _, existing, _, _, _, _, -, -, -, -, -, hreplace, hraised, -, rfl⟩ :=
    prepareDocumentSave_cases h
  have hdocument : s.RefreshedFrom (documentCandidate env input existing s) :=
    refreshedFrom_modifySubscription fun _ => ⟨rfl, rfl, rfl, rfl, fun _ => rfl⟩
  exact (hdocument.trans (refreshedFrom_replacement hreplace)).trans
    (refreshedFrom_raise hraised)

/-- A deletion leaves the other subscriptions. -/
theorem refreshedFrom_delete {id : String} {stopped : Bool}
    (h : commitDelete id stopped s = .ok t) : s.RefreshedFrom t := by
  obtain ⟨_, raised, -, -, hraised, rfl, -⟩ := commitDelete_cases h
  have hraised := refreshedFrom_raise hraised
  intro sub hsub
  have hmem : sub ∈ raised.subscriptions := by
    split at hsub <;> exact hsub
  obtain ⟨old, hold, hrefreshed⟩ := hraised sub hmem
  exact ⟨old, (List.mem_filter.mp hold).1, hrefreshed⟩

/-! ## Edits -/

/-- What an edit puts in place of the subscription it is about. -/
theorem prepareEdit_fields {input : EditSubscription} {edited : Subscription} {urlChanged : Bool}
    (h : prepareEdit env input s = .ok (edited, urlChanged)) :
    ∃ old, s.subscription? input.id = some old ∧ edited.id = old.id ∧
      applyEdit (fun _ => validateName) old.name input.name = .ok edited.name ∧
      applyEdit applyUpdatePolicyPatch old.updatePolicy input.updatePolicy =
        .ok edited.updatePolicy ∧
      (edited.source = old.source ∨
        ∃ url, edited.source = .remote url ∧ env.validateSourceUrl url = true) := by
  obtain ⟨old, hold, h⟩ := ok_bind.mp h
  obtain ⟨name, hname, h⟩ := ok_bind.mp h
  obtain ⟨description, -, h⟩ := ok_bind.mp h
  refine ⟨old, okOr_eq_ok.mp hold, ?_⟩
  split at h
  · next hsource =>
    obtain ⟨hrejected, h⟩ := ok_seq.mp h
    cases h
    have hpolicy : input.updatePolicy = none := by
      simp only [reject_eq_ok, Bool.or_eq_false_iff, Option.isSome_eq_false_iff,
        Option.isNone_iff_eq_none] at hrejected
      exact hrejected.2
    rw [hpolicy]
    exact ⟨rfl, hname, rfl, .inl rfl⟩
  · next url hsource =>
    obtain ⟨hurl, h⟩ := ok_seq.mp h
    obtain ⟨remote, -, h⟩ := ok_bind.mp h
    obtain ⟨patched, -, h⟩ := ok_bind.mp h
    obtain ⟨policy, hpolicy, h⟩ := ok_bind.mp h
    cases h
    refine ⟨rfl, hname, hpolicy, ?_⟩
    cases hreplacement : input.urlReplacement with
    | none => exact .inl (by rw [hsource]; rfl)
    | some replacement =>
      rw [hreplacement] at hurl
      exact .inr ⟨replacement, rfl, by simpa using hurl⟩

/-- The content of an edit refreshes what was edited. -/
theorem refreshedFrom_editContent {id : String} {p : ProviderId}
    {replacement : Option EditReplacement} {changed : Bool}
    (h : editContent env.text id p s replacement = .ok (t, changed)) : s.RefreshedFrom t := by
  cases replacement with
  | none =>
    cases h
    exact refreshedFrom_of_eq rfl
  | some replacement =>
    obtain ⟨candidate, hreplace, hraised⟩ := editContent_cases h
    have hcontent : ∀ sub : Subscription, sub.Refreshed
        ((sub.withContent replacement.parsed.skipped.length (some replacement.metadata)
          replacement.document replacement.profileInterval).succeededAt replacement.now) := by
      intro sub
      have ⟨hallow, hinterval⟩ :=
        adoptProfileInterval_keeps sub.updatePolicy replacement.profileInterval
      exact ⟨rfl, rfl, rfl, hallow, hinterval⟩
    exact ((refreshedFrom_replacement hreplace).trans
      (refreshedFrom_modifySubscription hcontent)).trans (refreshedFrom_raise hraised)

/-- After an edit, a subscription is the edited one or was there before. -/
theorem commitEdit_origin {baseline : AppState} {id : String} {edited sub : Subscription}
    {replacement : Option EditReplacement} {changed : Bool}
    (h : commitEdit env.text baseline id edited replacement s = .ok (t, changed))
    (hsub : sub ∈ t.subscriptions) :
    s = baseline ∧ ((∃ old ∈ s.subscriptions, old.Refreshed sub) ∨ edited.Refreshed sub) := by
  obtain ⟨provider, hsame, -, hcontent, -⟩ := commitEdit_cases h
  refine ⟨hsame, ?_⟩
  obtain ⟨middle, hmiddle, hrefreshed⟩ := refreshedFrom_editContent hcontent sub hsub
  cases mem_of_mem_modifyFirst hmiddle with
  | inl hmem => exact .inl ⟨middle, hmem, hrefreshed⟩
  | inr hchanged =>
    obtain ⟨-, -, -, heq⟩ := hchanged
    exact .inr (heq ▸ hrefreshed)

/-! ## Imports -/

/-- What an import by hand has checked. -/
theorem prepareManualImport_fields {name description content : String} {input : ImportCommit}
    (h : prepareManualImport env name description content = .ok input) :
    validateName name = .ok input.name ∧ input.source = .manual ∧
      input.updatePolicy = .manual := by
  obtain ⟨checked, hname, h⟩ := ok_bind.mp h
  obtain ⟨trimmed, -, h⟩ := ok_bind.mp h
  obtain ⟨parsed, -, h⟩ := ok_bind.mp h
  cases h
  exact ⟨hname, rfl, rfl⟩

/-- What a remote import has checked. -/
theorem prepareRemoteImport_fields {name description url : String} {options : RemoteImportOptions}
    {initiallyEmpty : Bool} {fetched : FetchResult} {input : ImportCommit}
    (h : prepareRemoteImport env name description url options initiallyEmpty fetched =
      .ok input) :
    validateName name = .ok input.name ∧ input.source = .remote url ∧
      env.validateSourceUrl url = true ∧
      input.updatePolicy.allowAutoUpdate = options.allowAutoUpdate ∧
      (options.allowAutoUpdate = false →
        input.updatePolicy.intervalMinutes = options.intervalMinutes) := by
  obtain ⟨⟨checked, trimmed, request, policy⟩, hrequest, h⟩ := ok_bind.mp h
  obtain ⟨checked', hname, hrequest⟩ := ok_bind.mp hrequest
  obtain ⟨trimmed', -, hrequest⟩ := ok_bind.mp hrequest
  obtain ⟨hurl, hrequest⟩ := ok_seq.mp hrequest
  obtain ⟨request', -, hrequest⟩ := ok_bind.mp hrequest
  obtain ⟨policy', hpolicy, hrequest⟩ := ok_bind.mp hrequest
  cases hrequest
  obtain ⟨-, hpolicy⟩ := ok_seq.mp hpolicy
  cases hpolicy
  simp only at h
  split at h
  · cases h
  · next profile _ _ =>
    obtain ⟨parsed, -, h⟩ := ok_bind.mp h
    cases h
    have ⟨hallow, hinterval⟩ := adoptProfileInterval_keeps
      ⟨options.allowAutoUpdate, options.intervalMinutes⟩ profile
    exact ⟨hname, rfl, by simpa using hurl, hallow, hinterval⟩

/-- An import adds one subscription at the end. -/
theorem commitImport_subscriptions {input : ImportCommit} {identity : List UInt8} {now : UInt64}
    {current : Option AppState}
    (h : commitImport env.text input identity now current = .ok t) :
    t.subscriptions =
      (current.getD .empty).subscriptions ++ [importedSubscription input identity now] := by
  obtain ⟨_, -, -, -, -, hreplace, -⟩ := commitImport_cases h
  obtain ⟨replacement, -, rfl, -, -⟩ := applyProviderReplacement_ok hreplace
  rfl

/-! ## Every commit -/

/-- Where a subscription of a saved state comes from. -/
inductive SubscriptionOrigin (env : SubscriptionEnv) (s : AppState) (sub : Subscription) :
    SubscriptionOperation → Prop
  | refreshed {op : SubscriptionOperation} {old : Subscription} (before : old ∈ s.subscriptions)
      (keeps : old.Refreshed sub) : SubscriptionOrigin env s sub op
  | edited {input : EditSubscription} {fetched : Option (FetchResult × UInt64)}
      {edited : Subscription} {urlChanged : Bool}
      (prepared : prepareEdit env input s = .ok (edited, urlChanged))
      (keeps : edited.Refreshed sub) : SubscriptionOrigin env s sub (.edit input fetched)
  | manual {name description content : String} {identity : List UInt8} {now : UInt64}
      {input : ImportCommit}
      (prepared : prepareManualImport env name description content = .ok input)
      (imported : sub = importedSubscription input identity now) :
      SubscriptionOrigin env s sub (.importManual name description content identity now)
  | remote {name description url : String} {options : RemoteImportOptions}
      {initiallyEmpty : Bool} {fetched : FetchResult} {identity : List UInt8} {now : UInt64}
      {input : ImportCommit}
      (prepared : prepareRemoteImport env name description url options initiallyEmpty fetched =
        .ok input)
      (imported : sub = importedSubscription input identity now) :
      SubscriptionOrigin env s sub
        (.importRemote name description url options initiallyEmpty fetched identity now)

/-- A refreshed subscription has an origin. -/
theorem AppState.RefreshedFrom.origin {op : SubscriptionOperation} (h : s.RefreshedFrom t) :
    ∀ sub ∈ t.subscriptions, SubscriptionOrigin env s sub op := by
  intro sub hsub
  obtain ⟨old, hold, hkeeps⟩ := h sub hsub
  exact .refreshed hold hkeeps

/-- **Spec.**  Where the subscriptions of a commit come from. -/
theorem SubscriptionCommit.origin {op : SubscriptionOperation} {current : Option AppState}
    (h : SubscriptionCommit env op current t) :
    ∀ sub ∈ t.subscriptions, SubscriptionOrigin env (current.getD .empty) sub op := by
  cases h with
  | importManual prepared committed =>
    intro sub hsub
    rw [commitImport_subscriptions committed, List.mem_append, List.mem_singleton] at hsub
    cases hsub with
    | inl hold => exact .refreshed hold (.refl sub)
    | inr hnew => exact .manual prepared hnew
  | importRemote prepared committed =>
    intro sub hsub
    rw [commitImport_subscriptions committed, List.mem_append, List.mem_singleton] at hsub
    cases hsub with
    | inl hold => exact .refreshed hold (.refl sub)
    | inr hnew => exact .remote prepared hnew
  | update captured answered read usable committed => exact (refreshedFrom_update committed).origin
  | failedAttempt captured committed => exact (refreshedFrom_failedAttempt committed).origin
  | edit prepared replaces committed =>
    intro sub hsub
    obtain ⟨rfl, horigin⟩ := commitEdit_origin committed hsub
    cases horigin with
    | inl hold =>
      obtain ⟨old, hold, hkeeps⟩ := hold
      exact .refreshed hold hkeeps
    | inr hedited => exact .edited prepared hedited
  | document prepares committed =>
    obtain ⟨hbase, rfl⟩ := commitPreparedDocument_ok committed
    have hsame := hbase.trans (prepareDocumentSave_before prepares)
    rw [← hsame] at prepares
    exact (refreshedFrom_document prepares).origin
  | delete committed => exact (refreshedFrom_delete committed).origin

/-- The other saves leave the subscriptions alone. -/
theorem ActivationCommit.subscriptions (h : ActivationCommit s t) :
    t.subscriptions = s.subscriptions := by
  obtain ⟨planned, committed⟩ := h
  obtain ⟨hbefore, rfl⟩ := commitActivation_ok committed
  obtain ⟨hexpected, hcandidate, -, -⟩ := planActivation_ok planned
  obtain ⟨-, hkeeps⟩ := activationCandidate_ok hcandidate
  rw [hkeeps, hbefore, hexpected]

/-- A mutation of the routing leaves the subscriptions. -/
theorem ProxyRouting.MutationCommit.subscriptions {routing : ProxyRouting.Env}
    {request : ProxyRouting.MutateRequest} (h : ProxyRouting.MutationCommit routing request s t) :
    t.subscriptions = s.subscriptions := by
  obtain ⟨edited, outcome, happlied, hkeeps⟩ := h.applied
  rw [hkeeps]
  exact (ProxyRouting.applyMutation_ok happlied).subscriptions

end Veyra
