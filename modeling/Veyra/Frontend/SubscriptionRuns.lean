import Veyra.Application.SubscriptionOrigins
import Veyra.Frontend.SubscriptionAgreement

/-!
# Veyra.Frontend.SubscriptionRuns

The subscription responses of every state that the managers reach.  The URLs
of such a state were accepted by the fetcher, so only names, policies and
counts decide whether the page can read it
(`subscription_responses_accepted`).
-/

namespace Veyra

open Browser Check Frontend

variable {env : SubscriptionEnv} {s t : AppState} {sub : Subscription}

/-! ## Reached states -/

/-- Every stored URL was accepted by the check of the fetcher. -/
def AppState.SourcesAccepted (env : SubscriptionEnv) (s : AppState) : Prop :=
  ∀ sub ∈ s.subscriptions, ∀ url, sub.source = .remote url → env.validateSourceUrl url = true

theorem SubscriptionOrigin.accepted {op : SubscriptionOperation} (hs : s.SourcesAccepted env)
    (h : SubscriptionOrigin env s sub op) :
    ∀ url, sub.source = .remote url → env.validateSourceUrl url = true := by
  intro url hurl
  cases h with
  | refreshed before keeps => exact hs _ before url (keeps.source.symm.trans hurl)
  | edited prepared keeps =>
    obtain ⟨old, hold, -, -, -, hsource⟩ := prepareEdit_fields prepared
    have hedited := keeps.source.symm.trans hurl
    cases hsource with
    | inl hsame => exact hs old (subscription?_found hold).1 url (hsame.symm.trans hedited)
    | inr hnew =>
      obtain ⟨new, hnew, haccepted⟩ := hnew
      rw [hnew] at hedited
      cases hedited
      exact haccepted
  | manual prepared imported =>
    obtain ⟨-, hsource, -⟩ := prepareManualImport_fields prepared
    rw [imported, importedSubscription, hsource] at hurl
    cases hurl
  | remote prepared imported =>
    obtain ⟨-, hsource, haccepted, -⟩ := prepareRemoteImport_fields prepared
    rw [imported, importedSubscription, hsource] at hurl
    cases hurl
    exact haccepted

theorem ManagerStep.sourcesAccepted {current : Option AppState}
    (h : ManagerStep env current (some t)) (hs : (current.getD .empty).SourcesAccepted env) :
    t.SourcesAccepted env := by
  cases h with
  | operation commit =>
    rename_i op
    cases op with
    | subscription op => exact fun sub hsub => (commit.origin sub hsub).accepted hs
    | mutation routing request =>
      have commit : ProxyRouting.MutationCommit routing request (current.getD .empty) t := commit
      rw [AppState.SourcesAccepted, commit.subscriptions]
      exact hs
  | activation commit =>
    rw [AppState.SourcesAccepted, commit.subscriptions]
    exact hs

theorem sourcesAccepted_of_run {current : Option AppState}
    (hrun : Relation.ReflTransGen (ManagerStep env) none current) :
    (current.getD .empty).SourcesAccepted env := by
  induction hrun with
  | refl => exact fun sub hsub => absurd hsub (List.not_mem_nil)
  | tail _ hstep ih =>
    cases hstep with
    | operation commit => exact (ManagerStep.operation commit).sourcesAccepted ih
    | activation commit => exact (ManagerStep.activation commit).sourcesAccepted ih

/-! ## What keeps a state displayable -/

/-- An update policy as the page takes it. -/
def SubscriptionUpdatePolicy.Displayable (policy : SubscriptionUpdatePolicy) : Prop :=
  policy.allowAutoUpdate = true ∨ policy.intervalMinutes = none

/-- The request brings a displayable name and leaves a displayable policy. -/
def SubscriptionOperation.Displays (s : AppState) : SubscriptionOperation → Prop
  | .importManual name .. => displayable name = true
  | .importRemote name _ _ options .. => displayable name = true ∧
    (options.allowAutoUpdate = true ∨ options.intervalMinutes = none)
  | .edit input _ => (∀ name, input.name = some name → displayable name = true) ∧
    ∀ old, s.subscription? input.id = some old → ∀ patch, input.updatePolicy = some patch →
      patch.allowAutoUpdate.getD old.updatePolicy.allowAutoUpdate = true ∨
      patch.intervalMinutes.getD old.updatePolicy.intervalMinutes = none
  | _ => True

def ManagerOperation.Displays (s : AppState) : ManagerOperation → Prop
  | .subscription op => op.Displays s
  | .mutation .. => True

/-- One save that brings nothing the page cannot show.  No machine holds more nodes than a
script can count. -/
inductive DisplayableStep (env : SubscriptionEnv) : Option AppState → Option AppState → Prop
  | operation {op : ManagerOperation} {current : Option AppState} {after : AppState}
      (commit : op.Commits env current after) (displays : op.Displays (current.getD .empty))
      (fits : after.nodes.length ≤ Veyra.maxSafeInteger.toNat) :
      DisplayableStep env current (some after)
  | activation {before after : AppState} (commit : ActivationCommit before after)
      (fits : after.nodes.length ≤ Veyra.maxSafeInteger.toNat) :
      DisplayableStep env (some before) (some after)

theorem DisplayableStep.step {current next : Option AppState}
    (h : DisplayableStep env current next) : ManagerStep env current next := by
  cases h with
  | operation commit => exact .operation commit
  | activation commit => exact .activation commit

/-- A refreshed subscription stays displayable. -/
theorem Subscription.Displayable.refreshed {old new : Subscription} (h : old.Displayable)
    (hkeeps : old.Refreshed new) : new.Displayable where
  name := by rw [hkeeps.name]; exact h.name
  policy := by
    rw [hkeeps.allowAutoUpdate]
    by_cases hallow : old.updatePolicy.allowAutoUpdate = true
    · exact .inl hallow
    · have hoff : old.updatePolicy.allowAutoUpdate = false := by simpa using hallow
      rw [hkeeps.intervalMinutes hoff]
      exact h.policy

/-- The edited subscription is displayable when the one before and the request are. -/
theorem prepareEdit_displayable {input : EditSubscription} {edited : Subscription}
    {urlChanged : Bool} (hs : ∀ sub ∈ s.subscriptions, sub.Displayable)
    (hprepared : prepareEdit env input s = .ok (edited, urlChanged))
    (hname : ∀ name, input.name = some name → displayable name = true)
    (hpolicy : ∀ old, s.subscription? input.id = some old →
      ∀ patch, input.updatePolicy = some patch →
        patch.allowAutoUpdate.getD old.updatePolicy.allowAutoUpdate = true ∨
        patch.intervalMinutes.getD old.updatePolicy.intervalMinutes = none) :
    edited.Displayable := by
  obtain ⟨old, hold, -, hedited, hpatched, -⟩ := prepareEdit_fields hprepared
  have hbefore := hs old (subscription?_found hold).1
  constructor
  · cases hrequest : input.name with
    | none =>
      rw [hrequest, applyEdit] at hedited
      rw [← Except.ok.inj hedited]
      exact hbefore.name
    | some name =>
      rw [hrequest, applyEdit] at hedited
      rw [displayable_of_validateName hedited]
      exact hname name hrequest
  · cases hrequest : input.updatePolicy with
    | none =>
      rw [hrequest, applyEdit] at hpatched
      rw [← Except.ok.inj hpatched]
      exact hbefore.policy
    | some patch =>
      rw [hrequest, applyEdit, applyUpdatePolicyPatch, validateUpdatePolicy] at hpatched
      obtain ⟨-, hpatched⟩ := ok_seq.mp hpatched
      rw [← Except.ok.inj hpatched]
      exact hpolicy old hold patch hrequest

theorem SubscriptionOrigin.displayable {op : SubscriptionOperation}
    (hs : ∀ sub ∈ s.subscriptions, sub.Displayable) (hop : op.Displays s)
    (h : SubscriptionOrigin env s sub op) : sub.Displayable := by
  cases h with
  | refreshed before keeps => exact (hs _ before).refreshed keeps
  | edited prepared keeps => exact (prepareEdit_displayable hs prepared hop.1 hop.2).refreshed keeps
  | manual prepared imported =>
    obtain ⟨hname, -, hpolicy⟩ := prepareManualImport_fields prepared
    rw [imported]
    exact ⟨(displayable_of_validateName hname).trans hop, .inr (by rw [importedSubscription, hpolicy]; rfl)⟩
  | @remote _ _ _ options _ _ _ _ _ prepared imported =>
    obtain ⟨hname, -, -, hallow, hinterval⟩ := prepareRemoteImport_fields prepared
    rw [imported]
    refine ⟨(displayable_of_validateName hname).trans hop.1, ?_⟩
    simp only [importedSubscription, hallow]
    cases hop.2 with
    | inl hon => exact .inl hon
    | inr hnone =>
      cases hoff : options.allowAutoUpdate with
      | true => exact .inl rfl
      | false => exact .inr ((hinterval hoff).trans hnone)

theorem DisplayableStep.displayable {current : Option AppState}
    (h : DisplayableStep env current (some t))
    (hs : ∀ sub ∈ (current.getD .empty).subscriptions, sub.Displayable) :
    ∀ sub ∈ t.subscriptions, sub.Displayable := by
  cases h with
  | operation commit displays fits =>
    rename_i op
    cases op with
    | subscription op => exact fun sub hsub => (commit.origin sub hsub).displayable hs displays
    | mutation routing request =>
      have commit : ProxyRouting.MutationCommit routing request (current.getD .empty) t := commit
      rw [commit.subscriptions]
      exact hs
  | activation commit fits =>
    rw [commit.subscriptions]
    exact hs

theorem DisplayableStep.fits {current : Option AppState}
    (h : DisplayableStep env current (some t)) :
    t.nodes.length ≤ Veyra.maxSafeInteger.toNat := by
  cases h with
  | operation commit displays fits => exact fits
  | activation commit fits => exact fits

theorem nodeCount_le (h : s.nodes.length ≤ Veyra.maxSafeInteger.toNat) (id : SubscriptionId) :
    s.nodeCount id ≤ Veyra.maxSafeInteger := by
  have hfilter : (s.nodes.filter
      (((s.providersOf id).map (·.id)).contains ·.providerId)).length ≤ s.nodes.length :=
    List.length_filter_le _ _
  rw [UInt64.le_iff_toNat_le, AppState.nodeCount, UInt64.toNat_ofNat']
  exact Nat.le_trans (Nat.mod_le _ _) (Nat.le_trans hfilter h)

/-- **Run.**  Along such saves every subscription stays displayable. -/
theorem displayable_of_run {current : Option AppState}
    (hrun : Relation.ReflTransGen (DisplayableStep env) none current) :
    Relation.ReflTransGen (ManagerStep env) none current ∧
    (∀ sub ∈ (current.getD .empty).subscriptions, sub.Displayable) ∧
    (current.getD .empty).nodes.length ≤ Veyra.maxSafeInteger.toNat := by
  induction hrun with
  | refl => exact ⟨.refl, fun sub hsub => absurd hsub List.not_mem_nil, Nat.zero_le _⟩
  | tail _ hstep ih =>
    obtain ⟨hrun, hdisplayable, -⟩ := ih
    rename_i next _
    cases next with
    | none => cases hstep
    | some t =>
      exact ⟨hrun.tail hstep.step, hstep.displayable hdisplayable, hstep.fits⟩

/-! ## Responses -/

/-- The answer to a document that was saved under a generation: it names its operation. -/
def DocumentApplyResult.At (generation : UInt64) : DocumentApplyResult → Prop
  | .notRequired => True
  | .ready operationId applied | .failed operationId applied _ =>
    operationId ≠ "" ∧ applied = generation

theorem DocumentApplyResult.At.readable {apply : DocumentApplyResult} (hs : s.Valid)
    (h : apply.At s.activeConfigurationGeneration) : ApplyReadable apply := by
  have hsafe : s.activeConfigurationGeneration.toNat ≤ Browser.maxSafeInteger := by
    rw [← toNat_maxSafeInteger]
    exact UInt64.le_iff_toNat_le.mp hs.generation
  cases apply with
  | notRequired => trivial
  | ready operationId applied => exact ⟨h.1, h.2 ▸ hsafe⟩
  | failed operationId applied error => exact ⟨h.1, h.2 ▸ hsafe⟩

/-- The page reads the responses of a state, with the values that the backend put there. -/
structure ResponsesAccepted (parse : String → Option SourceUrl)
    (url : String → Option BrowserUrl) (current : Option AppState) : Prop where
  list : parseListResult (listResponse (listSubscriptions current)) =
    some (.ok ((current.getD .empty).subscriptions.map fun sub =>
      .of (summaryFor (current.getD .empty) sub)))
  imported : ∀ sub ∈ (current.getD .empty).subscriptions,
    parseSummaryResult (importResponse (.ok (summaryFor (current.getD .empty) sub))) =
      some (.ok (.of (summaryFor (current.getD .empty) sub)))
  changed : ∀ sub ∈ (current.getD .empty).subscriptions, ∀ changed,
    parseChangedResult (updateResponse (.ok (summaryFor (current.getD .empty) sub, changed))) =
      some (.ok (.of (summaryFor (current.getD .empty) sub), changed))
  activated : ∀ sub ∈ (current.getD .empty).subscriptions,
    (current.getD .empty).activeSubscriptionId = some sub.id →
    ∀ outcome ∈ ["activated", "alreadyCurrent", "reactivated"], ∀ operationId ≠ "",
    parseActivated (activatedResponse outcome operationId (summaryFor (current.getD .empty) sub)
        (current.getD .empty).activeConfigurationGeneration) =
      some (outcome, operationId, .of (summaryFor (current.getD .empty) sub),
        (current.getD .empty).activeConfigurationGeneration.toNat)
  saved : ∀ sub ∈ (current.getD .empty).subscriptions, ∀ revision,
    isDocumentRevision revision = true → ∀ apply : DocumentApplyResult,
    apply.At (current.getD .empty).activeConfigurationGeneration →
    parseSaveResult (saveDocumentResponse (summaryFor (current.getD .empty) sub)
        (.ok revision apply)) =
      some (.ok (.of (summaryFor (current.getD .empty) sub)) revision (.of apply))
  settings : ∀ id settings, getSettings parse current id = .ok settings →
    parseSettingsResult url (settingsResponse (.ok settings)) = some (.ok (.of settings))

theorem listSubscriptions_ok {current : Option AppState}
    (hvalid : ∀ s, current = some s → s.Valid) :
    listSubscriptions current =
      .ok ((current.getD .empty).subscriptions.map (summaryFor (current.getD .empty))) := by
  cases current with
  | none => rfl
  | some s =>
    have hvalidate := AppState.validate_eq_ok.mpr (hvalid s rfl)
    rw [listSubscriptions, summaries, hvalidate]
    rfl

theorem getSettings_ok {parse : String → Option SourceUrl} {current : Option AppState}
    {id : String} {settings : SubscriptionSettings}
    (h : getSettings parse current id = .ok settings) :
    ∃ sub ∈ (current.getD .empty).subscriptions, settings = settingsFor parse sub := by
  obtain ⟨-, h⟩ := ok_seq.mp h
  obtain ⟨s, hs, h⟩ := ok_bind.mp h
  obtain ⟨sub, hsub, h⟩ := ok_bind.mp h
  cases h
  have hs := okOr_eq_ok.mp hs
  subst hs
  exact ⟨sub, (subscription?_found (okOr_eq_ok.mp hsub)).1, rfl⟩

/-- The responses of a valid state with accepted URLs. -/
theorem responsesAccepted_iff {parse : String → Option SourceUrl}
    {url : String → Option BrowserUrl} (hpreviews : PreviewsParse parse url)
    {current : Option AppState} (hvalid : ∀ s, current = some s → s.Valid)
    (hsources : (current.getD .empty).SourcesAccepted (env.withUrlParser parse)) :
    ResponsesAccepted parse url current ↔ ∀ sub ∈ (current.getD .empty).subscriptions,
      sub.Displayable ∧ (current.getD .empty).nodeCount sub.id ≤ Veyra.maxSafeInteger := by
  have hstate : (current.getD .empty).Valid := by
    cases current with
    | none => exact AppState.validate_eq_ok.mp rfl
    | some s => exact hvalid s rfl
  have hlist := parseListResult_ok
    ((current.getD .empty).subscriptions.map (summaryFor (current.getD .empty)))
  rw [List.map_map] at hlist
  have hreadable : (∀ v ∈ (current.getD .empty).subscriptions.map
        (summaryFor (current.getD .empty)), SummaryReadable v) ↔
      ∀ sub ∈ (current.getD .empty).subscriptions, sub.Displayable ∧
        (current.getD .empty).nodeCount sub.id ≤ Veyra.maxSafeInteger := by
    rw [List.forall_mem_map]
    exact forall₂_congr fun sub hsub => summaryReadable_iff hstate hsub
  rw [← hreadable]
  constructor
  · intro h
    have hread := h.list
    rw [listSubscriptions_ok hvalid] at hread
    exact hlist.iff.mp hread
  · intro h
    have hone := List.forall_mem_map.mp h
    constructor
    · rw [listSubscriptions_ok hvalid]
      exact hlist.eq_some h
    · exact fun sub hsub => (parseSummaryResult_ok _).eq_some (hone sub hsub)
    · exact fun sub hsub changed => (parseChangedResult_ok _ changed).eq_some (hone sub hsub)
    · intro sub hsub hactive outcome houtcome operationId hoperation
      exact parseActivated_ok _ _ houtcome hoperation (by simp [summaryFor, hactive])
        (by simp [summaryFor, hactive]) (hone sub hsub)
    · intro sub hsub revision hrevision apply happly
      exact (parseSaveResult_ok _ revision apply).eq_some
        ⟨hrevision, happly.readable hstate, hone sub hsub⟩
    · intro id settings hsettings
      obtain ⟨sub, hsub, rfl⟩ := getSettings_ok hsettings
      have hdisplayable := ((summaryReadable_iff hstate hsub).mp (hone sub hsub)).1
      exact (parseSettingsResult_ok url _).eq_some
        ((settingsReadable_iff hpreviews hstate hsub (hsources sub hsub)).mpr hdisplayable)

/-- **Responses.**  In every state that the managers reach, the page reads the responses, with
the same values, if and only if it can show the name and the policy of each subscription and
count its nodes; saves that bring nothing else reach no other state; and the page knows
every error. -/
theorem subscription_responses_accepted (env : SubscriptionEnv)
    (parse : String → Option SourceUrl) (url : String → Option BrowserUrl)
    (hpreviews : PreviewsParse parse url) :
    (∀ current, Relation.ReflTransGen (ManagerStep (env.withUrlParser parse)) none current →
      (ResponsesAccepted parse url current ↔ ∀ sub ∈ (current.getD .empty).subscriptions,
        sub.Displayable ∧
          (current.getD .empty).nodeCount sub.id ≤ Veyra.maxSafeInteger)) ∧
    (∀ current, Relation.ReflTransGen (DisplayableStep (env.withUrlParser parse)) none current →
      ResponsesAccepted parse url current) ∧
    (∀ error,
      parseListResult (listResponse (.error error)) = some (.error error) ∧
      parseSummaryResult (importResponse (.error error)) = some (.error error) ∧
      parseChangedResult (updateResponse (.error error)) = some (.error error) ∧
      parseSettingsResult url (settingsResponse (.error error)) = some (.error error)) ∧
    ∀ summary operationId error, operationId ≠ some "" →
      parseSaveResult (saveDocumentResponse summary (.error operationId error)) =
        some (.failure ⟨error.code, operationId, none⟩) := by
  have hiff : ∀ current,
      Relation.ReflTransGen (ManagerStep (env.withUrlParser parse)) none current →
      (ResponsesAccepted parse url current ↔ ∀ sub ∈ (current.getD .empty).subscriptions,
        sub.Displayable ∧
          (current.getD .empty).nodeCount sub.id ≤ Veyra.maxSafeInteger) :=
    fun current hrun => responsesAccepted_iff hpreviews
      (valid_of_managerRun (fun s hs => by cases hs) hrun) (sourcesAccepted_of_run hrun)
  refine ⟨hiff, fun current hrun => ?_, fun error => ?_, parseSaveResult_error⟩
  · obtain ⟨hmanaged, hdisplayable, hfits⟩ := displayable_of_run hrun
    exact (hiff current hmanaged).mpr fun sub hsub =>
      ⟨hdisplayable sub hsub, nodeCount_le hfits sub.id⟩
  · have hread : ∀ {α : Type} (read : Reader α),
        parseResult read (errorResponse error) = some (.error error) := by
      intro α read
      rw [parseResult, parseError_response]
    exact ⟨hread _, hread _, hread _, hread _⟩

/-! ### A name with a control character -/

/-- An import under a name with a bell in it. -/
def bellImport : ImportCommit := { linkImport "a" with name := "a\x07b" }

/-- The state after that import. -/
def bellState : AppState := { importCandidate bellImport [1] 1000 .empty with nodes := [nodeA] }

/-- The import is accepted, and from then on the page cannot read the list. -/
theorem bell_not_accepted :
    Relation.ReflTransGen (ManagerStep (linkEnv.withUrlParser fun _ => none)) none
      (some bellState) ∧
    parseListResult (listResponse (listSubscriptions (some bellState))) = none := by
  have hprepared : prepareManualImport (linkEnv.withUrlParser fun _ => none) "a\x07b" ""
      (socksLink "a") = .ok bellImport := by decide +kernel
  have hcommitted : commitImport linkEnv.text bellImport [1] 1000 none = .ok bellState := by
    decide +kernel
  have hstep : ManagerStep (linkEnv.withUrlParser fun _ => none) none (some bellState) :=
    @ManagerStep.operation _ (.subscription _) _ _
      (SubscriptionCommit.importManual hprepared hcommitted)
  exact ⟨.single hstep, by decide +kernel⟩

/-- A source URL with a query, and its preview in the browser. -/
def queryUrl : SourceUrl :=
  { scheme := "https", username := "", password := none, host := some "a.example"
    query := some "token=1", fragment := none, origin := "https://a.example", path := "/sub" }

def queryParser (value : String) : Option SourceUrl :=
  if value = "https://a.example/sub?token=1" then some queryUrl else none

def queryBrowser (value : String) : Option BrowserUrl :=
  if value = "https://a.example/sub" then some ⟨"", "", "", ""⟩ else none

/-- An import of that URL, to be updated each day. -/
def queryOptions : RemoteImportOptions := ⟨none, 30, .direct, true, true, some 1440⟩

def queryFetched : FetchResult := .modified (socksLink "b") ⟨none, none, none, none⟩ none true

/-- After an import by hand and one by URL the page reads every response, with the preview and the
interval of the second subscription. -/
theorem subscription_responses_accepted_queried :
    ∃ s : AppState,
      Relation.ReflTransGen (DisplayableStep (linkEnv.withUrlParser queryParser)) none (some s) ∧
      s.subscriptions.map (fun sub =>
          ((settingsFor queryParser sub).urlPreview, sub.updatePolicy.intervalMinutes)) =
        [(none, none), (some "https://a.example/sub", some 1440)] ∧
      ResponsesAccepted queryParser queryBrowser (some s) := by
  have hpreviews : PreviewsParse queryParser queryBrowser := by
    intro value u hu _ _
    rw [queryParser] at hu
    split at hu <;> cases hu
    exact ⟨⟨"", "", "", ""⟩, by decide, rfl, rfl, rfl, rfl⟩
  have hshown : displayable "a" = true ∧ displayable "b" = true := by decide
  have hfirst : DisplayableStep (linkEnv.withUrlParser queryParser) none (some firstState) :=
    @DisplayableStep.operation _ (.subscription _) _ _
      (SubscriptionCommit.importManual linkImport_taken.1 linkImport_taken.2) hshown.1 (by decide)
  have himported : (prepareRemoteImport (linkEnv.withUrlParser queryParser) "b" ""
      "https://a.example/sub?token=1" queryOptions false queryFetched >>= fun input =>
        commitImport linkEnv.text input [2] 2000 (some firstState)).map (fun s =>
          (s.nodes.length, s.subscriptions.map fun sub =>
            ((settingsFor queryParser sub).urlPreview, sub.updatePolicy.intervalMinutes))) =
      .ok (2, [(none, none), (some "https://a.example/sub", some 1440)]) := by decide +kernel
  obtain ⟨s, himported, hfacts⟩ := map_eq_ok.mp himported
  obtain ⟨input, hprepared, hcommitted⟩ := ok_bind.mp himported
  obtain ⟨hcount, hpreview⟩ := Prod.mk.inj hfacts
  have hsecond : DisplayableStep (linkEnv.withUrlParser queryParser) (some firstState) (some s) :=
    @DisplayableStep.operation _ (.subscription _) _ _
      (SubscriptionCommit.importRemote hprepared hcommitted) ⟨hshown.2, .inl rfl⟩
      (hcount ▸ by decide)
  have hrun := (Relation.ReflTransGen.single hfirst).tail hsecond
  exact ⟨s, hrun, hpreview, (subscription_responses_accepted linkEnv queryParser queryBrowser
    hpreviews).2.1 (some s) hrun⟩

end Veyra
