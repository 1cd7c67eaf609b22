import Veyra.Application.RouteOrder
import Veyra.Application.RoutingAcceptance
import Veyra.Application.SubscriptionOrigins

/-!
# Veyra.Application.Presentable

The states that the pages can hold.

The pages take no empty text, no number that a script cannot hold and no
negative priority; validation leaves some of that open.  What a state file
may contain beyond it never comes from the managers: `Presentable` holds of
every state that a run from a presentable one reaches.
-/

namespace Veyra

open Check

/-! ## Presentable states -/

/-- The texts of a filter. -/
def NodeFilter.texts (f : NodeFilter) : List String :=
  f.regions ++ f.includeKeywords ++ f.excludeKeywords

/-- The interval between two measurements is one that a script can hold. -/
def SelectionPolicy.Presentable : SelectionPolicy → Prop
  | .manual _ => True
  | .urlTest _ intervalSecs _ => intervalSecs ≤ maxSafeInteger

structure NodePool.Presentable (pool : NodePool) : Prop where
  name : pool.name ≠ ""
  texts : ∀ src ∈ pool.sources, ∀ text ∈ src.filter.texts, text ≠ ""
  selection : pool.selection.Presentable

/-- A route with a name and a target, wherever it stands. -/
structure RoutePolicy.Titled (route : RoutePolicy) : Prop where
  name : route.name ≠ ""
  target : route.target ≠ .unconfigured

structure RoutePolicy.Presentable (route : RoutePolicy) : Prop extends route.Titled where
  priority : 0 ≤ route.priority.toInt

/-- What the pages ask of a state beyond its validity. -/
structure AppState.Presentable (s : AppState) : Prop where
  providers : ∀ p ∈ s.providers, p.name ≠ ""
  nodes : ∀ n ∈ s.nodes, n.name ≠ ""
  pools : ∀ pool ∈ s.pools, pool.Presentable
  routes : ∀ route ∈ s.routes, route.Presentable

/-- An edit carries the name of a subscription to its provider and its pool. -/
structure AppState.Named (s : AppState) : Prop extends s.Presentable where
  subscriptions : ∀ sub ∈ s.subscriptions, sub.name ≠ ""

theorem AppState.Named.empty : AppState.empty.Named where
  providers := fun _ h => absurd h List.not_mem_nil
  nodes := fun _ h => absurd h List.not_mem_nil
  pools := fun _ h => absurd h List.not_mem_nil
  routes := fun _ h => absurd h List.not_mem_nil
  subscriptions := fun _ h => absurd h List.not_mem_nil

/-! ## Names -/

/-- A name that was checked is not empty. -/
theorem validateName_ne {name checked : String} (h : validateName name = .ok checked) :
    checked ≠ "" := by
  rw [validateName] at h
  split at h
  · next hlength =>
    cases h
    rintro hempty
    rw [hempty] at hlength
    exact absurd hlength.1 (by decide)
  · cases h

/-- An edit leaves a name that is not empty. -/
theorem applyEdit_name {old edited : String} {change : Option String} (hold : old ≠ "")
    (h : applyEdit (fun _ => validateName) old change = .ok edited) : edited ≠ "" := by
  cases change with
  | none =>
    cases h
    exact hold
  | some name =>
    rw [applyEdit] at h
    exact validateName_ne h

/-- Nodes get a name. -/
theorem normalizeNodes_named {text : JsonText} {p : ProviderId} {drafts : List ProxyNodeDraft}
    {nodes : List ProxyNode} (h : normalizeNodes text p drafts = .ok nodes) :
    ∀ n ∈ nodes, n.name ≠ "" := by
  obtain ⟨hnodes, hdrafts⟩ := normalizeNodes_ok h
  rw [hnodes]
  intro n hn
  obtain ⟨d, hd, heq⟩ := List.mem_map.mp hn
  have hname : d.name ≠ "" := Text.ne_empty_of_not_blank (hdrafts d hd).1
  rw [← heq]
  exact hname

/-! ## Subscription operations -/

section Subscriptions

variable {env : SubscriptionEnv} {s t : AppState}

/-- Named nodes can be shown. -/
theorem AppState.Presentable.withNodesOf (h : s.Presentable) {p : ProviderId}
    {nodes : List ProxyNode} (hnodes : ∀ n ∈ nodes, n.name ≠ "") :
    (s.withNodesOf p nodes).Presentable :=
  { h with
    nodes := by
      intro n hn
      cases mem_withNodesOf.mp hn with
      | inl hold => exact h.nodes n hold.1
      | inr hnew => exact hnodes n hnew }

/-- A subscription is not shown here. -/
theorem AppState.Presentable.modifySubscription (h : s.Presentable) (id : String)
    (f : Subscription → Subscription) : (s.modifySubscription id f).Presentable :=
  ⟨h.providers, h.nodes, h.pools, h.routes⟩

/-- A replacement brings named nodes. -/
theorem AppState.Presentable.replacement (h : s.Presentable) {text : JsonText} {p : ProviderId}
    {parsed : ParseResult} {changed : Bool}
    (hreplace : applyProviderReplacement text s p parsed = .ok (t, changed)) : t.Presentable := by
  obtain ⟨replacement, hnormalize, rfl, -, -⟩ := applyProviderReplacement_ok hreplace
  exact h.withNodesOf (normalizeNodes_named hnormalize)

/-- The generation is raised within its bound. -/
theorem AppState.Presentable.raise (h : s.Presentable) {condition : Bool}
    (hraise : raiseGeneration condition s = .ok t) : t.Presentable := by
  rw [(raiseGeneration_ok hraise).1]
  exact ⟨h.providers, h.nodes, h.pools, h.routes⟩

/-- An import brings a named provider and a named pool. -/
theorem presentable_import {input : ImportCommit} {identity : List UInt8} {now : UInt64}
    {current : Option AppState} (hcurrent : (current.getD .empty).Presentable)
    (hname : input.name ≠ "")
    (h : commitImport env.text input identity now current = .ok t) : t.Presentable := by
  obtain ⟨_, -, -, -, -, hreplace, -⟩ := commitImport_cases h
  have hcandidate : (importCandidate input identity now (current.getD .empty)).Presentable :=
    { hcurrent with
      providers := by
        intro p hp
        cases List.mem_append.mp hp with
        | inl hold => exact hcurrent.providers p hold
        | inr hnew =>
          rw [List.mem_singleton.mp hnew]
          exact hname
      pools := by
        intro pool hpool
        cases List.mem_append.mp hpool with
        | inl hold => exact hcurrent.pools pool hold
        | inr hnew =>
          rw [List.mem_singleton.mp hnew]
          refine ⟨hname, fun src hsrc text htext => ?_, trivial⟩
          rw [List.mem_singleton.mp hsrc] at htext
          cases htext }
  exact hcandidate.replacement hreplace

/-- The new content of a subscription is named. -/
theorem presentable_updateContent (hs : s.Presentable) {id : String} {snapshot : UpdateSnapshot}
    {fetched : FetchResult} {parsed : Option ParseResult} {changed : Bool}
    (h : updateContent env.text id snapshot fetched parsed s = .ok (t, changed)) :
    t.Presentable := by
  cases updateContent_cases h with
  | replaced hreplace _ _ => exact (hs.replacement hreplace).modifySubscription _ _
  | kept => exact hs.modifySubscription _ _

/-- An update leaves a presentable state. -/
theorem presentable_update (hs : s.Presentable) {id : String} {snapshot : UpdateSnapshot}
    {fetched : FetchResult} {parsed : Option ParseResult} {now : UInt64} {changed : Bool}
    (h : commitUpdate env.text id snapshot fetched parsed now s = .ok (t, changed)) :
    t.Presentable := by
  obtain ⟨content, -, hcontent, hraised, -⟩ := commitUpdate_cases h
  exact ((presentable_updateContent hs hcontent).modifySubscription _ _).raise hraised

/-- The name of the edited subscription goes to its provider and to its implicit pools. -/
theorem presentable_editCandidate (hs : s.Presentable) {id : String} {edited : Subscription}
    (hname : edited.name ≠ "") (p : ProviderId) : (editCandidate id edited p s).Presentable :=
  { hs with
    providers := by
      intro provider hprovider
      cases mem_of_mem_modifyFirst hprovider with
      | inl hold => exact hs.providers provider hold
      | inr hchanged =>
        obtain ⟨old, -, -, rfl⟩ := hchanged
        exact hname
    pools := by
      intro pool hpool
      obtain ⟨old, hold, rfl⟩ := List.mem_map.mp hpool
      have hshown := hs.pools old hold
      split
      · exact ⟨hname, hshown.texts, hshown.selection⟩
      · exact hshown }

/-- An edit leaves a presentable state if the subscription still has a name. -/
theorem presentable_edit {baseline : AppState} (hs : s.Presentable) {id : String}
    {edited : Subscription} (hname : edited.name ≠ "") {replacement : Option EditReplacement}
    {changed : Bool}
    (h : commitEdit env.text baseline id edited replacement s = .ok (t, changed)) :
    t.Presentable := by
  obtain ⟨provider, -, -, hcontent, -⟩ := commitEdit_cases h
  have hcandidate : (editCandidate id edited provider.id s).Presentable :=
    presentable_editCandidate hs hname provider.id
  cases replacement with
  | none =>
    cases hcontent
    exact hcandidate
  | some replacement =>
    obtain ⟨candidate, hreplace, hraised⟩ := editContent_cases hcontent
    exact ((hcandidate.replacement hreplace).modifySubscription _ _).raise hraised

/-- A document save leaves a presentable state. -/
theorem presentable_document (hs : s.Presentable) {worker : Option DocumentErrorCode}
    {input : DocumentSaveInput} {prepared : PreparedDocumentSave}
    (h : prepareDocumentSave env worker input s = .ok prepared) : prepared.next.Presentable := by
  obtain ⟨_, _, existing, _, _, _, _, -, -, -, -, -, hreplace, hraised, -, rfl⟩ :=
    prepareDocumentSave_cases h
  exact ((hs.modifySubscription _ _).replacement hreplace).raise hraised

/-- A deletion leaves a presentable state. -/
theorem presentable_delete (hs : s.Presentable) {id : String} {stopped : Bool}
    (h : commitDelete id stopped s = .ok t) : t.Presentable := by
  obtain ⟨sub, raised, -, -, hraised, rfl, -⟩ := commitDelete_cases h
  have hrest : (s.without sub.id ((s.providersOf sub.id).map (·.id))
      (ownedPoolIds ((s.providersOf sub.id).map (·.id)) s)).Presentable :=
    { providers := fun p hp => hs.providers p (List.mem_filter.mp hp).1
      nodes := fun n hn => hs.nodes n (List.mem_filter.mp hn).1
      pools := fun pool hpool => hs.pools pool (List.mem_filter.mp hpool).1
      routes := hs.routes }
  have hraised := hrest.raise hraised
  split
  · exact ⟨hraised.providers, hraised.nodes, hraised.pools, hraised.routes⟩
  · exact hraised

/-- **Step.**  No operation on subscriptions brings in what the pages refuse. -/
theorem SubscriptionCommit.presentable {op : SubscriptionOperation} {current : Option AppState}
    (hs : (current.getD .empty).Named) (h : SubscriptionCommit env op current t) :
    t.Presentable := by
  cases h with
  | importManual prepared committed =>
    exact presentable_import hs.toPresentable
      (validateName_ne (prepareManualImport_fields prepared).1) committed
  | importRemote prepared committed =>
    exact presentable_import hs.toPresentable
      (validateName_ne (prepareRemoteImport_fields prepared).1) committed
  | update captured answered read usable committed =>
    exact presentable_update hs.toPresentable committed
  | failedAttempt captured committed =>
    obtain ⟨found, -, committed⟩ := ok_bind.mp committed
    obtain ⟨-, committed⟩ := ok_seq.mp committed
    obtain ⟨-, rfl⟩ := validated_eq_ok.mp committed
    exact hs.toPresentable.modifySubscription _ _
  | edit prepared replaces committed =>
    obtain ⟨old, hold, -, hname, -, -⟩ := prepareEdit_fields prepared
    have hsame := (ok_seq.mp committed).1
    simp only [reject_eq_ok, decide_eq_false_iff_not, not_not] at hsame
    rw [Option.getD_some, hsame] at hs
    rw [hsame] at committed
    have hnamed := hs.subscriptions old (List.mem_of_find?_eq_some hold)
    exact presentable_edit hs.toPresentable (applyEdit_name hnamed hname) committed
  | document prepares committed =>
    obtain ⟨hbase, rfl⟩ := commitPreparedDocument_ok committed
    rw [Option.getD_some, hbase, prepareDocumentSave_before prepares] at hs
    exact presentable_document hs.toPresentable prepares
  | delete committed => exact presentable_delete hs.toPresentable committed

/-- A subscription has the name that it got when it was imported or edited. -/
theorem SubscriptionOrigin.named {sub : Subscription} {op : SubscriptionOperation}
    (hs : s.Named) (h : SubscriptionOrigin env s sub op) : sub.name ≠ "" := by
  cases h with
  | refreshed before keeps =>
    rw [keeps.name]
    exact hs.subscriptions _ before
  | edited prepared keeps =>
    obtain ⟨old, hold, -, hname, -, -⟩ := prepareEdit_fields prepared
    rw [keeps.name]
    exact applyEdit_name (hs.subscriptions old (List.mem_of_find?_eq_some hold)) hname
  | manual prepared imported =>
    rw [imported]
    exact validateName_ne (prepareManualImport_fields prepared).1
  | remote prepared imported =>
    rw [imported]
    exact validateName_ne (prepareRemoteImport_fields prepared).1

end Subscriptions

/-! ## Routing mutations -/

namespace ProxyRouting

variable {env : Env} {s t : AppState}

/-- A name that passes is not blank. -/
theorem validateName_trim_ne {name : String} (h : validateName name = .ok ()) :
    Text.trim name ≠ "" := by
  rw [validateName, reject_eq_ok, Bool.or_eq_false_iff, Bool.or_eq_false_iff] at h
  simpa using h.1.1

/-- Accepted texts are there when they are trimmed. -/
theorem validateTexts_trim_ne {values : List String} {max : Nat}
    (h : validateTexts values max = .ok ()) : ∀ text ∈ trimValues values, text ≠ "" := by
  rw [validateTexts, reject_eq_ok, Bool.or_eq_false_iff, Bool.or_eq_false_iff, List.any_eq_false]
    at h
  intro text htext
  obtain ⟨value, hvalue, rfl⟩ := List.mem_map.mp htext
  have hgood := h.1.2 value hvalue
  simp only [badText, Bool.or_eq_true, not_or, decide_eq_true_eq] at hgood
  exact hgood.1.1

/-- A filter that passes has no blank text. -/
theorem validateFilter_texts {filter : NodeFilterDto} (h : validateFilter filter = .ok ()) :
    ∀ text ∈ filter.toFilter.texts, text ≠ "" := by
  obtain ⟨hregions, h⟩ := ok_seq.mp h
  obtain ⟨hinclude, h⟩ := ok_seq.mp h
  obtain ⟨hexclude, -⟩ := ok_seq.mp h
  intro text htext
  rw [NodeFilter.texts, List.mem_append, List.mem_append] at htext
  obtain (hmem | hmem) | hmem := htext
  · exact validateTexts_trim_ne hregions text hmem
  · exact validateTexts_trim_ne hinclude text hmem
  · exact validateTexts_trim_ne hexclude text hmem

/-- A selection that passes can be shown. -/
theorem validateSelection_presentable {selection : SelectionDto}
    (h : validateSelection env selection = .ok ()) : selection.toPolicy.Presentable := by
  cases selection with
  | manual selectedNodeId => trivial
  | urlTest probeUrl intervalSeconds toleranceMs =>
    rw [validateSelection, reject_eq_ok] at h
    simp only [Bool.or_eq_false_iff, Bool.not_eq_false', Bool.and_eq_true, decide_eq_true_eq] at h
    have hbound := UInt64.le_iff_toNat_le.mp h.1.1.1.2
    have hlimit : (86400 : UInt64).toNat = 86400 := rfl
    have hmax : maxSafeInteger.toNat = 9007199254740991 := rfl
    have hsafe : intervalSeconds ≤ maxSafeInteger := UInt64.le_iff_toNat_le.mpr (by omega)
    exact hsafe

/-- What a custom pool is made of. -/
theorem presentable_pool {pool : NodePool} {name : String} {sources : List PoolSourceDto}
    {selection : SelectionDto} (hname : validateName name = .ok ())
    (hsources : validateSources sources = .ok ())
    (hselection : validateSelection env selection = .ok ()) (hnamed : pool.name = Text.trim name)
    (hdraws : pool.sources = sources.map (·.toSource))
    (hselects : pool.selection = selection.toPolicy) : pool.Presentable := by
  obtain ⟨-, hsources⟩ := ok_seq.mp hsources
  refine ⟨hnamed ▸ validateName_trim_ne hname, fun src hsrc => ?_,
    hselects ▸ validateSelection_presentable hselection⟩
  rw [hdraws] at hsrc
  obtain ⟨value, hvalue, rfl⟩ := List.mem_map.mp hsrc
  exact validateFilter_texts (ok_seq.mp (each_eq_ok.mp hsources value hvalue)).2

/-- A pool may be replaced by one that can be shown. -/
theorem presentable_modifyPool (hs : s.Presentable) {id : String} {f : NodePool → NodePool}
    (hf : ∀ pool, pool.Presentable → (f pool).Presentable) : (modifyPool s id f).Presentable :=
  { hs with pools := modifyFirst_preserves hs.pools hf }

/-- Routes get their positions as priorities. -/
theorem presentable_normalizeFrom {index : Nat} {routes renumbered : List RoutePolicy}
    (hroutes : ∀ route ∈ routes, route.Titled) (h : normalizeFrom index routes = .ok renumbered) :
    ∀ route ∈ renumbered, route.Presentable := by
  have htitled : ∀ {index : Nat} {routes renumbered : List RoutePolicy},
      (∀ route ∈ routes, route.Titled) → normalizeFrom index routes = .ok renumbered →
      ∀ route ∈ renumbered, route.Titled := by
    intro index routes
    induction routes generalizing index with
    | nil =>
      intro renumbered hroutes h
      cases h
      exact hroutes
    | cons route routes ih =>
      intro renumbered hroutes h
      obtain ⟨hroute, hrest⟩ := List.forall_mem_cons.mp hroutes
      obtain ⟨-, h⟩ := ok_seq.mp h
      obtain ⟨rest, hrenumbered, h⟩ := ok_bind.mp h
      cases h
      exact List.forall_mem_cons.mpr ⟨⟨hroute.name, hroute.target⟩, ih hrest hrenumbered⟩
  intro route hmem
  have hlow := (normalizeFrom_ok h).2.1 route hmem
  have htitled := htitled hroutes h route hmem
  exact ⟨htitled, by omega⟩

/-- So may the routes. -/
theorem presentable_withRoutes (hs : s.Presentable) {routes : List RoutePolicy}
    (hroutes : ∀ route ∈ routes, route.Titled) (h : withRoutes s routes = .ok t) :
    t.Presentable := by
  obtain ⟨renumbered, hrenumbered, h⟩ := ok_bind.mp h
  cases h
  exact { hs with routes := presentable_normalizeFrom hroutes hrenumbered }

/-- A request cannot name an unconfigured target. -/
theorem toTarget_ne_unconfigured (target : RouteTargetDto) : target.toTarget ≠ .unconfigured := by
  cases target <;> exact RouteTarget.noConfusion

/-- A selection by hand names its pool and its node. -/
def MutationOutcome.Named : MutationOutcome → Prop
  | .saved => True
  | .selectorSavedOnly poolId nodeId => poolId ≠ "" ∧ nodeId ≠ ""

/-- A reference that passes is not empty. -/
theorem validateReference_ne {value : String} (h : validateReference value = .ok ()) :
    value ≠ "" := by
  rw [validateReference, reject_eq_ok, Bool.or_eq_false_iff, Bool.or_eq_false_iff] at h
  simpa using h.1.1

/-- A selection by hand has no interval. -/
theorem presentable_selectManually {nodeId : String} {old selection : SelectionPolicy}
    (h : selectManually nodeId old = .ok selection) : selection.Presentable := by
  cases old with
  | manual selectedNodeId =>
    cases h
    trivial
  | urlTest probeUrl intervalSecs toleranceMs => cases h

/-- **Step.**  No mutation brings in what the pages refuse. -/
theorem presentable_applyMutation {mutation : Mutation} {outcome : MutationOutcome}
    (hs : s.Presentable) (h : applyMutation env s mutation = .ok (t, outcome)) :
    t.Presentable ∧ outcome.Named := by
  cases applyMutation_cases h with
  | createCustomPool _ named sourced selects _ _ =>
    refine ⟨{ hs with pools := fun pool hpool => ?_ }, trivial⟩
    cases List.mem_append.mp hpool with
    | inl hmem => exact hs.pools pool hmem
    | inr hnew =>
      rw [List.mem_singleton.mp hnew]
      exact presentable_pool named sourced selects rfl rfl rfl
  | updateCustomPool named sourced selects _ =>
    refine ⟨presentable_modifyPool hs fun _ _ => ?_, trivial⟩
    exact presentable_pool named sourced selects rfl rfl rfl
  | deleteCustomPool _ _ =>
    refine ⟨{ hs with pools := fun pool hpool => ?_ }, trivial⟩
    exact hs.pools pool (List.mem_of_mem_eraseP hpool)
  | setManualSelection named chosen _ selected =>
    have hmanual := presentable_selectManually selected
    exact ⟨presentable_modifyPool hs fun pool hpool => ⟨hpool.name, hpool.texts, hmanual⟩,
      validateReference_ne named, validateReference_ne chosen⟩
  | setDefaultTarget _ => exact ⟨⟨hs.providers, hs.nodes, hs.pools, hs.routes⟩, trivial⟩
  | createRoute _ inside named _ _ _ _ renumbered =>
    refine ⟨presentable_withRoutes hs (fun route hroute => ?_) renumbered, trivial⟩
    cases (List.mem_insertIdx inside).mp hroute with
    | inl hnew =>
      rw [hnew]
      exact ⟨validateName_trim_ne named, toTarget_ne_unconfigured _⟩
    | inr hmem => exact (hs.routes route hmem).toTitled
  | updateRoute named _ _ _ =>
    refine ⟨{ hs with routes := modifyFirst_preserves hs.routes fun route hroute => ?_ }, trivial⟩
    exact ⟨⟨validateName_trim_ne named, toTarget_ne_unconfigured _⟩, hroute.priority⟩
  | deleteRoute taken renumbered =>
    have hrest := (mem_of_takeRoute taken).2
    exact ⟨presentable_withRoutes hs (fun r hr => (hs.routes r (hrest r hr)).toTitled) renumbered,
      trivial⟩
  | reorderRoutes _ arranged renumbered =>
    have hsame := mem_of_orderRoutes arranged
    exact ⟨presentable_withRoutes hs (fun r hr => (hs.routes r (hsame r hr)).toTitled) renumbered,
      trivial⟩

/-- **Step.**  A committed mutation leaves a presentable state. -/
theorem MutationCommit.presentable {request : MutateRequest} (hs : s.Presentable)
    (h : MutationCommit env request s t) : t.Presentable := by
  obtain ⟨edited, outcome, hedited, heq⟩ := h.applied
  obtain ⟨hshown, -⟩ := presentable_applyMutation hs hedited
  rw [heq]
  exact ⟨hshown.providers, hshown.nodes, hshown.pools, hshown.routes⟩

end ProxyRouting

/-! ## Runs -/

section Runs

variable {env : SubscriptionEnv} {s t : AppState}

/-- **Step.**  So does an activation. -/
theorem ActivationCommit.presentable (hs : s.Presentable) (h : ActivationCommit s t) :
    t.Presentable := by
  obtain ⟨planned, committed⟩ := h
  obtain ⟨hbefore, rfl⟩ := commitActivation_ok committed
  obtain ⟨hexpected, hcandidate, -, -⟩ := planActivation_ok planned
  obtain ⟨-, hkeeps⟩ := activationCandidate_ok hcandidate
  rw [hkeeps, ← hexpected, ← hbefore]
  exact ⟨hs.providers, hs.nodes, hs.pools, hs.routes⟩

/-- **Step.**  Every save leaves named subscriptions. -/
theorem ManagerStep.named {current : Option AppState} (hs : (current.getD .empty).Named)
    (h : ManagerStep env current (some t)) : t.Named := by
  cases h with
  | operation commit =>
    rename_i op
    cases op with
    | subscription op =>
      exact ⟨commit.presentable hs, fun sub hsub => (commit.origin sub hsub).named hs⟩
    | mutation routing request =>
      have commit : ProxyRouting.MutationCommit routing request (current.getD .empty) t := commit
      exact ⟨commit.presentable hs.toPresentable, commit.subscriptions ▸ hs.subscriptions⟩
  | activation commit =>
    exact ⟨commit.presentable hs.toPresentable, commit.subscriptions ▸ hs.subscriptions⟩

/-- **Run.**  Every state that the managers reach is presentable. -/
theorem named_of_managerRun {start current : Option AppState}
    (hstart : (start.getD .empty).Named)
    (hrun : Relation.ReflTransGen (ManagerStep env) start current) :
    (current.getD .empty).Named := by
  induction hrun with
  | refl => exact hstart
  | tail _ hstep ih =>
    cases hstep with
    | operation commit => exact (ManagerStep.operation commit).named ih
    | activation commit => exact (@ManagerStep.activation env _ _ commit).named ih

end Runs

end Veyra
