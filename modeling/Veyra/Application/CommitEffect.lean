import Veyra.Application.SubscriptionManagement

/-!
# Veyra.Application.CommitEffect

What a committed subscription operation can do, said once: it imports a
subscription, keeps nodes and documents, replaces those of one subscription,
or deletes one.  `SubscriptionCommit.effect` sorts every commit into these
four; the results about runs are derived from it without unfolding an
operation again.
-/

namespace Veyra

open Check

/-! ## Changing the first match -/

/-- Where at most one element is meant, the first one is every one. -/
theorem modifyFirst_eq_map {α : Type} {p : α → Bool} {f : α → α} {xs : List α}
    (h : xs.Pairwise fun a b => p a = true → p b = false) :
    modifyFirst p f xs = xs.map fun a => if p a then f a else a := by
  induction xs with
  | nil => rfl
  | cons x xs ih =>
    have ⟨hx, hxs⟩ := List.pairwise_cons.mp h
    rw [modifyFirst, List.map_cons]
    by_cases hp : p x = true
    · rw [if_pos hp, if_pos hp]
      have hrest : xs.map (fun a => if p a then f a else a) = xs.map id := by
        apply List.map_congr_left
        intro a ha
        simp [hx a ha hp]
      rw [hrest, List.map_id]
    · rw [if_neg hp, if_neg hp, ih hxs]

/-- What the function keeps of every element, the change keeps of the list. -/
theorem map_modifyFirst {α β : Type} {p : α → Bool} {f : α → α} {g : α → β} {xs : List α}
    (h : ∀ a ∈ xs, p a = true → g (f a) = g a) : (modifyFirst p f xs).map g = xs.map g := by
  induction xs with
  | nil => rfl
  | cons x xs ih =>
    rw [modifyFirst]
    by_cases hp : p x = true
    · rw [if_pos hp, List.map_cons, List.map_cons, h x (List.mem_cons_self ..) hp]
    · rw [if_neg hp, List.map_cons, List.map_cons,
        ih fun a ha => h a (List.mem_cons_of_mem _ ha)]

/-! ## The frame -/

/-- A pool without its name, which only the user sees. -/
def NodePool.shape (pool : NodePool) : NodePool := { pool with name := "" }

/-- A provider without its name. -/
def Provider.owner (p : Provider) : ProviderId × SubscriptionId := (p.id, p.subscriptionId)

/-- Everything but nodes, the generation and the contents of the subscriptions. -/
structure SameFrame (s t : AppState) : Prop where
  subscriptions : t.subscriptions.map (·.id) = s.subscriptions.map (·.id)
  providers : t.providers.map (·.owner) = s.providers.map (·.owner)
  pools : t.pools.map (·.shape) = s.pools.map (·.shape)
  routes : t.routes = s.routes
  defaultTarget : t.defaultTarget = s.defaultTarget
  active : t.activeSubscriptionId = s.activeSubscriptionId

theorem SameFrame.refl (s : AppState) : SameFrame s s := ⟨rfl, rfl, rfl, rfl, rfl, rfl⟩

/-- Frames compose. -/
theorem SameFrame.trans {s t u : AppState} (h : SameFrame s t) (h' : SameFrame t u) :
    SameFrame s u :=
  { subscriptions := h'.subscriptions.trans h.subscriptions
    providers := h'.providers.trans h.providers
    pools := h'.pools.trans h.pools
    routes := h'.routes.trans h.routes
    defaultTarget := h'.defaultTarget.trans h.defaultTarget
    active := h'.active.trans h.active }

/-- The document of each subscription. -/
def AppState.documentTable (s : AppState) : List (SubscriptionId × Option SubscriptionDocument) :=
  s.subscriptions.map fun sub => (sub.id, sub.document)

theorem SubscriptionId.ext_val {a b : SubscriptionId} (h : a.val = b.val) : a = b := by
  cases a
  cases b
  exact congrArg _ h

/-- A subscription that keeps its id keeps the frame. -/
theorem sameFrame_modifySubscription {s : AppState} {id : String}
    {f : Subscription → Subscription} (h : ∀ sub, sub.id.val = id → (f sub).id = sub.id) :
    SameFrame s (s.modifySubscription id f) :=
  { SameFrame.refl s with
    subscriptions := map_modifyFirst fun sub _ hsub => h sub (by simpa using hsub) }

theorem sameFrame_withNodesOf (s : AppState) (p : ProviderId) (ns : List ProxyNode) :
    SameFrame s (s.withNodesOf p ns) := ⟨rfl, rfl, rfl, rfl, rfl, rfl⟩

/-- So does an edit. -/
theorem sameFrame_editCandidate {s : AppState} {id : String} {sub : Subscription}
    {p : ProviderId} (h : sub.id.val = id) : SameFrame s (editCandidate id sub p s) where
  subscriptions := map_modifyFirst fun old _ hold =>
    SubscriptionId.ext_val (h.trans (by simpa using hold : old.id.val = id).symm)
  providers := map_modifyFirst fun _ _ _ => rfl
  pools := by
    rw [editCandidate, List.map_map]
    apply List.map_congr_left
    intro pool _
    simp only [Function.comp]
    split <;> rfl
  routes := rfl
  defaultTarget := rfl
  active := rfl

/-- A change that keeps id and document keeps the document table. -/
theorem documentTable_modifySubscription {s : AppState} {id : String}
    {f : Subscription → Subscription}
    (h : ∀ sub, sub.id.val = id → (f sub).id = sub.id ∧ (f sub).document = sub.document) :
    (s.modifySubscription id f).documentTable = s.documentTable := by
  apply map_modifyFirst
  intro sub _ hsub
  have ⟨hid, hdocument⟩ := h sub (by simpa using hsub)
  rw [hid, hdocument]

/-- Set the document of one subscription. -/
def setDocument (id : SubscriptionId) (document : Option SubscriptionDocument)
    (e : SubscriptionId × Option SubscriptionDocument) :
    SubscriptionId × Option SubscriptionDocument :=
  if e.1 = id then (id, document) else e

/-- A new document is found under its subscription, and no other one changes. -/
theorem documentTable_modifySubscription_set {s : AppState} {id : String}
    {f : Subscription → Subscription} {document : Option SubscriptionDocument}
    (hunique : (s.subscriptions.map (·.id.val)).Nodup)
    (h : ∀ sub ∈ s.subscriptions, sub.id.val = id →
      (f sub).id = sub.id ∧ (f sub).document = document) :
    (s.modifySubscription id f).documentTable = s.documentTable.map (setDocument ⟨id⟩ document) := by
  have hpairwise : s.subscriptions.Pairwise fun a b =>
      decide (a.id.val = id) = true → decide (b.id.val = id) = false := by
    rw [List.Nodup, List.pairwise_map] at hunique
    refine hunique.imp fun {a b} hne ha => ?_
    have ha : a.id.val = id := by simpa using ha
    simp only [decide_eq_false_iff_not]
    exact fun hb => hne (ha.trans hb.symm)
  rw [AppState.documentTable, AppState.modifySubscription]
  simp only [modifyFirst_eq_map hpairwise, AppState.documentTable, List.map_map]
  apply List.map_congr_left
  intro sub hmem
  simp only [Function.comp, setDocument]
  by_cases hsub : sub.id.val = id
  · have ⟨hid, hdocument⟩ := h sub hmem hsub
    have hsubId : sub.id = ⟨id⟩ := SubscriptionId.ext_val hsub
    simp [hsubId, hid, hdocument]
  · have hsubId : sub.id ≠ ⟨id⟩ := fun heq => hsub (by rw [heq])
    simp [hsub, hsubId]

/-! ## Generations -/

/-- A generation goes up by one. -/
theorem nextGeneration_ok {current next : UInt64} (h : nextGeneration current = .ok next) :
    next.toNat = current.toNat + 1 := by
  rw [nextGeneration] at h
  split at h
  · next hle =>
    cases h
    have hmax : maxSafeInteger.toNat = 9007199254740991 := rfl
    rw [UInt64.toNat_add]
    have hone : (1 : UInt64).toNat = 1 := rfl
    omega
  · cases h

/-- Raising the generation changes nothing else. -/
theorem raiseGeneration_ok {condition : Bool} {s t : AppState}
    (h : raiseGeneration condition s = .ok t) :
    t = { s with activeConfigurationGeneration := t.activeConfigurationGeneration } ∧
    (condition = true → s.activeConfigurationGeneration < t.activeConfigurationGeneration) ∧
    (condition = false → t.activeConfigurationGeneration = s.activeConfigurationGeneration) := by
  rw [raiseGeneration] at h
  split at h
  · next hc =>
    obtain ⟨generation, hnext, h⟩ := ok_bind.mp h
    cases h
    have hnat := nextGeneration_ok hnext
    have hlt : s.activeConfigurationGeneration < generation := UInt64.lt_iff_toNat_lt.mpr (by omega)
    simp [hc, hlt]
  · next hc =>
    cases h
    simp [hc]

/-- A candidate passes if it is valid, and is not changed. -/
theorem validated_eq_ok {s t : AppState} : validated s = .ok t ↔ s.Valid ∧ t = s := by
  rw [validated, ok_seq, mapError_eq_ok, AppState.validate_eq_ok, Except.ok.injEq, eq_comm]

/-! ## The four effects -/

/-- Where replaced nodes and the document next to them come from: a body, or an edited
document. -/
inductive ContentOrigin (env : SubscriptionEnv) (p : ProviderId) :
    Option SubscriptionDocument → List ProxyNode → Prop
  | body {content : String} {parsed : ParseResult} {nodes : List ProxyNode}
      (accepted : parseContent env.toContentEnv content = .ok parsed)
      (normalized : normalizeNodes env.text p parsed.nodes = .ok nodes) :
      ContentOrigin env p (documentForBody content parsed.format) nodes
  | edited {worker : Option DocumentErrorCode} {input : DocumentSaveInput} {parsed : ParseResult}
      {nodes : List ProxyNode} {localOverride : Bool}
      (accepted : parseDocumentInput env worker input = .ok parsed)
      (normalized : normalizeNodes env.text p parsed.nodes = .ok nodes) :
      ContentOrigin env p (some ⟨input.format, input.content, localOverride⟩) nodes

/-- Nodes, documents and the generation stay as they were. -/
structure ContentKept (s t : AppState) : Prop where
  frame : SameFrame s t
  nodes : t.nodes = s.nodes
  documents : t.documentTable = s.documentTable
  generation : t.activeConfigurationGeneration = s.activeConfigurationGeneration

/-- The nodes of a subscription's only provider were swapped together with its document. -/
structure Swapped (env : SubscriptionEnv) (id : SubscriptionId) (p : ProviderId)
    (replacement : List ProxyNode) (document : Option SubscriptionDocument)
    (s t : AppState) : Prop where
  frame : SameFrame s t
  sole : s.soleProvider id = some p
  nodes : t.nodes = (s.withNodesOf p replacement).nodes
  documents : t.documentTable = s.documentTable.map (setDocument id document)
  origin : ContentOrigin env p document replacement

/-- A swap whose generation follows only if the subscription is the active one. -/
structure Replaced (env : SubscriptionEnv) (id : SubscriptionId) (p : ProviderId)
    (replacement : List ProxyNode) (document : Option SubscriptionDocument)
    (s t : AppState) : Prop extends Swapped env id p replacement document s t where
  raised : s.activeSubscriptionId = some id → s.nodesOf p ≠ replacement →
    s.activeConfigurationGeneration < t.activeConfigurationGeneration
  idle : s.activeSubscriptionId ≠ some id →
    t.activeConfigurationGeneration = s.activeConfigurationGeneration
  monotone : s.activeConfigurationGeneration ≤ t.activeConfigurationGeneration

/-- A subscription with one provider and one implicit pool came on top. -/
structure Imported (env : SubscriptionEnv) (sub : Subscription) (provider : Provider)
    (pool : NodePool) (replacement : List ProxyNode) (s t : AppState) : Prop where
  subscriptions : t.subscriptions = s.subscriptions ++ [sub]
  providers : t.providers = s.providers ++ [provider]
  pools : t.pools = s.pools ++ [pool]
  nodes : t.nodes = (s.withNodesOf provider.id replacement).nodes
  routes : t.routes = s.routes
  defaultTarget : t.defaultTarget = s.defaultTarget
  active : t.activeSubscriptionId = s.activeSubscriptionId
  generation : t.activeConfigurationGeneration = s.activeConfigurationGeneration
  fresh : ∀ r ∈ s.providers, r.id ≠ provider.id
  owner : provider.subscriptionId = sub.id
  implicit : pool.kind = .implicitProvider
  sources : pool.sources = [{ providerId := provider.id, filter := .default }]
  origin : ContentOrigin env provider.id sub.document replacement

/-- A subscription that nothing else refers to went away with its providers, their nodes
and the implicit pools that drew on them alone. -/
structure Deleted (id : SubscriptionId) (s t : AppState) : Prop where
  subscriptions : t.subscriptions = s.subscriptions.filter (·.id ≠ id)
  providers : t.providers =
    s.providers.filter (·.id ∉ (s.providersOf id).map (·.id))
  nodes : t.nodes = s.nodes.filter (·.providerId ∉ (s.providersOf id).map (·.id))
  pools : t.pools =
    s.pools.filter (·.id ∉ ownedPoolIds ((s.providersOf id).map (·.id)) s)
  routes : t.routes = s.routes
  defaultTarget : t.defaultTarget = s.defaultTarget
  unreferenced : stillReferenced ((s.providersOf id).map (·.id))
    (ownedPoolIds ((s.providersOf id).map (·.id)) s) s = false
  stops : s.activeSubscriptionId = some id → t.activeSubscriptionId = none
  active : s.activeSubscriptionId ≠ some id → t.activeSubscriptionId = s.activeSubscriptionId ∧
    t.activeConfigurationGeneration = s.activeConfigurationGeneration

/-- The effects of a commit. -/
inductive CommitEffect (env : SubscriptionEnv) (op : SubscriptionOperation) (s t : AppState) : Prop
  | imported {sub : Subscription} {provider : Provider} {pool : NodePool}
      {replacement : List ProxyNode} (content : op.replaces env = none)
      (effect : Imported env sub provider pool replacement s t)
  | kept (content : op.replaces env = none) (effect : ContentKept s t)
  | replaced {id : String} {p : ProviderId} {drafts : List ProxyNodeDraft}
      {replacement : List ProxyNode} {document : Option SubscriptionDocument}
      (content : op.replaces env = some (id, drafts))
      (normalized : normalizeNodes env.text p drafts = .ok replacement)
      (effect : Replaced env ⟨id⟩ p replacement document s t)
  | deleted {id : SubscriptionId} (content : op.replaces env = none) (effect : Deleted id s t)

/-! ## Import -/

/-- An import whose batch normalizes to an accepted state. -/
theorem commitImport_of {text : JsonText} {input : ImportCommit} {identity : List UInt8}
    {now : UInt64} {current : Option AppState} {replacement : List ProxyNode}
    (hempty : input.expectedInitiallyEmpty.any (· != current.isNone) = false)
    (hfresh : ((current.getD .empty).subscriptions.any (·.id.val = identityOf "sub" identity) ||
      (current.getD .empty).providers.any (·.id.val = identityOf "provider" identity) ||
      (current.getD .empty).pools.any (·.id.val = identityOf "pool" identity)) = false)
    (hbatch : input.parsed.nodes.isEmpty = false)
    (hnormalize : normalizeNodes text ⟨identityOf "provider" identity⟩ input.parsed.nodes =
      .ok replacement)
    (hvalid : ((importCandidate input identity now (current.getD .empty)).withNodesOf
      ⟨identityOf "provider" identity⟩ replacement).validate = .ok ()) :
    commitImport text input identity now current =
      .ok ((importCandidate input identity now (current.getD .empty)).withNodesOf
        ⟨identityOf "provider" identity⟩ replacement) := by
  have hprovider : (importCandidate input identity now (current.getD .empty)).providers.any
      (·.id = ⟨identityOf "provider" identity⟩) = true := by
    simp [importCandidate, importedProvider]
  have hreplaced := @applyProviderReplacement_of text _ _ { input.parsed with skipped := [] } _
    (by simpa using hbatch) hprovider hnormalize hvalid
  refine ok_seq.mpr ⟨reject_eq_ok.mpr hempty, ok_seq.mpr ⟨reject_eq_ok.mpr hfresh, ?_⟩⟩
  refine ok_bind.mpr ⟨_, mapError_eq_ok.mpr hreplaced, ?_⟩
  exact ok_seq.mpr ⟨mapError_eq_ok.mpr hvalid, rfl⟩

/-- **Inversion.**  What an import has checked, and what it has built. -/
theorem commitImport_cases {text : JsonText} {input : ImportCommit} {identity : List UInt8}
    {now : UInt64} {current : Option AppState} {t : AppState}
    (h : commitImport text input identity now current = .ok t) :
    ∃ changed, input.expectedInitiallyEmpty.any (· != current.isNone) = false ∧
      (∀ sub ∈ (current.getD .empty).subscriptions, sub.id.val ≠ identityOf "sub" identity) ∧
      (∀ p ∈ (current.getD .empty).providers, p.id.val ≠ identityOf "provider" identity) ∧
      (∀ pool ∈ (current.getD .empty).pools, pool.id.val ≠ identityOf "pool" identity) ∧
      applyProviderReplacement text (importCandidate input identity now (current.getD .empty))
        ⟨identityOf "provider" identity⟩ { input.parsed with skipped := [] } = .ok (t, changed) ∧
      t.Valid := by
  obtain ⟨hempty, h⟩ := ok_seq.mp h
  obtain ⟨hfresh, h⟩ := ok_seq.mp h
  obtain ⟨⟨candidate, changed⟩, hreplace, h⟩ := ok_bind.mp h
  obtain ⟨hvalid, rfl⟩ := validated_eq_ok.mp h
  simp only [reject_eq_ok, Bool.or_eq_false_iff, List.any_eq_false, decide_eq_true_eq] at hfresh
  exact ⟨changed, reject_eq_ok.mp hempty, hfresh.1.1, hfresh.1.2, hfresh.2,
    mapError_eq_ok.mp hreplace, hvalid⟩

/-- **Effect.**  An import adds one subscription with its provider, its pool and its nodes. -/
theorem commitImport_ok {env : SubscriptionEnv} {op : SubscriptionOperation}
    {input : ImportCommit} {identity : List UInt8} {now : UInt64} {current : Option AppState}
    {after : AppState} (hop : op.replaces env = none)
    (horigin : ∀ p nodes, normalizeNodes env.text p input.parsed.nodes = .ok nodes →
      ContentOrigin env p input.document nodes)
    (h : commitImport env.text input identity now current = .ok after) :
    after.Valid ∧ CommitEffect env op (current.getD .empty) after := by
  obtain ⟨_, -, -, hfresh, -, hreplace, hvalid⟩ := commitImport_cases h
  obtain ⟨replacement, hnormalize, rfl, -, -⟩ := applyProviderReplacement_ok hreplace
  exact ⟨hvalid, .imported hop
    { subscriptions := rfl
      providers := rfl
      pools := rfl
      nodes := rfl
      routes := rfl
      defaultTarget := rfl
      active := rfl
      generation := rfl
      fresh := fun r hr heq => hfresh r hr (congrArg ProviderId.val heq)
      owner := rfl
      implicit := rfl
      sources := rfl
      origin := horigin _ _ hnormalize }⟩

/-! ## Update and edit -/

/-- The snapshot of an update names the subscription and its one provider. -/
theorem updateSnapshot_ok {s : AppState} {id : String} {snapshot : UpdateSnapshot}
    (h : updateSnapshot s id = .ok snapshot) :
    snapshot.subscriptionId = ⟨id⟩ ∧ s.soleProvider ⟨id⟩ = some snapshot.providerId := by
  obtain ⟨sub, hsub, h⟩ := ok_bind.mp h
  obtain ⟨p, hp, h⟩ := ok_bind.mp h
  cases h
  have hfound := List.find?_some (okOr_eq_ok.mp hsub)
  have hid : sub.id = ⟨id⟩ := SubscriptionId.ext_val (by simpa using hfound)
  exact ⟨hid, by rw [← hid]; exact okOr_eq_ok.mp hp⟩

/-- A change that keeps the id and the document of a subscription. -/
def Touches (id : String) (f : Subscription → Subscription) : Prop :=
  ∀ sub, sub.id.val = id → (f sub).id = sub.id ∧ (f sub).document = sub.document

/-- Fields outside the content may be touched. -/
theorem ContentKept.touch {s t : AppState} (h : ContentKept s t) {id : String} {f : Subscription → Subscription}
    (hf : Touches id f) : ContentKept s (t.modifySubscription id f) where
  frame := h.frame.trans (sameFrame_modifySubscription fun sub hsub => (hf sub hsub).1)
  nodes := h.nodes
  documents := (documentTable_modifySubscription hf).trans h.documents
  generation := h.generation

variable {env : SubscriptionEnv} {sid : SubscriptionId} {p : ProviderId}
  {replacement : List ProxyNode} {document : Option SubscriptionDocument} {s t u : AppState}

/-- Also after the content was swapped. -/
theorem Swapped.touch (h : Swapped env sid p replacement document s t) {id : String}
    {f : Subscription → Subscription} (hf : Touches id f) :
    Swapped env sid p replacement document s (t.modifySubscription id f) :=
  { h with
    frame := h.frame.trans (sameFrame_modifySubscription fun sub hsub => (hf sub hsub).1)
    documents := (documentTable_modifySubscription hf).trans h.documents }

/-- A swap followed by the conditional raise of the generation. -/
theorem Swapped.raise (h : Swapped env sid p replacement document s t)
    (hgeneration : t.activeConfigurationGeneration = s.activeConfigurationGeneration)
    {condition : Bool} (hraise : raiseGeneration condition t = .ok u)
    (hmust : s.activeSubscriptionId = some sid → s.nodesOf p ≠ replacement → condition = true)
    (honly : condition = true → s.activeSubscriptionId = some sid) :
    Replaced env sid p replacement document s u := by
  obtain ⟨hkeeps, hbump, hidle⟩ := raiseGeneration_ok hraise
  have hframe : SameFrame t u := by rw [hkeeps]; exact ⟨rfl, rfl, rfl, rfl, rfl, rfl⟩
  have hnodes : u.nodes = t.nodes := by rw [hkeeps]
  have hdocuments : u.documentTable = t.documentTable := by rw [hkeeps]; rfl
  exact
    { frame := h.frame.trans hframe
      sole := h.sole
      nodes := hnodes.trans h.nodes
      documents := hdocuments.trans h.documents
      origin := h.origin
      raised := fun hactive hchanged => hgeneration ▸ hbump (hmust hactive hchanged)
      idle := fun hinactive => by
        have hcondition : condition = false := by
          by_contra hne
          exact hinactive (honly (by simpa using hne))
        exact (hidle hcondition).trans hgeneration
      monotone := by
        rw [← hgeneration]
        cases condition with
        | true => exact UInt64.le_of_lt (hbump rfl)
        | false => exact UInt64.le_of_eq (hidle rfl).symm }

/-- A replacement on a state with the nodes of `s` changes only the nodes of `p`. -/
theorem replacement_effect {c c' : AppState} {parsed : ParseResult} {changed : Bool}
    (hnodes : c.nodes = s.nodes)
    (h : applyProviderReplacement env.text c p parsed = .ok (c', changed)) :
    ∃ replacement, normalizeNodes env.text p parsed.nodes = .ok replacement ∧
      c'.nodes = (s.withNodesOf p replacement).nodes ∧ SameFrame c c' ∧
      c'.documentTable = c.documentTable ∧
      c'.activeConfigurationGeneration = c.activeConfigurationGeneration ∧
      (changed = true ↔ s.nodesOf p ≠ replacement) := by
  obtain ⟨replacement, hnormalize, hcandidate, hchanged, -⟩ := applyProviderReplacement_ok h
  subst hcandidate
  have hold : c.nodesOf p = s.nodesOf p := by rw [AppState.nodesOf, AppState.nodesOf, hnodes]
  have hnew : (c.withNodesOf p replacement).nodes = (s.withNodesOf p replacement).nodes := by
    rw [AppState.withNodesOf, AppState.withNodesOf, hnodes]
  exact ⟨replacement, hnormalize, hnew, sameFrame_withNodesOf c p replacement, rfl, rfl,
    hold ▸ hchanged⟩

/-- The ids of the subscriptions stay distinct within a frame. -/
theorem SameFrame.nodup (h : SameFrame s t) (hs : s.Valid) :
    (t.subscriptions.map (·.id.val)).Nodup := by
  have hvals : t.subscriptions.map (·.id.val) = s.subscriptions.map (·.id.val) := by
    have hmap := congrArg (List.map SubscriptionId.val) h.subscriptions
    rwa [List.map_map, List.map_map] at hmap
  rw [hvals]
  exact hs.nodup_subscriptions

/-- The drafts of a new body are those that it was parsed to. -/
theorem drafts_modified {body : String} {parsed : ParseResult}
    (metadata : SubscriptionHttpMetadata) (profile : Option UInt32) (validatorsMatchSource : Bool)
    (h : parseContent env.toContentEnv body = .ok parsed) :
    FetchResult.drafts env (.modified body metadata profile validatorsMatchSource) =
      some parsed.nodes := by
  rw [FetchResult.drafts, h]
  rfl

/-- The content steps of an update: a new body with its parse, or the body there is. -/
inductive UpdatesContent (text : JsonText) (id : String) (snapshot : UpdateSnapshot)
    (s : AppState) : FetchResult → Option ParseResult → AppState → Bool → Prop
  | replaced {body : String} {metadata : SubscriptionHttpMetadata} {profile : Option UInt32}
      {same changed : Bool} {parsed : ParseResult} {candidate : AppState}
      {stored : Option SubscriptionHttpMetadata}
      (replacement : applyProviderReplacement text s snapshot.providerId
        { parsed with skipped := [] } = .ok (candidate, changed))
      (remote : ∀ url, snapshot.source = .remote url → stored = some metadata)
      (manual : snapshot.source = .manual → stored = none) :
      UpdatesContent text id snapshot s (.modified body metadata profile same) (some parsed)
        (candidate.modifySubscription id (Subscription.withContent parsed.skipped.length stored
          (documentForBody body parsed.format) profile)) changed
  | kept {metadata : SubscriptionHttpMetadata} {profile : Option UInt32} {same : Bool} :
      UpdatesContent text id snapshot s (.notModified metadata profile same) none
        (s.modifySubscription id fun sub =>
          { sub with
            httpMetadata := some (mergeMetadata
              (snapshot.httpMetadata.getD ⟨none, none, none, none⟩) metadata same)
            updatePolicy := adoptProfileInterval sub.updatePolicy profile }) false

/-- **Inversion.**  The content of an update is one of the two. -/
theorem updateContent_cases {id : String} {snapshot : UpdateSnapshot} {fetched : FetchResult}
    {parsed : Option ParseResult} {changed : Bool}
    (h : updateContent env.text id snapshot fetched parsed s = .ok (t, changed)) :
    UpdatesContent env.text id snapshot s fetched parsed t changed := by
  cases fetched with
  | modified body metadata profile same =>
    cases parsed with
    | none => cases h
    | some parsed =>
      obtain ⟨⟨candidate, replaced⟩, hreplace, h⟩ := ok_bind.mp h
      cases h
      exact .replaced (mapError_eq_ok.mp hreplace) (fun url hurl => by simp [hurl])
        fun hmanual => by simp [hmanual]
  | notModified metadata profile same =>
    cases parsed with
    | some parsed => cases h
    | none =>
      cases h
      exact .kept

/-- The content step of an update: no new body keeps everything, a body swaps nodes and
document. -/
theorem updateContent_ok {id : String} {snapshot : UpdateSnapshot} {fetched : FetchResult}
    {parsed : Option ParseResult} {changed : Bool} (hs : s.Valid)
    (hsole : s.soleProvider ⟨id⟩ = some snapshot.providerId)
    (hread : updateParsed env.toContentEnv fetched = .ok parsed)
    (h : updateContent env.text id snapshot fetched parsed s = .ok (t, changed)) :
    t.activeConfigurationGeneration = s.activeConfigurationGeneration ∧
    ((fetched.drafts env = none ∧ ContentKept s t ∧ changed = false) ∨
      ∃ drafts replacement document, fetched.drafts env = some drafts ∧
        normalizeNodes env.text snapshot.providerId drafts = .ok replacement ∧
        Swapped env ⟨id⟩ snapshot.providerId replacement document s t ∧
        (changed = true ↔ s.nodesOf snapshot.providerId ≠ replacement)) := by
  cases updateContent_cases h with
  | kept =>
    have hkept : ContentKept s s := ⟨.refl s, rfl, rfl, rfl⟩
    exact ⟨rfl, .inl ⟨rfl, hkept.touch fun sub _ => ⟨rfl, rfl⟩, rfl⟩⟩
  | @replaced body metadata profile same _ result candidate _ hreplace _ _ =>
    obtain ⟨_, haccepted, hresult⟩ := map_eq_ok.mp hread
    cases hresult
    obtain ⟨replacement, hnormalize, hnodes, hframe, hdocuments, hgeneration, hchanged⟩ :=
      replacement_effect (s := s) rfl hreplace
    have hdrafts := drafts_modified metadata profile same haccepted
    refine ⟨hgeneration, .inr ⟨result.nodes, replacement, documentForBody body result.format,
      hdrafts, hnormalize, ?_, hchanged⟩⟩
    exact
      { frame := hframe.trans (sameFrame_modifySubscription fun sub _ => rfl)
        sole := hsole
        nodes := hnodes
        documents := by
          rw [← hdocuments]
          exact documentTable_modifySubscription_set (hframe.nodup hs) fun sub _ _ => ⟨rfl, rfl⟩
        origin := .body haccepted hnormalize }

/-- **Inversion.**  What an update has checked, and what it has built. -/
theorem commitUpdate_cases {id : String} {snapshot : UpdateSnapshot} {fetched : FetchResult}
    {parsed : Option ParseResult} {now : UInt64} {changed : Bool}
    (h : commitUpdate env.text id snapshot fetched parsed now s = .ok (t, changed)) :
    ∃ content, updateSnapshot s id = .ok snapshot ∧
      updateContent env.text id snapshot fetched parsed s = .ok (content, changed) ∧
      raiseGeneration (changed && content.activeSubscriptionId = some ⟨id⟩)
        (content.modifySubscription id (Subscription.succeededAt now)) = .ok t ∧ t.Valid := by
  obtain ⟨found, hfound, h⟩ := ok_bind.mp h
  obtain ⟨hsame, h⟩ := ok_seq.mp h
  obtain ⟨⟨content, contentChanged⟩, hcontent, h⟩ := ok_bind.mp h
  obtain ⟨raised, hraised, h⟩ := ok_bind.mp h
  obtain ⟨valid, hvalidated, h⟩ := ok_bind.mp h
  cases h
  obtain ⟨hvalid, rfl⟩ := validated_eq_ok.mp hvalidated
  obtain rfl : found = snapshot := by simpa using hsame
  exact ⟨content, hfound, hcontent, hraised, hvalid⟩

/-- The commit of an update, on a state whose snapshot is the captured one. -/
theorem commitUpdate_ok {id : String} {snapshot : UpdateSnapshot} {fetched : FetchResult}
    {parsed : Option ParseResult} {now : UInt64} {changed : Bool} (hs : s.Valid)
    (hread : updateParsed env.toContentEnv fetched = .ok parsed)
    (h : commitUpdate env.text id snapshot fetched parsed now s = .ok (t, changed)) :
    t.Valid ∧ CommitEffect env (.update id fetched now) s t := by
  obtain ⟨content, hsnapshot, hcontent, hraised, hvalid⟩ := commitUpdate_cases h
  obtain ⟨-, hsole⟩ := updateSnapshot_ok hsnapshot
  obtain ⟨hgeneration, heffect⟩ := updateContent_ok hs hsole hread hcontent
  have hstamp : Touches id (Subscription.succeededAt now) := fun sub _ => ⟨rfl, rfl⟩
  cases heffect with
  | inl hkept =>
    obtain ⟨hdrafts, hkept, hunchanged⟩ := hkept
    subst hunchanged
    rw [Bool.false_and, raiseGeneration, if_neg (by simp)] at hraised
    cases hraised
    have hnone : (SubscriptionOperation.update id fetched now).replaces env = none := by
      rw [SubscriptionOperation.replaces, hdrafts, Option.map_none]
    exact ⟨hvalid, .kept hnone (hkept.touch hstamp)⟩
  | inr hswapped =>
    obtain ⟨drafts, replacement, document, hdrafts, hnormalize, hswapped, hchanged⟩ := hswapped
    have htouched := hswapped.touch hstamp
    have hactive := hswapped.frame.active
    have hsome : (SubscriptionOperation.update id fetched now).replaces env = some (id, drafts) := by
      rw [SubscriptionOperation.replaces, hdrafts, Option.map_some]
    refine ⟨hvalid, .replaced hsome hnormalize (htouched.raise hgeneration hraised ?_ ?_)⟩
    · intro hselected hne
      simp [hchanged.mpr hne, hactive, hselected]
    · intro hcondition
      have hboth := Bool.and_eq_true_iff.mp hcondition
      simpa [hactive] using hboth.2

/-- **Inversion.**  A failed attempt is stamped, and nothing else. -/
theorem commitFailedAttempt_cases {snapshot : UpdateSnapshot} {attemptedAt : UInt64}
    (h : commitFailedAttempt snapshot attemptedAt s = .ok t) :
    t = s.modifySubscription snapshot.subscriptionId.val (Subscription.attemptedAt attemptedAt) ∧
      t.Valid := by
  obtain ⟨found, -, h⟩ := ok_bind.mp h
  obtain ⟨-, h⟩ := ok_seq.mp h
  obtain ⟨hvalid, rfl⟩ := validated_eq_ok.mp h
  exact ⟨rfl, hvalid⟩

/-- **Effect.**  A failed attempt changes no content. -/
theorem commitFailedAttempt_ok {id : String} {snapshot : UpdateSnapshot} {attemptedAt : UInt64}
    (h : commitFailedAttempt snapshot attemptedAt s = .ok t) :
    t.Valid ∧ CommitEffect env (.failedAttempt id attemptedAt) s t := by
  obtain ⟨rfl, hvalid⟩ := commitFailedAttempt_cases h
  have hkept : ContentKept s s := ⟨.refl s, rfl, rfl, rfl⟩
  exact ⟨hvalid, .kept rfl (hkept.touch fun sub _ => ⟨rfl, rfl⟩)⟩

/-! ## Edit -/

/-- The edited subscription is the old one with other settings. -/
theorem prepareEdit_ok {input : EditSubscription} {baseline : AppState} {edited : Subscription}
    {urlChanged : Bool} (h : prepareEdit env input baseline = .ok (edited, urlChanged)) :
    ∃ sub, baseline.subscription? input.id = some sub ∧ edited.id = sub.id ∧
      edited.document = sub.document := by
  obtain ⟨sub, hsub, h⟩ := ok_bind.mp h
  obtain ⟨name, -, h⟩ := ok_bind.mp h
  obtain ⟨description, -, h⟩ := ok_bind.mp h
  refine ⟨sub, okOr_eq_ok.mp hsub, ?_⟩
  split at h
  · obtain ⟨-, h⟩ := ok_seq.mp h
    cases h
    exact ⟨rfl, rfl⟩
  · obtain ⟨-, h⟩ := ok_seq.mp h
    obtain ⟨remote, -, h⟩ := ok_bind.mp h
    obtain ⟨patched, -, h⟩ := ok_bind.mp h
    obtain ⟨policy, -, h⟩ := ok_bind.mp h
    cases h
    exact ⟨rfl, rfl⟩

/-- The subscription found under an id is stored and has it. -/
theorem subscription?_found {id : String} {sub : Subscription} (h : s.subscription? id = some sub) :
    sub ∈ s.subscriptions ∧ sub.id.val = id :=
  ⟨List.mem_of_find?_eq_some h, by simpa using List.find?_some h⟩

/-- The subscription found under an id is the only one with it. -/
theorem subscription?_unique (hs : s.Valid) {id : String} {sub other : Subscription}
    (hsub : s.subscription? id = some sub) (hother : other ∈ s.subscriptions)
    (hid : other.id.val = id) : other = sub := by
  obtain ⟨hmem, hsubId⟩ := subscription?_found hsub
  exact List.inj_on_of_nodup_map hs.nodup_subscriptions hother hmem (hid.trans hsubId.symm)

/-- Putting an edited subscription in place keeps nodes, documents and the generation. -/
theorem kept_editCandidate (hs : s.Valid) {id : String} {sub edited : Subscription}
    (hsub : s.subscription? id = some sub) (hid : edited.id = sub.id)
    (hdocument : edited.document = sub.document) : ContentKept s (editCandidate id edited p s) := by
  have hsubId := (subscription?_found hsub).2
  have hdocuments : (editCandidate id edited p s).documentTable = s.documentTable := by
    apply map_modifyFirst
    intro other hother hmatch
    have heq := subscription?_unique hs hsub hother (by simpa using hmatch)
    rw [heq, hid, hdocument]
  exact ⟨sameFrame_editCandidate (hid ▸ hsubId), rfl, hdocuments, rfl⟩

/-- A sole provider is the only one of its subscription. -/
theorem soleProvider_eq_some {id : SubscriptionId} :
    s.soleProvider id = some p ↔ (s.providersOf id).map (·.id) = [p] := by
  rw [AppState.soleProvider]
  split
  · next r hr => simp [hr]
  · next hne =>
    constructor
    · intro h
      cases h
    · intro h
      rw [List.map_eq_singleton_iff] at h
      obtain ⟨r, hr, -⟩ := h
      exact absurd hr (hne r)

/-- The provider that `edit` finds is the sole provider, if there is one. -/
theorem find?_of_soleProvider {id : SubscriptionId} {provider : Provider}
    (hsole : s.soleProvider id = some p)
    (hfind : s.providers.find? (·.subscriptionId = id) = some provider) : provider.id = p := by
  have hmem : provider ∈ s.providersOf id := by
    have howner := List.find?_some hfind
    rw [AppState.providersOf, List.mem_filter]
    exact ⟨List.mem_of_find?_eq_some hfind, by simpa using howner⟩
  have hid : provider.id ∈ (s.providersOf id).map (·.id) := List.mem_map_of_mem hmem
  rw [soleProvider_eq_some.mp hsole, List.mem_singleton] at hid
  exact hid

/-- The ids of a subscription's providers depend on the owners alone. -/
theorem providerIds_congr {id : SubscriptionId}
    (h : t.providers.map (·.owner) = s.providers.map (·.owner)) :
    (t.providersOf id).map (·.id) = (s.providersOf id).map (·.id) := by
  have hmap : ∀ u : AppState, (u.providersOf id).map (·.id) =
      ((u.providers.map (·.owner)).filter fun o => decide (o.2 = id)).map (·.1) := by
    intro u
    rw [AppState.providersOf, List.filter_map, List.map_map]
    rfl
  rw [hmap, hmap, h]

theorem soleProvider_congr {id : SubscriptionId}
    (h : t.providers.map (·.owner) = s.providers.map (·.owner)) :
    t.soleProvider id = some p ↔ s.soleProvider id = some p := by
  rw [soleProvider_eq_some, soleProvider_eq_some, providerIds_congr h]

/-- A replacement of an edit is read from a body. -/
theorem editReplacement_ok {fetched : FetchResult} {now : UInt64} {replaced : EditReplacement}
    (h : editReplacement env.toContentEnv fetched now = .ok replaced) :
    ∃ body metadata profile validatorsMatchSource parsed,
      fetched = .modified body metadata profile validatorsMatchSource ∧
      parseContent env.toContentEnv body = .ok parsed ∧
      replaced = ⟨parsed, documentForBody body parsed.format, metadata, profile, now⟩ := by
  cases fetched with
  | notModified metadata profile validatorsMatchSource => cases h
  | modified body metadata profile validatorsMatchSource =>
    obtain ⟨parsed, haccepted, heq⟩ := ok_bind.mp h
    cases heq
    exact ⟨_, _, _, _, parsed, rfl, haccepted, rfl⟩

/-- **Inversion.**  What an edit has checked, and what it has built. -/
theorem commitEdit_cases {baseline : AppState} {id : String} {edited : Subscription}
    {replaced : Option EditReplacement} {changed : Bool}
    (h : commitEdit env.text baseline id edited replaced s = .ok (t, changed)) :
    ∃ provider, s = baseline ∧
      s.providers.find? (·.subscriptionId = edited.id) = some provider ∧
      editContent env.text id provider.id (editCandidate id edited provider.id s) replaced =
        .ok (t, changed) ∧ t.Valid := by
  obtain ⟨hsame, h⟩ := ok_seq.mp h
  obtain ⟨provider, hprovider, h⟩ := ok_bind.mp h
  obtain ⟨⟨content, contentChanged⟩, hcontent, h⟩ := ok_bind.mp h
  obtain ⟨valid, hvalidated, h⟩ := ok_bind.mp h
  cases h
  obtain ⟨hvalid, rfl⟩ := validated_eq_ok.mp hvalidated
  exact ⟨provider, by simpa using hsame, okOr_eq_ok.mp hprovider, hcontent, hvalid⟩

/-- **Inversion.**  The content of an edit that has fetched. -/
theorem editContent_cases {id : String} {replaced : EditReplacement} {changed : Bool}
    (h : editContent env.text id p s (some replaced) = .ok (t, changed)) :
    ∃ candidate, applyProviderReplacement env.text s p { replaced.parsed with skipped := [] } =
        .ok (candidate, changed) ∧
      raiseGeneration (changed && candidate.activeSubscriptionId = some ⟨id⟩)
        (candidate.modifySubscription id fun sub =>
          (sub.withContent replaced.parsed.skipped.length (some replaced.metadata)
            replaced.document replaced.profileInterval).succeededAt replaced.now) = .ok t := by
  obtain ⟨⟨candidate, nodesChanged⟩, hreplace, h⟩ := ok_bind.mp h
  obtain ⟨raised, hraised, h⟩ := ok_bind.mp h
  cases h
  exact ⟨candidate, mapError_eq_ok.mp hreplace, hraised⟩

/-- The commit of an edit: other settings, or a new URL with new content. -/
theorem commitEdit_ok {input : EditSubscription} {baseline : AppState} {edited : Subscription}
    {urlChanged changed : Bool} {fetched : Option (FetchResult × UInt64)}
    {replaced : Option EditReplacement} (hs : s.Valid)
    (hprepared : prepareEdit env input baseline = .ok (edited, urlChanged))
    (hreplaces : EditReplaces env baseline input.id urlChanged fetched replaced)
    (h : commitEdit env.text baseline input.id edited replaced s = .ok (t, changed)) :
    t.Valid ∧ CommitEffect env (.edit input fetched) s t := by
  obtain ⟨provider, rfl, hprovider, hcontent, hvalid⟩ := commitEdit_cases h
  obtain ⟨sub, hsub, hid, hdocument⟩ := prepareEdit_ok hprepared
  have hkept := kept_editCandidate (p := provider.id) hs hsub hid hdocument
  have hsubId : sub.id.val = input.id := by simpa using List.find?_some hsub
  have heditedId : edited.id = ⟨input.id⟩ := hid.trans (SubscriptionId.ext_val hsubId)
  cases replaced with
  | none =>
    cases fetched with
    | some answer => cases hreplaces
    | none =>
      cases hcontent
      exact ⟨hvalid, .kept rfl hkept⟩
  | some replaced =>
    cases fetched with
    | none => cases hreplaces
    | some fetched =>
      obtain ⟨answer, now⟩ := fetched
      obtain ⟨-, ⟨snapshot, hsnapshot⟩, hanswer⟩ := hreplaces
      obtain ⟨body, metadata, profile, validatorsMatchSource, parsed, heq, haccepted, hreplaced⟩ :=
        editReplacement_ok hanswer
      obtain ⟨-, hsole⟩ := updateSnapshot_ok hsnapshot
      have hproviderId : provider.id = snapshot.providerId :=
        find?_of_soleProvider hsole (heditedId ▸ hprovider)
      obtain ⟨candidate, hreplace, hraised⟩ := editContent_cases hcontent
      subst hreplaced
      obtain ⟨replacement, hnormalize, hnodes, hframe, hdocuments, hgeneration, hchanged⟩ :=
        replacement_effect hkept.nodes hreplace
      have hframe := hkept.frame.trans hframe
      have hswapped : Swapped env ⟨input.id⟩ provider.id replacement
          (documentForBody body parsed.format) s
          (candidate.modifySubscription input.id fun sub =>
            (sub.withContent parsed.skipped.length (some metadata)
              (documentForBody body parsed.format) profile).succeededAt now) :=
        { frame := hframe.trans (sameFrame_modifySubscription fun sub _ => rfl)
          sole := hproviderId ▸ hsole
          nodes := hnodes
          documents := by
            rw [← hkept.documents, ← hdocuments]
            exact documentTable_modifySubscription_set (hframe.nodup hs) fun sub _ _ => ⟨rfl, rfl⟩
          origin := .body haccepted hnormalize }
      have hactive := hframe.active
      have hsome : (SubscriptionOperation.edit input (some (answer, now))).replaces env =
          some (input.id, parsed.nodes) := by
        rw [SubscriptionOperation.replaces, heq, drafts_modified _ _ _ haccepted, Option.map_some]
      refine ⟨hvalid, .replaced hsome hnormalize
        (hswapped.raise (hgeneration.trans hkept.generation) hraised ?_ ?_)⟩
      · intro hselected hne
        simp [hchanged.mpr hne, hactive, hselected]
      · intro hcondition
        have hboth := Bool.and_eq_true_iff.mp hcondition
        simpa [hactive] using hboth.2

/-! ## Document save -/

/-- The document that a save puts in place. -/
def savedDocument (env : SubscriptionEnv) (input : DocumentSaveInput)
    (existing : SubscriptionDocument) (sub : Subscription) : SubscriptionDocument :=
  { format := input.format
    content := input.content
    localOverride := documentChanged env input && (match sub.source with
      | .remote _ => true
      | .manual => false) || existing.localOverride }

theorem documentTable_documentCandidate (hs : s.Valid) {input : DocumentSaveInput}
    {existing : SubscriptionDocument} {sub : Subscription}
    (hsub : s.subscription? input.id = some sub) :
    (documentCandidate env input existing s).documentTable =
      s.documentTable.map (setDocument ⟨input.id⟩ (some (savedDocument env input existing sub))) := by
  apply documentTable_modifySubscription_set hs.nodup_subscriptions
  intro other hother hid
  rw [subscription?_unique hs hsub hother hid]
  exact ⟨rfl, rfl⟩

/-- **Inversion.**  What a prepared save has read and checked, and what it has built. -/
theorem prepareDocumentSave_cases {worker : Option DocumentErrorCode}
    {input : DocumentSaveInput} {prepared : PreparedDocumentSave}
    (h : prepareDocumentSave env worker input s = .ok prepared) :
    ∃ parsed sub existing p candidate nodesChanged next,
      parseDocumentInput env worker input = .ok parsed ∧
      s.subscription? input.id = some sub ∧ sub.document = some existing ∧
      env.revisionFor existing.format existing.content = input.expectedRevision ∧
      (documentCandidate env input existing s).soleProvider sub.id = some p ∧
      applyProviderReplacement env.text (documentCandidate env input existing s) p parsed
        = .ok (candidate, nodesChanged) ∧
      raiseGeneration (candidate.activeSubscriptionId = some sub.id &&
        (documentChanged env input || nodesChanged)) candidate = .ok next ∧
      next.Valid ∧
      prepared = { before := s, next, subscriptionId := input.id
                   documentRevision := env.revisionFor input.format input.content
                   requiresApply := candidate.activeSubscriptionId = some sub.id &&
                     (documentChanged env input || nodesChanged)
                   stateChanged := s ≠ next } := by
  obtain ⟨parsed, haccepted, h⟩ := ok_bind.mp h
  obtain ⟨sub, hsub, h⟩ := ok_bind.mp h
  obtain ⟨existing, hexisting, h⟩ := ok_bind.mp h
  obtain ⟨hrevision, h⟩ := ok_seq.mp h
  obtain ⟨p, hp, h⟩ := ok_bind.mp h
  obtain ⟨⟨candidate, nodesChanged⟩, hreplace, h⟩ := ok_bind.mp h
  obtain ⟨raised, hraised, h⟩ := ok_bind.mp h
  obtain ⟨valid, hvalidated, h⟩ := ok_bind.mp h
  cases h
  obtain ⟨hvalid, hnext⟩ := validated_eq_ok.mp (mapError_eq_ok.mp hvalidated)
  subst hnext
  exact ⟨parsed, sub, existing, p, candidate, nodesChanged, _, haccepted, okOr_eq_ok.mp hsub,
    okOr_eq_ok.mp hexisting, by simpa using hrevision, okOr_eq_ok.mp hp,
    mapError_eq_ok.mp hreplace, mapError_eq_ok.mp hraised, hvalid, rfl⟩

theorem prepareDocumentSave_before {worker : Option DocumentErrorCode}
    {input : DocumentSaveInput} {prepared : PreparedDocumentSave}
    (h : prepareDocumentSave env worker input s = .ok prepared) : prepared.before = s := by
  obtain ⟨_, _, _, _, _, _, _, -, -, -, -, -, -, -, -, rfl⟩ := prepareDocumentSave_cases h
  rfl

/-- A prepared save is committed over the state it was prepared from. -/
theorem commitPreparedDocument_ok {prepared : PreparedDocumentSave}
    (h : commitPreparedDocument prepared s = .ok (some t)) :
    s = prepared.before ∧ t = prepared.next := by
  obtain ⟨hsame, h⟩ := ok_seq.mp h
  refine ⟨by simpa using hsame, ?_⟩
  split at h
  · exact (Option.some.inj (Except.ok.inj h)).symm
  · cases h

/-- A prepared save swaps the nodes of the subscription and keeps the edited text. -/
theorem prepareDocumentSave_ok {worker : Option DocumentErrorCode} {input : DocumentSaveInput}
    {prepared : PreparedDocumentSave} (hs : s.Valid)
    (h : prepareDocumentSave env worker input s = .ok prepared) :
    prepared.next.Valid ∧ CommitEffect env (.document worker input) s prepared.next := by
  obtain ⟨parsed, sub, existing, p, candidate, nodesChanged, next, haccepted, hsub, -, -, hp,
    hreplace, hraised, hvalid, rfl⟩ := prepareDocumentSave_cases h
  have hsubId : sub.id = ⟨input.id⟩ := SubscriptionId.ext_val (by simpa using List.find?_some hsub)
  have hcandidate : SameFrame s (documentCandidate env input existing s) :=
    sameFrame_modifySubscription fun _ _ => rfl
  obtain ⟨replacement, hnormalize, hnodes, hframe, hdocuments, hgeneration, hchanged⟩ :=
    replacement_effect (s := s) (c := documentCandidate env input existing s) rfl hreplace
  have hswapped : Swapped env ⟨input.id⟩ p replacement
      (some (savedDocument env input existing sub)) s candidate :=
    { frame := hcandidate.trans hframe
      sole := hsubId ▸ (soleProvider_congr hcandidate.providers).mp hp
      nodes := hnodes
      documents := hdocuments.trans (documentTable_documentCandidate hs hsub)
      origin := .edited haccepted hnormalize }
  have hactive := hswapped.frame.active
  have hsome : (SubscriptionOperation.document worker input).replaces env =
      some (input.id, parsed.nodes) := by
    rw [SubscriptionOperation.replaces, haccepted]
    rfl
  refine ⟨hvalid, .replaced hsome hnormalize
    (hswapped.raise hgeneration hraised ?_ ?_)⟩
  · intro hselected hne
    simp [hchanged.mpr hne, hactive, hselected, hsubId]
  · intro hcondition
    have hboth := Bool.and_eq_true_iff.mp hcondition
    simpa [hactive, hsubId] using hboth.1

/-! ## Delete -/

/-- **Inversion.**  What a deletion has checked, and what it has built. -/
theorem commitDelete_cases {id : String} {stopped : Bool} (h : commitDelete id stopped s = .ok t) :
    ∃ sub raised, s.subscription? id = some sub ∧
      stillReferenced ((s.providersOf sub.id).map (·.id))
        (ownedPoolIds ((s.providersOf sub.id).map (·.id)) s) s = false ∧
      raiseGeneration (s.activeSubscriptionId = some sub.id)
        (s.without sub.id ((s.providersOf sub.id).map (·.id))
          (ownedPoolIds ((s.providersOf sub.id).map (·.id)) s)) = .ok raised ∧
      t = (if s.activeSubscriptionId = some sub.id then
        { raised with activeSubscriptionId := none } else raised) ∧ t.Valid := by
  obtain ⟨-, h⟩ := ok_seq.mp h
  obtain ⟨sub, hsub, h⟩ := ok_bind.mp h
  obtain ⟨-, h⟩ := ok_seq.mp h
  obtain ⟨-, h⟩ := ok_seq.mp h
  obtain ⟨hunreferenced, h⟩ := ok_seq.mp h
  obtain ⟨raised, hraised, h⟩ := ok_bind.mp h
  obtain ⟨hvalid, ht⟩ := validated_eq_ok.mp h
  rw [ht]
  exact ⟨sub, raised, okOr_eq_ok.mp hsub, reject_eq_ok.mp hunreferenced, hraised, by simp, hvalid⟩

/-- **Effect.**  A deletion removes one subscription with what belongs to it. -/
theorem commitDelete_ok {id : String} {stopped : Bool} (h : commitDelete id stopped s = .ok t) :
    t.Valid ∧ CommitEffect env (.delete id stopped) s t := by
  obtain ⟨sub, raised, -, hunreferenced, hraised, ht, hvalid⟩ := commitDelete_cases h
  obtain ⟨hkeeps, -, hidle⟩ := raiseGeneration_ok hraised
  suffices h : Deleted sub.id s t from ⟨hvalid, .deleted rfl h⟩
  by_cases hactive : s.activeSubscriptionId = some sub.id
  · rw [ht, if_pos hactive, hkeeps]
    exact
      { subscriptions := rfl
        providers := rfl
        nodes := rfl
        pools := rfl
        routes := rfl
        defaultTarget := rfl
        unreferenced := hunreferenced
        stops := fun _ => rfl
        active := fun hne => absurd hactive hne }
  · have hsame : raised = s.without sub.id ((s.providersOf sub.id).map (·.id))
        (ownedPoolIds ((s.providersOf sub.id).map (·.id)) s) := by
      rw [hkeeps, hidle (by simpa using hactive)]
    rw [ht, if_neg hactive, hsame]
    exact
      { subscriptions := rfl
        providers := rfl
        nodes := rfl
        pools := rfl
        routes := rfl
        defaultTarget := rfl
        unreferenced := hunreferenced
        stops := fun heq => absurd heq hactive
        active := fun _ => ⟨rfl, rfl⟩ }

/-! ## Every commit -/

/-- The saved state of a commit is valid, and the commit has one of the four effects. -/
theorem SubscriptionCommit.effect {op : SubscriptionOperation} {current : Option AppState}
    {after : AppState} (hcurrent : ∀ s, current = some s → s.Valid)
    (h : SubscriptionCommit env op current after) :
    after.Valid ∧ CommitEffect env op (current.getD .empty) after := by
  cases h with
  | importManual prepared committed =>
    refine commitImport_ok rfl (fun p nodes hnodes => ?_) committed
    obtain ⟨name, -, prepared⟩ := ok_bind.mp prepared
    obtain ⟨description, -, prepared⟩ := ok_bind.mp prepared
    obtain ⟨parsed, haccepted, prepared⟩ := ok_bind.mp prepared
    cases prepared
    exact .body haccepted hnodes
  | importRemote prepared committed =>
    refine commitImport_ok rfl (fun p nodes hnodes => ?_) committed
    obtain ⟨⟨name, description, request, policy⟩, -, prepared⟩ := ok_bind.mp prepared
    simp only at prepared
    split at prepared
    · cases prepared
    · obtain ⟨parsed, haccepted, prepared⟩ := ok_bind.mp prepared
      cases prepared
      exact .body haccepted hnodes
  | update captured answered read usable committed =>
    exact commitUpdate_ok (hcurrent _ rfl) read committed
  | failedAttempt captured committed => exact commitFailedAttempt_ok committed
  | edit prepared replaces committed => exact commitEdit_ok (hcurrent _ rfl) prepared replaces committed
  | document prepares committed =>
    obtain ⟨hbase, hafter⟩ := commitPreparedDocument_ok committed
    have hsame := hbase.trans (prepareDocumentSave_before prepares)
    subst hsame
    rw [hafter]
    exact prepareDocumentSave_ok (hcurrent _ rfl) prepares
  | delete committed => exact commitDelete_ok committed

/-! ## The providers of an effect -/

/-- The sole provider of a subscription is a provider of it. -/
theorem soleProvider_mem {id : SubscriptionId} {p : ProviderId} (h : s.soleProvider id = some p) :
    ∃ r ∈ s.providers, r.id = p ∧ r.subscriptionId = id := by
  rw [soleProvider_eq_some, List.map_eq_singleton_iff] at h
  obtain ⟨r, hr, hid⟩ := h
  have hmem : r ∈ s.providersOf id := by rw [hr]; exact List.mem_singleton.mpr rfl
  rw [AppState.providersOf, List.mem_filter] at hmem
  exact ⟨r, hmem.1, hid, by simpa using hmem.2⟩

theorem ProviderId.ext_val {a b : ProviderId} (h : a.val = b.val) : a = b := by
  cases a
  cases b
  exact congrArg _ h

/-- A provider id has one owner. -/
theorem owner_unique (hs : s.Valid) {r r' : Provider} (hr : r ∈ s.providers)
    (hr' : r' ∈ s.providers) (hid : r.id = r'.id) : r = r' :=
  List.inj_on_of_nodup_map hs.nodup_providers hr hr' (congrArg ProviderId.val hid)

/-- Two subscriptions do not share their provider. -/
theorem soleProvider_inj (hs : s.Valid) {id id' : SubscriptionId} {p : ProviderId}
    (h : s.soleProvider id = some p) (h' : s.soleProvider id' = some p) : id = id' := by
  obtain ⟨r, hr, hid, howner⟩ := soleProvider_mem h
  obtain ⟨r', hr', hid', howner'⟩ := soleProvider_mem h'
  have heq := owner_unique hs hr hr' (hid.trans hid'.symm)
  rw [← howner, ← howner', heq]

/-- The providers of a subscription are not those of another. -/
theorem providerId_not_mem (hs : s.Valid) {id : SubscriptionId} {r : Provider}
    (hr : r ∈ s.providers) (howner : r.subscriptionId ≠ id) :
    r.id ∉ (s.providersOf id).map (·.id) := by
  intro hmem
  obtain ⟨r', hr', heq⟩ := List.mem_map.mp hmem
  rw [AppState.providersOf, List.mem_filter] at hr'
  have hsame := owner_unique hs hr'.1 hr heq
  rw [← hsame] at howner
  exact howner (by simpa using hr'.2)

/-- The nodes that come with a document belong to the provider. -/
theorem ContentOrigin.provider {p : ProviderId} {document : Option SubscriptionDocument}
    {nodes : List ProxyNode} (h : ContentOrigin env p document nodes) :
    ∀ n ∈ nodes, n.providerId = p := by
  cases h with
  | body accepted normalized => exact normalizeNodes_provider normalized
  | edited accepted normalized => exact normalizeNodes_provider normalized

/-- The subscription of an import is new. -/
theorem Imported.new (ht : t.Valid) {sub : Subscription} {provider : Provider} {pool : NodePool}
    {replacement : List ProxyNode} (heffect : Imported env sub provider pool replacement s t) :
    ∀ old ∈ s.subscriptions, old.id ≠ sub.id := by
  intro old hold heq
  have hnodup := ht.nodup_subscriptions
  rw [heffect.subscriptions, List.map_append, List.nodup_append] at hnodup
  have hne := hnodup.2.2 old.id.val (List.mem_map_of_mem hold) sub.id.val (by simp)
  exact hne (congrArg SubscriptionId.val heq)

/-- The new subscription has the new provider. -/
theorem Imported.soleProvider_new (hs : s.Valid) (ht : t.Valid) {sub : Subscription}
    {provider : Provider} {pool : NodePool} {replacement : List ProxyNode}
    (heffect : Imported env sub provider pool replacement s t) :
    t.soleProvider sub.id = some provider.id := by
  have hnone : s.providersOf sub.id = [] := by
    rw [AppState.providersOf, List.filter_eq_nil_iff]
    intro r hr howner
    obtain ⟨old, hold, hid⟩ := hs.providers r hr
    exact heffect.new ht old hold (hid.trans (by simpa using howner))
  rw [AppState.providersOf] at hnone
  rw [soleProvider_eq_some, AppState.providersOf, heffect.providers, List.filter_append, hnone]
  simp [heffect.owner]

/-- The other subscriptions keep their providers after an import. -/
theorem Imported.providersOf {sub : Subscription} {provider : Provider} {pool : NodePool}
    {replacement : List ProxyNode} (heffect : Imported env sub provider pool replacement s t)
    {id : SubscriptionId} (hid : id ≠ sub.id) : t.providersOf id = s.providersOf id := by
  have hrest : [provider].filter (·.subscriptionId = id) = [] := by
    simp [heffect.owner, Ne.symm hid]
  rw [AppState.providersOf, heffect.providers, List.filter_append, hrest, List.append_nil,
    AppState.providersOf]

/-- In particular each keeps its sole provider. -/
theorem Imported.soleProvider_old {sub : Subscription} {provider : Provider} {pool : NodePool}
    {replacement : List ProxyNode} (heffect : Imported env sub provider pool replacement s t)
    {id : SubscriptionId} (hid : id ≠ sub.id) : t.soleProvider id = s.soleProvider id := by
  rw [AppState.soleProvider, heffect.providersOf hid, AppState.soleProvider]

/-- The providers of the other subscriptions survive a deletion. -/
theorem Deleted.providersOf (hs : s.Valid) {id id' : SubscriptionId} (heffect : Deleted id s t)
    (hid : id' ≠ id) : t.providersOf id' = s.providersOf id' := by
  rw [AppState.providersOf, heffect.providers, List.filter_filter, AppState.providersOf]
  apply List.filter_congr
  intro r hr
  by_cases howner : r.subscriptionId = id'
  · have hkept := providerId_not_mem hs hr (howner.symm ▸ hid)
    rw [AppState.providersOf] at hkept
    simp only [howner, hkept, decide_true, not_false_eq_true, Bool.and_self]
  · simp [howner]

/-- The other subscriptions keep their sole provider after a deletion. -/
theorem Deleted.soleProvider (hs : s.Valid) {id id' : SubscriptionId} (heffect : Deleted id s t)
    (hid : id' ≠ id) : t.soleProvider id' = s.soleProvider id' := by
  rw [AppState.soleProvider, heffect.providersOf hs hid, AppState.soleProvider]

end Veyra
