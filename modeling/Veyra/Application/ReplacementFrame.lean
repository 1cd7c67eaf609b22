import Veyra.Application.Generation
import Veyra.Application.ProgramRuns

/-!
# Veyra.Application.ReplacementFrame

What `apply_provider_replacement` changes, what it refuses, and what its callers do then.

A pool refers to nodes by the ids of its filters and by its manual selection; routes and the
default target refer to pools, and to nodes only through them.  `AppState.LosesReference` says of
new nodes of a provider that some pool would refer to a node that is not there for it.
-/

namespace Veyra

open Check Gate Prog

variable {text : JsonText} {env : SubscriptionEnv} {s t c : AppState} {p : ProviderId}
  {replacement : List ProxyNode}

/-! ## References -/

/-- The nodes of a pool's filters and selection are there for it. -/
def NodePool.Resolves (s : AppState) (pool : NodePool) : Prop :=
  (∀ src ∈ pool.sources, ∀ id ∈ src.filter.includeNodeIds ++ src.filter.excludeNodeIds,
    ∃ n ∈ s.nodes, n.id = id ∧ n.providerId = src.providerId) ∧
  ∀ id, pool.selection = .manual (some id) → id ∈ s.resolvePoolMembers pool

/-- Some pool refers to a node that would not be there for it among the new nodes. -/
def AppState.LosesReference (s : AppState) (p : ProviderId) (replacement : List ProxyNode) : Prop :=
  ∃ pool ∈ s.pools, ¬pool.Resolves (s.withNodesOf p replacement)

/-- A node that some pool refers to: by a filter, or by the selection. -/
def AppState.RefersTo (s : AppState) (id : NodeId) : Prop :=
  ∃ pool ∈ s.pools, pool.selection = .manual (some id) ∨
    ∃ src ∈ pool.sources, id ∈ src.filter.includeNodeIds ++ src.filter.excludeNodeIds

/-- A node that is referred to and goes away is a reference lost. -/
theorem losesReference_of_gone {id : NodeId} (hrefers : s.RefersTo id)
    (hgone : ∀ n ∈ (s.withNodesOf p replacement).nodes, n.id ≠ id) :
    s.LosesReference p replacement := by
  obtain ⟨pool, hpool, hrefers⟩ := hrefers
  refine ⟨pool, hpool, fun hresolves => ?_⟩
  cases hrefers with
  | inl hselected =>
    obtain ⟨n, hn, -, hid⟩ := mem_resolvePoolMembers.mp (hresolves.2 id hselected)
    exact hgone n hn hid
  | inr hfiltered =>
    obtain ⟨src, hsrc, hid⟩ := hfiltered
    obtain ⟨n, hn, heq, -⟩ := hresolves.1 src hsrc id hid
    exact hgone n hn heq

/-- The pools of a valid state resolve. -/
theorem NodePool.Resolves.of_validate {pool : NodePool} (h : pool.validate t = .ok ()) :
    pool.Resolves t := by
  rw [NodePool.validate] at h
  obtain ⟨-, h⟩ := ok_seq.mp h
  obtain ⟨heach, hselection⟩ := ok_seq.mp h
  refine ⟨fun src hsrc id hid => ?_, fun id hselected => ?_⟩
  · obtain ⟨-, hfilter⟩ := ok_seq.mp (each_eq_ok.mp heach src hsrc)
    rw [NodeFilter.validate, reject_eq_ok, Bool.or_eq_false_iff, List.any_eq_false] at hfilter
    have hfound := hfilter.1 id hid
    cases hnode : t.nodes.find? (·.id = id) with
    | none => simp [hnode] at hfound
    | some n =>
      refine ⟨n, List.mem_of_find?_eq_some hnode, by simpa using List.find?_some hnode, ?_⟩
      simpa [hnode] using hfound
  · rw [hselected] at hselection
    simpa using hselection

/-- The pools of one state, with the same sources and selections, are among those of another. -/
def KeepsPools (s t : AppState) : Prop :=
  ∀ pool ∈ s.pools, ∃ other ∈ t.pools, other.sources = pool.sources ∧
    other.selection = pool.selection

/-- A valid state with the new nodes and the pools has lost no reference. -/
theorem not_losesReference (ht : t.Valid) (hpools : KeepsPools s t)
    (hnodes : t.nodes = (s.withNodesOf p replacement).nodes) : ¬s.LosesReference p replacement := by
  rintro ⟨pool, hpool, hnot⟩
  obtain ⟨other, hother, hsources, hselection⟩ := hpools pool hpool
  refine hnot ?_
  have hresolves := NodePool.Resolves.of_validate (ht.pools other hother)
  have hmembers : (s.withNodesOf p replacement).resolvePoolMembers pool =
      t.resolvePoolMembers other := by
    rw [AppState.resolvePoolMembers, AppState.resolvePoolMembers, hsources, hnodes]
  rw [NodePool.Resolves, hsources, hselection, hnodes, ← hmembers] at hresolves
  exact hresolves

/-! ## The replacement -/

/-- Nothing but the nodes of a provider differs, and the others keep their order. -/
structure FramedReplacement (p : ProviderId) (s t : AppState) : Prop where
  rest : t = { s with nodes := t.nodes }
  others : t.nodes.filter (·.providerId ≠ p) = s.nodes.filter (·.providerId ≠ p)

theorem framedReplacement (hprovider : ∀ n ∈ replacement, n.providerId = p) :
    FramedReplacement p s (s.withNodesOf p replacement) where
  rest := rfl
  others := by
    have hnew : replacement.filter (·.providerId ≠ p) = [] := by
      rw [List.filter_eq_nil_iff]
      intro n hn
      simp [hprovider n hn]
    rw [AppState.withNodesOf, List.filter_append, hnew, List.append_nil, List.filter_filter]
    simp only [Bool.and_self]

/-- New nodes that lose a reference are refused. -/
theorem applyProviderReplacement_refuses {parsed : ParseResult} (hnodes : c.nodes = s.nodes)
    (hpools : KeepsPools s c) (hnormal : normalizeNodes text p parsed.nodes = .ok replacement)
    (hloses : s.LosesReference p replacement) :
    ∃ e, applyProviderReplacement text c p parsed = .error e := by
  cases happly : applyProviderReplacement text c p parsed with
  | error e => exact ⟨e, rfl⟩
  | ok result =>
    obtain ⟨t, changed⟩ := result
    obtain ⟨nodes, hnodes', rfl, -, hvalid⟩ := applyProviderReplacement_ok happly
    rw [hnormal, Except.ok.injEq] at hnodes'
    subst hnodes'
    refine absurd hloses (not_losesReference hvalid hpools ?_)
    rw [AppState.withNodesOf, AppState.withNodesOf, hnodes]

/-! ## The callers -/

namespace SubscriptionManager

/-- A run that ends in an error and leaves the file as it was. -/
def Refuses {ε α : Type} (may : Turn Answers → Prop) (attempt : Attempt ε α)
    (stored : Option AppState) : Prop :=
  attempt.run.Leaves may stored fun result stored' => (∃ e, result = .error e) ∧ stored' = stored

/-- A commit whose decision fails is refused. -/
theorem refuses_decideUnderGate {ε α : Type} {may : Turn Answers → Prop} {errors : StateErrors ε}
    {look : Look} {decide : Answers → Option AppState → Except ε (Option AppState × α)}
    {stored : Option AppState} (h : ∀ c, may c → ∃ e, decide c.answer stored = .error e) :
    Refuses may (decideUnderGate errors look decide) stored := by
  refine leaves_decideUnderGate (fun _ e _ => ⟨⟨e, rfl⟩, rfl⟩) fun c hc => ?_
  obtain ⟨e, he⟩ := h c hc
  rw [he]
  exact ⟨⟨e, rfl⟩, rfl⟩

/-- What follows a replacement that is refused does not happen. -/
theorem replacement_error {α ε δ : Type} {x : Except ε α} {g : ε → δ} {β : Type}
    {f : α → Except δ β} (h : ∃ e, x = .error e) : ∃ e, (x.mapError g >>= f) = .error e := by
  obtain ⟨e, rfl⟩ := h
  exact ⟨g e, rfl⟩

theorem error_first {α β ε : Type} {x : Except ε α} {f : α → Except ε β} (h : ∃ e, x = .error e) :
    ∃ e, (x >>= f) = .error e := by
  obtain ⟨e, rfl⟩ := h
  exact ⟨e, rfl⟩

theorem error_of_bind {α β ε : Type} {x : Except ε α} {f : α → Except ε β}
    (h : ∀ a, x = .ok a → ∃ e, f a = .error e) : ∃ e, (x >>= f) = .error e := by
  cases x with
  | error e => exact ⟨e, rfl⟩
  | ok a => exact h a rfl

theorem import_refuses {input : ImportCommit} {identity : List UInt8} {stored : Option AppState}
    (hnormal : normalizeNodes env.text ⟨identityOf "provider" identity⟩ input.parsed.nodes =
      .ok replacement)
    (hloses : (stored.getD .empty).LosesReference ⟨identityOf "provider" identity⟩ replacement) :
    Refuses (fun c => c.answer.identity = some identity)
      (decideUnderGate errors .commit (decideImport env input)) stored := by
  refine refuses_decideUnderGate fun c hc => ?_
  rw [decideImport]
  refine error_of_bind fun base hbase => ?_
  obtain ⟨-, hbase⟩ := ok_seq.mp hbase
  cases hbase
  rw [hc]
  refine error_of_bind fun drawn hdrawn => ?_
  cases hdrawn
  refine error_of_bind fun _ _ => error_of_bind fun time _ => ?_
  exact error_first (replacement_error (applyProviderReplacement_refuses (s := stored.getD .empty) rfl
    (fun pool hpool => ⟨pool, List.mem_append_left _ hpool, rfl, rfl⟩) hnormal hloses))

theorem update_refuses {id : String} {snapshot : UpdateSnapshot} {body : String}
    {metadata : SubscriptionHttpMetadata} {profile : Option UInt32} {same : Bool}
    {parsed : ParseResult} {attemptedAt : Option UInt64}
    (hnormal : normalizeNodes env.text snapshot.providerId parsed.nodes = .ok replacement)
    (hloses : s.LosesReference snapshot.providerId replacement) :
    Refuses (fun _ => True) (decideUnderGate errors .commit (decideUpdate env id snapshot
      (.modified body metadata profile same) (some parsed) attemptedAt)) (some s) := by
  refine refuses_decideUnderGate fun c _ => ?_
  have hrefused : ∃ e, updateContent env.text id snapshot (.modified body metadata profile same)
      (some parsed) s = .error e :=
    replacement_error (applyProviderReplacement_refuses rfl
      (fun pool hpool => ⟨pool, hpool, rfl, rfl⟩) hnormal hloses)
  have hcandidate : ∃ e, updateCandidate env.text id snapshot
      (.modified body metadata profile same) (some parsed) s = .error e :=
    error_of_bind fun _ _ => error_of_bind fun _ _ => hrefused
  refine error_of_bind fun current hcurrent => ?_
  cases hcurrent
  exact error_first hcandidate

theorem edit_refuses {baseline : AppState} {id : String} {edited : Subscription}
    {replaced : EditReplacement} {provider : Provider}
    (hprovider : s.providers.find? (·.subscriptionId = edited.id) = some provider)
    (hnormal : normalizeNodes env.text provider.id replaced.parsed.nodes = .ok replacement)
    (hloses : s.LosesReference provider.id replacement) :
    Refuses (fun _ => True) (decideUnderGate errors .commit
      (decideEdit env baseline id edited (some replaced))) (some s) := by
  refine refuses_decideUnderGate fun c _ => ?_
  have hpools : KeepsPools s (editCandidate id edited provider.id s) := by
    intro pool hpool
    refine ⟨_, List.mem_map_of_mem hpool, ?_, ?_⟩ <;> split <;> rfl
  have hrefused : ∃ e, editContent env.text id provider.id (editCandidate id edited provider.id s)
      (some replaced) = .error e :=
    replacement_error (applyProviderReplacement_refuses (s := s) rfl hpools hnormal hloses)
  have hcommit : ∃ e, commitEdit env.text baseline id edited (some replaced) s = .error e := by
    refine error_of_bind fun _ _ => error_of_bind fun found hfound => ?_
    rw [hprovider] at hfound
    cases hfound
    exact error_first hrefused
  refine error_of_bind fun current hcurrent => ?_
  cases hcurrent
  exact error_first hcommit

/-- Every body that the worker reads of an edited document would lose a reference. -/
def DocumentLoses (env : SubscriptionEnv) (input : DocumentSaveInput) (s : AppState) : Prop :=
  ∀ worker parsed sub p, parseDocumentInput env worker input = .ok parsed →
    s.subscription? input.id = some sub → s.soleProvider sub.id = some p →
    ∃ replacement, normalizeNodes env.text p parsed.nodes = .ok replacement ∧
      s.LosesReference p replacement

theorem documentSaveOn_refuses {input : DocumentSaveInput} {worker : Option DocumentErrorCode}
    {parsed : ParseResult} (hparsed : parseDocumentInput env worker input = .ok parsed)
    (hloses : DocumentLoses env input s) : ∃ e, documentSaveOn env input parsed s = .error e := by
  refine error_of_bind fun sub hsub => error_of_bind fun existing _ => error_of_bind fun _ _ => ?_
  dsimp only
  refine error_of_bind fun p hp => ?_
  obtain ⟨replacement, hnormal, hloses⟩ :=
    hloses worker parsed sub p hparsed (okOr_eq_ok.mp hsub) (okOr_eq_ok.mp hp)
  exact replacement_error (applyProviderReplacement_refuses (s := s) rfl
    (fun pool hpool => ⟨pool, hpool, rfl, rfl⟩) hnormal hloses)

/-- A document save whose nodes would lose a reference never gets to its commit. -/
theorem document_refuses {input : DocumentSaveInput} (hloses : DocumentLoses env input s) :
    Refuses (fun _ => True) (saveDocument env input) (some s) := by
  refine leaves_underRuntimeGuard (fun _ => ⟨⟨_, rfl⟩, rfl⟩) (leaves_except (leaves_answer
    fun c _ => ?_))
  refine leaves_except (leaves_liftM ?_)
  cases hparsed : parseDocumentInput env c.answer.worker input with
  | error e => exact ⟨⟨e, rfl⟩, rfl⟩
  | ok parsed =>
    refine leaves_beginWriteOwned (fun _ => ⟨⟨_, rfl⟩, rfl⟩) (leaves_except
      (leaves_decideUnderGate (fun _ e _ => ⟨⟨e, rfl⟩, rfl⟩) fun _ _ => ?_))
    obtain ⟨e, he⟩ := documentSaveOn_refuses hparsed hloses
    change (Bind.bind (liftM (documentSaveOn env input parsed s) : Attempt _ _) _).run.Leaves _ _ _
    rw [he]
    exact leaves_except (leaves_liftM ⟨⟨e, rfl⟩, rfl⟩)

end SubscriptionManager

/-! ## The service -/

/-- `ProviderReplacementService`: the state in memory, and the one on disk. -/
structure ProviderReplacementService where
  state : AppState
  stored : Option AppState

/-- The errors of `ProviderReplacementService::replace`. -/
inductive ReplaceError
  | replacement (error : ProviderReplacementError)
  | store

/-- `ProviderReplacementService::replace`; whether the store saves is up to the disk. -/
def ProviderReplacementService.replace (text : JsonText) (p : ProviderId) (parsed : ParseResult)
    (saves : Bool) (service : ProviderReplacementService) :
    Except ReplaceError Unit × ProviderReplacementService :=
  match applyProviderReplacement text service.state p parsed with
  | .error e => (.error (.replacement e), service)
  | .ok (candidate, _) =>
    if saves then (.ok (), ⟨candidate, some candidate⟩) else (.error .store, service)

/-! ## Every replacement -/

open SubscriptionManager in
/-- Who would lose a reference of a state by a replacement returns an error and persists nothing. -/
structure CallersRefuse (env : SubscriptionEnv) (s : AppState) : Prop where
  imported : ∀ (input : ImportCommit) (identity : List UInt8) (replacement : List ProxyNode),
    normalizeNodes env.text ⟨identityOf "provider" identity⟩ input.parsed.nodes = .ok replacement →
    s.LosesReference ⟨identityOf "provider" identity⟩ replacement →
    Refuses (fun c => c.answer.identity = some identity)
      (decideUnderGate errors .commit (decideImport env input)) (some s)
  updated : ∀ (id : String) (snapshot : UpdateSnapshot) (body : String)
    (metadata : SubscriptionHttpMetadata) (profile : Option UInt32) (same : Bool)
    (parsed : ParseResult) (attemptedAt : Option UInt64) (replacement : List ProxyNode),
    normalizeNodes env.text snapshot.providerId parsed.nodes = .ok replacement →
    s.LosesReference snapshot.providerId replacement →
    Refuses (fun _ => True) (decideUnderGate errors .commit (decideUpdate env id snapshot
      (.modified body metadata profile same) (some parsed) attemptedAt)) (some s)
  edited : ∀ (baseline : AppState) (id : String) (edited : Subscription)
    (replaced : EditReplacement) (provider : Provider) (replacement : List ProxyNode),
    s.providers.find? (·.subscriptionId = edited.id) = some provider →
    normalizeNodes env.text provider.id replaced.parsed.nodes = .ok replacement →
    s.LosesReference provider.id replacement →
    Refuses (fun _ => True) (decideUnderGate errors .commit
      (decideEdit env baseline id edited (some replaced))) (some s)
  saved : ∀ input, DocumentLoses env input s →
    Refuses (fun _ => True) (saveDocument env input) (some s)
  replaced : ∀ (stored : Option AppState) (p : ProviderId) (parsed : ParseResult) (saves : Bool)
    (replacement : List ProxyNode), normalizeNodes env.text p parsed.nodes = .ok replacement →
    s.LosesReference p replacement →
    ∃ e, ProviderReplacementService.replace env.text p parsed saves ⟨s, stored⟩ =
      (.error (.replacement e), ⟨s, stored⟩)

theorem callersRefuse (env : SubscriptionEnv) (s : AppState) : CallersRefuse env s where
  imported _ _ _ hnormal hloses := SubscriptionManager.import_refuses hnormal hloses
  updated _ _ _ _ _ _ _ _ _ hnormal hloses := SubscriptionManager.update_refuses hnormal hloses
  edited _ _ _ _ _ _ hprovider hnormal hloses :=
    SubscriptionManager.edit_refuses hprovider hnormal hloses
  saved _ hloses := SubscriptionManager.document_refuses hloses
  replaced stored p parsed saves replacement hnormal hloses := by
    obtain ⟨e, he⟩ := applyProviderReplacement_refuses (s := s) rfl
      (fun pool hpool => ⟨pool, hpool, rfl, rfl⟩) hnormal hloses
    exact ⟨e, by rw [ProviderReplacementService.replace, he]⟩

/-- **Replacements.**  A replacement that succeeds changes the nodes of its provider and nothing
else, leaves a valid state, and tells whether those nodes differ.  One by which a pool, a selection
or a route would lose a node that it refers to fails, and every caller then returns an error and
persists nothing. -/
theorem replacement_framed (env : SubscriptionEnv) (s : AppState) (p : ProviderId)
    (parsed : ParseResult) :
    (∀ t changed, applyProviderReplacement env.text s p parsed = .ok (t, changed) →
      FramedReplacement p s t ∧ t.Valid ∧ (changed = true ↔ t.nodesOf p ≠ s.nodesOf p) ∧
      normalizeNodes env.text p parsed.nodes = .ok (t.nodesOf p)) ∧
    (∀ replacement, normalizeNodes env.text p parsed.nodes = .ok replacement →
      (∃ id, s.RefersTo id ∧ ∀ n ∈ (s.withNodesOf p replacement).nodes, n.id ≠ id) ∨
        s.LosesReference p replacement →
      ∃ e, applyProviderReplacement env.text s p parsed = .error e) ∧
    CallersRefuse env s := by
  refine ⟨fun t changed h => ?_, fun replacement hnormal hloses => ?_, callersRefuse env s⟩
  · obtain ⟨replacement, hnormal, rfl, hchanged, hvalid⟩ := applyProviderReplacement_ok h
    have hprovider := normalizeNodes_provider hnormal
    rw [nodesOf_withNodesOf_self hprovider]
    exact ⟨framedReplacement hprovider, hvalid, hchanged.trans ne_comm, hnormal⟩
  · have hlost : s.LosesReference p replacement := by
      cases hloses with
      | inl hgone =>
        obtain ⟨id, hrefers, hgone⟩ := hgone
        exact losesReference_of_gone hrefers hgone
      | inr hlost => exact hlost
    exact applyProviderReplacement_refuses rfl (fun pool hpool => ⟨pool, hpool, rfl, rfl⟩) hnormal
      hlost

/-- The state with the node of `b` selected by hand. -/
def selectedState : AppState :=
  { poolState with
    pools := poolState.pools.map fun pool =>
      if pool.kind = .custom then { pool with selection := .manual (some nodeB.id) } else pool }

/-- The node of `b` cannot be replaced while a pool has it selected. -/
theorem replacement_framed_selected :
    selectedState.Valid ∧
    ∃ e, applyProviderReplacement linkEnv.text selectedState ⟨"provider-02"⟩ (linkParsed "c") =
      .error e := by
  have hvalid : selectedState.Valid := AppState.validate_eq_ok.mp (by decide +kernel)
  have hnormal : normalizeNodes linkEnv.text ⟨"provider-02"⟩ (linkParsed "c").nodes =
      .ok [nodeC] := by decide +kernel
  have hrefers : selectedState.RefersTo nodeB.id := by
    refine ⟨selectedState.pools.getLast (by decide), List.getLast_mem _, .inl ?_⟩
    decide +kernel
  exact ⟨hvalid, (replacement_framed linkEnv selectedState ⟨"provider-02"⟩ (linkParsed "c")).2.1
    [nodeC] hnormal (.inl ⟨nodeB.id, hrefers, by decide +kernel⟩)⟩

end Veyra
