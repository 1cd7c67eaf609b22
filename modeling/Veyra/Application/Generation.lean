import Veyra.Application.CommitEffect
import Veyra.Application.ProxyRouting
import Veyra.Application.ActivationRequest
import Mathlib.Logic.Relation

/-!
# Veyra.Application.Generation

The generation of the active configuration as a version of what runs.  A
commit that leaves the generation alone leaves the projection alone, with one
exception: an operation that replaces the nodes of a subscription that is not
active, while an enabled custom pool draws on them.
-/

namespace Veyra

open Check

/-! ## What the projection depends on -/

/-- The enabled pools that have sources left, without their names. -/
def AppState.livePools (s : AppState) (selected : List ProviderId) : List NodePool :=
  ((s.pools.filter (·.enabled)).map (·.shape)).filter fun pool =>
    !(pool.restricted selected).sources.isEmpty

theorem restricted_shape (pool : NodePool) (selected : List ProviderId) :
    (pool.shape.restricted selected).sources = (pool.restricted selected).sources := by
  cases pool with
  | mk id name kind sources selection enabled => cases kind <;> rfl

/-- The members of a pool depend on its sources alone. -/
theorem resolvePoolMembers_sources {s : AppState} {pool pool' : NodePool}
    (h : pool.sources = pool'.sources) :
    s.resolvePoolMembers pool = s.resolvePoolMembers pool' := by
  rw [AppState.resolvePoolMembers, h, AppState.resolvePoolMembers]

/-- The name of a pool does not run. -/
theorem runtimePool_shape (s : AppState) (selected : List ProviderId) (pool : NodePool) :
    runtimePool s selected pool.shape = runtimePool s selected pool := by
  rw [runtimePool, runtimePool]
  simp only [restricted_shape, resolvePoolMembers_sources (restricted_shape pool selected)]
  rfl

/-- The pools that run are those of the live pools. -/
theorem filterMap_runtimePool (s : AppState) (selected : List ProviderId) :
    (s.pools.filter (·.enabled)).filterMap (runtimePool s selected) =
      (s.livePools selected).filterMap (runtimePool s selected) := by
  have hlive : ∀ pools : List NodePool,
      (pools.filter fun pool => !(pool.restricted selected).sources.isEmpty).filterMap
        (runtimePool s selected) = pools.filterMap (runtimePool s selected) := by
    intro pools
    rw [List.filterMap_filter]
    apply List.filterMap_congr
    intro pool _
    by_cases hempty : (pool.restricted selected).sources.isEmpty = true
    · rw [if_neg (by simp [hempty]), runtimePool, if_pos hempty]
    · rw [if_pos (by simp [hempty])]
  rw [AppState.livePools, hlive, List.filterMap_map]
  apply List.filterMap_congr
  intro pool _
  exact (runtimePool_shape s selected pool).symm

/-- A pool that admits a node of its own runs. -/
theorem customAdmits_iff {s : AppState} {selected : List ProviderId} {n : ProxyNode} :
    s.customAdmits n = true ↔
      ∃ pool ∈ s.livePools selected, pool.kind = .custom ∧ pool.admits n = true := by
  rw [AppState.customAdmits, List.any_eq_true]
  constructor
  · rintro ⟨pool, hmem, hpool⟩
    simp only [Bool.and_eq_true, decide_eq_true_eq] at hpool
    obtain ⟨⟨henabled, hkind⟩, hadmits⟩ := hpool
    refine ⟨pool.shape, List.mem_filter.mpr ⟨List.mem_map_of_mem
      (List.mem_filter.mpr ⟨hmem, henabled⟩), ?_⟩, hkind, hadmits⟩
    rw [restricted_shape, NodePool.restricted, hkind]
    rw [NodePool.admits, List.any_eq_true] at hadmits
    obtain ⟨src, hsrc, -⟩ := hadmits
    simp [List.ne_nil_of_mem hsrc]
  · rintro ⟨live, hlive, hkind, hadmits⟩
    obtain ⟨pool, hpool, rfl⟩ := List.mem_map.mp (List.mem_filter.mp hlive).1
    obtain ⟨hmem, henabled⟩ := List.mem_filter.mp hpool
    refine ⟨pool, hmem, ?_⟩
    have hkind : pool.kind = .custom := hkind
    have hadmits : pool.admits n = true := hadmits
    simp [henabled, hkind, hadmits]

/-- What a custom pool admits belongs to a provider of the state. -/
theorem source_of_customAdmits {s : AppState} (hs : s.Valid) {n : ProxyNode}
    (h : s.customAdmits n = true) : ∃ r ∈ s.providers, r.id = n.providerId := by
  rw [AppState.customAdmits, List.any_eq_true] at h
  obtain ⟨pool, hpool, h⟩ := h
  simp only [Bool.and_eq_true, NodePool.admits, List.any_eq_true] at h
  obtain ⟨-, src, hsrc, hadmits⟩ := h
  obtain ⟨-, hvalid⟩ := ok_seq.mp (hs.pools pool hpool)
  obtain ⟨hsources, -⟩ := ok_seq.mp hvalid
  obtain ⟨hprovider, -⟩ := ok_seq.mp (each_eq_ok.mp hsources src hsrc)
  simp only [reject_eq_ok, Bool.not_eq_false', List.any_eq_true, decide_eq_true_eq] at hprovider
  obtain ⟨r, hr, hid⟩ := hprovider
  rw [PoolSource.admits, Bool.and_eq_true, decide_eq_true_eq] at hadmits
  exact ⟨r, hr, hid.trans hadmits.1.symm⟩

/-- A node that runs when the providers are selected. -/
def AppState.runs (s : AppState) (selected : List ProviderId) (n : ProxyNode) : Bool :=
  selected.contains n.providerId || s.customAdmits n

/-- What a live pool admits runs. -/
theorem runs_of_admits {s : AppState} {selected : List ProviderId} {pool : NodePool}
    {n : ProxyNode} (hpool : pool ∈ s.livePools selected)
    (h : (pool.restricted selected).admits n = true) : s.runs selected n = true := by
  rw [AppState.runs, Bool.or_eq_true]
  cases hkind : pool.kind with
  | implicitProvider =>
    exact .inl (List.contains_iff_mem.mpr (restricted_admits hkind h))
  | custom =>
    rw [NodePool.restricted, hkind] at h
    exact .inr (customAdmits_iff.mpr ⟨pool, hpool, hkind, h⟩)

/-- **Frame.**  The content depends on the selected providers, the live pools, the nodes
that run, the routes and the default target. -/
theorem selectedContent_congr {s t : AppState} {id : SubscriptionId}
    (hs : s.Valid) (ht : t.Valid)
    (hproviders : (t.providersOf id).map (·.id) = (s.providersOf id).map (·.id))
    (hpools : t.livePools ((s.providersOf id).map (·.id)) =
      s.livePools ((s.providersOf id).map (·.id)))
    (hnodes : ∀ n, s.runs ((s.providersOf id).map (·.id)) n = true → (n ∈ t.nodes ↔ n ∈ s.nodes))
    (hroutes : t.routes = s.routes) (htarget : t.defaultTarget = s.defaultTarget) :
    t.selectedContent id = s.selectedContent id := by
  generalize hselected : (s.providersOf id).map (·.id) = selected at *
  have hcustom : ∀ n, t.customAdmits n = s.customAdmits n := by
    intro n
    have hlive : ∀ u : AppState, u.customAdmits n = true ↔
        ∃ pool ∈ u.livePools selected, pool.kind = .custom ∧ pool.admits n = true :=
      fun u => customAdmits_iff
    rw [Bool.eq_iff_iff, hlive, hlive, hpools]
  have hruns : (fun n : ProxyNode => selected.contains n.providerId || t.customAdmits n) =
      fun n => selected.contains n.providerId || s.customAdmits n := by
    funext n
    rw [hcustom]
  have hinj : ∀ u : AppState, u.Valid → ∀ p : ProxyNode → Bool, ∀ a ∈ u.nodes.filter p,
      ∀ b ∈ u.nodes.filter p, a.id.val = b.id.val → a = b := by
    intro u hu p a ha b hb hid
    exact List.inj_on_of_nodup_map hu.nodup_nodes (List.mem_filter.mp ha).1
      (List.mem_filter.mp hb).1 hid
  have hsorted : Sorted.sortBy (fun n : ProxyNode => n.id.val)
      (t.nodes.filter fun n => selected.contains n.providerId || s.customAdmits n) =
      Sorted.sortBy (fun n : ProxyNode => n.id.val)
      (s.nodes.filter fun n => selected.contains n.providerId || s.customAdmits n) := by
    refine Sorted.sortBy_eq_of_mem (List.Nodup.filter _ ht.nodup_nodes.of_map)
      (List.Nodup.filter _ hs.nodup_nodes.of_map) (fun n => ?_) (hinj t ht _)
    rw [List.mem_filter, List.mem_filter]
    exact and_congr_left (hnodes n)
  have hmembers : sortedNodeIds ((t.nodes.filter (selected.contains ·.providerId)).map (·.id)) =
      sortedNodeIds ((s.nodes.filter (selected.contains ·.providerId)).map (·.id)) := by
    apply Sorted.sortDedup_eq_of_mem nodeId_val_injective
    intro nodeId
    simp only [List.mem_map, List.mem_filter]
    apply exists_congr
    intro n
    refine and_congr_left fun _ => and_congr_left fun hmem => hnodes n ?_
    rw [AppState.runs, hmem, Bool.true_or]
  have hruntime : (t.livePools selected).filterMap (runtimePool t selected) =
      (s.livePools selected).filterMap (runtimePool s selected) := by
    rw [hpools]
    apply List.filterMap_congr
    intro pool hpool
    have hresolved : t.resolvePoolMembers (pool.restricted selected) =
        s.resolvePoolMembers (pool.restricted selected) := by
      apply Sorted.sortDedup_eq_of_mem nodeId_val_injective
      intro nodeId
      have hmem := @mem_resolvePoolMembers
      simp only [AppState.resolvePoolMembers, Sorted.mem_sortDedup] at hmem
      rw [hmem, hmem]
      apply exists_congr
      intro n
      constructor
      · rintro ⟨hn, hadmits, hid⟩
        exact ⟨(hnodes n (runs_of_admits hpool hadmits)).mp hn, hadmits, hid⟩
      · rintro ⟨hn, hadmits, hid⟩
        exact ⟨(hnodes n (runs_of_admits hpool hadmits)).mpr hn, hadmits, hid⟩
    simp only [runtimePool, hresolved]
  rw [AppState.selectedContent, AppState.selectedContent]
  simp only [hproviders, hselected, hruns, hsorted, hmembers, filterMap_runtimePool, hruntime,
    hroutes, htarget]

/-- The selected nodes are those that run. -/
theorem mem_selectedContent {s : AppState} {id : SubscriptionId} {n : ProxyNode} :
    n ∈ (s.selectedContent id).1.nodes ↔
      n ∈ s.nodes ∧ s.runs ((s.providersOf id).map (·.id)) n = true := by
  rw [AppState.selectedContent]
  simp only [Sorted.mem_sortBy, List.mem_filter, AppState.runs]

/-! ## What the effects do to it -/

variable {env : SubscriptionEnv} {s t : AppState} {active : SubscriptionId}

/-- A pool that counts: enabled, with a source that counts. -/
def NodePool.isLive (selected : List ProviderId) (pool : NodePool) : Bool :=
  pool.enabled && !(pool.restricted selected).sources.isEmpty

/-- The live pools are shown by their shapes. -/
theorem livePools_eq (s : AppState) (selected : List ProviderId) :
    s.livePools selected = (s.pools.filter (·.isLive selected)).map (·.shape) := by
  rw [AppState.livePools, List.filter_map, List.filter_filter]
  congr 1
  apply List.filter_congr
  intro pool _
  rw [Function.comp, restricted_shape, NodePool.isLive, Bool.and_comm]

/-- Names of pools do not matter. -/
theorem livePools_congr (h : t.pools.map (·.shape) = s.pools.map (·.shape))
    (selected : List ProviderId) : t.livePools selected = s.livePools selected := by
  have hmap : ∀ u : AppState, u.livePools selected =
      (u.pools.map (·.shape)).filter (·.isLive selected) := by
    intro u
    rw [livePools_eq, List.filter_map]
    congr 1
    apply List.filter_congr
    intro pool _
    rw [Function.comp, NodePool.isLive, NodePool.isLive, restricted_shape]
    rfl
  rw [hmap, hmap, h]

/-- Where the content stays, the selected content does. -/
theorem ContentKept.content (hs : s.Valid) (ht : t.Valid) (h : ContentKept s t) :
    t.selectedContent active = s.selectedContent active :=
  selectedContent_congr hs ht (providerIds_congr h.frame.providers)
    (livePools_congr h.frame.pools _) (fun n _ => by rw [h.nodes]) h.frame.routes
    h.frame.defaultTarget

/-- An enabled custom pool sees the swap of the nodes of a provider: it admits a node that is
in only one of the two lists. -/
def AppState.SeesSwap (s : AppState) (p : ProviderId) (replacement : List ProxyNode) : Prop :=
  ∃ n, s.customAdmits n = true ∧ ¬(n ∈ s.nodesOf p ↔ n ∈ replacement)

theorem mem_nodesOf {p : ProviderId} {n : ProxyNode} :
    n ∈ s.nodesOf p ↔ n ∈ s.nodes ∧ n.providerId = p := by
  simp [AppState.nodesOf]

/-- A swap that puts the same nodes back, or that no pool sees, does not reach what runs. -/
theorem Swapped.content {id : SubscriptionId} {p : ProviderId} {replacement : List ProxyNode}
    {document : Option SubscriptionDocument} (hs : s.Valid) (ht : t.Valid)
    (h : Swapped env id p replacement document s t)
    (hunseen : ∀ n, s.runs ((s.providersOf active).map (·.id)) n = true →
      (n ∈ s.nodesOf p ↔ n ∈ replacement)) :
    t.selectedContent active = s.selectedContent active := by
  refine selectedContent_congr hs ht (providerIds_congr h.frame.providers)
    (livePools_congr h.frame.pools _) (fun n hruns => ?_) h.frame.routes h.frame.defaultTarget
  rw [h.nodes, mem_withNodesOf, ← hunseen n hruns, mem_nodesOf]
  by_cases hp : n.providerId = p
  · simp [hp]
  · simp [hp]

/-- The provider of a subscription that is not active is not selected. -/
theorem not_selected {id : SubscriptionId} {p : ProviderId} (hs : s.Valid)
    (hsole : s.soleProvider id = some p) (hid : id ≠ active) :
    p ∉ (s.providersOf active).map (·.id) := by
  obtain ⟨r, hr, hrid, howner⟩ := soleProvider_mem hsole
  rw [← hrid]
  exact providerId_not_mem hs hr (howner ▸ hid)

/-- A swap of a subscription that is not active reaches what runs exactly when a pool
sees it. -/
theorem Swapped.content_iff {id : SubscriptionId} {p : ProviderId} {replacement : List ProxyNode}
    {document : Option SubscriptionDocument} (hs : s.Valid) (ht : t.Valid)
    (h : Swapped env id p replacement document s t) (hid : id ≠ active) :
    t.selectedContent active = s.selectedContent active ↔ ¬s.SeesSwap p replacement := by
  have hselected := not_selected hs h.sole hid
  have hprovider := h.origin.provider
  constructor
  · rintro heq ⟨n, hadmits, hdiffers⟩
    apply hdiffers
    have hmem : n ∈ t.nodes ↔ n ∈ s.nodes := by
      have hsame := congrArg (fun content => n ∈ content.1.nodes) heq
      have hpools := livePools_congr h.frame.pools ((s.providersOf active).map (·.id))
      have hadmitted : t.customAdmits n = true := by
        rw [customAdmits_iff, hpools]
        exact customAdmits_iff.mp hadmits
      simpa [mem_selectedContent, AppState.runs, hadmits, hadmitted] using hsame
    rw [h.nodes, mem_withNodesOf] at hmem
    constructor
    · intro hold
      have hold := mem_nodesOf.mp hold
      cases hmem.mpr hold.1 with
      | inl hother => exact absurd hold.2 hother.2
      | inr hnew => exact hnew
    · intro hnew
      exact mem_nodesOf.mpr ⟨hmem.mp (.inr hnew), hprovider n hnew⟩
  · intro hunseen
    refine h.content hs ht fun n hruns => ?_
    rw [AppState.runs, Bool.or_eq_true] at hruns
    cases hruns with
    | inl hmine =>
      -- a node of the selected subscription is in neither list
      have hne : n.providerId ≠ p := by
        intro hp
        exact hselected (hp ▸ List.contains_iff_mem.mp hmine)
      constructor
      · intro hold
        exact absurd (mem_nodesOf.mp hold).2 hne
      · intro hnew
        exact absurd (hprovider n hnew) hne
    | inr hcustom =>
      by_contra hdiffers
      exact hunseen ⟨n, hcustom, hdiffers⟩

/-- An import adds nothing to what is selected. -/
theorem Imported.content {sub : Subscription} {provider : Provider} {pool : NodePool}
    {replacement : List ProxyNode} (hs : s.Valid) (ht : t.Valid)
    (h : Imported env sub provider pool replacement s t)
    (hactive : ∃ old ∈ s.subscriptions, old.id = active) :
    t.selectedContent active = s.selectedContent active := by
  obtain ⟨old, hold, holdId⟩ := hactive
  have hid : active ≠ sub.id := holdId ▸ h.new ht old hold
  have hselected : provider.id ∉ (s.providersOf active).map (·.id) := by
    intro hmem
    obtain ⟨r, hr, heq⟩ := List.mem_map.mp hmem
    exact h.fresh r (List.mem_filter.mp hr).1 heq
  have hprovider := h.origin.provider
  refine selectedContent_congr hs ht (by rw [h.providersOf hid]) ?_ (fun n hruns => ?_) h.routes
    h.defaultTarget
  · -- the new implicit pool draws on no selected provider
    have hdead : pool.isLive ((s.providersOf active).map (·.id)) = false := by
      rw [NodePool.isLive, NodePool.restricted, h.implicit]
      simp only [h.sources, List.filter_cons, List.filter_nil]
      rw [if_neg (by simpa using hselected)]
      simp
    rw [livePools_eq, livePools_eq, h.pools, List.filter_append]
    simp [hdead]
  · -- nothing that runs belongs to the new provider
    have hne : n.providerId ≠ provider.id := by
      intro hp
      rw [AppState.runs, Bool.or_eq_true] at hruns
      cases hruns with
      | inl hmine => exact hselected (hp ▸ List.contains_iff_mem.mp hmine)
      | inr hcustom =>
        obtain ⟨src, hsrc, hsame⟩ := source_of_customAdmits hs hcustom
        exact h.fresh src hsrc (hsame.trans hp)
    rw [h.nodes, mem_withNodesOf]
    constructor
    · intro hmem
      cases hmem with
      | inl hold => exact hold.1
      | inr hnew => exact absurd (hprovider n hnew) hne
    · exact fun hmem => .inl ⟨hmem, hne⟩

/-- An owned pool is an implicit one that draws on the given providers alone. -/
theorem of_mem_ownedPoolIds (hs : s.Valid) {providerIds : List ProviderId} {pool : NodePool}
    (hpool : pool ∈ s.pools) (h : pool.id ∈ ownedPoolIds providerIds s) :
    pool.kind = .implicitProvider ∧ ∀ src ∈ pool.sources, src.providerId ∈ providerIds := by
  obtain ⟨owned, howned, hid⟩ := List.mem_map.mp h
  obtain ⟨hmem, hkind⟩ := List.mem_filter.mp howned
  have heq := List.inj_on_of_nodup_map hs.nodup_pools hmem hpool (congrArg PoolId.val hid)
  rw [heq, decide_eq_true_eq] at hkind
  exact ⟨hkind.1, hkind.2.2⟩

/-- A deletion of another subscription removes nothing from it. -/
theorem Deleted.content {id : SubscriptionId} (hs : s.Valid) (ht : t.Valid) (h : Deleted id s t)
    (hid : active ≠ id) : t.selectedContent active = s.selectedContent active := by
  have hselected : ∀ p ∈ (s.providersOf active).map (·.id), p ∉ (s.providersOf id).map (·.id) := by
    intro p hp
    obtain ⟨r, hr, hrid⟩ := List.mem_map.mp hp
    rw [AppState.providersOf, List.mem_filter, decide_eq_true_eq] at hr
    rw [← hrid]
    exact providerId_not_mem hs hr.1 (hr.2.symm ▸ hid)
  refine selectedContent_congr hs ht (by rw [h.providersOf hs hid]) ?_ (fun n hruns => ?_)
    h.routes h.defaultTarget
  · rw [livePools_eq, livePools_eq, h.pools, List.filter_filter]
    congr 1
    apply List.filter_congr
    intro pool hpool
    by_cases howned : pool.id ∈ ownedPoolIds ((s.providersOf id).map (·.id)) s
    · -- an owned pool is dead: its sources are not selected
      obtain ⟨hkind, hsources⟩ := of_mem_ownedPoolIds hs hpool howned
      have hdead : (pool.restricted ((s.providersOf active).map (·.id))).sources = [] := by
        rw [NodePool.restricted, hkind, List.filter_eq_nil_iff]
        intro src hsrc hmine
        exact hselected _ (List.contains_iff_mem.mp hmine) (hsources src hsrc)
      simp [NodePool.isLive, hdead]
    · simp [howned]
  · have hkept : n.providerId ∉ (s.providersOf id).map (·.id) := by
      rw [AppState.runs, Bool.or_eq_true] at hruns
      cases hruns with
      | inl hmine => exact hselected _ (List.contains_iff_mem.mp hmine)
      | inr hcustom =>
        rw [AppState.customAdmits, List.any_eq_true] at hcustom
        obtain ⟨pool, hpool, hcustom⟩ := hcustom
        simp only [Bool.and_eq_true, decide_eq_true_eq, NodePool.admits, List.any_eq_true]
          at hcustom
        obtain ⟨⟨-, hkind⟩, src, hsrc, hadmits⟩ := hcustom
        have howned : pool.id ∉ ownedPoolIds ((s.providersOf id).map (·.id)) s := by
          intro hmem
          rw [(of_mem_ownedPoolIds hs hpool hmem).1] at hkind
          cases hkind
        have hunreferenced := h.unreferenced
        simp only [stillReferenced, Bool.or_eq_false_iff, List.any_eq_false, Bool.and_eq_true,
          Bool.not_eq_true', List.contains_eq_mem, decide_eq_false_iff_not, decide_eq_true_eq,
          List.any_eq_true] at hunreferenced
        rw [PoolSource.admits, Bool.and_eq_true, decide_eq_true_eq] at hadmits
        rw [hadmits.1]
        intro hgone
        exact hunreferenced.1.1 pool hpool ⟨howned, src, hsrc, hgone⟩
    rw [h.nodes, List.mem_filter]
    simp only [hkept, not_false_eq_true, decide_true, and_true]

/-! ## Every commit -/

/-- The operations of the two managers. -/
inductive ManagerOperation
  | subscription (op : SubscriptionOperation)
  | mutation (routing : ProxyRouting.Env) (request : ProxyRouting.MutateRequest)

/-- An operation saves `after` over the loaded state. -/
def ManagerOperation.Commits (env : SubscriptionEnv) (current : Option AppState)
    (after : AppState) : ManagerOperation → Prop
  | .subscription op => SubscriptionCommit env op current after
  | .mutation routing request =>
    ProxyRouting.MutationCommit routing request (current.getD .empty) after

/-- A selection by hand, which the running selector follows without a new configuration. -/
def ManagerOperation.selectsManually : ManagerOperation → Bool
  | .subscription _ => false
  | .mutation _ request => request.mutation.isManual

/-- The operation replaces the nodes of a subscription that is not active, and an enabled
custom pool sees it. -/
def ManagerOperation.SwapsUnderPool (env : SubscriptionEnv) (s : AppState) :
    ManagerOperation → Prop
  | .subscription op => ∃ id drafts p replacement, op.replaces env = some (id, drafts) ∧
      s.activeSubscriptionId ≠ some ⟨id⟩ ∧ s.soleProvider ⟨id⟩ = some p ∧
      normalizeNodes env.text p drafts = .ok replacement ∧ s.SeesSwap p replacement
  | .mutation .. => False

/-- **Step.**  With the same active subscription before and after, a commit raises the
generation, or keeps it and keeps what runs unless it swaps nodes under a pool. -/
theorem SubscriptionCommit.content {op : SubscriptionOperation} {current : Option AppState}
    (hcurrent : ∀ s, current = some s → s.Valid)
    (h : SubscriptionCommit env op current t)
    (hactive : (current.getD .empty).activeSubscriptionId = some active)
    (hsame : t.activeSubscriptionId = some active) :
    (current.getD .empty).activeConfigurationGeneration ≤ t.activeConfigurationGeneration ∧
    ((t.selectedContent active ≠ (current.getD .empty).selectedContent active →
      (current.getD .empty).activeConfigurationGeneration < t.activeConfigurationGeneration) ↔
      ¬(ManagerOperation.subscription op).SwapsUnderPool env (current.getD .empty)) := by
  obtain ⟨ht, heffect⟩ := h.effect hcurrent
  have hs : (current.getD .empty).Valid := by
    cases current with
    | none => exact AppState.validate_eq_ok.mp rfl
    | some s => exact hcurrent s rfl
  generalize current.getD .empty = s at *
  cases heffect with
  | imported content effect =>
    have hkeeps := effect.content hs ht (hs.active active hactive)
    simp [ManagerOperation.SwapsUnderPool, content, hkeeps, effect.generation]
  | kept content effect =>
    have hkeeps : t.selectedContent active = s.selectedContent active := effect.content hs ht
    simp [ManagerOperation.SwapsUnderPool, content, hkeeps, effect.generation]
  | deleted content effect =>
    rename_i id
    have hid : active ≠ id := by
      intro heq
      rw [effect.stops (heq ▸ hactive)] at hsame
      cases hsame
    have hother : s.activeSubscriptionId ≠ some id := by
      rw [hactive]
      simpa using hid
    have hkeeps := effect.content hs ht hid
    simp [ManagerOperation.SwapsUnderPool, content, hkeeps, (effect.active hother).2]
  | replaced content normalized effect =>
    rename_i id p drafts replacement document
    refine ⟨effect.monotone, ?_⟩
    have hswaps : (ManagerOperation.subscription op).SwapsUnderPool env s ↔
        active ≠ ⟨id⟩ ∧ s.SeesSwap p replacement := by
      constructor
      · rintro ⟨id', drafts', p', replacement', hcontent, hother, hsole, hnormalize, hsees⟩
        rw [content] at hcontent
        cases hcontent
        rw [effect.sole] at hsole
        cases hsole
        rw [normalized] at hnormalize
        cases hnormalize
        rw [hactive] at hother
        exact ⟨by simpa using hother, hsees⟩
      · rintro ⟨hother, hsees⟩
        exact ⟨id, drafts, p, replacement, content, by rw [hactive]; simpa using hother,
          effect.sole, normalized, hsees⟩
    rw [hswaps]
    by_cases hid : active = ⟨id⟩
    · -- the active subscription: the generation follows its nodes
      have hraised := effect.raised (hid ▸ hactive)
      simp only [hid, ne_eq, not_true_eq_false, false_and, not_false_eq_true, iff_true]
      intro hdiffers
      apply hraised
      intro hnodes
      refine hdiffers (effect.content hs ht fun n _ => ?_)
      rw [hnodes]
    · have hidle := effect.idle (by rw [hactive]; simpa using hid)
      rw [hidle]
      simp only [ne_eq, hid, not_false_eq_true, true_and]
      rw [← effect.content_iff hs ht (Ne.symm hid)]
      simp

/-- **Step.**  The same for the operations of both managers, except a selection by hand. -/
theorem ManagerOperation.content {op : ManagerOperation} {current : Option AppState}
    (hcurrent : ∀ s, current = some s → s.Valid) (h : op.Commits env current t)
    (hmanual : op.selectsManually = false)
    (hactive : (current.getD .empty).activeSubscriptionId = some active)
    (hsame : t.activeSubscriptionId = some active) :
    (current.getD .empty).activeConfigurationGeneration ≤ t.activeConfigurationGeneration ∧
    ((t.selectedContent active ≠ (current.getD .empty).selectedContent active →
      (current.getD .empty).activeConfigurationGeneration < t.activeConfigurationGeneration) ↔
      ¬op.SwapsUnderPool env (current.getD .empty)) := by
  cases op with
  | subscription op => exact SubscriptionCommit.content hcurrent h hactive hsame
  | mutation routing request =>
    obtain ⟨committed⟩ := h
    obtain ⟨-, -, -, hmonotone, hraised⟩ := ProxyRouting.mutate_save committed
    have hraised := hraised hmanual
    simp [ManagerOperation.SwapsUnderPool, hmonotone, hraised]

/-! ## Runs -/

/-- One save: by an operation of a manager, or by an activation. -/
inductive ManagerStep (env : SubscriptionEnv) : Option AppState → Option AppState → Prop
  | operation {op : ManagerOperation} {current : Option AppState} {after : AppState}
      (commit : op.Commits env current after) : ManagerStep env current (some after)
  | activation {before after : AppState} (commit : ActivationCommit before after) :
      ManagerStep env (some before) (some after)

/-- Every save is of a valid state. -/
theorem ManagerStep.valid {current : Option AppState} {next : Option AppState}
    (hcurrent : ∀ s, current = some s → s.Valid) (h : ManagerStep env current next) :
    ∀ s, next = some s → s.Valid := by
  intro s hs
  cases h with
  | operation commit =>
    rename_i op after
    cases hs
    cases op with
    | subscription op => exact (SubscriptionCommit.effect hcurrent commit).1
    | mutation routing request =>
      obtain ⟨committed⟩ := commit
      exact (ProxyRouting.mutate_save committed).2.1
  | activation commit =>
    cases hs
    exact commit.valid

/-- **Run lemma.**  Every state that is reached is valid. -/
theorem valid_of_managerRun {start current : Option AppState}
    (hstart : ∀ s, start = some s → s.Valid)
    (hrun : Relation.ReflTransGen (ManagerStep env) start current) :
    ∀ s, current = some s → s.Valid := by
  induction hrun with
  | refl => exact hstart
  | tail _ hstep ih => exact hstep.valid ih

/-- A commit under the active subscription that selects nothing by hand and swaps nothing
under a pool. -/
def NoticedStep (env : SubscriptionEnv) (current next : Option AppState) : Prop :=
  ∃ op after, ManagerOperation.Commits env current after op ∧ op.selectsManually = false ∧
    ¬op.SwapsUnderPool env (current.getD .empty) ∧
    after.activeSubscriptionId = (current.getD .empty).activeSubscriptionId ∧ next = some after

/-- **Run.**  Along such commits the generation never falls, and equal generations mean equal
content. -/
theorem content_of_noticedRun {current next : Option AppState}
    (hcurrent : ∀ s, current = some s → s.Valid)
    (hactive : (current.getD .empty).activeSubscriptionId = some active)
    (hrun : Relation.ReflTransGen (NoticedStep env) current next) :
    (∀ s, next = some s → s.Valid) ∧
    (next.getD .empty).activeSubscriptionId = some active ∧
    (current.getD .empty).activeConfigurationGeneration ≤
      (next.getD .empty).activeConfigurationGeneration ∧
    ((next.getD .empty).activeConfigurationGeneration =
      (current.getD .empty).activeConfigurationGeneration →
      (next.getD .empty).selectedContent active = (current.getD .empty).selectedContent active) := by
  induction hrun with
  | refl => exact ⟨hcurrent, hactive, UInt64.le_refl _, fun _ => rfl⟩
  | tail _ hstep ih =>
    rename_i middle last _
    obtain ⟨op, after, hcommit, hmanual, hunswapped, hkeeps, hlast⟩ := hstep
    obtain ⟨hvalid, hmiddle, hmonotone, hcontent⟩ := ih
    subst hlast
    have hafter : after.activeSubscriptionId = some active := hkeeps.trans hmiddle
    obtain ⟨hstep, hnoticed⟩ := op.content hvalid hcommit hmanual hmiddle hafter
    have hnoticed := hnoticed.mpr hunswapped
    refine ⟨(ManagerStep.operation hcommit).valid hvalid, hafter, UInt64.le_trans hmonotone hstep,
      fun hequal => ?_⟩
    rw [Option.getD_some] at hequal ⊢
    have hback := hequal ▸ hstep
    have hmiddleEqual := UInt64.le_antisymm hback hmonotone
    rw [← hcontent hmiddleEqual]
    by_contra hdiffers
    have hraised := hnoticed hdiffers
    rw [hequal, hmiddleEqual] at hraised
    exact UInt64.lt_irrefl _ hraised

/-- **Generations.**  In every state that the managers reach, a commit that keeps the active
subscription and selects nothing by hand raises the generation when the projection
changes, if and only if it does not swap nodes under an enabled custom pool; and along
commits that do not, equal generations mean that the same content runs. -/
theorem generation_versions_projection (env : SubscriptionEnv) (start current : Option AppState)
    (hstart : ∀ s, start = some s → s.Valid)
    (hrun : Relation.ReflTransGen (ManagerStep env) start current) :
    (∀ (op : ManagerOperation) (after : AppState) (a b : SelectedRuntimeProjection),
      op.Commits env current after → op.selectsManually = false →
      after.activeSubscriptionId = (current.getD .empty).activeSubscriptionId →
      projectSelectedRuntime (current.getD .empty) = .ok a →
      projectSelectedRuntime after = .ok b →
      ((b.content ≠ a.content → (current.getD .empty).activeConfigurationGeneration <
          after.activeConfigurationGeneration) ↔
        ¬op.SwapsUnderPool env (current.getD .empty))) ∧
    (∀ (next : Option AppState) (a b : SelectedRuntimeProjection),
      Relation.ReflTransGen (NoticedStep env) current next →
      projectSelectedRuntime (current.getD .empty) = .ok a →
      projectSelectedRuntime (next.getD .empty) = .ok b →
      b.selectedGeneration = a.selectedGeneration → b.content = a.content) := by
  have hvalid := valid_of_managerRun hstart hrun
  constructor
  · intro op after a b hcommit hmanual hkeeps ha hb
    obtain ⟨-, hactive, -, hcontent⟩ := projectSelectedRuntime_ok ha
    obtain ⟨-, hafter, -, hcontent'⟩ := projectSelectedRuntime_ok hb
    have hid : b.selectedSubscriptionId = a.selectedSubscriptionId := by
      rw [hkeeps, hactive] at hafter
      exact (Option.some.inj hafter).symm
    rw [hcontent, hcontent', hid]
    exact (op.content hvalid hcommit hmanual hactive (hid ▸ hafter)).2
  · intro next a b hnoticed ha hb hgeneration
    obtain ⟨-, hactive, hold, hcontent⟩ := projectSelectedRuntime_ok ha
    obtain ⟨-, hafter, hnew, hcontent'⟩ := projectSelectedRuntime_ok hb
    obtain ⟨-, hkeeps, -, hsame⟩ := content_of_noticedRun hvalid hactive hnoticed
    have hid : b.selectedSubscriptionId = a.selectedSubscriptionId := by
      rw [hkeeps] at hafter
      exact (Option.some.inj hafter).symm
    rw [hcontent, hcontent', hid]
    exact hsame (by rw [← hnew, ← hold, hgeneration])

/-! ### A swap under a pool -/

/-- The share link of a SOCKS node. -/
def socksLink (name : String) : String :=
  String.ofList ("socks5://".toList ++ name.toList ++ ".example:1080#".toList ++ name.toList)

/-- The text of such a node's connection, after what stands in front of its server. -/
def socksText (front server : String) : String :=
  String.ofList (front.toList ++ server.toList ++
    "\",1080,\x7b\"kind\":\"socks\",\"version\":5,\"username\":null,\"password\":null\x7d,\"tcp\",null]".toList)

/-- Such a link as YAML: a plain string. -/
def readLink (text : String) : Option Json :=
  if Text.startsWith text "socks5://" then some (.str text) else none

/-- An environment for such links, which are YAML strings and no JSON. -/
def linkEnv : SubscriptionEnv where
  readers := ⟨fun _ => none, readLink, readLink⟩
  text := ⟨fun
    | .arr (.str "veyra-node-v3" :: .str "socks" :: .str server :: _) =>
      socksText "[\"veyra-node-v3\",\"socks\",\"" server
    | .arr (.str "socks" :: .str server :: _) => socksText "[\"socks\",\"" server
    | _ => ""⟩
  validateSourceUrl := fun _ => false
  revisionFor := fun _ _ => ""

def linkDraft (name : String) : ProxyNodeDraft :=
  { name, protocol := .socks, server := String.ofList (name.toList ++ ".example".toList)
    port := 1080, options := .socks 5 none none, transport := some .tcp, tls := none }

/-- The node of such a draft. -/
def linkNode (id provider name : String) : ProxyNode :=
  { id := ⟨id⟩, providerId := ⟨provider⟩, name, protocol := .socks
    server := String.ofList (name.toList ++ ".example".toList), port := 1080
    options := .socks 5 none none, transport := some .tcp, tls := none }

def nodeA : ProxyNode := linkNode "node-ff909c9903652a12" "provider-01" "a"
def nodeB : ProxyNode := linkNode "node-4f1a6b80dc567e8c" "provider-02" "b"
def nodeC : ProxyNode := linkNode "node-ecceb89c7b049a0d" "provider-02" "c"

def linkParsed (name : String) : ParseResult :=
  { format := .uriList, nodes := [linkDraft name], skipped := [] }

def linkImport (name : String) : ImportCommit :=
  { name, description := "", source := .manual, remoteRequest := none, updatePolicy := .manual
    parsed := linkParsed name, document := none, httpMetadata := none
    expectedInitiallyEmpty := none }

/-- The state after the import of `a`. -/
def firstState : AppState :=
  { importCandidate (linkImport "a") [1] 1000 .empty with nodes := [nodeA] }

/-- The state after the import of `b`. -/
def secondState : AppState :=
  { importCandidate (linkImport "b") [2] 2000 firstState with nodes := [nodeA, nodeB] }

/-- The state once `a` is active. -/
def activeState : AppState :=
  { secondState with
    activeSubscriptionId := some ⟨"sub-01"⟩
    activeConfigurationGeneration := 1 }

theorem activeState_valid : activeState.Valid := AppState.validate_eq_ok.mp (by decide +kernel)

/-- The state with a custom pool over the nodes of `b`. -/
def poolState : AppState :=
  { activeState with
    activeConfigurationGeneration := 2
    pools := activeState.pools ++ [{ id := ⟨"pool-03"⟩, name := "all", kind := .custom
                                     sources := [⟨⟨"provider-02"⟩, .default⟩]
                                     selection := .manual none, enabled := true }] }

/-- The state after the node of `b` became another one. -/
def swappedState : AppState :=
  { poolState with
    nodes := [nodeA, nodeC]
    subscriptions := modifyFirst (·.id.val = "sub-02") (Subscription.succeededAt 3000)
      poolState.subscriptions }

/-- The first import. -/
theorem linkImport_taken :
    prepareManualImport linkEnv "a" "" (socksLink "a") = .ok (linkImport "a") ∧
    commitImport linkEnv.text (linkImport "a") [1] 1000 none = .ok firstState := by
  constructor
  · decide +kernel
  · decide +kernel

theorem reaches_poolState :
    Relation.ReflTransGen (ManagerStep linkEnv) none (some poolState) := by
  have hpreparedB : prepareManualImport linkEnv "b" "" (socksLink "b") = .ok (linkImport "b") := by
    decide +kernel
  have hcommittedB : commitImport linkEnv.text (linkImport "b") [2] 2000 (some firstState) =
      .ok secondState := by decide +kernel
  have hactivated : (planActivation "sub-01" false none secondState >>= fun plan =>
      commitActivation plan secondState) = .ok (some activeState) := by decide +kernel
  have hmutated : ProxyRouting.mutate ⟨fun _ => none, some [3]⟩ ⟨0, none⟩
      ⟨1, .createCustomPool "all" true [⟨"provider-02", ⟨[], [], [], [], [], []⟩⟩] (.manual none)⟩
      activeState = .ok (⟨1, some (.of activeState)⟩, .save poolState .saved) := by
    decide +kernel
  obtain ⟨plan, hplan, hcommit⟩ := ok_bind.mp hactivated
  have hfirst : ManagerStep linkEnv none (some firstState) :=
    @ManagerStep.operation _ (.subscription _) _ _
      (SubscriptionCommit.importManual linkImport_taken.1 linkImport_taken.2)
  have hsecond : ManagerStep linkEnv (some firstState) (some secondState) :=
    @ManagerStep.operation _ (.subscription _) _ _
      (SubscriptionCommit.importManual hpreparedB hcommittedB)
  have hthird : ManagerStep linkEnv (some secondState) (some activeState) :=
    .activation ⟨hplan, hcommit⟩
  have hfourth : ManagerStep linkEnv (some activeState) (some poolState) :=
    @ManagerStep.operation _ (.mutation _ _) _ _ (ProxyRouting.MutationCommit.mk hmutated)
  exact .tail (.tail (.tail (.single hfirst) hsecond) hthird) hfourth

/-- The answer to an update of `b` with another link. -/
def linkBody : FetchResult := .modified (socksLink "c") ⟨none, none, none, none⟩ none true

def swapUpdate : ManagerOperation := .subscription (.update "sub-02" linkBody 3000)

theorem swapUpdate_commits : swapUpdate.Commits linkEnv (some poolState) swappedState := by
  have hsnapshot : updateSnapshot poolState "sub-02" = .ok
      { subscriptionId := ⟨"sub-02"⟩, source := .manual, httpMetadata := none
        remoteRequest := none, updatePolicy := .manual, document := none
        providerId := ⟨"provider-02"⟩, nodes := [nodeB] } := by decide +kernel
  have hread : updateParsed linkEnv.toContentEnv linkBody = .ok (some (linkParsed "c")) := by
    decide +kernel
  have hcommitted : commitUpdate linkEnv.text "sub-02"
      { subscriptionId := ⟨"sub-02"⟩, source := .manual, httpMetadata := none
        remoteRequest := none, updatePolicy := .manual, document := none
        providerId := ⟨"provider-02"⟩, nodes := [nodeB] } linkBody (some (linkParsed "c")) 3000
      poolState = .ok (swappedState, true) := by decide +kernel
  have hanswered : updateFetched
      { subscriptionId := ⟨"sub-02"⟩, source := .manual, httpMetadata := none
        remoteRequest := none, updatePolicy := .manual, document := none
        providerId := ⟨"provider-02"⟩, nodes := [nodeB] } (some (socksLink "c")) false
      (.error .fetchFailed) = .ok linkBody := rfl
  exact SubscriptionCommit.update hsnapshot hanswered hread rfl hcommitted

theorem projection_swapped : ∃ a b, projectSelectedRuntime poolState = .ok a ∧
    projectSelectedRuntime swappedState = .ok b ∧ b.content ≠ a.content := by
  have hchecked : (projectSelectedRuntime poolState >>= fun a =>
      projectSelectedRuntime swappedState >>= fun b => .ok (decide (b.content ≠ a.content))) =
      .ok true := by decide +kernel
  obtain ⟨a, ha, hchecked⟩ := ok_bind.mp hchecked
  obtain ⟨b, hb, hchecked⟩ := ok_bind.mp hchecked
  exact ⟨a, b, ha, hb, by simpa using hchecked⟩

/-- The update of `b` changes what runs under `a` and leaves the generation at 2. -/
theorem swap_not_noticed :
    Relation.ReflTransGen (ManagerStep linkEnv) none (some poolState) ∧ poolState.Valid ∧
    swapUpdate.Commits linkEnv (some poolState) swappedState ∧
    swappedState.activeSubscriptionId = poolState.activeSubscriptionId ∧
    (∃ a b, projectSelectedRuntime poolState = .ok a ∧
      projectSelectedRuntime swappedState = .ok b ∧ b.content ≠ a.content) ∧
    ¬poolState.activeConfigurationGeneration < swappedState.activeConfigurationGeneration := by
  have hvalid := valid_of_managerRun (fun s hs => by cases hs) reaches_poolState
  exact ⟨reaches_poolState, hvalid poolState rfl, swapUpdate_commits, rfl, projection_swapped,
    by decide⟩

theorem generation_versions_projection_poolState :
    swapUpdate.SwapsUnderPool linkEnv poolState := by
  obtain ⟨hsteps, -⟩ := generation_versions_projection linkEnv none (some poolState)
    (fun s hs => by cases hs) reaches_poolState
  obtain ⟨a, b, ha, hb, hdiffers⟩ := projection_swapped
  have hiff := hsteps swapUpdate swappedState a b swapUpdate_commits rfl rfl ha hb
  by_contra hunswapped
  have hraised := hiff.mpr hunswapped hdiffers
  have hequal : ¬poolState.activeConfigurationGeneration <
      swappedState.activeConfigurationGeneration := by decide
  exact hequal hraised

end Veyra
