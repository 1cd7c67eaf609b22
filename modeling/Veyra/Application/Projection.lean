import Veyra.Domain.Validation
import Mathlib.Data.Prod.Lex

/-!
# Veyra.Application.Projection

`project_selected_runtime`: what the active subscription, the enabled pools
and the routes make the sidecar run.  The loop over the pools and its growing
set of nodes are followed as the source has them; `content_eq` then says what
they compute, without the loop.
-/

namespace Veyra

open Check

inductive SelectionProjectionError
  | selectionRequired
  | notFound
  | selectionConflict
  | configurationFailed
deriving DecidableEq, Repr

structure SelectedRuntimeProjection where
  runtimeIntent : RuntimeIntent
  projectedDefaultTarget : RouteTarget
  selectedSubscriptionId : SubscriptionId
  selectedGeneration : UInt64
deriving DecidableEq, Repr

def runtimePoolPrefix : String := "runtime-active-"

/-- The pool that stands for the selected subscription. -/
def implicitPoolId (id : SubscriptionId) : PoolId := ⟨runtimePoolPrefix ++ id.val⟩

/-- `sorted_node_ids` of a set that is kept as a list. -/
def sortedNodeIds (ids : List NodeId) : List NodeId := Sorted.sortDedup (·.val) ids

/-! ## Pools -/

/-- A pool with the sources that count: an implicit pool keeps those of the selected
providers. -/
def NodePool.restricted (selected : List ProviderId) (pool : NodePool) : NodePool :=
  match pool.kind with
  | .implicitProvider =>
    { pool with sources := pool.sources.filter (selected.contains ·.providerId) }
  | .custom => pool

/-- A manual selection outside the members. -/
def SelectionPolicy.isOutside (members : List NodeId) : SelectionPolicy → Bool
  | .manual (some id) => !members.contains id
  | _ => false

/-- The body of the loop over the enabled pools; `none` when the pool is passed over. -/
def projectPool (s : AppState) (selected : List ProviderId) (nodeIds : List NodeId)
    (pool : NodePool) : Except SelectionProjectionError (Option RuntimePool) :=
  let filtered := pool.restricted selected
  if filtered.sources.isEmpty then .ok none
  else
    let members := (s.resolvePoolMembers filtered).filter fun id =>
      pool.kind = .custom || nodeIds.contains id
    if members.isEmpty || filtered.selection.isOutside members then .error .selectionConflict
    else .ok (some { id := filtered.id, members, selection := filtered.selection })

/-- The selected nodes after a pool: a custom pool adds its members. -/
def extendSelected (pool : NodePool) (projected : Option RuntimePool) (nodeIds : List NodeId) :
    List NodeId :=
  match pool.kind, projected with
  | .custom, some projected => nodeIds ++ projected.members
  | _, _ => nodeIds

/-- The loop over the enabled pools: the selected nodes and the pools of the runtime. -/
def projectPools (s : AppState) (selected : List ProviderId) :
    List NodeId → List NodePool → Except SelectionProjectionError (List NodeId × List RuntimePool)
  | nodeIds, [] => .ok (nodeIds, [])
  | nodeIds, pool :: rest => do
    let projected ← projectPool s selected nodeIds pool
    let (nodeIds, pools) ← projectPools s selected (extendSelected pool projected nodeIds) rest
    .ok (nodeIds, projected.toList ++ pools)

/-! ## Targets -/

/-- A target that is a pool outside the given ones. -/
def RouteTarget.isOutside (pools : List RuntimePool) : RouteTarget → Bool
  | .pool id => !pools.any (·.id = id)
  | _ => false

/-- A target that is a pool without members, or no pool of the given ones. -/
def RouteTarget.isEmptyIn (pools : List RuntimePool) : RouteTarget → Bool
  | .pool id => (pools.find? (·.id = id)).all (·.members.isEmpty)
  | _ => false

/-- The default target of the runtime: an unconfigured one is the selected subscription. -/
def RouteTarget.projected (id : SubscriptionId) : RouteTarget → RouteTarget
  | .unconfigured => .pool (implicitPoolId id)
  | target => target

/-- The order of the routes: `(priority, id)`. -/
def RoutePolicy.key (r : RoutePolicy) : ℤ ×ₗ String := toLex (r.priority.toInt, r.id.val)

/-! ## The projection -/

/-- `project_selected_runtime`. -/
def projectSelectedRuntime (s : AppState) :
    Except SelectionProjectionError SelectedRuntimeProjection := do
  let id ← okOr s.activeSubscriptionId .selectionRequired
  reject (!s.subscriptions.any (·.id = id)) .notFound
  s.validate.mapError fun _ => .configurationFailed
  let selected := (s.providersOf id).map (·.id)
  reject selected.isEmpty .configurationFailed
  let nodes := s.nodes.filter (selected.contains ·.providerId)
  reject nodes.isEmpty .configurationFailed
  reject (s.pools.any (·.id = implicitPoolId id)) .selectionConflict
  let (nodeIds, pools) ← projectPools s selected (nodes.map (·.id)) (s.pools.filter (·.enabled))
  let pools := Sorted.sortBy (·.id.val)
    ({ id := implicitPoolId id, members := sortedNodeIds (nodes.map (·.id))
       selection := .manual none } :: pools)
  let routes := s.routes.filter (·.enabled)
  reject (routes.any (·.target.isOutside pools)) .selectionConflict
  reject (s.defaultTarget.isOutside pools) .selectionConflict
  reject ((s.defaultTarget.projected id).isEmptyIn pools) .configurationFailed
  .ok { runtimeIntent :=
          { nodes := Sorted.sortBy (·.id.val) (s.nodes.filter (nodeIds.contains ·.id))
            pools
            routes := Sorted.sortBy RoutePolicy.key routes }
        projectedDefaultTarget := s.defaultTarget.projected id
        selectedSubscriptionId := id
        selectedGeneration := s.activeConfigurationGeneration }

/-- Everything that runs: nodes, pools, routes and the default target. -/
def SelectedRuntimeProjection.content (p : SelectedRuntimeProjection) :
    RuntimeIntent × RouteTarget := (p.runtimeIntent, p.projectedDefaultTarget)

/-! ## What the loop computes -/

/-- A node that some source of the pool admits. -/
def NodePool.admits (pool : NodePool) (n : ProxyNode) : Bool := pool.sources.any (·.admits n)

/-- A node that an enabled custom pool admits. -/
def AppState.customAdmits (s : AppState) (n : ProxyNode) : Bool :=
  s.pools.any fun pool => pool.enabled && decide (pool.kind = .custom) && pool.admits n

/-- The pool of the runtime that an enabled pool becomes, if it has sources that count. -/
def runtimePool (s : AppState) (selected : List ProviderId) (pool : NodePool) :
    Option RuntimePool :=
  let filtered := pool.restricted selected
  if filtered.sources.isEmpty then none
  else some { id := pool.id, members := s.resolvePoolMembers filtered, selection := pool.selection }

/-- What runs when a subscription is selected, as a function of the state. -/
def AppState.selectedContent (s : AppState) (id : SubscriptionId) : RuntimeIntent × RouteTarget :=
  let selected := (s.providersOf id).map (·.id)
  let implicit : RuntimePool :=
    { id := implicitPoolId id
      members := sortedNodeIds ((s.nodes.filter (selected.contains ·.providerId)).map (·.id))
      selection := .manual none }
  ({ nodes := Sorted.sortBy (·.id.val)
       (s.nodes.filter fun n => selected.contains n.providerId || s.customAdmits n)
     pools := Sorted.sortBy (·.id.val)
       (implicit :: (s.pools.filter (·.enabled)).filterMap (runtimePool s selected))
     routes := Sorted.sortBy RoutePolicy.key (s.routes.filter (·.enabled)) },
   s.defaultTarget.projected id)

theorem mem_resolvePoolMembers {s : AppState} {pool : NodePool} {id : NodeId} :
    id ∈ s.resolvePoolMembers pool ↔ ∃ n ∈ s.nodes, pool.admits n = true ∧ n.id = id := by
  simp only [AppState.resolvePoolMembers, Sorted.mem_sortDedup, List.mem_flatMap, List.mem_map,
    List.mem_filter, NodePool.admits, List.any_eq_true]
  constructor
  · rintro ⟨src, hsrc, n, ⟨hn, hadmits⟩, hid⟩
    exact ⟨n, hn, ⟨src, hsrc, hadmits⟩, hid⟩
  · rintro ⟨n, hn, ⟨src, hsrc, hadmits⟩, hid⟩
    exact ⟨src, hsrc, n, ⟨hn, hadmits⟩, hid⟩

/-- What a restricted implicit pool admits belongs to the selected providers. -/
theorem restricted_admits {selected : List ProviderId} {pool : NodePool} {n : ProxyNode}
    (hkind : pool.kind = .implicitProvider) (h : (pool.restricted selected).admits n = true) :
    n.providerId ∈ selected := by
  rw [NodePool.restricted, hkind, NodePool.admits, List.any_eq_true] at h
  obtain ⟨src, hsrc, hadmits⟩ := h
  rw [PoolSource.admits, Bool.and_eq_true, decide_eq_true_eq] at hadmits
  rw [hadmits.1]
  simpa using (List.mem_filter.mp hsrc).2

/-- One pool of the loop, when the nodes of the selected providers are selected. -/
theorem projectPool_ok {s : AppState} {selected : List ProviderId} {nodeIds : List NodeId}
    {pool : NodePool} {projected : Option RuntimePool}
    (hids : ∀ n ∈ s.nodes, n.providerId ∈ selected → n.id ∈ nodeIds)
    (h : projectPool s selected nodeIds pool = .ok projected) :
    projected = runtimePool s selected pool := by
  have hmembers : (s.resolvePoolMembers (pool.restricted selected)).filter
      (fun id => pool.kind = .custom || nodeIds.contains id) =
      s.resolvePoolMembers (pool.restricted selected) := by
    rw [List.filter_eq_self]
    intro id hid
    obtain ⟨n, hn, hadmits, hnid⟩ := mem_resolvePoolMembers.mp hid
    cases hkind : pool.kind with
    | custom => rfl
    | implicitProvider =>
      have hmem := hids n hn (restricted_admits hkind hadmits)
      simpa [← hnid] using hmem
  have hid : (pool.restricted selected).id = pool.id := by
    rw [NodePool.restricted]
    split <;> rfl
  have hselection : (pool.restricted selected).selection = pool.selection := by
    rw [NodePool.restricted]
    split <;> rfl
  simp only [projectPool, hmembers, hid, hselection] at h
  rw [runtimePool]
  split at h
  · next hempty =>
    cases h
    rw [if_pos hempty]
  · next hsources =>
    rw [if_neg hsources]
    split at h
    · cases h
    · cases h
      rfl

/-- The nodes that a pool adds to the selected ones. -/
theorem mem_extendSelected {s : AppState} {selected : List ProviderId} {nodeIds : List NodeId}
    {pool : NodePool} {id : NodeId} :
    id ∈ extendSelected pool (runtimePool s selected pool) nodeIds ↔
      id ∈ nodeIds ∨ (pool.kind = .custom ∧ id ∈ s.resolvePoolMembers pool) := by
  cases hkind : pool.kind with
  | implicitProvider => simp [extendSelected, hkind]
  | custom =>
    have hrestricted : pool.restricted selected = pool := by rw [NodePool.restricted, hkind]
    by_cases hempty : pool.sources = []
    · simp [extendSelected, hkind, runtimePool, hrestricted, hempty, mem_resolvePoolMembers,
        NodePool.admits]
    · simp [extendSelected, hkind, runtimePool, hrestricted, hempty]

/-- The loop turns every pool into its pool of the runtime and collects the members of the
custom ones. -/
theorem projectPools_ok {s : AppState} {selected : List ProviderId} {pools : List NodePool}
    {nodeIds nodeIds' : List NodeId} {projected : List RuntimePool}
    (hids : ∀ n ∈ s.nodes, n.providerId ∈ selected → n.id ∈ nodeIds)
    (h : projectPools s selected nodeIds pools = .ok (nodeIds', projected)) :
    projected = pools.filterMap (runtimePool s selected) ∧
    ∀ id, id ∈ nodeIds' ↔ id ∈ nodeIds ∨
      ∃ pool ∈ pools, pool.kind = .custom ∧ id ∈ s.resolvePoolMembers pool := by
  induction pools generalizing nodeIds projected with
  | nil =>
    rw [projectPools] at h
    cases h
    simp
  | cons pool rest ih =>
    obtain ⟨first, hfirst, h⟩ := ok_bind.mp h
    obtain ⟨⟨ids, others⟩, hothers, h⟩ := ok_bind.mp h
    cases h
    have hfirst := projectPool_ok hids hfirst
    subst hfirst
    have hgrown : ∀ n ∈ s.nodes, n.providerId ∈ selected →
        n.id ∈ extendSelected pool (runtimePool s selected pool) nodeIds :=
      fun n hn hselected => mem_extendSelected.mpr (.inl (hids n hn hselected))
    obtain ⟨hprojected, hcollected⟩ := ih hgrown hothers
    constructor
    · rw [hprojected, List.filterMap_cons]
      cases runtimePool s selected pool <;> rfl
    · intro id
      rw [hcollected, mem_extendSelected]
      simp only [List.mem_cons, exists_eq_or_imp, or_assoc]

/-- The selected node ids select the nodes of the selected providers and those that a custom
pool admits. -/
theorem selected_iff {s : AppState} (hs : s.Valid) {selected : List ProviderId} {n : ProxyNode}
    (hn : n ∈ s.nodes) :
    (n.id ∈ (s.nodes.filter (selected.contains ·.providerId)).map (·.id) ∨
      ∃ pool ∈ s.pools.filter (·.enabled), pool.kind = .custom ∧
        n.id ∈ s.resolvePoolMembers pool) ↔
    (selected.contains n.providerId || s.customAdmits n) = true := by
  have hinj : ∀ m ∈ s.nodes, m.id = n.id → m = n := fun m hm hid =>
    List.inj_on_of_nodup_map hs.nodup_nodes hm hn (congrArg NodeId.val hid)
  rw [Bool.or_eq_true, AppState.customAdmits, List.any_eq_true]
  apply or_congr
  · rw [List.mem_map]
    constructor
    · rintro ⟨m, hm, hid⟩
      obtain ⟨hmem, hselected⟩ := List.mem_filter.mp hm
      exact hinj m hmem hid ▸ hselected
    · intro hselected
      exact ⟨n, List.mem_filter.mpr ⟨hn, hselected⟩, rfl⟩
  · apply exists_congr
    intro pool
    rw [List.mem_filter, mem_resolvePoolMembers]
    simp only [Bool.and_eq_true, decide_eq_true_eq, and_assoc]
    refine and_congr_right fun _ => and_congr_right fun _ => and_congr_right fun _ => ?_
    constructor
    · rintro ⟨m, hm, hadmits, hid⟩
      exact hinj m hm hid ▸ hadmits
    · intro hadmits
      exact ⟨n, hn, hadmits, rfl⟩

/-- **Spec.**  A successful projection is of a valid state, and its content is that of the
selected subscription. -/
theorem projectSelectedRuntime_ok {s : AppState} {p : SelectedRuntimeProjection}
    (h : projectSelectedRuntime s = .ok p) :
    s.Valid ∧ s.activeSubscriptionId = some p.selectedSubscriptionId ∧
    p.selectedGeneration = s.activeConfigurationGeneration ∧
    p.content = s.selectedContent p.selectedSubscriptionId := by
  obtain ⟨id, hid, h⟩ := ok_bind.mp h
  obtain ⟨-, h⟩ := ok_seq.mp h
  obtain ⟨hvalid, h⟩ := ok_seq.mp h
  obtain ⟨-, h⟩ := ok_seq.mp h
  obtain ⟨-, h⟩ := ok_seq.mp h
  obtain ⟨-, h⟩ := ok_seq.mp h
  obtain ⟨⟨nodeIds, pools⟩, hpools, h⟩ := ok_bind.mp h
  obtain ⟨-, h⟩ := ok_seq.mp h
  obtain ⟨-, h⟩ := ok_seq.mp h
  obtain ⟨-, h⟩ := ok_seq.mp h
  cases h
  have hvalid := AppState.validate_eq_ok.mp (mapError_eq_ok.mp hvalid)
  have hids : ∀ n ∈ s.nodes, n.providerId ∈ (s.providersOf id).map (·.id) →
      n.id ∈ (s.nodes.filter (((s.providersOf id).map (·.id)).contains ·.providerId)).map (·.id) :=
    fun n hn hselected => List.mem_map_of_mem
      (List.mem_filter.mpr ⟨hn, List.contains_iff_mem.mpr hselected⟩)
  obtain ⟨hprojected, hcollected⟩ := projectPools_ok hids hpools
  have hnodes : s.nodes.filter (nodeIds.contains ·.id) = s.nodes.filter fun n =>
      ((s.providersOf id).map (·.id)).contains n.providerId || s.customAdmits n := by
    apply List.filter_congr
    intro n hn
    rw [Bool.eq_iff_iff, List.contains_iff_mem, hcollected, selected_iff hvalid hn]
  refine ⟨hvalid, okOr_eq_ok.mp hid, rfl, ?_⟩
  rw [SelectedRuntimeProjection.content, AppState.selectedContent, hprojected, hnodes]

end Veyra
