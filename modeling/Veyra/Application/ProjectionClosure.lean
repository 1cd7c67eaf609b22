import Veyra.Application.Projection

/-!
# Veyra.Application.ProjectionClosure

The projection of a subscription is its closure: the nodes of its providers
and the members of the enabled custom pools, with pools and targets that refer
to nothing else.

One reference is not closed: `AppState::validate` lets a route be unconfigured,
and the projection carries an enabled one along (`projection_closed_iff`).
-/

namespace Veyra

open Check

/-! ## What the projection has checked -/

/-- The checks that a successful projection passed, read off its result. -/
structure ProjectionChecks (s : AppState) (p : SelectedRuntimeProjection) : Prop where
  nodes : ∃ n ∈ s.nodes, n.providerId ∈ (s.providersOf p.selectedSubscriptionId).map (·.id)
  fresh : ∀ pool ∈ s.pools, pool.id ≠ implicitPoolId p.selectedSubscriptionId
  members : ∀ pool ∈ p.runtimeIntent.pools, pool.members ≠ []
  selections : ∀ pool ∈ p.runtimeIntent.pools, pool.selection.isOutside pool.members = false
  routes : ∀ r ∈ p.runtimeIntent.routes, r.target.isOutside p.runtimeIntent.pools = false
  defaultTarget : p.projectedDefaultTarget.isEmptyIn p.runtimeIntent.pools = false

theorem projectPool_checked {s : AppState} {selected : List ProviderId} {nodeIds : List NodeId}
    {pool : NodePool} {projected : RuntimePool}
    (h : projectPool s selected nodeIds pool = .ok (some projected)) :
    projected.members ≠ [] ∧ projected.selection.isOutside projected.members = false := by
  simp only [projectPool] at h
  split at h
  · cases h
  · split at h
    · cases h
    · next hbad =>
      cases h
      rw [Bool.or_eq_true, not_or, Bool.not_eq_true, Bool.not_eq_true] at hbad
      exact ⟨List.isEmpty_eq_false_iff.mp hbad.1, hbad.2⟩

theorem projectPools_checked {s : AppState} {selected : List ProviderId} {pools : List NodePool}
    {nodeIds nodeIds' : List NodeId} {projected : List RuntimePool}
    (h : projectPools s selected nodeIds pools = .ok (nodeIds', projected)) :
    ∀ pool ∈ projected, pool.members ≠ [] ∧ pool.selection.isOutside pool.members = false := by
  induction pools generalizing nodeIds projected with
  | nil =>
    rw [projectPools] at h
    cases h
    simp
  | cons pool rest ih =>
    obtain ⟨first, hfirst, h⟩ := ok_bind.mp h
    obtain ⟨⟨ids, others⟩, hothers, h⟩ := ok_bind.mp h
    cases h
    intro q hq
    rcases List.mem_append.mp hq with hq | hq
    · rw [Option.mem_toList] at hq
      rw [hq] at hfirst
      exact projectPool_checked hfirst
    · exact ih hothers q hq

/-- **Spec.**  What a successful projection has checked. -/
theorem projectSelectedRuntime_checked {s : AppState} {p : SelectedRuntimeProjection}
    (h : projectSelectedRuntime s = .ok p) : ProjectionChecks s p := by
  obtain ⟨id, -, h⟩ := ok_bind.mp h
  obtain ⟨-, h⟩ := ok_seq.mp h
  obtain ⟨-, h⟩ := ok_seq.mp h
  obtain ⟨-, h⟩ := ok_seq.mp h
  obtain ⟨hnodes, h⟩ := ok_seq.mp h
  obtain ⟨hfresh, h⟩ := ok_seq.mp h
  obtain ⟨⟨nodeIds, pools⟩, hpools, h⟩ := ok_bind.mp h
  obtain ⟨hroutes, h⟩ := ok_seq.mp h
  obtain ⟨-, h⟩ := ok_seq.mp h
  obtain ⟨hdefault, h⟩ := ok_seq.mp h
  cases h
  rw [reject_eq_ok] at hnodes hfresh hroutes hdefault
  obtain ⟨n, hn⟩ := List.exists_mem_of_ne_nil _ (List.isEmpty_eq_false_iff.mp hnodes)
  obtain ⟨hmem, howned⟩ := List.mem_filter.mp hn
  have himplicit : sortedNodeIds ((s.nodes.filter
      (((s.providersOf id).map (·.id)).contains ·.providerId)).map (·.id)) ≠ [] := by
    refine List.ne_nil_of_mem (?_ : n.id ∈ _)
    rw [sortedNodeIds, Sorted.mem_sortDedup]
    exact List.mem_map_of_mem hn
  exact {
    nodes := ⟨n, hmem, List.contains_iff_mem.mp howned⟩
    fresh := fun pool hpool => by simpa using List.any_eq_false.mp hfresh pool hpool
    members := by
      intro pool hpool
      rcases List.mem_cons.mp (Sorted.mem_sortBy.mp hpool) with rfl | hpool
      · exact himplicit
      · exact (projectPools_checked hpools pool hpool).1
    selections := by
      intro pool hpool
      rcases List.mem_cons.mp (Sorted.mem_sortBy.mp hpool) with rfl | hpool
      · rfl
      · exact (projectPools_checked hpools pool hpool).2
    routes := fun r hr => by
      simpa using List.any_eq_false.mp hroutes r (Sorted.mem_sortBy.mp hr)
    defaultTarget := hdefault }

/-! ## The closure -/

/-- The node belongs to a provider of the subscription. -/
def AppState.Owns (s : AppState) (id : SubscriptionId) (n : ProxyNode) : Prop :=
  ∃ provider ∈ s.providers, provider.subscriptionId = id ∧ provider.id = n.providerId

/-- An enabled custom pool has the node as a member. -/
def AppState.NamesInCustomPool (s : AppState) (n : ProxyNode) : Prop :=
  ∃ pool ∈ s.pools, pool.enabled = true ∧ pool.kind = .custom ∧ n.id ∈ s.resolvePoolMembers pool

/-- A target that the runtime has. -/
def RouteTarget.ExistsIn (pools : List RuntimePool) : RouteTarget → Prop
  | .pool id => ∃ pool ∈ pools, pool.id = id
  | .direct => True
  | .block => True
  | .unconfigured => False

/-- A projection that is exactly the closure of its subscription. -/
structure SelectedRuntimeProjection.Closed (s : AppState) (p : SelectedRuntimeProjection) :
    Prop where
  nodes : ∀ n, n ∈ p.runtimeIntent.nodes ↔
    n ∈ s.nodes ∧ (s.Owns p.selectedSubscriptionId n ∨ s.NamesInCustomPool n)
  sortedNodes : p.runtimeIntent.nodes.Pairwise fun m n => m.id.val < n.id.val
  implicit : ∃ pool ∈ p.runtimeIntent.pools, pool.id = implicitPoolId p.selectedSubscriptionId ∧
    ∀ id, id ∈ pool.members ↔ ∃ n ∈ s.nodes, s.Owns p.selectedSubscriptionId n ∧ n.id = id
  sortedPools : p.runtimeIntent.pools.Pairwise fun a b => a.id.val < b.id.val
  members : ∀ pool ∈ p.runtimeIntent.pools, pool.members ≠ [] ∧
    ∀ id ∈ pool.members, ∃ n ∈ p.runtimeIntent.nodes, n.id = id
  selections : ∀ pool ∈ p.runtimeIntent.pools, ∀ id, pool.selection = .manual (some id) →
    id ∈ pool.members
  routes : ∀ r ∈ p.runtimeIntent.routes, r.target.ExistsIn p.runtimeIntent.pools
  defaultTarget : p.projectedDefaultTarget.ExistsIn p.runtimeIntent.pools

theorem AppState.owns_iff {s : AppState} {id : SubscriptionId} {n : ProxyNode} :
    s.Owns id n ↔ n.providerId ∈ (s.providersOf id).map (·.id) := by
  simp only [AppState.Owns, AppState.providersOf, List.mem_map, List.mem_filter,
    decide_eq_true_eq, and_assoc]

/-- A custom pool admits a node exactly when the node is one of its members. -/
theorem AppState.Valid.mem_members_iff {s : AppState} (hs : s.Valid) {n : ProxyNode}
    (hn : n ∈ s.nodes) {pool : NodePool} :
    n.id ∈ s.resolvePoolMembers pool ↔ pool.admits n = true := by
  rw [mem_resolvePoolMembers]
  constructor
  · rintro ⟨m, hm, hadmits, hid⟩
    have hmn : m = n := List.inj_on_of_nodup_map hs.nodup_nodes hm hn (congrArg NodeId.val hid)
    exact hmn ▸ hadmits
  · intro hadmits
    exact ⟨n, hn, hadmits, rfl⟩

theorem AppState.Valid.customAdmits_iff {s : AppState} (hs : s.Valid) {n : ProxyNode}
    (hn : n ∈ s.nodes) : s.customAdmits n = true ↔ s.NamesInCustomPool n := by
  rw [AppState.customAdmits, List.any_eq_true, AppState.NamesInCustomPool]
  apply exists_congr
  intro pool
  rw [hs.mem_members_iff hn]
  simp only [Bool.and_eq_true, decide_eq_true_eq, and_assoc]

/-- The pools that a list of pools becomes have ids of the list, in its order. -/
theorem runtimePool_ids {s : AppState} {selected : List ProviderId} (pools : List NodePool) :
    ((pools.filterMap (runtimePool s selected)).map (·.id.val)).Sublist
      (pools.map (·.id.val)) := by
  induction pools with
  | nil => exact .slnil
  | cons pool rest ih =>
    rw [List.filterMap_cons]
    cases hpool : runtimePool s selected pool with
    | none => exact ih.cons _
    | some projected =>
      have hid : projected.id = pool.id := by
        simp only [runtimePool] at hpool
        split at hpool <;> cases hpool
        rfl
      rw [List.map_cons, List.map_cons, hid]
      exact ih.cons_cons _

/-- A target that is not outside of the pools exists in them, if it is configured. -/
theorem RouteTarget.existsIn_iff {pools : List RuntimePool} {target : RouteTarget}
    (h : target.isOutside pools = false) : target.ExistsIn pools ↔ target ≠ .unconfigured := by
  cases target with
  | pool id =>
    have hany : pools.any (·.id = id) = true := by simpa [RouteTarget.isOutside] using h
    obtain ⟨pool, hpool, hid⟩ := List.any_eq_true.mp hany
    simp only [RouteTarget.ExistsIn, ne_eq, reduceCtorEq, not_false_eq_true, iff_true]
    exact ⟨pool, hpool, by simpa using hid⟩
  | _ => simp [RouteTarget.ExistsIn]

/-- The default target of a projection exists in it. -/
theorem RouteTarget.projected_existsIn {pools : List RuntimePool} {target : RouteTarget}
    {id : SubscriptionId} (h : (target.projected id).isEmptyIn pools = false) :
    (target.projected id).ExistsIn pools := by
  have hpool : ∀ poolId, (RouteTarget.pool poolId).isEmptyIn pools = false →
      (RouteTarget.pool poolId).ExistsIn pools := by
    intro poolId hfound
    rw [RouteTarget.isEmptyIn] at hfound
    cases hfind : pools.find? (·.id = poolId) with
    | none =>
      rw [hfind] at hfound
      cases hfound
    | some pool =>
      exact ⟨pool, List.mem_of_find?_eq_some hfind, by simpa using List.find?_some hfind⟩
  cases target with
  | unconfigured => exact hpool _ h
  | pool poolId => exact hpool _ h
  | direct => trivial
  | block => trivial

/-! ## The parts of the closure -/

section Parts

variable {s : AppState} {p : SelectedRuntimeProjection} (h : projectSelectedRuntime s = .ok p)
include h

/-- The nodes, pools, routes and default target of a projection. -/
theorem projected_parts :
    p.runtimeIntent = (s.selectedContent p.selectedSubscriptionId).1 ∧
    p.projectedDefaultTarget = s.defaultTarget.projected p.selectedSubscriptionId := by
  obtain ⟨-, -, -, hcontent⟩ := projectSelectedRuntime_ok h
  exact ⟨congrArg Prod.fst hcontent, congrArg Prod.snd hcontent⟩

theorem mem_projected_nodes {n : ProxyNode} :
    n ∈ p.runtimeIntent.nodes ↔
      n ∈ s.nodes ∧ (s.Owns p.selectedSubscriptionId n ∨ s.NamesInCustomPool n) := by
  have hs := (projectSelectedRuntime_ok h).1
  rw [(projected_parts h).1, AppState.selectedContent]
  simp only [Sorted.mem_sortBy, List.mem_filter, Bool.or_eq_true, List.contains_iff_mem]
  refine and_congr_right fun hn => ?_
  rw [hs.customAdmits_iff hn, AppState.owns_iff]

theorem projected_nodes_sorted :
    p.runtimeIntent.nodes.Pairwise fun m n => m.id.val < n.id.val := by
  have hs := (projectSelectedRuntime_ok h).1
  rw [(projected_parts h).1, AppState.selectedContent]
  apply Sorted.pairwise_lt_sortBy
  exact (List.filter_sublist.map _).nodup hs.nodup_nodes

/-- The implicit pool holds the nodes of the subscription. -/
theorem projected_implicit :
    ∃ pool ∈ p.runtimeIntent.pools, pool.id = implicitPoolId p.selectedSubscriptionId ∧
      ∀ id, id ∈ pool.members ↔ ∃ n ∈ s.nodes, s.Owns p.selectedSubscriptionId n ∧ n.id = id := by
  rw [(projected_parts h).1, AppState.selectedContent]
  refine ⟨_, Sorted.mem_sortBy.mpr List.mem_cons_self, rfl, fun id => ?_⟩
  simp only [sortedNodeIds, Sorted.mem_sortDedup, List.mem_map, List.mem_filter,
    AppState.owns_iff, List.contains_iff_mem, and_assoc]

theorem projected_pools_sorted :
    p.runtimeIntent.pools.Pairwise fun a b => a.id.val < b.id.val := by
  have hs := (projectSelectedRuntime_ok h).1
  have hfresh := (projectSelectedRuntime_checked h).fresh
  rw [(projected_parts h).1, AppState.selectedContent]
  apply Sorted.pairwise_lt_sortBy
  have hsub : (((s.pools.filter (·.enabled)).filterMap
      (runtimePool s ((s.providersOf p.selectedSubscriptionId).map (·.id)))).map
      (·.id.val)).Sublist (s.pools.map (·.id.val)) :=
    (runtimePool_ids _).trans (List.filter_sublist.map _)
  rw [List.map_cons, List.nodup_cons]
  refine ⟨fun hmem => ?_, hsub.nodup hs.nodup_pools⟩
  obtain ⟨pool, hpool, hid⟩ := List.mem_map.mp (hsub.subset hmem)
  exact hfresh pool hpool (congrArg PoolId.mk hid)

/-- Every member of a projected pool is a projected node. -/
theorem projected_members {pool : RuntimePool} (hpool : pool ∈ p.runtimeIntent.pools)
    {id : NodeId} (hid : id ∈ pool.members) : ∃ n ∈ p.runtimeIntent.nodes, n.id = id := by
  rw [(projected_parts h).1, AppState.selectedContent] at hpool
  rcases List.mem_cons.mp (Sorted.mem_sortBy.mp hpool) with rfl | hpool
  · simp only [sortedNodeIds, Sorted.mem_sortDedup, List.mem_map, List.mem_filter,
      List.contains_iff_mem] at hid
    obtain ⟨n, ⟨hn, howned⟩, hnid⟩ := hid
    exact ⟨n, (mem_projected_nodes h).mpr ⟨hn, .inl (AppState.owns_iff.mpr (List.mem_map.mpr howned))⟩, hnid⟩
  · obtain ⟨source, hsource, hprojected⟩ := List.mem_filterMap.mp hpool
    obtain ⟨hmem, henabled⟩ := List.mem_filter.mp hsource
    simp only [runtimePool] at hprojected
    split at hprojected <;> cases hprojected
    obtain ⟨n, hn, hadmits, hnid⟩ := mem_resolvePoolMembers.mp hid
    refine ⟨n, (mem_projected_nodes h).mpr ⟨hn, ?_⟩, hnid⟩
    cases hkind : source.kind with
    | implicitProvider => exact .inl (AppState.owns_iff.mpr (restricted_admits hkind hadmits))
    | custom =>
      have hsame : source.restricted ((s.providersOf p.selectedSubscriptionId).map (·.id)) =
          source := by rw [NodePool.restricted, hkind]
      rw [hsame] at hid
      exact .inr ⟨source, hmem, henabled, hkind, hnid ▸ hid⟩

theorem projected_default :
    p.projectedDefaultTarget.ExistsIn p.runtimeIntent.pools := by
  have hdefault := (projectSelectedRuntime_checked h).defaultTarget
  rw [(projected_parts h).2] at hdefault ⊢
  exact RouteTarget.projected_existsIn hdefault

theorem mem_projected_routes {r : RoutePolicy} :
    r ∈ p.runtimeIntent.routes ↔ r ∈ s.routes ∧ r.enabled = true := by
  rw [(projected_parts h).1, AppState.selectedContent]
  simp

end Parts

/-- **The projection is the closure** of its subscription exactly when no enabled route is
unconfigured. -/
theorem projection_closed_iff (s : AppState) (p : SelectedRuntimeProjection)
    (h : projectSelectedRuntime s = .ok p) :
    p.Closed s ↔ ∀ r ∈ s.routes, r.enabled = true → r.target ≠ .unconfigured := by
  have hchecks := projectSelectedRuntime_checked h
  constructor
  · intro hclosed r hr henabled
    have hmem := (mem_projected_routes h).mpr ⟨hr, henabled⟩
    exact (RouteTarget.existsIn_iff (hchecks.routes r hmem)).mp (hclosed.routes r hmem)
  · intro hconfigured
    exact {
      nodes := fun n => mem_projected_nodes h
      sortedNodes := projected_nodes_sorted h
      implicit := projected_implicit h
      sortedPools := projected_pools_sorted h
      members := fun pool hpool =>
        ⟨hchecks.members pool hpool, fun id hid => projected_members h hpool hid⟩
      selections := by
        intro pool hpool id hselection
        have hinside := hchecks.selections pool hpool
        rw [hselection] at hinside
        simpa [SelectionPolicy.isOutside] using hinside
      routes := by
        intro r hr
        obtain ⟨hmem, henabled⟩ := (mem_projected_routes h).mp hr
        exact (RouteTarget.existsIn_iff (hchecks.routes r hr)).mpr (hconfigured r hmem henabled)
      defaultTarget := projected_default h }

/-- A state with one node, selected by its subscription, and one enabled route. -/
def routedState (target : RouteTarget) : AppState :=
  { AppState.empty with
    activeSubscriptionId := some ⟨"sub"⟩
    subscriptions := [{ id := ⟨"sub"⟩, name := "sub", description := "", source := .manual
                        lastSuccessAtMs := none, lastAttemptAtMs := none, httpMetadata := none
                        remoteRequest := none, updatePolicy := .manual
                        skippedUnsupportedNodes := 0, document := none }]
    providers := [⟨⟨"provider"⟩, ⟨"sub"⟩, "provider"⟩]
    nodes := [{ id := ⟨"node"⟩, providerId := ⟨"provider"⟩, name := "node", protocol := .socks
                server := "1.2.3.4", port := 1080, options := .socks 5 none none
                transport := none, tls := none }]
    routes := [{ id := ⟨"route"⟩, name := "route", enabled := true, priority := 0
                 matcher := .port [443], target }] }

/-- A valid state may have an unconfigured route, and its projection carries the route along. -/
theorem projection_not_closed :
    ∃ p, (routedState .unconfigured).validate = .ok () ∧
      projectSelectedRuntime (routedState .unconfigured) = .ok p ∧
      ¬ p.Closed (routedState .unconfigured) := by
  have hok : (projectSelectedRuntime (routedState .unconfigured)).isOk = true := by
    decide +kernel
  obtain ⟨p, hp⟩ := exists_ok hok
  refine ⟨p, by decide +kernel, hp, fun hclosed => ?_⟩
  have hroute := (mem_projected_routes hp).mpr ⟨List.mem_singleton.mpr rfl, rfl⟩
  exact hclosed.routes _ hroute

theorem projection_closed_iff_direct :
    ∃ p, projectSelectedRuntime (routedState .direct) = .ok p ∧ p.Closed (routedState .direct) := by
  have hok : (projectSelectedRuntime (routedState .direct)).isOk = true := by decide +kernel
  obtain ⟨p, hp⟩ := exists_ok hok
  refine ⟨p, hp, (projection_closed_iff (routedState .direct) p hp).mpr ?_⟩
  intro r hr _
  obtain rfl := List.mem_singleton.mp hr
  simp

end Veyra
