import Veyra.Application.Generation
import Veyra.Application.ProgramRuns

/-!
# Veyra.Application.Deletion

What `delete` removes, when it refuses to, and what it leaves on disk.

A subscription owns its providers, and the implicit pools that draw on them alone.
`AppState.DeletionConflicts` says what would be left dangling without them, and `Removed` what is
left when nothing would.
-/

namespace Veyra

open Check Gate Prog

/-- A provider of a subscription. -/
def AppState.OwnsProvider (s : AppState) (id : SubscriptionId) (p : ProviderId) : Prop :=
  ∃ r ∈ s.providers, r.subscriptionId = id ∧ r.id = p

/-- An implicit pool that draws on the providers of a subscription, and on nothing else. -/
def AppState.OwnsPool (s : AppState) (id : SubscriptionId) (pool : NodePool) : Prop :=
  pool.kind = .implicitProvider ∧ pool.sources ≠ [] ∧
    ∀ src ∈ pool.sources, s.OwnsProvider id src.providerId

instance (s : AppState) (id : SubscriptionId) (p : ProviderId) :
    Decidable (s.OwnsProvider id p) :=
  inferInstanceAs (Decidable (∃ r ∈ s.providers, r.subscriptionId = id ∧ r.id = p))

instance (s : AppState) (id : SubscriptionId) (pool : NodePool) : Decidable (s.OwnsPool id pool) :=
  inferInstanceAs (Decidable (_ ∧ _ ∧ ∀ src ∈ pool.sources, s.OwnsProvider id src.providerId))

/-- What keeps a subscription from being deleted: a pool that stays draws on one of its providers,
a route or the default target names one of its pools, or it runs. -/
def AppState.DeletionConflicts (s : AppState) (id : SubscriptionId) (stopped : Bool) : Prop :=
  (s.activeSubscriptionId = some id ∧ stopped = false) ∨
  (∃ pool ∈ s.pools, ¬s.OwnsPool id pool ∧
    ∃ src ∈ pool.sources, s.OwnsProvider id src.providerId) ∨
  ∃ pool ∈ s.pools, s.OwnsPool id pool ∧
    ((∃ r ∈ s.routes, r.target = .pool pool.id) ∨ s.defaultTarget = .pool pool.id)

instance (s : AppState) (id : SubscriptionId) (stopped : Bool) :
    Decidable (s.DeletionConflicts id stopped) :=
  inferInstanceAs (Decidable ((_ ∧ _) ∨ (∃ pool ∈ s.pools, ¬s.OwnsPool id pool ∧
    ∃ src ∈ pool.sources, s.OwnsProvider id src.providerId) ∨ ∃ pool ∈ s.pools,
      s.OwnsPool id pool ∧ ((∃ r ∈ s.routes, r.target = .pool pool.id) ∨
        s.defaultTarget = .pool pool.id)))

/-- The state without a subscription and what it owns. -/
structure Removed (id : SubscriptionId) (s t : AppState) : Prop where
  schemaVersion : t.schemaVersion = s.schemaVersion
  subscriptions : t.subscriptions = s.subscriptions.filter (·.id ≠ id)
  providers : t.providers = s.providers.filter (·.subscriptionId ≠ id)
  nodes : t.nodes = s.nodes.filter fun n => ¬s.OwnsProvider id n.providerId
  pools : t.pools = s.pools.filter fun pool => ¬s.OwnsPool id pool
  routes : t.routes = s.routes
  defaultTarget : t.defaultTarget = s.defaultTarget
  selected : s.activeSubscriptionId = some id → t.activeSubscriptionId = none ∧
    t.activeConfigurationGeneration.toNat = s.activeConfigurationGeneration.toNat + 1
  unselected : s.activeSubscriptionId ≠ some id →
    t.activeSubscriptionId = s.activeSubscriptionId ∧
    t.activeConfigurationGeneration = s.activeConfigurationGeneration
  valid : t.Valid

variable {s t : AppState} {id : SubscriptionId}

/-! ## What is owned -/

theorem mem_providersOf_ids {p : ProviderId} :
    p ∈ (s.providersOf id).map (·.id) ↔ s.OwnsProvider id p := by
  simp only [AppState.providersOf, List.mem_map, List.mem_filter, decide_eq_true_eq, and_assoc,
    AppState.OwnsProvider]

theorem mem_ownedPoolIds (hs : s.Valid) {pool : NodePool} (hpool : pool ∈ s.pools) :
    pool.id ∈ ownedPoolIds ((s.providersOf id).map (·.id)) s ↔ s.OwnsPool id pool := by
  have hsources : (∀ src ∈ pool.sources, src.providerId ∈ (s.providersOf id).map (·.id)) ↔
      ∀ src ∈ pool.sources, s.OwnsProvider id src.providerId :=
    forall₂_congr fun src _ => mem_providersOf_ids
  rw [AppState.OwnsPool, ← hsources, ownedPoolIds]
  constructor
  · intro h
    obtain ⟨owned, howned, hid⟩ := List.mem_map.mp h
    obtain ⟨hmem, hkind⟩ := List.mem_filter.mp howned
    have heq := List.inj_on_of_nodup_map hs.nodup_pools hmem hpool (congrArg PoolId.val hid)
    rw [heq, decide_eq_true_eq] at hkind
    exact hkind
  · intro h
    exact List.mem_map_of_mem (List.mem_filter.mpr ⟨hpool, decide_eq_true h⟩)

/-- A provider of a subscription is known by its id, and by its owner. -/
theorem ownsProvider_iff (hs : s.Valid) {r : Provider} (hr : r ∈ s.providers) :
    s.OwnsProvider id r.id ↔ r.subscriptionId = id := by
  constructor
  · rintro ⟨owned, howned, howner, hid⟩
    rw [← List.inj_on_of_nodup_map hs.nodup_providers howned hr (congrArg ProviderId.val hid)]
    exact howner
  · exact fun h => ⟨r, hr, h, rfl⟩

/-- Who names an owned pool names a pool that is one. -/
theorem isPoolOf_owned (hs : s.Valid) {target : RouteTarget} :
    target.isPoolOf (ownedPoolIds ((s.providersOf id).map (·.id)) s) = true ↔
      ∃ pool ∈ s.pools, s.OwnsPool id pool ∧ target = .pool pool.id := by
  cases target with
  | pool named =>
    rw [RouteTarget.isPoolOf, List.contains_iff_mem]
    constructor
    · intro h
      obtain ⟨pool, hpool, rfl⟩ := List.mem_map.mp h
      have hmem := (List.mem_filter.mp hpool).1
      exact ⟨pool, hmem, (mem_ownedPoolIds hs hmem).mp h, rfl⟩
    · rintro ⟨pool, hpool, howned, heq⟩
      cases heq
      exact (mem_ownedPoolIds hs hpool).mpr howned
  | _ => simp [RouteTarget.isPoolOf]

/-- The test of the source finds what would be left dangling. -/
theorem stillReferenced_iff (hs : s.Valid) :
    stillReferenced ((s.providersOf id).map (·.id))
      (ownedPoolIds ((s.providersOf id).map (·.id)) s) s = true ↔
    (∃ pool ∈ s.pools, ¬s.OwnsPool id pool ∧
      ∃ src ∈ pool.sources, s.OwnsProvider id src.providerId) ∨
    ∃ pool ∈ s.pools, s.OwnsPool id pool ∧
      ((∃ r ∈ s.routes, r.target = .pool pool.id) ∨ s.defaultTarget = .pool pool.id) := by
  have hpools : (s.pools.any fun pool =>
        !(ownedPoolIds ((s.providersOf id).map (·.id)) s).contains pool.id &&
        pool.sources.any fun src => ((s.providersOf id).map (·.id)).contains src.providerId) = true ↔
      ∃ pool ∈ s.pools, ¬s.OwnsPool id pool ∧
        ∃ src ∈ pool.sources, s.OwnsProvider id src.providerId := by
    rw [List.any_eq_true]
    refine exists_congr fun pool => and_congr_right fun hpool => ?_
    rw [Bool.and_eq_true, Bool.not_eq_true', ← Bool.not_eq_true, List.contains_iff_mem,
      mem_ownedPoolIds hs hpool, List.any_eq_true]
    simp only [List.contains_iff_mem, mem_providersOf_ids]
  have hroutes : s.routes.any
        (·.target.isPoolOf (ownedPoolIds ((s.providersOf id).map (·.id)) s)) = true ↔
      ∃ pool ∈ s.pools, s.OwnsPool id pool ∧ ∃ r ∈ s.routes, r.target = .pool pool.id := by
    rw [List.any_eq_true]
    constructor
    · rintro ⟨r, hr, htarget⟩
      obtain ⟨pool, hpool, howned, heq⟩ := (isPoolOf_owned hs).mp htarget
      exact ⟨pool, hpool, howned, r, hr, heq⟩
    · rintro ⟨pool, hpool, howned, r, hr, heq⟩
      exact ⟨r, hr, (isPoolOf_owned hs).mpr ⟨pool, hpool, howned, heq⟩⟩
  rw [stillReferenced, Bool.or_eq_true, Bool.or_eq_true, hpools, hroutes, isPoolOf_owned hs, or_assoc]
  refine or_congr_right ?_
  constructor
  · rintro (⟨pool, hpool, howned, hroute⟩ | ⟨pool, hpool, howned, hdefault⟩)
    · exact ⟨pool, hpool, howned, .inl hroute⟩
    · exact ⟨pool, hpool, howned, .inr hdefault⟩
  · rintro ⟨pool, hpool, howned, hroute | hdefault⟩
    · exact .inl ⟨pool, hpool, howned, hroute⟩
    · exact .inr ⟨pool, hpool, howned, hdefault⟩

/-! ## The commit -/

theorem subscription?_id {id : String} {sub : Subscription} (h : s.subscription? id = some sub) :
    sub.id = ⟨id⟩ := by
  have hval : sub.id.val = id := by simpa using List.find?_some h
  rw [← hval]

/-- A raise that takes place is by one. -/
theorem raiseGeneration_true (h : raiseGeneration true s = .ok t) :
    t.activeConfigurationGeneration.toNat = s.activeConfigurationGeneration.toNat + 1 := by
  obtain ⟨generation, hnext, h⟩ := ok_bind.mp h
  cases h
  exact nextGeneration_ok hnext

/-- What the source takes away is what is owned. -/
theorem without_eq (hs : s.Valid) (id : SubscriptionId) :
    s.without id ((s.providersOf id).map (·.id))
      (ownedPoolIds ((s.providersOf id).map (·.id)) s) =
    { s with
      subscriptions := s.subscriptions.filter (·.id ≠ id)
      providers := s.providers.filter (·.subscriptionId ≠ id)
      nodes := s.nodes.filter fun n => ¬s.OwnsProvider id n.providerId
      pools := s.pools.filter fun pool => ¬s.OwnsPool id pool } := by
  have hproviders : s.providers.filter (·.id ∉ (s.providersOf id).map (·.id)) =
      s.providers.filter (·.subscriptionId ≠ id) := by
    refine List.filter_congr fun r hr => ?_
    rw [decide_eq_decide, mem_providersOf_ids, ownsProvider_iff hs hr]
  have hnodes : s.nodes.filter (·.providerId ∉ (s.providersOf id).map (·.id)) =
      s.nodes.filter fun n => ¬s.OwnsProvider id n.providerId :=
    List.filter_congr fun n hn => by rw [decide_eq_decide, mem_providersOf_ids]
  have hpools : s.pools.filter (·.id ∉ ownedPoolIds ((s.providersOf id).map (·.id)) s) =
      s.pools.filter fun pool => ¬s.OwnsPool id pool :=
    List.filter_congr fun pool hpool => by rw [decide_eq_decide, mem_ownedPoolIds hs hpool]
  rw [AppState.without, hproviders, hnodes, hpools]

/-- A deletion removes the subscription and what it owns, and nothing else. -/
theorem commitDelete_removed (hs : s.Valid) {id : String} {stopped : Bool}
    (h : commitDelete id stopped s = .ok t) : Removed ⟨id⟩ s t := by
  obtain ⟨sub, raised, hsub, -, hraised, ht, hvalid⟩ := commitDelete_cases h
  rw [subscription?_id hsub, without_eq hs] at hraised
  rw [subscription?_id hsub] at ht
  obtain ⟨hkeeps, -, hidle⟩ := raiseGeneration_ok hraised
  by_cases hactive : s.activeSubscriptionId = some ⟨id⟩
  · rw [if_pos hactive] at ht
    rw [decide_eq_true hactive] at hraised
    have hgeneration := raiseGeneration_true hraised
    rw [ht] at hvalid ⊢
    rw [hkeeps] at hvalid ⊢
    exact
      { schemaVersion := rfl
        subscriptions := rfl
        providers := rfl
        nodes := rfl
        pools := rfl
        routes := rfl
        defaultTarget := rfl
        selected := fun _ => ⟨rfl, hgeneration⟩
        unselected := fun hne => absurd hactive hne
        valid := hvalid }
  · rw [if_neg hactive, hkeeps, hidle (decide_eq_false hactive)] at ht
    rw [ht] at hvalid ⊢
    exact
      { schemaVersion := rfl
        subscriptions := rfl
        providers := rfl
        nodes := rfl
        pools := rfl
        routes := rfl
        defaultTarget := rfl
        selected := fun heq => absurd heq hactive
        unselected := fun _ => ⟨rfl, rfl⟩
        valid := hvalid }

/-- A deletion of a subscription that is there. -/
theorem commitDelete_found {id : String} {stopped : Bool} {sub : Subscription}
    (hid : validateId id = .ok ()) (hsub : s.subscription? id = some sub) :
    commitDelete id stopped s = (do
      reject (decide (s.activeSubscriptionId = some sub.id) && !stopped) .referenceConflict
      reject ((s.providersOf sub.id).map (·.id)).isEmpty .validationFailed
      reject (stillReferenced ((s.providersOf sub.id).map (·.id))
        (ownedPoolIds ((s.providersOf sub.id).map (·.id)) s) s) .referenceConflict
      let candidate ← raiseGeneration (decide (s.activeSubscriptionId = some sub.id))
        (s.without sub.id ((s.providersOf sub.id).map (·.id))
          (ownedPoolIds ((s.providersOf sub.id).map (·.id)) s))
      validated (if s.activeSubscriptionId = some sub.id then
        { candidate with activeSubscriptionId := none } else candidate)) := by
  rw [commitDelete, hid, hsub]
  rfl

/-- Who owns no provider owns no pool, and nothing refers to what it owns. -/
theorem not_referenced_of_no_providers (h : ((s.providersOf id).map (·.id)).isEmpty = true) :
    stillReferenced ((s.providersOf id).map (·.id))
      (ownedPoolIds ((s.providersOf id).map (·.id)) s) s = false := by
  have hempty : (s.providersOf id).map (·.id) = [] := List.isEmpty_iff.mp h
  have howned : ownedPoolIds [] s = [] := by
    rw [ownedPoolIds, List.map_eq_nil_iff, List.filter_eq_nil_iff]
    intro pool hpool
    simp only [List.not_mem_nil, decide_eq_true_eq, not_and]
    intro hkind hne hall
    obtain ⟨src, hsrc⟩ := List.exists_mem_of_ne_nil _ hne
    exact hall src hsrc
  have htarget : ∀ target : RouteTarget, target.isPoolOf [] = false := by
    intro target
    cases target <;> simp [RouteTarget.isPoolOf]
  simp [hempty, howned, stillReferenced, htarget]

/-- What comes after the tests fails as a candidate that does not validate, if at all. -/
theorem raise_validated_error {condition : Bool} {f : AppState → AppState}
    {error : SubscriptionOperationError}
    (h : (do validated (f (← raiseGeneration condition s))) = .error error) :
    error = .validationFailed := by
  rcases error_bind.mp h with hraise | ⟨raised, -, hvalidated⟩
  · rw [raiseGeneration] at hraise
    split at hraise
    · rcases error_bind.mp hraise with hnext | ⟨_, -, hok⟩
      · rw [nextGeneration] at hnext
        split at hnext <;> cases hnext
        rfl
      · cases hok
    · cases hraise
  · rcases error_bind.mp hvalidated with hinvalid | ⟨_, -, hok⟩
    · cases hstate : (f raised).validate with
      | ok => simp [hstate, Except.mapError] at hinvalid
      | error e => simpa [hstate, Except.mapError] using hinvalid.symm
    · cases hok

/-- A deletion is refused for what would be left dangling, and for nothing else. -/
theorem commitDelete_conflict_iff (hs : s.Valid) {id : String} {stopped : Bool} :
    commitDelete id stopped s = .error .referenceConflict ↔
      validateId id = .ok () ∧ (∃ sub ∈ s.subscriptions, sub.id = ⟨id⟩) ∧
      s.DeletionConflicts ⟨id⟩ stopped := by
  have hconflicts : s.DeletionConflicts ⟨id⟩ stopped ↔
      (decide (s.activeSubscriptionId = some ⟨id⟩) && !stopped) = true ∨
      stillReferenced ((s.providersOf ⟨id⟩).map (·.id))
        (ownedPoolIds ((s.providersOf ⟨id⟩).map (·.id)) s) s = true := by
    rw [stillReferenced_iff hs, Bool.and_eq_true, decide_eq_true_eq, Bool.not_eq_true']
    exact Iff.rfl
  by_cases hid : validateId id = .ok ()
  swap
  · have hinvalid : validateId id = .error .invalidInput := by
      simp only [validateId, reject_eq_ok, reject_eq_error, Bool.not_eq_false, and_true] at hid ⊢
      exact hid
    simp [commitDelete, hinvalid, error_bind]
  cases hsub : s.subscription? id with
  | none =>
    have hnone : ∀ sub ∈ s.subscriptions, sub.id ≠ ⟨id⟩ := by
      intro sub hmem heq
      have hne := List.find?_eq_none.mp hsub sub hmem
      simp [heq] at hne
    simpa [commitDelete, hid, hsub, error_bind, okOr] using fun sub hmem heq =>
      absurd heq (hnone sub hmem)
  | some sub =>
    have hmem : ∃ sub ∈ s.subscriptions, sub.id = ⟨id⟩ :=
      ⟨sub, List.mem_of_find?_eq_some hsub, subscription?_id hsub⟩
    rw [commitDelete_found hid hsub, hconflicts, subscription?_id hsub]
    constructor
    · intro h
      refine ⟨hid, hmem, ?_⟩
      rcases error_bind.mp h with hactive | ⟨_, -, h⟩
      · exact .inl (reject_eq_error.mp hactive).1
      rcases error_bind.mp h with hempty | ⟨_, -, h⟩
      · cases (reject_eq_error.mp hempty).2
      rcases error_bind.mp h with hreferenced | ⟨_, -, h⟩
      · exact .inr (reject_eq_error.mp hreferenced).1
      · cases raise_validated_error h
    · rintro ⟨-, -, hactive | hreferenced⟩
      · exact error_bind.mpr (.inl (reject_eq_error.mpr ⟨hactive, rfl⟩))
      · by_cases hactive : (decide (s.activeSubscriptionId = some ⟨id⟩) && !stopped) = true
        · exact error_bind.mpr (.inl (reject_eq_error.mpr ⟨hactive, rfl⟩))
        have hproviders : ((s.providersOf ⟨id⟩).map (·.id)).isEmpty = false := by
          by_contra hempty
          rw [not_referenced_of_no_providers (Bool.not_eq_false _ ▸ hempty)] at hreferenced
          cases hreferenced
        rw [Bool.not_eq_true] at hactive
        rw [hactive, hproviders, hreferenced]
        rfl

/-! ## What is left is valid -/

theorem uniqueIds_sublist {ids ids' : List String} (h : uniqueIds [] ids = .ok ())
    (hsub : ids'.Sublist ids) : uniqueIds [] ids' = .ok () := by
  obtain ⟨hvisible, hnodup, -⟩ := uniqueIds_eq_ok.mp h
  exact uniqueIds_eq_ok.mpr ⟨fun id hid => hvisible id (hsub.subset hid), hnodup.sublist hsub,
    fun _ _ => List.not_mem_nil⟩

/-- A provider that is not owned stays. -/
theorem any_providers_filter {p : ProviderId} (hp : ¬s.OwnsProvider id p) :
    (s.providers.filter (·.subscriptionId ≠ id)).any (·.id = p) = s.providers.any (·.id = p) := by
  rw [List.any_filter, Bool.eq_iff_iff, List.any_eq_true, List.any_eq_true]
  refine exists_congr fun r => and_congr_right fun hr => ?_
  rw [Bool.and_eq_true, decide_eq_true_eq, decide_eq_true_eq]
  exact and_iff_right_of_imp fun heq howner => hp ⟨r, hr, howner, heq⟩

/-- A filter over the nodes of a provider that is not owned still names nodes of it. -/
theorem NodeFilter.validate_filter (hs : s.Valid) {f : NodeFilter} {p : ProviderId}
    (hp : ¬s.OwnsProvider id p) (h : f.validate p s.nodes = .ok ()) :
    f.validate p (s.nodes.filter fun n => ¬s.OwnsProvider id n.providerId) = .ok () := by
  rw [NodeFilter.validate, reject_eq_ok, Bool.or_eq_false_iff, List.any_eq_false] at h ⊢
  refine ⟨fun named hnamed => ?_, h.2⟩
  have hfound := h.1 named hnamed
  cases hnode : s.nodes.find? (·.id = named) with
  | none => simp [hnode] at hfound
  | some n =>
    have hprovider : n.providerId = p := by simpa [hnode] using hfound
    have hid : n.id = named := by simpa using List.find?_some hnode
    have hmem : n ∈ s.nodes := List.mem_of_find?_eq_some hnode
    have hkept : n ∈ s.nodes.filter fun n => ¬s.OwnsProvider id n.providerId :=
      List.mem_filter.mpr ⟨hmem, decide_eq_true (hprovider ▸ hp)⟩
    cases hagain : (s.nodes.filter fun n => ¬s.OwnsProvider id n.providerId).find?
        (·.id = named) with
    | none => exact absurd hid (by simpa using List.find?_eq_none.mp hagain n hkept)
    | some other =>
      have hother := (List.mem_filter.mp (List.mem_of_find?_eq_some hagain)).1
      have hotherId : other.id = named := by simpa using List.find?_some hagain
      have heq : other = n := List.inj_on_of_nodup_map hs.nodup_nodes hother hmem
        (congrArg NodeId.val (hotherId.trans hid.symm))
      simp [heq, hprovider]

/-- A pool that draws on nothing that is owned validates as before. -/
theorem NodePool.validate_filter (hs : s.Valid) {pool : NodePool} (h : pool.validate s = .ok ())
    (hfree : ∀ src ∈ pool.sources, ¬s.OwnsProvider id src.providerId)
    (hproviders : t.providers = s.providers.filter (·.subscriptionId ≠ id))
    (hnodes : t.nodes = s.nodes.filter fun n => ¬s.OwnsProvider id n.providerId) :
    pool.validate t = .ok () := by
  have hmembers : t.resolvePoolMembers pool = s.resolvePoolMembers pool := by
    rw [AppState.resolvePoolMembers, AppState.resolvePoolMembers, hnodes]
    congr 1
    refine List.flatMap_congr fun src hsrc => ?_
    congr 1
    rw [List.filter_filter]
    refine List.filter_congr fun n hn => ?_
    rw [Bool.eq_iff_iff, Bool.and_eq_true, decide_eq_true_eq]
    refine and_iff_left_of_imp fun hadmits => ?_
    rw [PoolSource.admits, Bool.and_eq_true, decide_eq_true_eq] at hadmits
    exact hadmits.1 ▸ hfree src hsrc
  rw [NodePool.validate] at h ⊢
  obtain ⟨hsources, h⟩ := ok_seq.mp h
  obtain ⟨heach, h⟩ := ok_seq.mp h
  refine ok_seq.mpr ⟨hsources, ok_seq.mpr ⟨each_eq_ok.mpr fun src hsrc => ?_, ?_⟩⟩
  · obtain ⟨hprovider, hfilter⟩ := ok_seq.mp (each_eq_ok.mp heach src hsrc)
    refine ok_seq.mpr ⟨?_, ?_⟩
    · rwa [hproviders, any_providers_filter (hfree src hsrc)]
    · rw [hnodes]
      exact NodeFilter.validate_filter hs (hfree src hsrc) hfilter
  · rwa [hmembers]

/-- What is left once nothing refers to what is owned: a valid state, whatever runs of what is
left, at any generation. -/
theorem remaining_valid (hs : s.Valid) {id : SubscriptionId}
    (hfree : ¬((∃ pool ∈ s.pools, ¬s.OwnsPool id pool ∧
        ∃ src ∈ pool.sources, s.OwnsProvider id src.providerId) ∨
      ∃ pool ∈ s.pools, s.OwnsPool id pool ∧
        ((∃ r ∈ s.routes, r.target = .pool pool.id) ∨ s.defaultTarget = .pool pool.id)))
    (active : Option SubscriptionId) (generation : UInt64)
    (hactive : ∀ a, active = some a → a ≠ id ∧ s.activeSubscriptionId = some a)
    (hgeneration : generation ≤ maxSafeInteger) :
    ({ s with
      activeSubscriptionId := active
      activeConfigurationGeneration := generation
      subscriptions := s.subscriptions.filter (·.id ≠ id)
      providers := s.providers.filter (·.subscriptionId ≠ id)
      nodes := s.nodes.filter fun n => ¬s.OwnsProvider id n.providerId
      pools := s.pools.filter fun pool => ¬s.OwnsPool id pool } : AppState).Valid := by
  rw [not_or] at hfree
  obtain ⟨hpools, htargets⟩ := hfree
  have htarget : ∀ target : RouteTarget, target.validate s.pools = .ok () →
      (∀ pool ∈ s.pools, s.OwnsPool id pool → target ≠ .pool pool.id) →
      target.validate (s.pools.filter fun pool => ¬s.OwnsPool id pool) = .ok () := by
    intro target hvalid hnot
    cases target with
    | pool named =>
      simp only [RouteTarget.validate, reject_eq_ok, Bool.not_eq_false', List.any_eq_true,
        decide_eq_true_eq] at hvalid ⊢
      obtain ⟨pool, hpool, hid⟩ := hvalid
      refine ⟨pool, List.mem_filter.mpr ⟨hpool, decide_eq_true fun howned => ?_⟩, hid⟩
      exact hnot pool hpool howned (hid ▸ rfl)
    | _ => rfl
  have hkept : ∀ sub ∈ s.subscriptions, sub.id ≠ id →
      sub ∈ s.subscriptions.filter (·.id ≠ id) :=
    fun sub hsub hne => List.mem_filter.mpr ⟨hsub, decide_eq_true hne⟩
  exact
    { schemaVersion := hs.schemaVersion
      subscriptionIds := uniqueIds_sublist hs.subscriptionIds (List.filter_sublist.map _)
      providerIds := uniqueIds_sublist hs.providerIds (List.filter_sublist.map _)
      nodeIds := uniqueIds_sublist hs.nodeIds (List.filter_sublist.map _)
      poolIds := uniqueIds_sublist hs.poolIds (List.filter_sublist.map _)
      routeIds := hs.routeIds
      defaultTarget := htarget _ hs.defaultTarget fun pool hpool howned heq =>
        htargets ⟨pool, hpool, howned, .inr heq⟩
      generation := hgeneration
      active := by
        intro a ha
        obtain ⟨hne, hwas⟩ := hactive a ha
        obtain ⟨sub, hsub, rfl⟩ := hs.active a hwas
        exact ⟨sub, hkept sub hsub hne, rfl⟩
      subscriptions := fun sub hsub => hs.subscriptions sub (List.mem_filter.mp hsub).1
      providers := by
        intro r hr
        obtain ⟨hmem, hne⟩ := List.mem_filter.mp hr
        obtain ⟨sub, hsub, hid⟩ := hs.providers r hmem
        exact ⟨sub, hkept sub hsub (hid ▸ of_decide_eq_true hne), hid⟩
      providerOwners := fun r hr => hs.providerOwners r (List.mem_filter.mp hr).1
      nodes := by
        intro n hn
        obtain ⟨hmem, hfree⟩ := List.mem_filter.mp hn
        have hvalid := hs.nodes n hmem
        rw [ProxyNode.validate] at hvalid ⊢
        rwa [any_providers_filter (of_decide_eq_true hfree)]
      pools := by
        intro pool hpool
        obtain ⟨hmem, hnot⟩ := List.mem_filter.mp hpool
        refine NodePool.validate_filter hs (hs.pools pool hmem) (fun src hsrc howns => ?_) rfl rfl
        exact hpools ⟨pool, hmem, of_decide_eq_true hnot, src, hsrc, howns⟩
      routes := by
        intro r hr
        obtain ⟨hmatcher, hvalid⟩ := ok_seq.mp (hs.routes r hr)
        exact ok_seq.mpr ⟨hmatcher, htarget _ hvalid fun pool hpool howned heq =>
          htargets ⟨pool, hpool, howned, .inl ⟨r, hr, heq⟩⟩⟩ }

theorem nextGeneration_of_lt {generation : UInt64} (h : generation < maxSafeInteger) :
    ∃ next, nextGeneration generation = .ok next := by
  have hlt := UInt64.lt_iff_toNat_lt.mp h
  exact ⟨generation + 1, if_pos (by omega)⟩

/-- A subscription with a provider that nothing else refers to can be deleted. -/
theorem commitDelete_succeeds (hs : s.Valid) {id : String} {stopped : Bool}
    (hid : validateId id = .ok ()) (hsub : ∃ sub ∈ s.subscriptions, sub.id = ⟨id⟩)
    (howns : ∃ p, s.OwnsProvider ⟨id⟩ p) (hfree : ¬s.DeletionConflicts ⟨id⟩ stopped)
    (hgeneration : s.activeSubscriptionId = some ⟨id⟩ →
      s.activeConfigurationGeneration < maxSafeInteger) :
    ∃ t, commitDelete id stopped s = .ok t := by
  rw [AppState.DeletionConflicts, not_or] at hfree
  obtain ⟨sub, hfound⟩ : ∃ sub, s.subscription? id = some sub := by
    obtain ⟨sub, hmem, heq⟩ := hsub
    exact Option.isSome_iff_exists.mp (List.find?_isSome.mpr ⟨sub, hmem, by simp [heq]⟩)
  rw [commitDelete_found hid hfound, subscription?_id hfound]
  have hproviders : ((s.providersOf ⟨id⟩).map (·.id)).isEmpty = false := by
    obtain ⟨p, hp⟩ := howns
    exact List.isEmpty_eq_false_iff.mpr (List.ne_nil_of_mem (mem_providersOf_ids.mpr hp))
  have hreferenced : stillReferenced ((s.providersOf ⟨id⟩).map (·.id))
      (ownedPoolIds ((s.providersOf ⟨id⟩).map (·.id)) s) s = false :=
    Bool.eq_false_iff.mpr fun h => hfree.2 ((stillReferenced_iff hs).mp h)
  have hactive : (decide (s.activeSubscriptionId = some ⟨id⟩) && !stopped) = false := by
    refine Bool.eq_false_iff.mpr fun h => hfree.1 ?_
    rw [Bool.and_eq_true, decide_eq_true_eq, Bool.not_eq_true'] at h
    exact h
  rw [hactive, hproviders, hreferenced, without_eq hs]
  refine Exists.imp
    (fun t h => ok_seq.mpr ⟨rfl, ok_seq.mpr ⟨rfl, ok_seq.mpr ⟨rfl, h⟩⟩⟩) ?_
  by_cases hruns : s.activeSubscriptionId = some ⟨id⟩
  · obtain ⟨next, hnext⟩ := nextGeneration_of_lt (hgeneration hruns)
    have hnat := nextGeneration_ok hnext
    have hlt := UInt64.lt_iff_toNat_lt.mp (hgeneration hruns)
    have hvalid := remaining_valid hs hfree.2 none next (fun a ha => by cases ha)
      (UInt64.le_iff_toNat_le.mpr (by omega))
    simp only [if_pos hruns, decide_eq_true hruns]
    refine ⟨_, ok_bind.mpr ⟨_, ok_bind.mpr ⟨next, hnext, rfl⟩, validated_eq_ok.mpr ⟨?_, rfl⟩⟩⟩
    exact hvalid
  · have hvalid := remaining_valid hs hfree.2 s.activeSubscriptionId s.activeConfigurationGeneration
      (fun a ha => ⟨fun heq => hruns (heq ▸ ha), ha⟩) hs.generation
    simp only [if_neg hruns, decide_eq_false hruns]
    exact ⟨_, ok_bind.mpr ⟨_, rfl, validated_eq_ok.mpr ⟨hvalid, rfl⟩⟩⟩

/-! ## The operation -/

namespace SubscriptionManager

/-- What `delete` decides over a state. -/
theorem decideDelete_some {id : String} {stopped : Bool} {w : Answers} :
    decideDelete id stopped w (some s) =
      match commitDelete id stopped s with
      | .error e => .error e
      | .ok t => if w.closing then .error .busy else .ok (some t, id) := by
  cases hcommit : commitDelete id stopped s with
  | error e => simp [decideDelete, okOr, hcommit, Bind.bind, Except.bind]
  | ok t =>
    cases hclosing : w.closing <;>
      simp [decideDelete, okOr, hcommit, commitOpen, hclosing, Bind.bind, Except.bind]

end SubscriptionManager

open SubscriptionManager in
/-- **Deletions.**  A deletion that succeeds removes the subscription and what it owns, and leaves
a valid state; one that fails leaves the file as it was.  When nothing disturbs it, it is refused
with a conflict exactly when something would be left dangling, and succeeds if nothing would. -/
theorem deletion_exact (hs : s.Valid) (id : String) (stopped : Bool) :
    (delete id stopped).run.Leaves (fun _ => True) (some s) (fun result stored =>
      match result with
      | .ok told => told = id ∧ ∃ t, stored = some t ∧ Removed ⟨id⟩ s t
      | .error _ => stored = some s) ∧
    (validateId id = .ok () → (∃ sub ∈ s.subscriptions, sub.id = ⟨id⟩) →
      (delete id stopped).run.Leaves Undisturbed (some s) fun result _ =>
        (result = .error .referenceConflict ↔ s.DeletionConflicts ⟨id⟩ stopped) ∧
        (¬s.DeletionConflicts ⟨id⟩ stopped → (∃ p, s.OwnsProvider ⟨id⟩ p) →
          (s.activeSubscriptionId = some ⟨id⟩ →
            s.activeConfigurationGeneration < maxSafeInteger) → result = .ok id)) := by
  constructor
  · refine leaves_beginWriteOwned (fun _ => rfl) (leaves_except (leaves_liftM ?_))
    cases validateId id with
    | error e => rfl
    | ok =>
      refine leaves_decideUnderGate (fun _ _ _ => rfl) fun c _ => ?_
      rw [decideDelete_some]
      cases hcommit : commitDelete id stopped s with
      | error e => rfl
      | ok t =>
        cases c.answer.closing with
        | true => rfl
        | false => exact ⟨rfl, t, rfl, commitDelete_removed hs hcommit⟩
  · intro hid hsub
    refine leaves_beginWriteOwned (fun h => absurd h not_disturbable_undisturbed)
      (leaves_except (leaves_liftM ?_))
    rw [hid]
    refine leaves_decideUnderGate (fun h => absurd h not_disturbable_undisturbed) fun c hc => ?_
    have hconflict : commitDelete id stopped s = _ ↔ _ := commitDelete_conflict_iff hs
    rw [decideDelete_some, hc.closing]
    cases hcommit : commitDelete id stopped s with
    | error e =>
      rw [hcommit, Except.error.injEq] at hconflict
      rw [carryOut, Except.error.injEq, hconflict]
      refine ⟨⟨fun h => h.2.2, fun h => ⟨hid, hsub, h⟩⟩, fun hfree howns hgeneration => ?_⟩
      obtain ⟨t, ht⟩ := commitDelete_succeeds hs hid hsub howns hfree hgeneration
      rw [hcommit] at ht
      cases ht
    | ok t =>
      rw [hcommit] at hconflict
      refine ⟨⟨fun h => (by cases h), fun h => ?_⟩, fun _ _ _ => rfl⟩
      cases hconflict.mpr ⟨hid, hsub, h⟩

open SubscriptionManager in
/-- The subscription `b` is not active: it goes away, and `a` stays active. -/
theorem deletion_exact_inactive :
    activeState.Valid ∧ ¬activeState.DeletionConflicts ⟨"sub-02"⟩ false ∧
    (delete "sub-02" false).run.Leaves (fun _ => True) (some activeState) (fun result stored =>
      match result with
      | .ok told => told = "sub-02" ∧ ∃ t, stored = some t ∧ Removed ⟨"sub-02"⟩ activeState t
      | .error _ => stored = some activeState) :=
  ⟨activeState_valid, by decide +kernel,
    (deletion_exact activeState_valid "sub-02" false).1⟩

/-- A state with an active subscription whose id starts with a blank. -/
def blankIdState : AppState :=
  { AppState.empty with
    activeSubscriptionId := some ⟨" a"⟩
    subscriptions := firstState.subscriptions.map fun sub => { sub with id := ⟨" a"⟩ } }

open SubscriptionManager in
/-- The id of a stored subscription need not pass the check of `delete`: a deletion of the active
subscription with such an id is refused as invalid input, not as a conflict. -/
theorem deletion_of_blank_id :
    ¬∀ (s : AppState) (id : String) (stopped : Bool), s.Valid →
      (∃ sub ∈ s.subscriptions, sub.id = ⟨id⟩) → s.DeletionConflicts ⟨id⟩ stopped →
      (delete id stopped).run.Leaves Undisturbed (some s) fun result _ =>
        result = .error .referenceConflict := by
  intro h
  have hvalid : blankIdState.Valid := AppState.validate_eq_ok.mp (by decide +kernel)
  let w : Scene (Option AppState) ProxyRouting.RevisionState Answers :=
    { stored := some blankIdState
      memory := ⟨0, none⟩
      tape := fun _ => ⟨true, ⟨false, false, .error .busy, none, none, none, none, none⟩⟩ }
  have hrefused := h blankIdState " a" false hvalid (by decide) (by decide) w
    (fun _ => ⟨rfl, rfl, rfl⟩) rfl
  have hinvalid : ((delete " a" false).run.alone w).1 = .error .invalidInput := by rfl
  rw [hinvalid] at hrefused
  cases hrefused

end Veyra
