import Veyra.Application.ObservationResponses
import Veyra.Application.Presentable
import Veyra.Application.RoutingAnswers
import Veyra.Application.RuntimeAnswers
import Veyra.Frontend.RoutingAgreement

/-!
# Veyra.Frontend.RoutingShown

Which states the pages can show, and that the managers reach no other.

A valid state has a snapshot that the pages read exactly if it is presentable
(`routing_shown_iff`).  The managers only save presentable states, and what the
runtime adds is in order after each of its runs, whatever it sampled; so all
that routing answers in any run is read (`routing_answers_read`).
-/

namespace Veyra.Frontend

open Browser Check Transition

/-! ## Valid states -/

section States

variable {s : AppState}

/-- An id that passes the check is not empty. -/
theorem id_ne {ids : List String} (h : uniqueIds [] ids = .ok ()) : ∀ id ∈ ids, id ≠ "" :=
  fun id hid => Text.ne_empty_of_not_blank ((uniqueIds_eq_ok.mp h).1 id hid)

/-- A provider that is named has an id. -/
theorem providerId_ne (hs : s.Valid) {id : ProviderId}
    (h : s.providers.any (·.id = id) = true) : id.val ≠ "" := by
  obtain ⟨p, hp, hid⟩ := List.any_eq_true.mp h
  obtain rfl : p.id = id := by simpa using hid
  exact id_ne hs.providerIds _ (List.mem_map_of_mem hp)

/-- So has a pool. -/
theorem poolId_ne (hs : s.Valid) {id : PoolId} (h : (RouteTarget.pool id).validate s.pools = .ok ()) :
    id.val ≠ "" := by
  rw [RouteTarget.validate, reject_eq_ok, Bool.not_eq_false', List.any_eq_true] at h
  obtain ⟨pool, hpool, hid⟩ := h
  obtain rfl : pool.id = id := by simpa using hid
  exact id_ne hs.poolIds _ (List.mem_map_of_mem hpool)

/-- So has the member of a pool. -/
theorem member_ne (hs : s.Valid) {pool : NodePool} {id : NodeId}
    (h : id ∈ s.resolvePoolMembers pool) : id.val ≠ "" := by
  obtain ⟨n, hn, -, rfl⟩ := mem_resolvePoolMembers.mp h
  exact id_ne hs.nodeIds _ (List.mem_map_of_mem hn)

/-- The ids of a filter are those of nodes. -/
theorem filterId_ne (hs : s.Valid) {f : NodeFilter} {p : ProviderId}
    (h : f.validate p s.nodes = .ok ()) :
    ∀ id ∈ f.includeNodeIds ++ f.excludeNodeIds, id.val ≠ "" := by
  rw [NodeFilter.validate, reject_eq_ok, Bool.or_eq_false_iff, List.any_eq_false] at h
  intro id hid
  have hfound := h.1 id hid
  cases hfind : s.nodes.find? (·.id = id) with
  | none => simp [hfind] at hfound
  | some n =>
    obtain rfl : n.id = id := by simpa using List.find?_some hfind
    exact id_ne hs.nodeIds _ (List.mem_map_of_mem (List.mem_of_find?_eq_some hfind))

/-! ## What of a state is readable -/

/-- A filter is readable if none of its texts is empty. -/
theorem filterReadable_iff {f : NodeFilter}
    (hids : ∀ id ∈ f.includeNodeIds ++ f.excludeNodeIds, id.val ≠ "") :
    FilterReadable (.of f) ↔ ∀ text ∈ f.texts, text ≠ "" := by
  rw [List.forall_mem_append] at hids
  constructor
  · rintro ⟨hregions, hinclude, hexclude, -, -⟩
    rw [NodeFilter.texts, List.forall_mem_append, List.forall_mem_append]
    exact ⟨⟨hregions, hinclude⟩, hexclude⟩
  · intro htexts
    rw [NodeFilter.texts, List.forall_mem_append, List.forall_mem_append] at htexts
    exact ⟨htexts.1.1, htexts.1.2, htexts.2, List.forall_mem_map.mpr hids.1,
      List.forall_mem_map.mpr hids.2⟩

theorem safe_iff {n : UInt64} : n.toNat ≤ Browser.maxSafeInteger ↔ n ≤ Veyra.maxSafeInteger := by
  have hmax : Veyra.maxSafeInteger.toNat = Browser.maxSafeInteger := rfl
  rw [UInt64.le_iff_toNat_le, hmax]

/-- A selection is readable if it can be shown. -/
theorem selectionReadable_iff (hs : s.Valid) {pool : NodePool} (hpool : pool ∈ s.pools) :
    SelectionReadable (.of pool.selection) ↔ pool.selection.Presentable := by
  obtain ⟨-, hvalid⟩ := ok_seq.mp (hs.pools pool hpool)
  obtain ⟨-, hvalid⟩ := ok_seq.mp hvalid
  cases hselection : pool.selection with
  | manual selected =>
    cases selected with
    | none => exact iff_of_true (fun _ heq => by cases heq) trivial
    | some id =>
      rw [hselection] at hvalid
      have hmember : id ∈ s.resolvePoolMembers pool := by simpa using hvalid
      refine iff_of_true (fun shown heq => ?_) trivial
      cases heq
      exact member_ne hs hmember
  | urlTest probeUrl intervalSecs toleranceMs =>
    rw [hselection] at hvalid
    simp only [reject_eq_ok, Bool.or_eq_false_iff, beq_eq_false_iff_ne] at hvalid
    obtain ⟨hurl, hinterval⟩ := hvalid
    have hpositive : 0 < intervalSecs.toNat := by
      have hne : intervalSecs.toNat ≠ 0 := fun h => hinterval (UInt64.toNat_inj.mp h)
      omega
    constructor
    · rintro ⟨-, -, hsafe⟩
      exact safe_iff.mp hsafe
    · intro hsafe
      exact ⟨Text.ne_empty_of_not_blank hurl, hpositive, safe_iff.mpr hsafe⟩

/-- A pool is readable if it can be shown. -/
theorem poolReadable_iff (hs : s.Valid) {pool : NodePool} (hpool : pool ∈ s.pools) :
    PoolReadable (.of s pool) ↔ pool.Presentable := by
  obtain ⟨-, hvalid⟩ := ok_seq.mp (hs.pools pool hpool)
  obtain ⟨hsources, -⟩ := ok_seq.mp hvalid
  have hsources := each_eq_ok.mp hsources
  have hfilter : ∀ src ∈ pool.sources,
      (FilterReadable (.of src.filter) ↔ ∀ text ∈ src.filter.texts, text ≠ "") := by
    intro src hsrc
    exact filterReadable_iff (filterId_ne hs (ok_seq.mp (hsources src hsrc)).2)
  have hprovider : ∀ src ∈ pool.sources, src.providerId.val ≠ "" := by
    intro src hsrc
    have hknown := (ok_seq.mp (hsources src hsrc)).1
    rw [reject_eq_ok, Bool.not_eq_false'] at hknown
    exact providerId_ne hs hknown
  constructor
  · intro h
    refine ⟨h.name, fun src hsrc => ?_, (selectionReadable_iff hs hpool).mp h.selection⟩
    exact (hfilter src hsrc).mp (h.sources _ (List.mem_map_of_mem hsrc)).2
  · intro h
    exact
      { id := id_ne hs.poolIds _ (List.mem_map_of_mem hpool)
        name := h.name
        sources := List.forall_mem_map.mpr fun src hsrc =>
          ⟨hprovider src hsrc, (hfilter src hsrc).mpr (h.texts src hsrc)⟩
        selection := (selectionReadable_iff hs hpool).mpr h.selection
        resolvedNodeIds := List.forall_mem_map.mpr fun id hid => member_ne hs hid }

/-- A matcher that is valid is readable. -/
theorem matcherReadable_of {m : TrafficMatcher} (h : m.isValid = true) :
    MatcherReadable (.of m) := by
  cases m with
  | domain values | domainSuffix values | application values | ipCidr values =>
    rw [TrafficMatcher.isValid, Bool.and_eq_true, List.all_eq_true] at h
    exact fun v hv => Text.ne_empty_of_not_blank (by simpa using h.1 v hv)
  | port values =>
    rw [TrafficMatcher.isValid, Bool.and_eq_true, List.all_eq_true] at h
    intro port hport heq
    have hpositive := h.1 port hport
    rw [heq] at hpositive
    exact absurd hpositive (by decide)
  | protocol values => trivial

/-- A route of a valid state, where it has a target. -/
theorem routeReadable_iff (hs : s.Valid) {route : RoutePolicy} (hroute : route ∈ s.routes)
    {shown : ProxyRouting.RouteSnapshot} (h : ProxyRouting.RouteSnapshot.of route = some shown) :
    RouteReadable shown ↔ route.Presentable := by
  have htarget := ProxyRouting.RouteSnapshot.of_isSome.mp (Option.isSome_of_eq_some h)
  obtain ⟨hmatcher, hpool⟩ := ok_seq.mp (hs.routes route hroute)
  rw [reject_eq_ok, Bool.not_eq_false'] at hmatcher
  obtain ⟨target, hshown, h⟩ := Option.bind_eq_some_iff.mp h
  obtain rfl := Option.some.inj h
  have hreadable : RouteTargetReadable target := by
    cases hkind : route.target with
    | unconfigured => exact absurd hkind htarget
    | pool id =>
      rw [hkind] at hshown hpool
      obtain rfl := Option.some.inj hshown
      exact poolId_ne hs hpool
    | direct | block =>
      rw [hkind] at hshown
      obtain rfl := Option.some.inj hshown
      trivial
  constructor
  · intro h
    exact ⟨⟨h.name, htarget⟩, h.priority⟩
  · intro h
    exact
      { id := id_ne hs.routeIds _ (List.mem_map_of_mem hroute)
        name := h.name
        priority := h.priority
        matcher := matcherReadable_of hmatcher
        target := hreadable }

/-- Each result comes from an item, and each item has a result. -/
theorem mem_of_mapM {α β : Type} {f : α → Option β} {xs : List α} {ys : List β}
    (h : xs.mapM f = some ys) :
    (∀ y ∈ ys, ∃ x ∈ xs, f x = some y) ∧ ∀ x ∈ xs, ∃ y ∈ ys, f x = some y := by
  induction xs generalizing ys with
  | nil =>
    obtain rfl := Option.some.inj h
    exact ⟨fun _ hy => absurd hy List.not_mem_nil, fun _ hx => absurd hx List.not_mem_nil⟩
  | cons x xs ih =>
    rw [List.mapM_cons] at h
    obtain ⟨first, hfirst, h⟩ := Option.bind_eq_some_iff.mp h
    obtain ⟨rest, hrest, h⟩ := Option.bind_eq_some_iff.mp h
    obtain rfl := Option.some.inj h
    obtain ⟨hback, hforth⟩ := ih hrest
    constructor
    · intro y hy
      cases List.mem_cons.mp hy with
      | inl heq => exact ⟨x, List.mem_cons_self, heq ▸ hfirst⟩
      | inr hmem =>
        obtain ⟨x', hx', heq⟩ := hback y hmem
        exact ⟨x', List.mem_cons_of_mem _ hx', heq⟩
    · intro x' hx'
      cases List.mem_cons.mp hx' with
      | inl heq => exact ⟨first, List.mem_cons_self, heq ▸ hfirst⟩
      | inr hmem =>
        obtain ⟨y, hy, heq⟩ := hforth x' hmem
        exact ⟨y, List.mem_cons_of_mem _ hy, heq⟩

/-! ## Snapshots -/

/-- What the process knows beside the state is in order: the applied tuple is whole or missing,
and the ids that it remembers are there. -/
structure SourcesSound (sources : ProxyRouting.SnapshotSources) : Prop where
  applied : sources.observation.AppliedSound
  switched : ∀ change, sources.observation.subscriptionSwitch = some change → change.Sound
  terminal : ∀ terminal, sources.routingTerminal = some terminal → terminal.operationId ≠ ""
  runtimeNodes : ∀ pool id, sources.runtimeNodes pool = some id → id.val ≠ ""

/-- A process that has observed nothing. -/
theorem SourcesSound.fresh : SourcesSound .fresh where
  applied := .inl ⟨rfl, rfl⟩
  switched := fun _ h => by cases h
  terminal := fun _ h => by cases h
  runtimeNodes := fun _ _ h => by cases h

/-- Whatever the controller and its worker did before, what they know is in order. -/
theorem SourcesSound.of_runtime {P Bytes Value : Type} [DecidableEq Value]
    {env : RuntimeEnv P Bytes Value} {sources : ProxyRouting.SnapshotSources}
    (h : SourcesOf env sources) : SourcesSound sources := by
  obtain ⟨w, applyTuple, reached, rfl⟩ := h
  obtain ⟨-, hobserved, hids⟩ := reached.sound
  have hread := hobserved.read w.now
  exact ⟨hread.applied, hread.switched, hids.terminal, hids.nodes⟩

variable {sources : ProxyRouting.SnapshotSources}

/-- An operation that a verdict names is one of a switch or of a failed apply. -/
theorem applyStateReadable (h : SourcesSound sources) (s : AppState) :
    ApplyStateReadable (sources.runtimeApplyState s).2 := by
  have hsettled : ∀ observed, ApplyStateReadable
      (ProxyRouting.settledApplyState sources.observation observed s).2 := by
    intro observed
    rw [ProxyRouting.settledApplyState]
    split <;> trivial
  have hswitch : ∀ observed current, ApplyStateReadable
      (ProxyRouting.switchApplyState sources.observation observed s current).2 := by
    intro observed current
    rw [ProxyRouting.switchApplyState.eq_def]
    cases hchange : sources.observation.subscriptionSwitch with
    | none => exact hsettled observed
    | some operation =>
      have hop := (h.switched operation hchange).operationId
      have hfailed : ApplyStateReadable (ProxyRouting.failedSwitch observed operation).2 := by
        rw [ProxyRouting.failedSwitch.eq_def]
        split <;> exact hop
      -- an attempt that is not the current one is not named
      have hattempt : ∀ (c : Bool) (x : ProxyRouting.RuntimeState × ProxyRouting.ApplyState),
          ApplyStateReadable x.2 → ApplyStateReadable
            (if c = true then (observed, ProxyRouting.ApplyState.savedPendingApply) else x).2 := by
        intro c x hx
        split
        · trivial
        · exact hx
      dsimp only
      split
      case h_7 => exact hattempt _ _ hfailed
      case h_8 => exact hsettled observed
      all_goals exact hattempt _ _ hop
  rw [ProxyRouting.SnapshotSources.runtimeApplyState, ProxyRouting.canonicalRuntimeApplyState.eq_def]
  cases hterminal : sources.routingTerminal with
  | none => exact hswitch _ _
  | some terminal =>
    dsimp only
    split
    · exact h.terminal terminal hterminal
    · split
      · trivial
      · exact hswitch _ _

/-- The selectors of a valid state are readable. -/
theorem selectorsReadable (hs : s.Valid) (h : SourcesSound sources)
    (runtimeState : ProxyRouting.RuntimeState) :
    ∀ selector ∈ ProxyRouting.selectors s sources.runtimeNodes runtimeState,
      SelectorReadable selector := by
  intro selector hselector
  obtain ⟨pool, hpool, hshown⟩ := List.mem_filterMap.mp hselector
  obtain ⟨-, hvalid⟩ := ok_seq.mp (hs.pools pool hpool)
  obtain ⟨-, hvalid⟩ := ok_seq.mp hvalid
  cases hselection : pool.selection with
  | urlTest probeUrl intervalSecs toleranceMs =>
    rw [hselection] at hshown
    cases hshown
  | manual selected =>
    rw [hselection] at hshown hvalid
    obtain rfl := Option.some.inj hshown
    refine ⟨id_ne hs.poolIds _ (List.mem_map_of_mem hpool), fun shown heq => ?_,
      fun shown heq => ?_⟩
    · obtain ⟨id, rfl, rfl⟩ := Option.map_eq_some_iff.mp heq
      exact member_ne hs (by simpa using hvalid)
    · obtain ⟨id, hid, rfl⟩ := Option.map_eq_some_iff.mp heq
      split at hid
      · exact h.runtimeNodes pool.id id hid
      · cases hid

/-- The snapshot of a valid state is read exactly if the state is presentable. -/
theorem routingReadable_iff (hs : s.Valid) (h : SourcesSound sources) {revision : UInt64}
    (hrevision : revision ≤ maxSafeInteger) {snapshot : ProxyRouting.ProxyRoutingSnapshot}
    (hbuild : ProxyRouting.buildSnapshot sources s revision = some snapshot) :
    RoutingReadable snapshot ↔ s.Presentable := by
  obtain ⟨routes, hroutes, hbuild⟩ := Option.bind_eq_some_iff.mp hbuild
  obtain rfl := Option.some.inj hbuild
  obtain ⟨hback, hforth⟩ := mem_of_mapM hroutes
  constructor
  · intro hread
    refine ⟨fun p hp => ?_, fun n hn => ?_, fun pool hpool => ?_, fun route hroute => ?_⟩
    · exact (hread.providers _ (List.mem_map_of_mem hp)).name
    · exact (hread.nodes _ (List.mem_map_of_mem hn)).name
    · exact (poolReadable_iff hs hpool).mp (hread.pools _ (List.mem_map_of_mem hpool))
    · obtain ⟨shown, hshown, heq⟩ := hforth route hroute
      exact (routeReadable_iff hs hroute heq).mp (hread.routes shown hshown)
  · intro hpresentable
    have happlied := h.applied
    exact
      { revision := safe_iff.mpr hrevision
        desiredGeneration := safe_iff.mpr hs.generation
        appliedGeneration := fun n hn => by
          obtain ⟨-, hnone⟩ | ⟨id, generation, -, hsome, -, hsafe⟩ := happlied
          · rw [hnone] at hn
            cases hn
          · rw [hsome] at hn
            cases hn
            exact safe_iff.mpr hsafe
        applyState := applyStateReadable h s
        activeSubscriptionId := fun id hid => by
          obtain ⟨active, hactive, rfl⟩ := Option.map_eq_some_iff.mp hid
          exact hs.activeId_ne hactive
        appliedSubscriptionId := fun id hid => by
          obtain ⟨hnone, -⟩ | ⟨applied, generation, hsome, -, hne, -⟩ := happlied
          · rw [hnone] at hid
            cases hid
          · rw [hsome] at hid
            cases hid
            exact hne
        providers := List.forall_mem_map.mpr fun p hp =>
          ⟨id_ne hs.providerIds _ (List.mem_map_of_mem hp),
            Text.ne_empty_of_not_blank (hs.providerOwners p hp), hpresentable.providers p hp⟩
        nodes := List.forall_mem_map.mpr fun n hn => by
          have hprovider := (ok_seq.mp (hs.nodes n hn)).1
          rw [reject_eq_ok, Bool.or_eq_false_iff] at hprovider
          exact ⟨id_ne hs.nodeIds _ (List.mem_map_of_mem hn),
            Text.ne_empty_of_not_blank hprovider.1, hpresentable.nodes n hn⟩
        defaultTarget := by
          have hvalid := hs.defaultTarget
          cases htarget : s.defaultTarget with
          | pool id =>
            rw [htarget] at hvalid
            exact poolId_ne hs hvalid
          | unconfigured | direct | block => trivial
        pools := List.forall_mem_map.mpr fun pool hpool =>
          (poolReadable_iff hs hpool).mpr (hpresentable.pools pool hpool)
        routes := fun shown hshown => by
          obtain ⟨route, hroute, heq⟩ := hback shown hshown
          exact (routeReadable_iff hs hroute heq).mpr (hpresentable.routes route hroute)
        selectors := selectorsReadable hs h _ }

/-- A presentable state has a snapshot. -/
theorem built_of_presentable (sources : ProxyRouting.SnapshotSources) (h : s.Presentable)
    (revision : UInt64) :
    ∃ snapshot, ProxyRouting.buildSnapshot sources s revision = some snapshot := by
  have hroutes : ∀ route ∈ s.routes, (ProxyRouting.RouteSnapshot.of route).isSome :=
    fun route hroute => ProxyRouting.RouteSnapshot.of_isSome.mpr (h.routes route hroute).target
  exact Option.isSome_iff_exists.mp
    (ProxyRouting.buildSnapshot_isSome.mpr (ProxyRouting.mapM_isSome.mpr hroutes))

/-- **What can be shown.**  A valid state has a snapshot that the pages read, exactly as it was
sent, if and only if it is presentable. -/
theorem routing_shown_iff (s : AppState) (sources : ProxyRouting.SnapshotSources)
    (revision : UInt64) (hs : s.Valid) (h : SourcesSound sources)
    (hrevision : revision ≤ Veyra.maxSafeInteger) :
    (∃ snapshot, ProxyRouting.buildSnapshot sources s revision = some snapshot ∧
      parseSnapshotResult (ProxyRouting.SnapshotResult.ok snapshot).response =
        some (.ok (.of snapshot))) ↔ s.Presentable := by
  constructor
  · rintro ⟨snapshot, hbuild, hread⟩
    have hreadable := (parseSnapshotResult_response (.ok snapshot)).iff.mp hread
    exact (routingReadable_iff hs h hrevision hbuild).mp hreadable
  · intro hpresentable
    obtain ⟨snapshot, hbuild⟩ := built_of_presentable sources hpresentable revision
    refine ⟨snapshot, hbuild, (parseSnapshotResult_response (.ok snapshot)).eq_some ?_⟩
    exact (routingReadable_iff hs h hrevision hbuild).mpr hpresentable

end States

/-! ## Calls -/

section Calls

open ProxyRouting

variable {subscriptions : SubscriptionEnv} {env : Env} {m m' : RoutingManager}
  {request : MutateRequest} {a : StoreAnswers} {disk : Option AppState} {f : FinishAnswers}
  {s : AppState} {sources : SnapshotSources} {revision : UInt64}

/-- The managers reach the file. -/
def Reached (subscriptions : SubscriptionEnv) (disk : Option AppState) : Prop :=
  Relation.ReflTransGen (ManagerStep subscriptions) none disk

/-- The names of a reached state are not empty. -/
theorem Reached.named (h : Reached subscriptions disk) : (disk.getD .empty).Named := by
  have hempty : ((none : Option AppState).getD .empty).Named := .empty
  exact named_of_managerRun hempty h

/-- A reached state is valid. -/
theorem Reached.valid (h : Reached subscriptions disk) : (disk.getD .empty).Valid := by
  have hvalid := valid_of_managerRun (fun _ heq => by cases heq) h
  cases disk with
  | none => exact AppState.validate_eq_ok.mp rfl
  | some s => exact hvalid s rfl

/-- A state and a revision that can be shown. -/
structure Showable (s : AppState) (revision : UInt64) : Prop where
  valid : s.Valid
  presentable : s.Presentable
  revision : revision ≤ Veyra.maxSafeInteger

/-- **Spec.**  A state that can be shown is built and read. -/
theorem Showable.readable (h : Showable s revision) (hsources : SourcesSound sources) :
    ∃ snapshot, buildSnapshot sources s revision = some snapshot ∧ RoutingReadable snapshot := by
  obtain ⟨snapshot, hbuild⟩ := built_of_presentable sources h.presentable revision
  exact ⟨snapshot, hbuild,
    (routingReadable_iff h.valid hsources h.revision hbuild).mpr h.presentable⟩

/-- The manager is at a revision that a script can hold. -/
def Bounded (m : RoutingManager) : Prop := m.revisions.revision ≤ Veyra.maxSafeInteger

/-- A revision that is observed stays within its bound. -/
theorem observe_bounded {r r' : RevisionState} {material : CasMaterial}
    (hr : r.revision ≤ Veyra.maxSafeInteger) (h : r.observe material = .ok r') :
    r'.revision ≤ Veyra.maxSafeInteger := by
  rw [RevisionState.observe] at h
  split at h
  · cases h
    exact hr
  · split at h
    · next hroom =>
      cases h
      have hone : (1 : UInt64).toNat = 1 := rfl
      have hmax : Veyra.maxSafeInteger.toNat = 9007199254740991 := rfl
      rw [UInt64.le_iff_toNat_le, UInt64.toNat_add]
      omega
    · cases h

/-- So does the one that is known. -/
theorem knownRevision_bounded (hm : Bounded m) :
    ∀ n, m.knownRevision = some n → n ≤ Veyra.maxSafeInteger := by
  intro n hn
  rw [RoutingManager.knownRevision] at hn
  split at hn
  · cases hn
    exact hm
  · cases hn

/-- A load tells a state of the file, under a revision that a script can hold. -/
theorem loadObserved_showable (hdisk : Reached subscriptions disk) (hm : Bounded m)
    (a : StoreAnswers) :
    Bounded (m.loadObserved a disk).2 ∧ ∀ s revision,
      (m.loadObserved a disk).1 = .ok (s, revision) → Showable s revision := by
  rw [RoutingManager.loadObserved.eq_def]
  split
  · exact ⟨hm, fun _ _ heq => by cases heq⟩
  · split
    · exact ⟨hm, fun _ _ heq => by cases heq⟩
    · next s hload =>
      split
      · exact ⟨hm, fun _ _ heq => by cases heq⟩
      · next observed hobserve =>
        have hbounded := observe_bounded hm hobserve
        refine ⟨hbounded, fun shown revision heq => ?_⟩
        cases heq
        rw [loadState_ok hload]
        exact ⟨hdisk.valid, hdisk.named.toPresentable, hbounded⟩

/-- What a mutation goes on with can be shown. -/
def NextShowable : MutateNext → Prop
  | .error _ revision => ∀ n, revision = some n → n ≤ Veyra.maxSafeInteger
  | .applyConfiguration _ _ revision => revision ≤ Veyra.maxSafeInteger
  | .finishManualSelection poolId nodeId state revision =>
    poolId ≠ "" ∧ nodeId ≠ "" ∧ Showable state revision
  | .buildSnapshot outcome state revision => outcome.Named ∧ Showable state revision

/-- What a mutation leaves can be shown. -/
theorem nextShowable_of {outcome : MutationOutcome} (hnamed : outcome.Named)
    (h : Showable s revision) : NextShowable (outcome.next s revision) := by
  cases outcome with
  | saved => exact ⟨hnamed, h⟩
  | selectorSavedOnly poolId nodeId => exact ⟨hnamed.1, hnamed.2, h⟩

/-- The outcome of an accepted mutation. -/
theorem mutateOn_named {observed : RevisionState} {decision : Decision} (hs : s.Presentable)
    (h : mutateOn env observed request s = .ok decision) {outcome : MutationOutcome}
    (hdecision : decision = .unchanged outcome ∨ ∃ t, decision = .save t outcome) :
    outcome.Named := by
  obtain ⟨-, h⟩ := ok_seq.mp h
  split at h
  · obtain ⟨id, -, rfl⟩ := map_eq_ok.mp h
    obtain hdiffers | ⟨t, hdiffers⟩ := hdecision
    · cases hdiffers
    · cases hdiffers
  · obtain ⟨⟨edited, reported⟩, hedited, h⟩ := ok_bind.mp h
    obtain ⟨-, hnamed⟩ := presentable_applyMutation hs hedited
    dsimp only at h
    split at h
    · cases h
      obtain heq | ⟨t, hdiffers⟩ := hdecision
      · cases heq
        exact hnamed
      · cases hdiffers
    · obtain ⟨generation, -, h⟩ := ok_bind.mp h
      obtain ⟨-, h⟩ := ok_seq.mp h
      obtain ⟨-, h⟩ := ok_seq.mp h
      cases h
      obtain hdiffers | ⟨t, heq⟩ := hdecision
      · cases hdiffers
      · cases heq
        exact hnamed

/-- **Call lemma.**  A mutation of a file that the managers reach leaves such a file, and goes on
with what can be shown. -/
theorem mutate_showable (hdisk : Reached subscriptions disk) (hm : Bounded m) (env : Env)
    (request : MutateRequest) (a : StoreAnswers) :
    NextShowable (m.mutate env request a disk).1.1 ∧ Bounded (m.mutate env request a disk).1.2 ∧
      Reached subscriptions (m.mutate env request a disk).2 := by
  rw [RoutingManager.mutate.eq_def]
  split
  · exact ⟨knownRevision_bounded hm, hm, hdisk⟩
  · split
    · exact ⟨knownRevision_bounded hm, hm, hdisk⟩
    · split
      · exact ⟨knownRevision_bounded hm, hm, hdisk⟩
      · next s hload =>
        split
        · exact ⟨knownRevision_bounded hm, hm, hdisk⟩
        · next observed hobserve =>
          have hs := loadState_ok hload
          have hbounded := observe_bounded hm hobserve
          have hpresentable : s.Presentable := hs ▸ hdisk.named.toPresentable
          have hobserved : ∀ n, some observed.revision = some n → n ≤ Veyra.maxSafeInteger := by
            intro n heq
            cases heq
            exact hbounded
          dsimp only
          split
          · exact ⟨hobserved, hbounded, hdisk⟩
          · exact ⟨hbounded, hbounded, hdisk⟩
          · next outcome hdecision =>
            have hnamed := mutateOn_named hpresentable hdecision (.inl rfl)
            exact ⟨nextShowable_of hnamed ⟨hs ▸ hdisk.valid, hpresentable, hbounded⟩, hbounded,
              hdisk⟩
          · next t outcome hdecision =>
            split
            · have hnamed := mutateOn_named hpresentable hdecision (.inr ⟨t, rfl⟩)
              have hcommit : MutationCommit env request (disk.getD .empty) t :=
                hs ▸ ⟨ok_bind.mpr ⟨observed, hobserve, ok_bind.mpr ⟨_, hdecision, rfl⟩⟩⟩
              have hsaved : Reached subscriptions (some t) :=
                hdisk.tail (@ManagerStep.operation _ (.mutation env request) _ _ hcommit)
              rw [RoutingManager.commit]
              split
              · exact ⟨hobserved, hbounded, hsaved⟩
              · next committed hcommitted =>
                have hlast := observe_bounded hbounded hcommitted
                exact ⟨nextShowable_of hnamed ⟨hsaved.valid, hsaved.named.toPresentable, hlast⟩,
                  hlast, hsaved⟩
            · exact ⟨hobserved, hbounded, hdisk⟩

/-- What the runtime answers is in order: it names nodes and operations. -/
structure FinishSound (f : FinishAnswers) : Prop where
  sources : SourcesSound f.sources
  manual : ∀ id, f.manual = .notApplied id → id.val ≠ ""
  activation : ∀ outcome, RoutingManager.applyOutcome f.activation = .ok outcome →
    OutcomeReadable outcome

/-- What the runtime answers after its runs is in order. -/
theorem FinishSound.of_runtime {P Bytes Value : Type} [DecidableEq Value]
    {runtime : RuntimeEnv P Bytes Value} (h : f.Of runtime) : FinishSound f where
  sources := .of_runtime h.sources
  manual := h.manual.named
  activation := by
    obtain ⟨operationId, hne, hof⟩ := h.activation.named
    intro outcome houtcome
    cases hresult : f.activation with
    | activated op _ _ | reactivated op _ _ | alreadyCurrent op _ _ | pending op =>
      rw [hresult] at houtcome hof
      cases houtcome
      exact hof ▸ hne
    | error op e =>
      rw [hresult] at houtcome
      cases houtcome

/-- The outcome of a selection by hand is readable. -/
theorem settled_readable (hf : FinishSound f) {poolId nodeId : String} (hpool : poolId ≠ "")
    (hnode : nodeId ≠ "") (state : AppState) (latest : Bool) :
    OutcomeReadable (settleManualOutcome poolId nodeId f.manual state latest) := by
  rw [settleManualOutcome]
  split
  · cases hmanual : f.manual with
    | notApplied id => exact ⟨hpool, hnode, hf.manual id hmanual⟩
    | applied | savedOnly reason | applyUnknown reason => exact ⟨hpool, hnode⟩
  · exact ⟨hpool, hnode⟩

/-- A mutation of a state that can be shown is answered and read. -/
theorem Showable.mutation (h : Showable s revision) (hsources : SourcesSound sources)
    {outcome : Outcome} (houtcome : OutcomeReadable outcome) :
    ∃ result, (buildSnapshot sources s revision).map (.ok outcome) = some result ∧
      MutationReadable result := by
  obtain ⟨snapshot, hbuild, hread⟩ := h.readable hsources
  exact ⟨.ok outcome snapshot, by rw [hbuild]; rfl, houtcome, hread⟩

/-- **Call lemma.**  What the pages are answered is read. -/
theorem finish_readable {next : MutateNext} (hnext : NextShowable next) (hm : Bounded m)
    (hf : FinishSound f) (hdisk : Reached subscriptions f.disk) :
    ∃ result, (m.finish next f).1 = some result ∧ MutationReadable result := by
  cases next with
  | error e revision => exact ⟨_, rfl, fun n hn => safe_iff.mpr (hnext n hn)⟩
  | applyConfiguration activeId generation revision =>
    rw [RoutingManager.finish, RoutingManager.applyConfiguration]
    dsimp only
    cases hactivated : RoutingManager.applyOutcome f.activation with
    | error e =>
      refine ⟨_, rfl, fun n hn => safe_iff.mpr ?_⟩
      cases hn
      exact hnext
    | ok outcome =>
      have hm : Bounded (m.trackApply activeId generation) := hm
      obtain ⟨hbounded, hloaded⟩ := loadObserved_showable hdisk hm f.reload
      generalize RoutingManager.loadObserved _ f.reload f.disk = reloaded at hbounded hloaded ⊢
      obtain ⟨loaded, m'⟩ := reloaded
      cases loaded with
      | error e =>
        exact ⟨_, rfl, fun n hn => safe_iff.mpr (knownRevision_bounded hbounded n hn)⟩
      | ok told => exact (hloaded _ _ rfl).mutation hf.sources (hf.activation outcome hactivated)
  | finishManualSelection poolId nodeId state revision =>
    obtain ⟨hpool, hnode, hshown⟩ := hnext
    rw [RoutingManager.finish, RoutingManager.finishManualSelection]
    obtain ⟨-, hloaded⟩ := loadObserved_showable hdisk hm f.reload
    generalize m.loadObserved f.reload f.disk = reloaded at hloaded ⊢
    obtain ⟨loaded, m'⟩ := reloaded
    cases loaded with
    | error e => exact hshown.mutation hf.sources (settled_readable hf hpool hnode _ _)
    | ok told =>
      exact (hloaded _ _ rfl).mutation hf.sources (settled_readable hf hpool hnode _ _)
  | buildSnapshot outcome state revision =>
    obtain ⟨hnamed, hshown⟩ := hnext
    refine hshown.mutation hf.sources ?_
    cases outcome with
    | saved => trivial
    | selectorSavedOnly poolId nodeId => exact hnamed

/-! ## Runs -/

/-- The other managers save over the file that is there. -/
def OthersSave (subscriptions : SubscriptionEnv) (u : RoutingSystem) (e : RoutingEvent) : Prop :=
  ∀ next, e = .commit next → ManagerStep subscriptions u.disk (some next)

/-- **Run lemma.**  The state on disk is reached, and the revision within its bound. -/
theorem showable_of_run {events : List RoutingEvent} {u : RoutingSystem}
    (run : Runs RoutingSystem.step (OthersSave subscriptions) ⟨.new, none⟩ events u) :
    Reached subscriptions u.disk ∧ Bounded u.manager := by
  have hnew : (0 : UInt64) ≤ Veyra.maxSafeInteger := by decide
  have hinit : Reached subscriptions none ∧ Bounded .new := ⟨.refl, hnew⟩
  refine run.invariant (fun u => Reached subscriptions u.disk ∧ Bounded u.manager) hinit
    fun u e v hu hsaves hstep => ?_
  obtain ⟨hdisk, hm⟩ := hu
  cases e with
  | mutate env request a =>
    cases hstep
    obtain ⟨-, hbounded, hreached⟩ := mutate_showable hdisk hm env request a
    exact ⟨hreached, hbounded⟩
  | query a =>
    cases hstep
    exact ⟨hdisk, (loadObserved_showable hdisk hm a).1⟩
  | trackApply activeId generation =>
    cases hstep
    exact ⟨hdisk, hm⟩
  | commit next =>
    cases hstep
    exact ⟨hdisk.tail (hsaves next rfl), hm⟩

/-- What the pages can rely on after a run, whatever the runtime did meanwhile. -/
structure AnswersRead {P Bytes Value : Type} [DecidableEq Value]
    (runtime : RuntimeEnv P Bytes Value) (subscriptions : SubscriptionEnv) (u : RoutingSystem) :
    Prop where
  snapshot : ∀ a sources, SourcesOf runtime sources →
    ∃ result m, u.manager.snapshot a sources u.disk = some (result, m) ∧
      parseSnapshotResult result.response = some (receivedSnapshot result)
  /-- A mutation does not panic, and its answer is read. -/
  mutation : ∀ env request a f, f.Of runtime → Reached subscriptions f.disk →
    ∃ result, (u.manager.respond env request a u.disk f).1.1 = some result ∧
      (u.manager.mutateProxyRouting env request a u.disk f).1.1 = result ∧
      parseMutationResult result.response = some (receivedMutation result)

theorem reached_first : Reached linkEnv (some firstState) :=
  .single (@ManagerStep.operation _ (.subscription _) _ _
    (SubscriptionCommit.importManual linkImport_taken.1 linkImport_taken.2))

theorem routing_shown_iff_first :
    (∃ snapshot, buildSnapshot .fresh firstState 1 = some snapshot ∧
      parseSnapshotResult (ProxyRouting.SnapshotResult.ok snapshot).response =
        some (.ok (.of snapshot))) ↔
      firstState.Presentable :=
  routing_shown_iff firstState .fresh 1 reached_first.valid .fresh (by decide)

/-- The first subscription is active. -/
def chosenState : AppState :=
  { firstState with activeSubscriptionId := some ⟨"sub-01"⟩, activeConfigurationGeneration := 1 }

/-- A custom pool over the nodes of the first provider. -/
def poolRequest : MutateRequest :=
  ⟨1, .createCustomPool "all" true [⟨"provider-01", ⟨[], [], [], [], [], []⟩⟩] (.manual none)⟩

/-- The system after an import, an activation and that mutation. -/
def pooledSystem : RoutingSystem :=
  let call := RoutingManager.new.mutate ⟨fun _ => none, some [3]⟩ poolRequest openStore
    (some chosenState)
  ⟨call.1.2, call.2⟩

/-- A routing apply of what the system holds. -/
def poolApply : ActivationCall :=
  ⟨"sub-01", true, some 2, operationIdOf (List.replicate 16 7)⟩

/-- What a mutation of that system finds, with the file that it left and a runtime: the tag of the
node that it chooses, and an activation that nothing stands in the way of. -/
def poolAnswers (request : MutateRequest) (w : ManagedRuntime UInt64 Document) : FinishAnswers where
  manual := (w.reconcileManualSelection ⟨"pool-03"⟩ nodeA.id
    ⟨true, true, false, some (nodeTag nodeA.id.val)⟩).1
  activation := (w.activate plainEnv poolApply
    ⟨false, true, .ok pooledSystem.state, some apiSecret, true⟩ none
    ⟨false, true, true, true, false, true⟩ pooledSystem.state).1.1
  reload := openStore
  disk := (pooledSystem.manager.mutate ⟨fun _ => none, none⟩ request openStore
    pooledSystem.disk).2
  sources := w.sources none

/-- The outcome of a mutation of that system. -/
def poolOutcome (request : MutateRequest) (w : ManagedRuntime UInt64 Document) : Option Outcome :=
  match (pooledSystem.manager.mutateProxyRouting ⟨fun _ => none, none⟩ request openStore
    pooledSystem.disk (poolAnswers request w)).1.1 with
  | .ok outcome _ => some outcome
  | .error _ _ => none

end Calls

end Veyra.Frontend
