import Veyra.Application.RoutingManager
import Veyra.Singbox.Acceptance

/-!
# Veyra.Application.RoutingAcceptance

What routing management accepts and what the compiler accepts.  A projection is
a prepared intent, so only the compiler's own rules on values are left
(`projected_compile_iff`), and the one of them that an accepted mutation may
break is the syntax of IP prefixes (`accepted_mutations_compile`).
-/

namespace Veyra

open Check

/-! ## Projections are prepared -/

theorem blank_append_of_nonblank {p s : String} (h : Text.blank p = false) :
    Text.blank (p ++ s) = false := by
  rw [Text.blank, String.toList_append, List.all_append]
  rw [Text.blank] at h
  rw [h]
  rfl

/-- A pool of the projection is the implicit one or stands for an enabled pool of the state. -/
theorem mem_projected_pools {s : AppState} {p : SelectedRuntimeProjection}
    (h : projectSelectedRuntime s = .ok p) {pool : RuntimePool}
    (hpool : pool ∈ p.runtimeIntent.pools) :
    (pool.id = implicitPoolId p.selectedSubscriptionId ∧ pool.selection = .manual none) ∨
    ∃ source ∈ s.pools, source.enabled = true ∧ pool.id = source.id ∧
      pool.selection = source.selection := by
  rw [(projected_parts h).1, AppState.selectedContent] at hpool
  rcases List.mem_cons.mp (Sorted.mem_sortBy.mp hpool) with rfl | hpool
  · exact .inl ⟨rfl, rfl⟩
  · obtain ⟨source, hsource, hprojected⟩ := List.mem_filterMap.mp hpool
    obtain ⟨hmem, henabled⟩ := List.mem_filter.mp hsource
    simp only [runtimePool] at hprojected
    split at hprojected <;> cases hprojected
    exact .inr ⟨source, hmem, henabled, rfl, rfl⟩

/-- A valid pool that tests does so at an interval. -/
theorem NodePool.hasInterval_of_validate {s : AppState} {pool : NodePool}
    (h : pool.validate s = .ok ()) : pool.selection.hasInterval = true := by
  obtain ⟨-, h⟩ := ok_seq.mp h
  obtain ⟨-, h⟩ := ok_seq.mp h
  cases hselection : pool.selection with
  | manual selected => rfl
  | urlTest probeUrl intervalSecs toleranceMs =>
    rw [hselection] at h
    simp only [reject_eq_ok, Bool.or_eq_false_iff, beq_eq_false_iff_ne] at h
    have hpos : 0 < intervalSecs := UInt64.pos_iff_ne_zero.mpr h.2
    simpa [SelectionPolicy.hasInterval] using hpos

/-- No route that is enabled waits for a target. -/
def AppState.Configured (s : AppState) : Prop :=
  ∀ r ∈ s.routes, r.enabled = true → r.target ≠ .unconfigured

/-- A projection over accepted nodes is prepared. -/
theorem projected_prepared {s : AppState} {p : SelectedRuntimeProjection}
    (h : projectSelectedRuntime s = .ok p) (hnodes : ∀ n ∈ s.nodes, validateNode n = .ok ())
    (hconfigured : s.Configured) : p.runtimeIntent.Prepared p.projectedDefaultTarget := by
  have hs := (projectSelectedRuntime_ok h).1
  have hchecks := projectSelectedRuntime_checked h
  have hprefix : Text.blank runtimePoolPrefix = false := by decide
  exact {
    nodes := fun n hn => validateNode_iff.mp (hnodes n ((mem_projected_nodes h).mp hn).1)
    someNode := by
      obtain ⟨n, hn, howned⟩ := hchecks.nodes
      exact List.ne_nil_of_mem
        ((mem_projected_nodes h).mpr ⟨hn, .inl (AppState.owns_iff.mpr howned)⟩)
    nodeIds := by
      rw [List.Nodup, List.pairwise_map]
      exact (projected_nodes_sorted h).imp fun hlt => ne_of_lt hlt
    pools := by
      intro pool hpool
      refine ⟨?_, hchecks.members pool hpool, fun id hid => projected_members h hpool hid,
        hchecks.selections pool hpool, ?_⟩
      · rcases mem_projected_pools h hpool with ⟨hid, -⟩ | ⟨source, hsource, -, hid, -⟩
        · rw [hid]
          exact blank_append_of_nonblank hprefix
        · rw [hid]
          exact (uniqueIds_eq_ok.mp hs.poolIds).1 _ (List.mem_map_of_mem hsource)
      · rcases mem_projected_pools h hpool with ⟨-, hselection⟩ | ⟨source, hsource, -, -, hselection⟩
        · rw [hselection]
          rfl
        · rw [hselection]
          exact NodePool.hasInterval_of_validate (hs.pools source hsource)
    poolIds := by
      rw [List.Nodup, List.pairwise_map]
      exact (projected_pools_sorted h).imp fun hlt => ne_of_lt hlt
    matchers := by
      intro r hr
      obtain ⟨hmatcher, -⟩ := ok_seq.mp (hs.routes r ((mem_projected_routes h).mp hr).1)
      simpa using hmatcher
    targets := by
      intro r hr
      obtain ⟨hmem, henabled⟩ := (mem_projected_routes h).mp hr
      exact (RouteTarget.existsIn_iff (hchecks.routes r hr)).mpr (hconfigured r hmem henabled)
    defaultTarget := projected_default h }

/-- What the compiler asks for of the routing data of a state. -/
structure AppState.Compilable (env : CompilerEnv) (s : AppState) : Prop where
  active : ∀ id, s.activeSubscriptionId = some id → hasNul id.val = false
  poolIds : ∀ pool ∈ s.pools, hasNul pool.id.val = false
  selections : ∀ pool ∈ s.pools, pool.enabled = true → pool.selection.compiles env = true
  matchers : ∀ r ∈ s.routes, r.enabled = true → r.matcher.compiles = true

theorem hasNul_append (a b : String) : hasNul (a ++ b) = (hasNul a || hasNul b) := by
  rw [hasNul, hasNul, hasNul, String.toList_append]
  simp [List.contains_eq_mem]

/-- The projection of a compilable state is compilable. -/
theorem AppState.Compilable.projected {env : CompilerEnv} {s : AppState}
    (hs : s.Compilable env) {p : SelectedRuntimeProjection}
    (h : projectSelectedRuntime s = .ok p) : p.runtimeIntent.Compilable env where
  poolIds := by
    intro pool hpool
    rcases mem_projected_pools h hpool with ⟨hid, -⟩ | ⟨source, hsource, -, hid, -⟩
    · have hactive := hs.active _ (projectSelectedRuntime_ok h).2.1
      rw [hid, implicitPoolId, hasNul_append, hactive]
      decide
    · rw [hid]
      exact hs.poolIds source hsource
  selections := by
    intro pool hpool
    rcases mem_projected_pools h hpool with ⟨-, hselection⟩ | ⟨source, hsource, henabled, -, hselection⟩
    · rw [hselection]
      rfl
    · rw [hselection]
      exact hs.selections source hsource henabled
  matchers := fun r hr henabled => hs.matchers r ((mem_projected_routes h).mp hr).1 henabled

end Veyra

namespace Veyra.ProxyRouting

open Check

/-! ## Accepted values -/

/-- The parts of a URL that the compiler looks at. -/
def Env.compiler (env : Env) : CompilerEnv :=
  ⟨fun value => (env.parseUrl value).map fun url => ⟨url.scheme, url.host⟩⟩

/-- A URL of the `https` scheme has a host. -/
def Env.HostsHttps (env : Env) : Prop :=
  ∀ value url, env.parseUrl value = some url → url.scheme = "https" → url.host.isSome = true

/-- The IP prefixes that a matcher tests. -/
def MatcherDto.prefixes : MatcherDto → List String
  | .ipCidr values => trimValues values
  | _ => []

/-- The IP prefixes that a mutation puts into an enabled route. -/
def Mutation.prefixes : Mutation → List String
  | .createRoute _ enabled matcher _ _ => if enabled then matcher.prefixes else []
  | .updateRoute _ _ enabled matcher _ => if enabled then matcher.prefixes else []
  | _ => []

/-- The probe URL of an accepted selection is one for the compiler. -/
theorem validateSelection_compiles {env : Env} (hhosts : env.HostsHttps) {selection : SelectionDto}
    (h : validateSelection env selection = .ok ()) :
    selection.toPolicy.compiles env.compiler = true := by
  cases selection with
  | manual selectedNodeId => rfl
  | urlTest probeUrl intervalSeconds toleranceMs =>
    rw [validateSelection, reject_eq_ok] at h
    simp only [Bool.or_eq_false_iff, Bool.not_eq_false', validProbeUrl, Option.any_eq_true] at h
    obtain ⟨-, url, hurl, haccepted⟩ := h
    have hhost : (url.scheme = "http" ∨ url.scheme = "https") ∧ url.host.isSome = true := by
      simp only [Bool.or_eq_true, Bool.and_eq_true, decide_eq_true_eq] at haccepted
      rcases haccepted with hscheme | ⟨⟨⟨⟨⟨hscheme, -⟩, -⟩, -⟩, -⟩, hhost⟩
      · exact ⟨.inr hscheme, hhosts probeUrl url hurl hscheme⟩
      · refine ⟨.inl hscheme, ?_⟩
        rcases hhost with hhost | hhost <;> rw [hhost] <;> rfl
    rw [SelectionDto.toPolicy, SelectionPolicy.compiles, CompilerEnv.validProbeUrl, Env.compiler]
    simp only [hurl, Option.map_some, Option.any_some, Bool.and_eq_true, Bool.or_eq_true,
      decide_eq_true_eq]
    exact hhost

/-- Accepted texts have no NUL. -/
theorem validateTexts_hasNul {values : List String} {max : Nat}
    (h : validateTexts values max = .ok ()) : (trimValues values).all (!hasNul ·) = true := by
  rw [validateTexts, reject_eq_ok, Bool.or_eq_false_iff, Bool.or_eq_false_iff, List.any_eq_false]
    at h
  rw [trimValues, List.all_map, List.all_eq_true]
  intro value hvalue
  have hgood := h.1.2 value hvalue
  simp only [badText, Bool.or_eq_true, not_or, Bool.not_eq_true] at hgood
  have hcontrol := List.any_eq_false.mp hgood.2
  have hnul : Text.isControl '\x00' = true := by decide
  simp only [Function.comp_apply, hasNul, Bool.not_eq_true', List.contains_eq_mem,
    decide_eq_false_iff_not]
  exact fun hmem => hcontrol _ hmem hnul

/-- An accepted matcher is one for the compiler when its prefixes are. -/
theorem validateMatcher_compiles {matcher : MatcherDto} (h : validateMatcher matcher = .ok ()) :
    matcher.toMatcher.compiles = true ↔ ∀ value ∈ matcher.prefixes, validPrefix value = true := by
  cases matcher with
  | domain values => exact iff_of_true (validateTexts_hasNul (ok_seq.mp h).2) (by simp [MatcherDto.prefixes])
  | domainSuffix values => exact iff_of_true (validateTexts_hasNul (ok_seq.mp h).2) (by simp [MatcherDto.prefixes])
  | application values => exact iff_of_true (validateTexts_hasNul (ok_seq.mp h).2) (by simp [MatcherDto.prefixes])
  | ipCidr values =>
    rw [MatcherDto.toMatcher, TrafficMatcher.compiles, MatcherDto.prefixes, List.all_eq_true]
  | port values => simp [MatcherDto.toMatcher, TrafficMatcher.compiles, MatcherDto.prefixes]
  | protocol values => simp [MatcherDto.toMatcher, TrafficMatcher.compiles, MatcherDto.prefixes]

theorem enabled_compiles {enabled : Bool} {matcher : MatcherDto}
    (h : validateMatcher matcher = .ok ()) :
    (enabled = true → matcher.toMatcher.compiles = true) ↔
      ∀ value ∈ (if enabled then matcher.prefixes else []), validPrefix value = true := by
  cases enabled with
  | true => exact (forall_prop_of_true rfl).trans (validateMatcher_compiles h)
  | false => simp

/-- A new id has no NUL. -/
theorem newId_hasNul {env : Env} {kind id : String} (hkind : hasNul kind = false)
    (h : newId env kind = .ok id) : hasNul id = false := by
  obtain ⟨bytes, -, rfl⟩ := map_eq_ok.mp h
  have hdigits : ∀ k < 16, hexDigit k ≠ '\x00' := by decide +kernel
  rw [hasNul, List.contains_eq_mem, decide_eq_false_iff_not] at hkind ⊢
  rw [identityOf, String.toList_ofList, List.mem_append, List.mem_cons, identitySuffix,
    List.mem_flatMap]
  rintro (hmem | hmem | ⟨b, -, hmem⟩)
  · exact hkind hmem
  · exact absurd hmem (by decide)
  · have hb := b.toNat_lt
    rcases List.mem_cons.mp hmem with hdigit | hmem
    · exact hdigits _ (by omega) hdigit.symm
    · exact hdigits _ (by omega) (List.mem_singleton.mp hmem).symm

/-! ## Routes after a mutation -/

/-- A property of what routes do, apart from the order they are tried in. -/
abbrev RouteProperty := Bool → TrafficMatcher → RouteTarget → Prop

def RoutesSatisfy (Q : RouteProperty) (routes : List RoutePolicy) : Prop :=
  ∀ r ∈ routes, Q r.enabled r.matcher r.target

/-- The compiler takes the matchers of the routes that are enabled. -/
def compilesRoute : RouteProperty := fun enabled matcher _ =>
  enabled = true → matcher.compiles = true

/-- An enabled route does not wait for a target. -/
def configuresRoute : RouteProperty := fun enabled _ target => enabled = true → target ≠ .unconfigured

/-- What a mutation puts into a route has the property. -/
def Mutation.Puts (Q : RouteProperty) : Mutation → Prop
  | .createRoute _ enabled matcher target _ => Q enabled matcher.toMatcher target.toTarget
  | .updateRoute _ _ enabled matcher target => Q enabled matcher.toMatcher target.toTarget
  | _ => True

/-- Priorities do not count. -/
theorem normalizeFrom_satisfy {Q : RouteProperty} {index : Nat} {routes routes' : List RoutePolicy}
    (h : normalizeFrom index routes = .ok routes') :
    RoutesSatisfy Q routes' ↔ RoutesSatisfy Q routes := by
  induction routes generalizing index routes' with
  | nil =>
    cases h
    exact Iff.rfl
  | cons route routes ih =>
    obtain ⟨-, h⟩ := ok_seq.mp h
    obtain ⟨rest, hrest, h⟩ := ok_bind.mp h
    cases h
    rw [RoutesSatisfy, RoutesSatisfy, List.forall_mem_cons, List.forall_mem_cons]
    exact and_congr_right fun _ => ih hrest

theorem withRoutes_satisfy {Q : RouteProperty} {s t : AppState} {routes : List RoutePolicy}
    (h : withRoutes s routes = .ok t) : RoutesSatisfy Q t.routes ↔ RoutesSatisfy Q routes := by
  obtain ⟨normalized, hnormalized, h⟩ := ok_bind.mp h
  cases h
  exact normalizeFrom_satisfy hnormalized

/-- Changing the first element with a property, where there is one. -/
theorem forall_mem_modifyFirst {α : Type} {p : α → Bool} {f : α → α} {P : α → Prop} {c : Prop}
    {xs : List α} (hxs : ∀ x ∈ xs, P x) (hf : ∀ x, P (f x) ↔ c) (hp : ∃ x ∈ xs, p x = true) :
    (∀ x ∈ modifyFirst p f xs, P x) ↔ c := by
  induction xs with
  | nil =>
    obtain ⟨x, hx, -⟩ := hp
    cases hx
  | cons x xs ih =>
    obtain ⟨hx, hrest⟩ := List.forall_mem_cons.mp hxs
    rw [modifyFirst]
    split
    · rw [List.forall_mem_cons, hf]
      exact and_iff_left hrest
    · next hnot =>
      have hlater : ∃ y ∈ xs, p y = true := by
        obtain ⟨y, hy, hpy⟩ := hp
        rcases List.mem_cons.mp hy with rfl | hy
        · exact absurd hpy hnot
        · exact ⟨y, hy, hpy⟩
      rw [List.forall_mem_cons, ih hrest hlater]
      exact and_iff_right hx

theorem modifyFirst_preserves {α : Type} {p : α → Bool} {f : α → α} {P : α → Prop} {xs : List α}
    (hxs : ∀ x ∈ xs, P x) (hf : ∀ x, P x → P (f x)) : ∀ x ∈ modifyFirst p f xs, P x := by
  induction xs with
  | nil => exact hxs
  | cons x xs ih =>
    obtain ⟨hx, hrest⟩ := List.forall_mem_cons.mp hxs
    rw [modifyFirst]
    split
    · exact List.forall_mem_cons.mpr ⟨hf x hx, hrest⟩
    · exact List.forall_mem_cons.mpr ⟨hx, ih hrest⟩

/-- **Spec.**  Where all routes have a property, they do after a mutation when what it puts into
a route has it. -/
theorem applyMutation_routes {Q : RouteProperty} {env : Env} {s t : AppState}
    {mutation : Mutation} {outcome : MutationOutcome} (hs : RoutesSatisfy Q s.routes)
    (h : applyMutation env s mutation = .ok (t, outcome)) :
    RoutesSatisfy Q t.routes ↔ mutation.Puts Q := by
  cases applyMutation_cases h with
  | createRoute _ inside _ _ _ _ _ renumbered =>
    rw [withRoutes_satisfy renumbered]
    simp only [RoutesSatisfy, List.mem_insertIdx inside, forall_eq_or_imp]
    exact and_iff_left hs
  | updateRoute _ _ _ found =>
    exact forall_mem_modifyFirst hs (fun _ => Iff.rfl)
      ⟨_, List.mem_of_find?_eq_some found, by simpa using List.find?_some found⟩
  | deleteRoute taken renumbered =>
    rw [withRoutes_satisfy renumbered]
    exact iff_of_true (fun r hr => hs r ((mem_of_takeRoute taken).2 r hr)) trivial
  | reorderRoutes _ arranged renumbered =>
    rw [withRoutes_satisfy renumbered]
    exact iff_of_true (fun r hr => hs r (mem_of_orderRoutes arranged r hr)) trivial
  | _ => exact iff_of_true hs trivial

/-- An accepted mutation puts a target into every route. -/
theorem Mutation.puts_configured (mutation : Mutation) : mutation.Puts configuresRoute := by
  have htarget : ∀ target : RouteTargetDto, target.toTarget ≠ .unconfigured := by
    intro target
    cases target <;> exact RouteTarget.noConfusion
  cases mutation with
  | createRoute name enabled matcher target insertAt => exact fun _ => htarget target
  | updateRoute id name enabled matcher target => exact fun _ => htarget target
  | _ => trivial

/-- What an accepted mutation puts into a route compiles when its prefixes are valid. -/
theorem puts_compiles {env : Env} {s t : AppState} {mutation : Mutation}
    {outcome : MutationOutcome} (h : applyMutation env s mutation = .ok (t, outcome)) :
    mutation.Puts compilesRoute ↔ ∀ value ∈ mutation.prefixes, validPrefix value = true := by
  cases applyMutation_cases h with
  | createRoute _ _ _ matched _ _ _ _ => exact enabled_compiles matched
  | updateRoute _ matched _ _ => exact enabled_compiles matched
  | _ => exact iff_of_true trivial (by simp [Mutation.prefixes])

/-! ## Pools after a mutation -/

/-- The compiler takes a pool. -/
def PoolCompiles (env : CompilerEnv) (pool : NodePool) : Prop :=
  hasNul pool.id.val = false ∧ (pool.enabled = true → pool.selection.compiles env = true)

/-- A selection by hand is a selection that the compiler takes. -/
theorem selectManually_compiles {env : CompilerEnv} {nodeId : String}
    {old selection : SelectionPolicy} (h : selectManually nodeId old = .ok selection) :
    selection.compiles env = true := by
  cases old with
  | manual selected =>
    cases h
    rfl
  | urlTest => cases h

/-- **Spec.**  The pools that a mutation leaves compile, if they did before. -/
theorem applyMutation_pools {env : Env} (hhosts : env.HostsHttps) {s t : AppState}
    {mutation : Mutation} {outcome : MutationOutcome}
    (hs : ∀ pool ∈ s.pools, PoolCompiles env.compiler pool)
    (h : applyMutation env s mutation = .ok (t, outcome)) :
    ∀ pool ∈ t.pools, PoolCompiles env.compiler pool := by
  cases applyMutation_cases h with
  | createCustomPool _ _ _ selects drawn _ =>
    intro pool hpool
    rcases List.mem_append.mp hpool with hpool | hpool
    · exact hs pool hpool
    · rw [List.mem_singleton.mp hpool]
      exact ⟨newId_hasNul (by decide) drawn, fun _ => validateSelection_compiles hhosts selects⟩
  | updateCustomPool _ _ selects _ =>
    exact modifyFirst_preserves hs fun pool hpool =>
      ⟨hpool.1, fun _ => validateSelection_compiles hhosts selects⟩
  | deleteCustomPool _ _ => exact fun pool hpool => hs pool (List.eraseP_sublist.subset hpool)
  | setManualSelection _ _ _ selected =>
    exact modifyFirst_preserves hs fun pool hpool =>
      ⟨hpool.1, fun _ => selectManually_compiles selected⟩
  | createRoute _ _ _ _ _ _ _ renumbered => exact (withRoutes_ids renumbered).1 ▸ hs
  | deleteRoute _ renumbered => exact (withRoutes_ids renumbered).1 ▸ hs
  | reorderRoutes _ _ renumbered => exact (withRoutes_ids renumbered).1 ▸ hs
  | _ => exact hs

/-! ## Accepted mutations compile -/

/-- The state after a mutation was accepted. -/
def Decision.state (s : AppState) : Decision → AppState
  | .apply _ _ => s
  | .unchanged _ => s
  | .save next _ => next

/-- What an accepted mutation leaves of the data that the compiler looks at. -/
structure Accepts (env : Env) (mutation : Mutation) (s t : AppState) : Prop where
  nodes : t.nodes = s.nodes
  active : t.activeSubscriptionId = s.activeSubscriptionId
  configured : s.Configured → t.Configured
  pools : (∀ pool ∈ s.pools, PoolCompiles env.compiler pool) →
    ∀ pool ∈ t.pools, PoolCompiles env.compiler pool
  routes : RoutesSatisfy compilesRoute s.routes → (RoutesSatisfy compilesRoute t.routes ↔
    ∀ value ∈ mutation.prefixes, validPrefix value = true)

theorem applyMutation_accepts {env : Env} (hhosts : env.HostsHttps) {s t : AppState}
    {mutation : Mutation} {outcome : MutationOutcome}
    (h : applyMutation env s mutation = .ok (t, outcome)) : Accepts env mutation s t where
  nodes := (applyMutation_ok h).nodes
  active := (applyMutation_ok h).active
  configured := by
    intro hs
    have hroutes : RoutesSatisfy configuresRoute s.routes := hs
    exact (applyMutation_routes hroutes h).mpr mutation.puts_configured
  pools := fun hs => applyMutation_pools hhosts hs h
  routes := fun hs => (applyMutation_routes hs h).trans (puts_compiles h)

/-- The state after any accepted mutation. -/
theorem mutate_accepts {env : Env} (hhosts : env.HostsHttps) {revisions observed : RevisionState}
    {request : MutateRequest} {s : AppState} {decision : Decision}
    (h : mutate env revisions request s = .ok (observed, decision)) :
    Accepts env request.mutation s (decision.state s) := by
  obtain ⟨seen, hseen, h⟩ := ok_bind.mp h
  obtain ⟨decided, hdecided, h⟩ := ok_bind.mp h
  cases h
  have hmaterial := (RevisionState.observe_ok hseen).seen
  obtain ⟨-, hdecided⟩ := ok_seq.mp hdecided
  split at hdecided
  · next hmutation =>
    obtain ⟨id, -, rfl⟩ := map_eq_ok.mp hdecided
    rw [hmutation]
    exact ⟨rfl, rfl, fun hs => hs, fun hs => hs,
      fun hs => iff_of_true hs (by simp [Mutation.prefixes])⟩
  · obtain ⟨⟨edited, outcome⟩, hedited, h⟩ := ok_bind.mp hdecided
    have haccepts := applyMutation_accepts hhosts hedited
    simp only at h
    split at h
    · next hsame =>
      cases h
      rw [hmaterial, Option.some.injEq] at hsame
      have hroutes : edited.routes = s.routes := congrArg CasMaterial.routes hsame
      refine ⟨rfl, rfl, fun hs => hs, fun hs => hs, fun hs => ?_⟩
      rw [← haccepts.routes hs, hroutes]
      rfl
    · obtain ⟨generation, -, h⟩ := ok_bind.mp h
      obtain ⟨-, h⟩ := ok_seq.mp h
      obtain ⟨-, h⟩ := ok_seq.mp h
      cases h
      exact ⟨haccepts.nodes, haccepts.active, haccepts.configured, haccepts.pools,
        haccepts.routes⟩

/-- **What routing management accepts, the compiler accepts**, except for the syntax of IP
prefixes.  The projection of the state after an accepted mutation compiles exactly when the
compiler takes its values; and where the routing data compiled before, it does when the IP
prefixes that the mutation put into an enabled route are valid. -/
theorem accepted_mutations_compile (env : Env) (hhosts : env.HostsHttps)
    (revisions observed : RevisionState) (request : MutateRequest) (s : AppState)
    (decision : Decision) (hnodes : ∀ n ∈ s.nodes, validateNode n = .ok ())
    (hconfigured : s.Configured)
    (h : mutate env revisions request s = .ok (observed, decision))
    (p : SelectedRuntimeProjection) (hp : projectSelectedRuntime (decision.state s) = .ok p) :
    ((∃ plan, compile env.compiler p.runtimeIntent p.projectedDefaultTarget = .ok plan) ↔
      p.runtimeIntent.Compilable env.compiler) ∧
    (s.Compilable env.compiler →
      ((∃ plan, compile env.compiler p.runtimeIntent p.projectedDefaultTarget = .ok plan) ↔
        ∀ value ∈ request.mutation.prefixes, validPrefix value = true)) := by
  have haccepts := mutate_accepts hhosts h
  have hprepared := projected_prepared hp (haccepts.nodes ▸ hnodes)
    (haccepts.configured hconfigured)
  have hcompile := compile_iff env.compiler hprepared
  refine ⟨hcompile, fun hs => hcompile.trans ?_⟩
  have hpools := haccepts.pools fun pool hpool => ⟨hs.poolIds pool hpool, hs.selections pool hpool⟩
  rw [← haccepts.routes hs.matchers]
  constructor
  · intro hcompilable r hr henabled
    exact hcompilable.matchers r ((mem_projected_routes hp).mpr ⟨hr, henabled⟩) henabled
  · intro hroutes
    have hstate : (decision.state s).Compilable env.compiler :=
      ⟨haccepts.active ▸ hs.active, fun pool hpool => (hpools pool hpool).1,
        fun pool hpool => (hpools pool hpool).2, hroutes⟩
    exact hstate.projected hp

/-- An environment with random bytes. -/
def randomEnv : Env := ⟨fun _ => none, some [0, 1, 2, 3, 4, 5, 6, 7]⟩

/-- A new route for one IP prefix. -/
def createIpRoute (value : String) : MutateRequest :=
  ⟨1, .createRoute "lan" true (.ipCidr [value]) .direct 0⟩

/-- Whether the projection compiles after a mutation; `none` if the mutation or the projection
fails. -/
def compilesAfter (s : AppState) (request : MutateRequest) : Option Bool := do
  let (_, decision) ← (mutate randomEnv ⟨0, none⟩ request s).toOption
  let p ← (projectSelectedRuntime (decision.state s)).toOption
  some (compile randomEnv.compiler p.runtimeIntent p.projectedDefaultTarget).isOk

theorem compilesAfter_false {s : AppState} {request : MutateRequest}
    (h : compilesAfter s request = some false) :
    ∃ observed decision p, mutate randomEnv ⟨0, none⟩ request s = .ok (observed, decision) ∧
      projectSelectedRuntime (decision.state s) = .ok p ∧
      ∀ plan, compile randomEnv.compiler p.runtimeIntent p.projectedDefaultTarget ≠ .ok plan := by
  obtain ⟨⟨observed, decision⟩, hmutate, h⟩ := Option.bind_eq_some_iff.mp h
  obtain ⟨p, hp, h⟩ := Option.bind_eq_some_iff.mp h
  refine ⟨observed, decision, p, toOption_eq_some.mp hmutate, toOption_eq_some.mp hp, ?_⟩
  intro plan hplan
  rw [hplan] at h
  cases h

/-- A valid state whose route tests a domain with a NUL. -/
def nulState : AppState :=
  { routedState .direct with
    routes := [{ id := ⟨"route"⟩, name := "route", enabled := true, priority := 0
                 matcher := .domain [String.ofList ['a', '\x00']], target := .direct }] }

/-- Two accepted mutations after which the projection does not compile: one creates a route for
an IP address without a prefix length, the other leaves a stored text with a NUL in place. -/
theorem accepted_mutation_refused :
    ((routedState .direct).validate = .ok () ∧
      (∀ n ∈ (routedState .direct).nodes, validateNode n = .ok ()) ∧
      ∃ observed decision p,
        mutate randomEnv ⟨0, none⟩ (createIpRoute "1.2.3.4") (routedState .direct) =
          .ok (observed, decision) ∧
        projectSelectedRuntime (decision.state (routedState .direct)) = .ok p ∧
        ∀ plan, compile randomEnv.compiler p.runtimeIntent p.projectedDefaultTarget ≠ .ok plan) ∧
    (nulState.validate = .ok () ∧ (∀ n ∈ nulState.nodes, validateNode n = .ok ()) ∧
      ∃ observed decision p,
        mutate randomEnv ⟨0, none⟩ ⟨1, .setDefaultTarget .direct⟩ nulState =
          .ok (observed, decision) ∧
        projectSelectedRuntime (decision.state nulState) = .ok p ∧
        ∀ plan, compile randomEnv.compiler p.runtimeIntent p.projectedDefaultTarget ≠ .ok plan) := by
  have haddress : compilesAfter (routedState .direct) (createIpRoute "1.2.3.4") = some false := by
    decide +kernel
  have hnul : compilesAfter nulState ⟨1, .setDefaultTarget .direct⟩ = some false := by
    decide +kernel
  exact ⟨⟨by decide +kernel, by decide +kernel, compilesAfter_false haddress⟩,
    by decide +kernel, by decide +kernel, compilesAfter_false hnul⟩

theorem routedState_compilable : (routedState .direct).Compilable randomEnv.compiler where
  active := by
    intro id hid
    cases hid
    decide
  poolIds := fun pool hpool => absurd hpool List.not_mem_nil
  selections := fun pool hpool => absurd hpool List.not_mem_nil
  matchers := by
    intro r hr _
    obtain rfl := List.mem_singleton.mp hr
    rfl

theorem accepted_mutations_compile_prefix :
    ∃ (decision : Decision) (p : SelectedRuntimeProjection),
      projectSelectedRuntime (decision.state (routedState .direct)) = .ok p ∧
      p.runtimeIntent.Compilable randomEnv.compiler ∧
      ∃ plan, compile randomEnv.compiler p.runtimeIntent p.projectedDefaultTarget = .ok plan := by
  have hmutate : (mutate randomEnv ⟨0, none⟩ (createIpRoute "1.2.3.4/32")
      (routedState .direct)).isOk = true := by decide +kernel
  obtain ⟨⟨observed, decision⟩, hdecision⟩ := exists_ok hmutate
  have hproject : ((mutate randomEnv ⟨0, none⟩ (createIpRoute "1.2.3.4/32")
      (routedState .direct)).toOption.map fun r =>
        (projectSelectedRuntime (r.2.state (routedState .direct))).isOk) = some true := by
    decide +kernel
  rw [hdecision] at hproject
  obtain ⟨p, hp⟩ := exists_ok (Option.some.inj hproject)
  have hhosts : randomEnv.HostsHttps := by
    intro value url hurl
    cases hurl
  have hconfigured : (routedState .direct).Configured := by
    intro r hr _
    obtain rfl := List.mem_singleton.mp hr
    exact RouteTarget.noConfusion
  have hresult := accepted_mutations_compile randomEnv hhosts ⟨0, none⟩ observed
    (createIpRoute "1.2.3.4/32") (routedState .direct) decision (by decide +kernel) hconfigured
    hdecision p hp
  have hplan := (hresult.2 routedState_compilable).mpr (by decide +kernel)
  exact ⟨decision, p, hp, hresult.1.mp hplan, hplan⟩

end Veyra.ProxyRouting
