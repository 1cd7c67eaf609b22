import Veyra.Singbox.ReadBack
import Veyra.Singbox.RoutingMeaning
import Veyra.Application.ProjectionClosure

/-!
# Veyra.Singbox.Acceptance

When `compile` succeeds.  For an intent that is closed and whose nodes pass
`validate_node` (`RuntimeIntent.Prepared`, which a projection is), nothing but
the rules of the compiler's own on texts, prefixes and probe URLs is left:
`compile_iff`.
-/

namespace Veyra

open Check

/-! ## What an intent brings along -/

/-- The rules of the compiler on the values of a matcher, beyond those of the domain. -/
def TrafficMatcher.compiles : TrafficMatcher → Bool
  | .domain values | .domainSuffix values | .application values => values.all (!hasNul ·)
  | .ipCidr values => values.all validPrefix
  | .port _ | .protocol _ => true

/-- The rules of the compiler on a selection. -/
def SelectionPolicy.compiles (env : CompilerEnv) : SelectionPolicy → Bool
  | .manual _ => true
  | .urlTest probeUrl _ _ => env.validProbeUrl probeUrl

/-- A selection that tests at no interval does not pass the domain. -/
def SelectionPolicy.hasInterval : SelectionPolicy → Bool
  | .manual _ => true
  | .urlTest _ intervalSecs _ => intervalSecs > 0

/-- A pool that has members and selects one of them. -/
structure RuntimePool.Prepared (nodes : List ProxyNode) (pool : RuntimePool) : Prop where
  id : Text.blank pool.id.val = false
  nonempty : pool.members ≠ []
  members : ∀ id ∈ pool.members, ∃ n ∈ nodes, n.id = id
  selection : pool.selection.isOutside pool.members = false
  interval : pool.selection.hasInterval = true

/-- An intent with accepted nodes in which every reference has a target. -/
structure RuntimeIntent.Prepared (intent : RuntimeIntent) (defaultTarget : RouteTarget) :
    Prop where
  nodes : ∀ n ∈ intent.nodes, n.Accepted
  someNode : intent.nodes ≠ []
  nodeIds : (intent.nodes.map (·.id.val)).Nodup
  pools : ∀ pool ∈ intent.pools, pool.Prepared intent.nodes
  poolIds : (intent.pools.map (·.id.val)).Nodup
  matchers : ∀ r ∈ intent.routes, r.matcher.isValid = true
  targets : ∀ r ∈ intent.routes, r.target.ExistsIn intent.pools
  defaultTarget : defaultTarget.ExistsIn intent.pools

/-- What the compiler asks for beyond a prepared intent. -/
structure RuntimeIntent.Compilable (env : CompilerEnv) (intent : RuntimeIntent) : Prop where
  poolIds : ∀ pool ∈ intent.pools, hasNul pool.id.val = false
  selections : ∀ pool ∈ intent.pools, pool.selection.compiles env = true
  matchers : ∀ r ∈ intent.routes, r.enabled = true → r.matcher.compiles = true

/-! ## Tags -/

/-- Different nodes have different tags. -/
theorem nodeTag_injective : Function.Injective nodeTag := by
  intro a b h
  rw [nodeTag, nodeTag, ← String.toList_inj, String.toList_append, String.toList_append,
    List.append_cancel_left_eq, String.toList_inj] at h
  exact h

/-- So have different pools. -/
theorem poolTag_injective : Function.Injective poolTag := by
  intro a b h
  rw [poolTag, poolTag, ← String.toList_inj, String.toList_append, String.toList_append,
    List.append_cancel_left_eq, String.toList_inj] at h
  exact h

/-- Tags of nodes are in the order of their ids. -/
theorem nodeTag_le {a b : String} (h : a ≤ b) : nodeTag a ≤ nodeTag b := by
  rcases lt_or_eq_of_le h with hlt | rfl
  · apply le_of_lt
    rw [nodeTag, nodeTag, String.lt_iff_toList_lt, String.toList_append, String.toList_append]
    exact List.append_left_lt (String.lt_iff_toList_lt.mp hlt)
  · exact le_refl _

/-- No node has the tag of a pool. -/
theorem nodeTag_ne_poolTag (a b : String) : nodeTag a ≠ poolTag b := by
  intro h
  rw [nodeTag, poolTag, ← String.toList_inj, String.toList_append, String.toList_append] at h
  exact absurd (List.cons.inj h).1 (by decide)

/-- No node has the tag of a terminal. -/
theorem nodeTag_ne_terminal {tag : String} (a : String) (h : tag = "direct" ∨ tag = "block") :
    nodeTag a ≠ tag := by
  intro htag
  rw [nodeTag, ← String.toList_inj, String.toList_append] at htag
  rcases h with rfl | rfl <;> exact absurd (List.cons.inj htag).1 (by decide)

/-- No pool has the tag of a terminal. -/
theorem poolTag_ne_terminal {tag : String} (a : String) (h : tag = "direct" ∨ tag = "block") :
    poolTag a ≠ tag := by
  intro htag
  rw [poolTag, ← String.toList_inj, String.toList_append] at htag
  rcases h with rfl | rfl <;> exact absurd (List.cons.inj htag).1 (by decide)

/-! ## Groups -/

theorem poolOutbound_tag (pool : RuntimePool) (members : List String) :
    (poolOutbound pool members).tag = poolTag pool.id.val := by
  rw [poolOutbound]
  cases pool.selection <;> rfl

/-- A pool is accepted if its id is there. -/
theorem poolOutbound_accepted (pool : RuntimePool) (members : List String) :
    (poolOutbound pool members).Accepted ↔ present pool.id.val = true := by
  rw [poolOutbound]
  cases pool.selection <;>
    simp only [CoreOutbound.Accepted, validTag, poolTag, Text.stripPrefix_append, Option.any_some]

/-- A member tag is the tag of a member. -/
theorem mem_memberTags {pool : RuntimePool} {tag : String} :
    tag ∈ pool.memberTags ↔ ∃ id ∈ pool.members, nodeTag id.val = tag := by
  rw [RuntimePool.memberTags, Sorted.mem_sortDedup, List.mem_map]

/-- The members of a prepared pool pass when its nodes have tags. -/
theorem RuntimePool.Prepared.validateMembers {nodes : List ProxyNode} {pool : RuntimePool}
    (h : pool.Prepared nodes) {nodeTags : List String}
    (htags : ∀ n ∈ nodes, nodeTag n.id.val ∈ nodeTags) :
    validateMembers pool.memberTags nodeTags = .ok () := by
  refine ok_seq.mpr ⟨?_, ?_⟩
  · rw [reject_eq_ok, List.isEmpty_eq_false_iff]
    obtain ⟨id, hid⟩ := List.exists_mem_of_ne_nil _ h.nonempty
    exact List.ne_nil_of_mem (mem_memberTags.mpr ⟨id, hid, rfl⟩)
  · rw [reject_eq_ok, Bool.or_eq_false_iff]
    constructor
    · rw [List.any_eq_false]
      intro tag htag
      obtain ⟨id, hid, rfl⟩ := mem_memberTags.mp htag
      obtain ⟨n, hn, rfl⟩ := h.members id hid
      simpa using htags n hn
    · have hnodup : pool.memberTags.Nodup := Sorted.nodup_sortDedup Function.injective_id _
      simpa using hnodup

/-- The seconds of an interval are read back. -/
theorem interval_read (seconds : UInt64) :
    (Text.stripSuffixChar 's' ((toString seconds.toNat).push 's')).bind Text.parseU64 =
      some seconds := by
  have hparse : Text.parseU64 seconds.toNat.repr = some seconds := by
    rw [Text.parseU64, Text.parseUnsigned_repr seconds.toNat_lt, Option.map_some,
      UInt64.ofNat_toNat]
  rw [Text.stripSuffixChar_push]
  exact hparse

/-- The group of a prepared pool passes when its probe URL does. -/
theorem validateGroup_iff {env : CompilerEnv} {nodes : List ProxyNode} {pool : RuntimePool}
    (h : pool.Prepared nodes) {nodeTags : List String}
    (htags : ∀ n ∈ nodes, nodeTag n.id.val ∈ nodeTags) :
    validateGroup env nodeTags (poolOutbound pool pool.memberTags) = .ok () ↔
      pool.selection.compiles env = true := by
  have hmembers := h.validateMembers htags
  cases hselection : pool.selection with
  | manual selected =>
    simp only [poolOutbound, hselection, validateGroup, ok_seq, hmembers, true_and, reject_eq_ok,
      SelectionPolicy.compiles, iff_true]
    cases selected with
    | none => rfl
    | some id =>
      have hinside := h.selection
      rw [hselection, SelectionPolicy.isOutside, Bool.not_eq_false', List.contains_iff_mem]
        at hinside
      simpa using mem_memberTags.mpr ⟨id, hinside, rfl⟩
  | urlTest probeUrl intervalSecs toleranceMs =>
    have hinterval := h.interval
    rw [hselection] at hinterval
    simp only [poolOutbound, hselection, validateGroup, ok_seq, hmembers, true_and, reject_eq_ok,
      interval_read, SelectionPolicy.compiles, Option.any_some, Bool.or_eq_false_iff,
      Bool.not_eq_false', and_iff_left_iff_imp]
    intro _
    exact hinterval

/-! ## Rules -/

theorem validTexts_iff {values : List String}
    (h : (values.all (!Text.blank ·) && !values.isEmpty) = true) :
    validTexts values = true ↔ values.all (!hasNul ·) = true := by
  rw [Bool.and_eq_true, List.all_eq_true] at h
  simp only [validTexts, Bool.and_eq_true, List.all_eq_true, present, h.2, true_and]
  exact forall₂_congr fun value hvalue => by simp [h.1 value hvalue]

/-- The rule of a valid matcher passes when the compiler takes its values. -/
theorem validateRule_iff {poolTags : List String} {tag : String} {matcher : TrafficMatcher}
    (htag : validOutbound poolTags tag = true) (h : matcher.isValid = true) :
    validateRule poolTags (matcherRule tag matcher) = .ok () ↔ matcher.compiles = true := by
  have htarget : (some tag).any (validOutbound poolTags) = true := htag
  cases matcher with
  | domain values =>
    have hvalues := validTexts_iff h
    simp [validateRule, matcherRule, ok_seq, CoreRule.matcherCount, htarget, hvalues,
      TrafficMatcher.compiles]
  | domainSuffix values =>
    have hvalues := validTexts_iff h
    simp [validateRule, matcherRule, ok_seq, CoreRule.matcherCount, htarget, hvalues,
      TrafficMatcher.compiles]
  | application values =>
    have hvalues := validTexts_iff h
    simp [validateRule, matcherRule, ok_seq, CoreRule.matcherCount, htarget, hvalues,
      TrafficMatcher.compiles]
  | ipCidr values =>
    rw [TrafficMatcher.isValid, Bool.and_eq_true, Bool.not_eq_true'] at h
    simp [validateRule, matcherRule, ok_seq, CoreRule.matcherCount, htarget, h.2,
      TrafficMatcher.compiles]
  | port values =>
    rw [TrafficMatcher.isValid, Bool.and_eq_true, Bool.not_eq_true', List.all_eq_true] at h
    have hzero : (0 : UInt16) ∉ values := fun hmem => by simpa using h.1 0 hmem
    simp [validateRule, matcherRule, ok_seq, CoreRule.matcherCount, htarget, h.2, hzero,
      TrafficMatcher.compiles]
  | protocol values =>
    rw [TrafficMatcher.isValid, Bool.not_eq_true'] at h
    simp [validateRule, matcherRule, ok_seq, CoreRule.matcherCount, htarget, h,
      TrafficMatcher.compiles]

/-! ## What is emitted -/

/-- The groups of the pools. -/
def groupsOf (pools : List RuntimePool) : List CoreOutbound :=
  pools.map fun pool => poolOutbound pool pool.memberTags

/-- Pools with members are emitted as groups. -/
theorem emitPools_groups {pools : List RuntimePool} (h : ∀ pool ∈ pools, pool.members ≠ []) :
    emitPools pools = .ok (groupsOf pools) := by
  induction pools with
  | nil => rfl
  | cons pool rest ih =>
    obtain ⟨hpool, hrest⟩ := List.forall_mem_cons.mp h
    refine ok_seq.mpr ⟨?_, ok_bind.mpr ⟨_, ih hrest, rfl⟩⟩
    rw [reject_eq_ok, List.isEmpty_eq_false_iff]
    exact hpool

/-- A tag that a rule may name when the pools have groups. -/
def ReachableTag (pools : List RuntimePool) (tag : String) : Prop :=
  tag = "direct" ∨ tag = "block" ∨ ∃ pool ∈ pools, poolTag pool.id.val = tag

/-- The target of a route that exists has a tag that is reached. -/
theorem routeTag_existing {pools : List RuntimePool} {target : RouteTarget}
    (h : target.ExistsIn pools) : ∃ tag, routeTag target = .ok tag ∧ ReachableTag pools tag := by
  cases target with
  | unconfigured => exact absurd h id
  | pool id =>
    obtain ⟨pool, hpool, rfl⟩ := h
    exact ⟨_, rfl, .inr (.inr ⟨pool, hpool, rfl⟩)⟩
  | direct => exact ⟨_, rfl, .inl rfl⟩
  | block => exact ⟨_, rfl, .inr (.inl rfl)⟩

/-- So has the target of the default. -/
theorem finalTag_existing {pools : List RuntimePool} {target : RouteTarget}
    (h : target.ExistsIn pools) : ∃ tag, finalTag pools target = .ok tag ∧ ReachableTag pools tag := by
  obtain ⟨tag, htag, hreachable⟩ := routeTag_existing h
  refine ⟨tag, ?_, hreachable⟩
  cases target with
  | pool id =>
    obtain ⟨pool, hpool, rfl⟩ := h
    rw [finalTag, if_pos (List.any_eq_true.mpr ⟨pool, hpool, by simp⟩)]
    exact htag
  | _ => exact htag

/-- The rule of a route whose target has an outbound. -/
def RuleOf (pools : List RuntimePool) (route : RoutePolicy) (rule : CoreRule) : Prop :=
  ∃ tag, ReachableTag pools tag ∧ rule = matcherRule tag route.matcher

/-- Rules that are those of routes, each route having one. -/
structure RulesOf (pools : List RuntimePool) (routes : List RoutePolicy) (rules : List CoreRule) :
    Prop where
  ofRule : ∀ rule ∈ rules, ∃ r ∈ routes, RuleOf pools r rule
  ofRoute : ∀ r ∈ routes, ∃ rule ∈ rules, RuleOf pools r rule

/-- Routes whose targets exist become rules. -/
theorem emitRoutes_existing {pools : List RuntimePool} {routes : List RoutePolicy}
    (h : ∀ r ∈ routes, r.target.ExistsIn pools) :
    ∃ rules, emitRoutes routes = .ok rules ∧ RulesOf pools routes rules := by
  induction routes with
  | nil => exact ⟨[], rfl, by simp, by simp⟩
  | cons route rest ih =>
    obtain ⟨hroute, hrest⟩ := List.forall_mem_cons.mp h
    obtain ⟨tag, htag, hreachable⟩ := routeTag_existing hroute
    obtain ⟨rules, hrules, hof⟩ := ih hrest
    have hrule : RuleOf pools route (matcherRule tag route.matcher) := ⟨tag, hreachable, rfl⟩
    refine ⟨matcherRule tag route.matcher :: rules, ok_bind.mpr ⟨_, ok_bind.mpr ⟨tag, htag, rfl⟩,
      ok_bind.mpr ⟨rules, hrules, rfl⟩⟩, ?_, ?_⟩
    · refine List.forall_mem_cons.mpr ⟨⟨route, List.mem_cons_self, hrule⟩, fun rule hmem => ?_⟩
      obtain ⟨r, hr, hrel⟩ := hof.ofRule rule hmem
      exact ⟨r, List.mem_cons_of_mem _ hr, hrel⟩
    · refine List.forall_mem_cons.mpr ⟨⟨_, List.mem_cons_self, hrule⟩, fun r hmem => ?_⟩
      obtain ⟨rule, hrule, hrel⟩ := hof.ofRoute r hmem
      exact ⟨rule, List.mem_cons_of_mem _ hrule, hrel⟩

/-! ## The assembled document -/

/-- The parts of a document that a prepared intent is compiled to. -/
structure Assembled (intent : RuntimeIntent) (finalOutbound : String)
    (nodes : List CoreOutbound) (endpoints : List WireGuardEndpoint) (rules : List CoreRule) :
    Prop where
  final : ReachableTag intent.pools finalOutbound
  nodes : Emits (Sorted.sortBy (·.id.val) intent.nodes) nodes endpoints
  rules : RulesOf intent.pools
    (Sorted.sortBy RoutePolicy.key (intent.routes.filter (·.enabled))) rules

/-- The document of these parts. -/
def assembledOf (intent : RuntimeIntent) (finalOutbound : String) (nodes : List CoreOutbound)
    (endpoints : List WireGuardEndpoint) (rules : List CoreRule) : Document :=
  assemble finalOutbound nodes (groupsOf (Sorted.sortBy (·.id.val) intent.pools)) endpoints rules

/-- A prepared intent gets as far as the validation of its document. -/
theorem compile_prepared (env : CompilerEnv) {intent : RuntimeIntent} {defaultTarget : RouteTarget}
    (h : intent.Prepared defaultTarget) :
    ∃ finalOutbound nodes endpoints rules, Assembled intent finalOutbound nodes endpoints rules ∧
      ((∃ plan, compile env intent defaultTarget = .ok plan) ↔
        (assembledOf intent finalOutbound nodes endpoints rules).Accepted env false) := by
  obtain ⟨finalOutbound, hfinal, hreachable⟩ := finalTag_existing h.defaultTarget
  have hnodes : ∀ n ∈ Sorted.sortBy (·.id.val) intent.nodes, n.Accepted :=
    fun n hn => h.nodes n (Sorted.mem_sortBy.mp hn)
  have htargets : ∀ r ∈ Sorted.sortBy RoutePolicy.key (intent.routes.filter (·.enabled)),
      r.target.ExistsIn intent.pools :=
    fun r hr => h.targets r (List.mem_filter.mp (Sorted.mem_sortBy.mp hr)).1
  obtain ⟨nodes, endpoints, hemits⟩ := emitNodes_accepted hnodes
  obtain ⟨rules, hrules, hall⟩ := emitRoutes_existing htargets
  have hgroups : emitPools (Sorted.sortBy (·.id.val) intent.pools) =
      .ok (groupsOf (Sorted.sortBy (·.id.val) intent.pools)) :=
    emitPools_groups fun pool hpool => (h.pools pool (Sorted.mem_sortBy.mp hpool)).nonempty
  refine ⟨finalOutbound, nodes, endpoints, rules, ⟨hreachable, hemits, hall⟩, ?_⟩
  constructor
  · rintro ⟨plan, hplan⟩
    obtain ⟨_, _, _, _, _, hfinal', hnodes', hgroups', hrules', hdocument, haccepted⟩ :=
      compile_ok hplan
    rw [hfinal] at hfinal'
    rw [hemits.emits] at hnodes'
    rw [hgroups] at hgroups'
    rw [hrules] at hrules'
    cases hfinal'
    cases hnodes'
    cases hgroups'
    cases hrules'
    rw [hdocument] at haccepted
    exact haccepted
  · intro haccepted
    exact ⟨_, ok_bind.mpr ⟨_, hfinal, ok_bind.mpr ⟨_, hemits.emits, ok_bind.mpr ⟨_, hgroups,
      ok_bind.mpr ⟨_, hrules, ok_seq.mpr ⟨Document.validate_eq_ok.mpr haccepted, rfl⟩⟩⟩⟩⟩⟩

section Document

variable {env : CompilerEnv} {intent : RuntimeIntent} {defaultTarget : RouteTarget}
  {finalOutbound : String} {nodes : List CoreOutbound} {endpoints : List WireGuardEndpoint}
  {rules : List CoreRule} (h : intent.Prepared defaultTarget)
  (hparts : Assembled intent finalOutbound nodes endpoints rules)

/-- The outbounds: nodes, groups, and the two terminals. -/
theorem mem_assembled_outbounds {o : CoreOutbound} :
    o ∈ (assembledOf intent finalOutbound nodes endpoints rules).outbounds ↔
      o ∈ nodes ∨ (∃ pool ∈ intent.pools, poolOutbound pool pool.memberTags = o) ∨
      o = .direct "direct" ∨ o = .block "block" := by
  simp only [assembledOf, assemble, groupsOf, List.mem_append, List.mem_map, Sorted.mem_sortBy,
    List.mem_cons, List.not_mem_nil, or_false, or_assoc]

/-- The scan collects the tag of every pool. -/
theorem poolTag_collected {pool : RuntimePool} (hpool : pool ∈ intent.pools) :
    poolTag pool.id.val ∈ (assembledOf intent finalOutbound nodes endpoints rules).scan.poolTags := by
  rw [Document.mem_scan_poolTags]
  refine ⟨_, mem_assembled_outbounds.mpr (.inr (.inl ⟨pool, hpool, rfl⟩)), ?_⟩
  rw [(poolOutbound_groupOf pool).tag]
  exact List.mem_singleton.mpr rfl

/-- A tag that is reached is a valid outbound. -/
theorem validOutbound_of_reachable {tag : String} (htag : ReachableTag intent.pools tag) :
    validOutbound (assembledOf intent finalOutbound nodes endpoints rules).scan.poolTags tag =
      true := by
  simp only [validOutbound, Bool.or_eq_true, decide_eq_true_eq, List.contains_iff_mem, or_assoc]
  rcases htag with rfl | rfl | ⟨pool, hpool, rfl⟩
  · exact .inl rfl
  · exact .inr (.inl rfl)
  · exact .inr (.inr (poolTag_collected hpool))

include h in
/-- The tags of the nodes that some test selects are distinct. -/
theorem selected_nodeTags_nodup (p : ProxyNode → Bool) :
    (((Sorted.sortBy (·.id.val) intent.nodes).filter p).map fun n => nodeTag n.id.val).Nodup := by
  have hids : ((Sorted.sortBy (·.id.val) intent.nodes).map (·.id.val)).Nodup :=
    ((Sorted.perm_sortBy _ _).map _).nodup_iff.mpr h.nodeIds
  have htags := hids.map nodeTag_injective
  rw [List.map_map] at htags
  exact (List.filter_sublist.map _).nodup htags

include h in
/-- The tags of the groups and the terminals are distinct. -/
theorem groupTags_nodup :
    ((groupsOf (Sorted.sortBy (·.id.val) intent.pools)).map (·.tag) ++ ["direct", "block"]).Nodup := by
  have htags : (groupsOf (Sorted.sortBy (·.id.val) intent.pools)).map (·.tag) =
      (Sorted.sortBy (·.id.val) intent.pools).map fun pool => poolTag pool.id.val := by
    rw [groupsOf, List.map_map]
    exact List.map_congr_left fun pool _ => poolOutbound_tag pool pool.memberTags
  have hids : ((Sorted.sortBy (·.id.val) intent.pools).map (·.id.val)).Nodup :=
    ((Sorted.perm_sortBy _ _).map _).nodup_iff.mpr h.poolIds
  have hpools := hids.map poolTag_injective
  rw [List.map_map] at hpools
  rw [htags, List.nodup_append]
  refine ⟨hpools, by decide, ?_⟩
  intro a ha b hb
  obtain ⟨pool, -, rfl⟩ := List.mem_map.mp ha
  exact poolTag_ne_terminal _ (by simpa using hb)

include hparts

/-- Every node of the intent has its tag in the document. -/
theorem nodeTag_collected {n : ProxyNode} (hn : n ∈ intent.nodes) :
    nodeTag n.id.val ∈
      (assembledOf intent finalOutbound nodes endpoints rules).scan.nodeTags := by
  have hsorted : n ∈ Sorted.sortBy (·.id.val) intent.nodes := Sorted.mem_sortBy.mpr hn
  rw [Document.mem_scan_nodeTags]
  by_cases hwireguard : n.protocol = .wireGuard
  · have hmem : nodeTag n.id.val ∈ endpoints.map (·.tag) := by
      rw [hparts.nodes.endpointTags]
      exact List.mem_map_of_mem (List.mem_filter.mpr ⟨hsorted, by simpa using hwireguard⟩)
    exact .inr (List.mem_map.mp hmem)
  · have hmem : nodeTag n.id.val ∈ nodes.map (·.tag) := by
      rw [hparts.nodes.outboundTags]
      exact List.mem_map_of_mem (List.mem_filter.mpr ⟨hsorted, by simpa using hwireguard⟩)
    obtain ⟨o, ho, htag⟩ := List.mem_map.mp hmem
    obtain ⟨-, core, rfl⟩ := hparts.nodes.nodeOutbounds o ho
    exact .inl ⟨core, mem_assembled_outbounds.mpr (.inl ho), htag⟩

/-- The endpoints come in the order of their tags. -/
theorem endpointTags_sorted :
    Sorted.sortBy (fun tag => tag) (endpoints.map (·.tag)) = endpoints.map (·.tag) := by
  apply Sorted.sortBy_of_pairwise
  rw [hparts.nodes.endpointTags, List.pairwise_map]
  have hsorted : (Sorted.sortBy (·.id.val) intent.nodes).Pairwise
      fun a b => a.id.val ≤ b.id.val := Sorted.pairwise_sortBy _ _
  exact (hsorted.filter _).imp fun hab => nodeTag_le hab

/-- What follows the fence are the rules of the routes. -/
theorem assembled_userRules :
    (assembledOf intent finalOutbound nodes endpoints rules).userRules
      (Sorted.sortBy (fun tag => tag)
        ((assembledOf intent finalOutbound nodes endpoints rules).endpoints.map (·.tag))) =
      .ok rules := by
  have hsorted : Sorted.sortBy (fun tag => tag)
      ((assembledOf intent finalOutbound nodes endpoints rules).endpoints.map (·.tag)) =
      endpoints.map (·.tag) := endpointTags_sorted hparts
  rw [hsorted, Document.userRules]
  simp only [assembledOf, assemble, fence]
  split
  · rfl
  · refine ok_seq.mpr ⟨?_, rfl⟩
    simp [CoreRule.isIngressReject, CoreRule.reject, CoreRule.matcherCount]

include h

/-- Outbounds and endpoints of nodes have different tags. -/
theorem nodeTags_disjoint {a b : String} (ha : a ∈ nodes.map (·.tag))
    (hb : b ∈ endpoints.map (·.tag)) : a ≠ b := by
  rw [hparts.nodes.outboundTags] at ha
  rw [hparts.nodes.endpointTags] at hb
  obtain ⟨m, hm, rfl⟩ := List.mem_map.mp ha
  obtain ⟨n, hn, rfl⟩ := List.mem_map.mp hb
  obtain ⟨hm, hother⟩ := List.mem_filter.mp hm
  obtain ⟨hn, hwireguard⟩ := List.mem_filter.mp hn
  intro htag
  have hsame : m = n := List.inj_on_of_nodup_map h.nodeIds (Sorted.mem_sortBy.mp hm)
    (Sorted.mem_sortBy.mp hn) (nodeTag_injective htag)
  rw [hsame] at hother
  simp only [decide_eq_true_eq, ne_eq] at hother hwireguard
  exact hother hwireguard

/-- No tag comes twice. -/
theorem assembled_tags_nodup :
    ((assembledOf intent finalOutbound nodes endpoints rules).outbounds.map (·.tag) ++
      (assembledOf intent finalOutbound nodes endpoints rules).endpoints.map (·.tag)).Nodup := by
  have hnode : ∀ a ∈ nodes.map (·.tag) ++ endpoints.map (·.tag), ∃ id, nodeTag id = a := by
    intro a ha
    rw [hparts.nodes.outboundTags, hparts.nodes.endpointTags, ← List.map_append] at ha
    obtain ⟨n, -, rfl⟩ := List.mem_map.mp ha
    exact ⟨_, rfl⟩
  have hgroup : ∀ (id : String), ∀ b ∈
      (groupsOf (Sorted.sortBy (·.id.val) intent.pools)).map (·.tag) ++ ["direct", "block"],
      nodeTag id ≠ b := by
    intro id b hb
    rcases List.mem_append.mp hb with hb | hb
    · obtain ⟨o, ho, rfl⟩ := List.mem_map.mp hb
      obtain ⟨pool, -, rfl⟩ := List.mem_map.mp ho
      rw [poolOutbound_tag]
      exact nodeTag_ne_poolTag _ _
    · exact nodeTag_ne_terminal _ (by simpa using hb)
  have hparts' : (assembledOf intent finalOutbound nodes endpoints rules).outbounds.map (·.tag) =
      nodes.map (·.tag) ++ ((groupsOf (Sorted.sortBy (·.id.val) intent.pools)).map (·.tag) ++
        ["direct", "block"]) := by
    simp [assembledOf, assemble, CoreOutbound.tag]
  have hends : (assembledOf intent finalOutbound nodes endpoints rules).endpoints = endpoints := rfl
  rw [hparts', hends, List.nodup_append, List.nodup_append]
  refine ⟨⟨?_, groupTags_nodup h, ?_⟩, ?_, ?_⟩
  · rw [hparts.nodes.outboundTags]
    exact selected_nodeTags_nodup h _
  · intro a ha b hb
    obtain ⟨id, rfl⟩ := hnode a (List.mem_append_left _ ha)
    exact hgroup id b hb
  · rw [hparts.nodes.endpointTags]
    exact selected_nodeTags_nodup h _
  · intro a ha b hb
    rcases List.mem_append.mp ha with ha | ha
    · exact nodeTags_disjoint h hparts ha hb
    · obtain ⟨id, rfl⟩ := hnode b (List.mem_append_right _ hb)
      exact (hgroup id a ha).symm

/-- **What is left.**  The document is accepted when the compiler takes the values in it. -/
theorem assembled_accepted_iff :
    (assembledOf intent finalOutbound nodes endpoints rules).Accepted env false ↔
      intent.Compilable env := by
  have hcollected : ∀ n ∈ intent.nodes, nodeTag n.id.val ∈
      (assembledOf intent finalOutbound nodes endpoints rules).scan.nodeTags :=
    fun n hn => nodeTag_collected hparts hn
  have hrule : ∀ r ∈ intent.routes, ∀ rule, RuleOf intent.pools r rule →
      (validateRule (assembledOf intent finalOutbound nodes endpoints rules).scan.poolTags rule =
        .ok () ↔ r.matcher.compiles = true) := by
    rintro r hr rule ⟨tag, htag, rfl⟩
    exact validateRule_iff (validOutbound_of_reachable htag) (h.matchers r hr)
  constructor
  · intro haccepted
    have hgroup : ∀ pool ∈ intent.pools, poolOutbound pool pool.memberTags ∈
        (assembledOf intent finalOutbound nodes endpoints rules).outbounds :=
      fun pool hpool => mem_assembled_outbounds.mpr (.inr (.inl ⟨pool, hpool, rfl⟩))
    obtain ⟨user, huser, hrules⟩ := haccepted.rules
    rw [assembled_userRules hparts] at huser
    cases huser
    exact {
      poolIds := by
        intro pool hpool
        have hpresent := (poolOutbound_accepted pool pool.memberTags).mp
          (haccepted.outbounds _ (hgroup pool hpool))
        rw [present, Bool.and_eq_true, Bool.not_eq_true', Bool.not_eq_true'] at hpresent
        exact hpresent.2
      selections := fun pool hpool => (validateGroup_iff (h.pools pool hpool) hcollected).mp
        (haccepted.groups _ (hgroup pool hpool))
      matchers := by
        intro r hr henabled
        have hmem : r ∈ Sorted.sortBy RoutePolicy.key (intent.routes.filter (·.enabled)) :=
          Sorted.mem_sortBy.mpr (List.mem_filter.mpr ⟨hr, henabled⟩)
        obtain ⟨rule, hruleMem, hof⟩ := hparts.rules.ofRoute r hmem
        exact (hrule r hr rule hof).mp (hrules rule hruleMem) }
  · intro hcompilable
    have hterminals : ∀ o : CoreOutbound, o ∈ nodes ∨
        o ∈ groupsOf (Sorted.sortBy (·.id.val) intent.pools) →
        o.isDirect = false ∧ o.isBlock = false := by
      rintro o (ho | ho)
      · obtain ⟨-, core, rfl⟩ := hparts.nodes.nodeOutbounds o ho
        exact ⟨rfl, rfl⟩
      · obtain ⟨pool, -, rfl⟩ := List.mem_map.mp ho
        rw [poolOutbound]
        cases pool.selection <;> exact ⟨rfl, rfl⟩
    exact {
      standard := by simp [Document.isStandard, assembledOf, assemble]
      outbounds := by
        intro o ho
        rcases mem_assembled_outbounds.mp ho with ho | ⟨pool, hpool, rfl⟩ | rfl | rfl
        · exact (hparts.nodes.nodeOutbounds o ho).1
        · rw [poolOutbound_accepted, present, (h.pools pool hpool).id,
            hcompilable.poolIds pool hpool]
          rfl
        · rfl
        · rfl
      endpoints := hparts.nodes.nodeEndpoints
      tags := assembled_tags_nodup h hparts
      direct := by
        simp only [assembledOf, assemble, List.countP_append]
        rw [List.countP_eq_zero.mpr fun o ho => by simp [(hterminals o (.inl ho)).1],
          List.countP_eq_zero.mpr fun o ho => by simp [(hterminals o (.inr ho)).1]]
        rfl
      block := by
        simp only [assembledOf, assemble, List.countP_append]
        rw [List.countP_eq_zero.mpr fun o ho => by simp [(hterminals o (.inl ho)).2],
          List.countP_eq_zero.mpr fun o ho => by simp [(hterminals o (.inr ho)).2]]
        rfl
      nodes := by
        obtain ⟨n, hn⟩ := List.exists_mem_of_ne_nil _ h.someNode
        exact List.ne_nil_of_mem (hcollected n hn)
      final := validOutbound_of_reachable hparts.final
      groups := by
        intro o ho
        rcases mem_assembled_outbounds.mp ho with ho | ⟨pool, hpool, rfl⟩ | rfl | rfl
        · obtain ⟨-, core, rfl⟩ := hparts.nodes.nodeOutbounds o ho
          rfl
        · exact (validateGroup_iff (h.pools pool hpool) hcollected).mpr
            (hcompilable.selections pool hpool)
        · rfl
        · rfl
      rules := by
        refine ⟨rules, assembled_userRules hparts, fun rule hmem => ?_⟩
        obtain ⟨r, hr, hof⟩ := hparts.rules.ofRule rule hmem
        obtain ⟨hr, henabled⟩ := List.mem_filter.mp (Sorted.mem_sortBy.mp hr)
        exact (hrule r hr rule hof).mpr (hcompilable.matchers r hr henabled) }

end Document

/-- **What the compiler decides.**  A prepared intent compiles exactly when the compiler takes
its pool ids, its probe URLs and the values of its matchers. -/
theorem compile_iff (env : CompilerEnv) {intent : RuntimeIntent} {defaultTarget : RouteTarget}
    (h : intent.Prepared defaultTarget) :
    (∃ plan, compile env intent defaultTarget = .ok plan) ↔ intent.Compilable env := by
  obtain ⟨finalOutbound, nodes, endpoints, rules, hparts, hcompile⟩ := compile_prepared env h
  exact hcompile.trans (assembled_accepted_iff h hparts)

end Veyra
