import Veyra.Singbox.Closed
import Veyra.Lib.FirstMatch

/-!
# Veyra.Singbox.RoutingMeaning

What a runtime intent and a compiled document mean for a connection: the first
enabled route, or the first rule, that matches decides where it goes.  The
compiler keeps this meaning (`compile_preserves_routing`).

How a single value of a matcher is tested against a connection is a parameter,
the same on both sides.
-/

namespace Veyra

open Check

/-! ## Connections -/

/-- The tests of single matcher values against connections of type `κ`, and the endpoint that
a connection came in through, if it did. -/
structure Tests (κ : Type) where
  domain : String → κ → Bool
  domainSuffix : String → κ → Bool
  application : String → κ → Bool
  ipCidr : String → κ → Bool
  port : UInt16 → κ → Bool
  protocol : NetworkProtocol → κ → Bool
  ingress : κ → Option String

variable {κ : Type}

/-- A matcher passes when one of its values does. -/
def TrafficMatcher.passes (t : Tests κ) (c : κ) : TrafficMatcher → Bool
  | .domain values => values.any (t.domain · c)
  | .domainSuffix values => values.any (t.domainSuffix · c)
  | .application values => values.any (t.application · c)
  | .ipCidr values => values.any (t.ipCidr · c)
  | .port values => values.any (t.port · c)
  | .protocol values => values.any (t.protocol · c)

/-- Where a connection goes: the target of the first enabled route that passes, in the order
`(priority, id)`, or the default target. -/
def RuntimeIntent.target (intent : RuntimeIntent) (t : Tests κ) (defaultTarget : RouteTarget)
    (c : κ) : RouteTarget :=
  FirstMatch.eval (·.matcher.passes t c) (·.target) defaultTarget
    (Sorted.sortBy RoutePolicy.key (intent.routes.filter (·.enabled)))

/-- The route that decides is, of the enabled ones that pass, the first by `(priority, id)`. -/
theorem RuntimeIntent.target_cases (intent : RuntimeIntent) (t : Tests κ)
    (defaultTarget : RouteTarget) (c : κ) :
    (∃ route ∈ intent.routes, route.enabled = true ∧ route.matcher.passes t c = true ∧
      (∀ r ∈ intent.routes, r.enabled = true → r.matcher.passes t c = true →
        route.key ≤ r.key) ∧ intent.target t defaultTarget c = route.target) ∨
    ((∀ r ∈ intent.routes, r.enabled = true → r.matcher.passes t c = false) ∧
      intent.target t defaultTarget c = defaultTarget) := by
  rcases FirstMatch.eval_sortBy (fun r : RoutePolicy => r.matcher.passes t c) (·.target)
    defaultTarget RoutePolicy.key (intent.routes.filter (·.enabled)) with
    ⟨route, hmem, hpasses, hleast, heval⟩ | ⟨hnone, heval⟩
  · obtain ⟨hroute, henabled⟩ := List.mem_filter.mp hmem
    refine .inl ⟨route, hroute, henabled, hpasses, fun r hr hon hp => ?_, heval⟩
    exact hleast r (List.mem_filter.mpr ⟨hr, hon⟩) hp
  · refine .inr ⟨fun r hr hon => ?_, heval⟩
    exact hnone r (List.mem_filter.mpr ⟨hr, hon⟩)

/-! ## The rules of the core -/

/-- The address fields of a rule, of which one is enough. -/
def CoreRule.passesAddress (t : Tests κ) (c : κ) (rule : CoreRule) : Bool :=
  (rule.domain.isNone && rule.domainSuffix.isNone && rule.ipCidr.isNone) ||
    rule.domain.any (·.any (t.domain · c)) || rule.domainSuffix.any (·.any (t.domainSuffix · c)) ||
    rule.ipCidr.any (·.any (t.ipCidr · c))

/-- A rule of the core passes when each kind of field that it has does. -/
def CoreRule.passes (t : Tests κ) (c : κ) (rule : CoreRule) : Bool :=
  rule.inbound.all (fun tags => (t.ingress c).any tags.contains) && rule.passesAddress t c &&
    rule.processName.all (·.any (t.application · c)) && rule.port.all (·.any (t.port · c)) &&
    rule.network.all (·.any (t.protocol · c))

/-- What becomes of a connection. -/
inductive Verdict
  | reject
  | outbound (tag : String)
deriving DecidableEq, Repr

/-- A rule without an action routes to its outbound. -/
def CoreRule.verdict (rule : CoreRule) : Verdict :=
  match rule.action, rule.outbound with
  | none, some tag => .outbound tag
  | _, _ => .reject

/-- First match wins. -/
def verdictOf (t : Tests κ) (finalOutbound : String) (rules : List CoreRule) (c : κ) : Verdict :=
  FirstMatch.eval (·.passes t c) (·.verdict) (.outbound finalOutbound) rules

/-- What the document does with a connection. -/
def Document.verdict (d : Document) (t : Tests κ) (c : κ) : Verdict :=
  verdictOf t d.route.finalOutbound d.route.rules c

/-! ## Rules and routes -/

theorem routeRule_ok {route : RoutePolicy} {rule : CoreRule} (h : routeRule route = .ok rule) :
    ∃ tag, routeTag route.target = .ok tag ∧ rule = matcherRule tag route.matcher := by
  obtain ⟨tag, htag, h⟩ := ok_bind.mp h
  cases h
  exact ⟨tag, htag, rfl⟩

/-- The rule of a matcher passes what the matcher passes. -/
theorem matcherRule_passes (t : Tests κ) (c : κ) (tag : String) (matcher : TrafficMatcher) :
    (matcherRule tag matcher).passes t c = matcher.passes t c := by
  cases matcher <;>
    simp [matcherRule, CoreRule.passes, CoreRule.passesAddress, TrafficMatcher.passes]

theorem matcherRule_verdict (tag : String) (matcher : TrafficMatcher) :
    (matcherRule tag matcher).verdict = .outbound tag := by
  cases matcher <;> rfl

/-- The loop over the routes emits their rules one by one. -/
theorem emitRoutes_ok {routes : List RoutePolicy} {rules : List CoreRule}
    (h : emitRoutes routes = .ok rules) :
    List.Forall₂ (fun route rule => routeRule route = .ok rule) routes rules := by
  induction routes generalizing rules with
  | nil =>
    cases h
    exact .nil
  | cons route rest ih =>
    obtain ⟨rule, hrule, h⟩ := ok_bind.mp h
    obtain ⟨others, hothers, h⟩ := ok_bind.mp h
    cases h
    exact .cons hrule (ih hothers)

/-- The final outbound is that of the default target. -/
theorem finalTag_ok {pools : List RuntimePool} {target : RouteTarget} {tag : String}
    (h : finalTag pools target = .ok tag) : routeTag target = .ok tag := by
  cases target with
  | pool id =>
    rw [finalTag] at h
    split at h
    · exact h
    · cases h
  | _ => exact h

/-- A verdict that sends a connection to the outbound of a target. -/
def Verdict.LeadsTo (target : RouteTarget) (verdict : Verdict) : Prop :=
  ∃ tag, routeTag target = .ok tag ∧ verdict = .outbound tag

/-- The emitted rules and the routes decide alike. -/
theorem emitted_verdict {t : Tests κ} {c : κ} {routes : List RoutePolicy} {rules : List CoreRule}
    {defaultTarget : RouteTarget} {finalOutbound : String}
    (hrules : List.Forall₂ (fun route rule => routeRule route = .ok rule) routes rules)
    (hfinal : routeTag defaultTarget = .ok finalOutbound) :
    Verdict.LeadsTo (FirstMatch.eval (·.matcher.passes t c) (·.target) defaultTarget routes)
      (verdictOf t finalOutbound rules c) := by
  rw [verdictOf]
  apply FirstMatch.eval_rel hrules
  · intro route rule h
    obtain ⟨tag, -, rfl⟩ := routeRule_ok h
    exact (matcherRule_passes t c tag route.matcher).symm
  · intro route rule h
    obtain ⟨tag, htag, rfl⟩ := routeRule_ok h
    exact ⟨tag, htag, matcherRule_verdict tag route.matcher⟩
  · exact ⟨finalOutbound, hfinal, rfl⟩

/-! ## The fence -/

theorem reject_passes (t : Tests κ) (c : κ) (tags : List String) :
    (CoreRule.reject tags).passes t c = (t.ingress c).any tags.contains := by
  simp [CoreRule.reject, CoreRule.passes, CoreRule.passesAddress]

/-- A connection that came in through a fenced endpoint is rejected. -/
theorem fence_rejects {t : Tests κ} {c : κ} {finalOutbound tag : String} {tags : List String}
    {rules : List CoreRule} (hingress : t.ingress c = some tag) (htag : tag ∈ tags) :
    verdictOf t finalOutbound (fence tags ++ rules) c = .reject := by
  have hne : tags.isEmpty = false := by
    cases tags with
    | nil => cases htag
    | cons => rfl
  have hpasses : (CoreRule.reject tags).passes t c = true := by
    rw [reject_passes, hingress]
    simpa using htag
  rw [fence, hne]
  exact FirstMatch.eval_cons_of_pos hpasses

/-- The fence leaves every other connection to the rules that follow. -/
theorem fence_passes_on {t : Tests κ} {c : κ} {finalOutbound : String} {tags : List String}
    {rules : List CoreRule} (h : ∀ tag, t.ingress c = some tag → tag ∉ tags) :
    verdictOf t finalOutbound (fence tags ++ rules) c = verdictOf t finalOutbound rules c := by
  apply FirstMatch.eval_append_of_neg
  intro rule hrule
  rw [fence] at hrule
  split at hrule
  · cases hrule
  · rw [List.mem_singleton] at hrule
    rw [hrule, reject_passes, Option.any_eq_false]
    intro tag htag
    simpa using h tag htag

/-! ## The groups -/

/-- The default of a group. -/
def CoreOutbound.defaultMember : CoreOutbound → Option String
  | .selector pool => pool.default
  | _ => none

/-- The node that a selection policy fixes. -/
def SelectionPolicy.selected : SelectionPolicy → Option NodeId
  | .manual selectedNodeId => selectedNodeId
  | .urlTest .. => none

/-- The group of a pool: its tag, exactly its members, and its selection as the default. -/
structure GroupOf (pool : RuntimePool) (o : CoreOutbound) : Prop where
  tag : o.poolTags = [poolTag pool.id.val]
  members : ∀ tag, tag ∈ o.members ↔ ∃ id ∈ pool.members, nodeTag id.val = tag
  default : o.defaultMember = pool.selection.selected.map fun id => nodeTag id.val
  manual : (∃ group, o = .selector group) ↔ ∃ selected, pool.selection = .manual selected

theorem poolOutbound_groupOf (pool : RuntimePool) :
    GroupOf pool (poolOutbound pool pool.memberTags) := by
  have hmembers : ∀ tag, tag ∈ pool.memberTags ↔ ∃ id ∈ pool.members, nodeTag id.val = tag := by
    intro tag
    rw [RuntimePool.memberTags, Sorted.mem_sortDedup, List.mem_map]
  cases hselection : pool.selection <;> rw [poolOutbound, hselection] <;>
    exact ⟨rfl, hmembers, by rw [hselection]; rfl, by simp [hselection]⟩

/-- The loop over the pools emits their groups one by one. -/
theorem emitPools_ok {pools : List RuntimePool} {groups : List CoreOutbound}
    (h : emitPools pools = .ok groups) :
    groups = pools.map fun pool => poolOutbound pool pool.memberTags := by
  induction pools generalizing groups with
  | nil =>
    cases h
    rfl
  | cons pool rest ih =>
    obtain ⟨-, h⟩ := ok_seq.mp h
    obtain ⟨others, hothers, h⟩ := ok_bind.mp h
    cases h
    rw [ih hothers, List.map_cons]

/-- The loop over the nodes: endpoints of the WireGuard nodes, outbounds of the others. -/
theorem emitNodes_ok {nodes : List ProxyNode} {outbounds : List CoreOutbound}
    {endpoints : List WireGuardEndpoint} (h : emitNodes nodes = .ok (outbounds, endpoints)) :
    (∀ o ∈ outbounds, ∃ n, o = .node n) ∧
    endpoints.map (·.tag) =
      (nodes.filter fun n => n.protocol = .wireGuard).map fun n => nodeTag n.id.val := by
  induction nodes generalizing outbounds endpoints with
  | nil =>
    cases h
    simp
  | cons node rest ih =>
    obtain ⟨-, h⟩ := ok_seq.mp h
    split at h
    · next hprotocol =>
      obtain ⟨endpoint, hendpoint, h⟩ := ok_bind.mp h
      obtain ⟨⟨others, more⟩, hrest, h⟩ := ok_bind.mp h
      cases h
      obtain ⟨hnodes, htags⟩ := ih hrest
      have htag : endpoint.tag = nodeTag node.id.val := by
        rw [wireguardEndpoint] at hendpoint
        split at hendpoint <;> cases hendpoint
        rfl
      refine ⟨hnodes, ?_⟩
      rw [List.filter_cons_of_pos (by simpa using hprotocol), List.map_cons, List.map_cons, htag,
        htags]
    · next hprotocol =>
      obtain ⟨outbound, houtbound, h⟩ := ok_bind.mp h
      obtain ⟨⟨others, more⟩, hrest, h⟩ := ok_bind.mp h
      cases h
      obtain ⟨hnodes, htags⟩ := ih hrest
      obtain ⟨options, -, houtbound⟩ := ok_bind.mp houtbound
      cases houtbound
      refine ⟨List.forall_mem_cons.mpr ⟨⟨_, rfl⟩, hnodes⟩, ?_⟩
      rw [List.filter_cons_of_neg (by simpa using hprotocol), htags]

/-! ## The meaning is kept -/

/-- **Routing is preserved.**  The rules after the fence send every connection to the outbound
of its target in the intent; the fence rejects what came in through a WireGuard endpoint and
nothing else; and the groups are those of the pools. -/
theorem compile_preserves_routing (env : CompilerEnv) (intent : RuntimeIntent)
    (defaultTarget : RouteTarget) (plan : SingBoxPlan)
    (h : compile env intent defaultTarget = .ok plan) (t : Tests κ) (c : κ) :
    (∃ rules, plan.document.route.rules = fence (plan.document.endpoints.map (·.tag)) ++ rules ∧
      ∃ tag, routeTag (intent.target t defaultTarget c) = .ok tag ∧
        verdictOf t plan.document.route.finalOutbound rules c = .outbound tag ∧
        plan.document.verdict t c =
          if (t.ingress c).any fun tag => plan.document.endpoints.any (·.tag = tag) then .reject
          else .outbound tag) ∧
    (∀ tag, (∃ e ∈ plan.document.endpoints, e.tag = tag) ↔
      ∃ n ∈ intent.nodes, n.protocol = .wireGuard ∧ nodeTag n.id.val = tag) ∧
    (∀ pool ∈ intent.pools, ∃ o ∈ plan.document.outbounds, GroupOf pool o) ∧
    (∀ o ∈ plan.document.outbounds, o.poolTags ≠ [] → ∃ pool ∈ intent.pools, GroupOf pool o) := by
  obtain ⟨finalOutbound, nodes, endpoints, groups, rules, hfinal, hnodes, hgroups, hrules,
    hdocument, -⟩ := compile_ok h
  obtain ⟨honlyNodes, hendpoints⟩ := emitNodes_ok hnodes
  have hgroups := emitPools_ok hgroups
  obtain ⟨tag, htag, hverdict⟩ :=
    emitted_verdict (t := t) (c := c) (emitRoutes_ok hrules) (finalTag_ok hfinal)
  rw [hdocument]
  refine ⟨⟨rules, rfl, tag, htag, hverdict, ?_⟩, ?_, ?_, ?_⟩
  · rw [Document.verdict, assemble]
    split
    · next hfenced =>
      obtain ⟨ingress, hingress, hany⟩ := (Option.any_eq_true ..).mp hfenced
      obtain ⟨e, he, hetag⟩ := List.any_eq_true.mp hany
      exact fence_rejects hingress (List.mem_map.mpr ⟨e, he, by simpa using hetag⟩)
    · next hfree =>
      rw [fence_passes_on, hverdict]
      intro ingress hingress hmem
      obtain ⟨e, he, hetag⟩ := List.mem_map.mp hmem
      exact hfree ((Option.any_eq_true ..).mpr ⟨ingress, hingress,
        List.any_eq_true.mpr ⟨e, he, by simpa using hetag⟩⟩)
  · intro tag
    have hemitted : (∃ e ∈ endpoints, e.tag = tag) ↔ tag ∈ endpoints.map (·.tag) :=
      List.mem_map.symm
    refine hemitted.trans ?_
    rw [hendpoints]
    simp only [List.mem_map, List.mem_filter, Sorted.mem_sortBy, decide_eq_true_eq, and_assoc]
  · intro pool hpool
    refine ⟨poolOutbound pool pool.memberTags, ?_, poolOutbound_groupOf pool⟩
    have hmem : poolOutbound pool pool.memberTags ∈ groups := by
      rw [hgroups]
      exact List.mem_map_of_mem (Sorted.mem_sortBy.mpr hpool)
    exact List.mem_append_left _ (List.mem_append_right _ hmem)
  · intro o ho hpool
    rw [assemble] at ho
    simp only [List.mem_append, List.mem_cons, List.not_mem_nil, or_false] at ho
    obtain (ho | ho) | rfl | rfl := ho
    · obtain ⟨n, rfl⟩ := honlyNodes o ho
      exact absurd rfl hpool
    · rw [hgroups, List.mem_map] at ho
      obtain ⟨pool, hmem, rfl⟩ := ho
      exact ⟨pool, Sorted.mem_sortBy.mp hmem, poolOutbound_groupOf pool⟩
    · exact absurd rfl hpool
    · exact absurd rfl hpool

/-- Connections that are known by their domain alone. -/
def domainTests : Tests String :=
  { domain := fun value c => value == c, domainSuffix := fun _ _ => false
    application := fun _ _ => false, ipCidr := fun _ _ => false, port := fun _ _ => false
    protocol := fun _ _ => false, ingress := fun _ => none }

theorem compile_preserves_routing_fenced :
    ∃ plan, compile ⟨fun _ => none⟩ fencedIntent (.pool ⟨"a"⟩) = .ok plan ∧
      plan.document.verdict domainTests "example.org" = .outbound "direct" := by
  have hok : (compile ⟨fun _ => none⟩ fencedIntent (.pool ⟨"a"⟩)).isOk = true := by decide +kernel
  obtain ⟨plan, hplan⟩ := exists_ok hok
  obtain ⟨⟨rules, -, tag, htag, -, hverdict⟩, -⟩ := compile_preserves_routing ⟨fun _ => none⟩
    fencedIntent (.pool ⟨"a"⟩) plan hplan domainTests "example.org"
  have hdirect : routeTag (fencedIntent.target domainTests (.pool ⟨"a"⟩) "example.org") =
      .ok "direct" := by decide +kernel
  rw [hdirect] at htag
  cases htag
  exact ⟨plan, hplan, hverdict⟩

end Veyra
